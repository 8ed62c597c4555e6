import ProxiPort.Session.Requests

/-!
# Where sessions come from

`Stepped` lists the effects of one section of a request.  Every session that
is stored, cached or in the hands of a request goes back to one insertion and
keeps the id and the user name it was inserted with.
-/

namespace ProxiPort.Session

open Concurrency List Keyed

structure Tracked.SameSession (left right : Tracked) : Prop where
  origin : left.origin = right.origin
  sessionID : left.session.sessionID = right.session.sessionID
  username : left.session.username = right.session.username

def Store.Visible (store : Store) (value : Tracked) : Prop :=
  value ∈ store.rows ∨
    ∃ item ∈ store.cache, item.live store.clock = true ∧ item.object = value

/-- The effects of one section, with the control points before and after. -/
inductive Stepped (store : Store) :
    Thread → Store → Thread → List Output → Prop where
  | finished {thread : Thread} {result : Result} : Stepped store thread store (.returned result) []
  | requested {request : AuthRequest} {session : APISession} : session.username = request.username →
      Stepped store (.createAuthToken request) store (.add session (.mint request.scopes)) []
  | read {thread after : Thread} {claims : Token} {found : Tracked} {shown : List Output} :
      claims ∈ store.minted →
      store.get claims.sessionID = some found →
      (after = .returned .unauthorized ∨ ∃ value, value.SameSession found ∧
          after = .save value .done) →
      (shown = [.lookedUp found.origin] ∨ shown = [.lookedUp found.origin,
          .accepted claims.origin found.origin]) →
      Stepped store thread store after shown
  | listed {thread : Thread} {found : List Tracked} : (∀ value ∈ found, store.Visible value) →
      Stepped store thread store (.returned (.found found))
        (found.map fun value => .lookedUp value.origin)
  | added {session : APISession} {after : AfterSave} :
      Stepped store (.add session after) (store.add session).1
        (.cacheSet (store.add session).2 after) []
  | updated {value : Tracked} {after : AfterSave} :
      Stepped store (.update value after) (store.update value) (.cacheSet value after) []
  | cached {value : Tracked} {after : AfterSave} :
      Stepped store (.cacheSet value after) (store.cacheSet value) (.afterSave value after) []
  | minted {value : Tracked} {scopes : List Scope} {token : Token} {result : Result} :
      token.origin = value.origin →
      token.sessionID = value.session.sessionID →
      token.username = value.session.username →
      Stepped store (.mint value scopes)
        { store with minted := store.minted ++ [token] }
        (.returned result) []
  | deletedRow {sessionID : Int} : Stepped store (.delete sessionID) (store.deleteRows fun row =>
          decide (row.session.sessionID = sessionID))
        (.deleteCached sessionID ((store.rows.filter fun row =>
          decide (row.session.sessionID = sessionID)).map Tracked.origin)) []
  | deletedCached {sessionID : Int} {removed : List Nat} :
      Stepped store (.deleteCached sessionID removed)
        (store.uncache sessionID) (.returned .succeeded)
        ((removed ∪ store.orphans sessionID).map .deleted)
  | uncachedOne {username : String} {sessionID : Int} :
      Stepped store (.deleteByID username sessionID) (store.uncache sessionID)
        (.unstore username (store.orphans sessionID) (.byID sessionID)) []
  | listedItems {username : String} {target : Target} :
      Stepped store (.listItems username target) store (.uncacheNext username
          ((store.items.filter fun item =>
            item.object.session.username = username).map Item.key)
          [] target) []
  | uncached {username : String} {keys : List Int} {removed : List Nat}
      {target : Target} {index : Nat} {sessionID : Int} :
      keys[index]? = some sessionID →
      Stepped store (.uncache username keys removed target) (store.uncache sessionID)
        (.uncacheNext username (keys.eraseIdx index) (removed ++ store.orphans sessionID) target) []
  | unstored {username : String} {removed : List Nat} {target : Target} :
      Stepped store (.unstore username removed target) (store.deleteRows fun row =>
          decide (row.session.username = username) && target.covers row.session.sessionID)
        (.returned .succeeded)
        ((removed ++ (store.rows.filter fun row =>
          decide (row.session.username = username) && target.covers row.session.sessionID).map
              Tracked.origin).map .deleted)
  | expired {condition : Tracked → Bool} : Stepped store .deleteExpired (store.deleteRows condition)
        (.returned .succeeded) []

variable {store : Store} {found : Tracked}

theorem Store.get_visible {sessionID : Int} (got : store.get sessionID = some found) :
    (∃ item ∈ store.cache, item.live store.clock = true ∧
      item.object = found) ∧ found.session.sessionID = sessionID := by
  simp only [get, Option.map_eq_some_iff, Option.filter_eq_some_iff] at got
  obtain ⟨item, ⟨listed, live⟩, rfl⟩ := got
  obtain ⟨member, named⟩ := mem_of_lookup listed
  exact ⟨⟨item, member, live, rfl⟩, named⟩

theorem Store.mem_of_parseToken {token : Nat} {claims : Token}
    (parsed : store.parseToken token = some claims) : claims ∈ store.minted := by
  simp only [parseToken, Option.filter_eq_some_iff] at parsed
  exact List.mem_of_getElem? parsed.1

theorem validateBearerToken_some {claims : Token} {uri method : String}
    {valid : Bool} (validated : validateBearerToken store claims uri method = (valid, some found)) :
    store.get claims.sessionID = some found := by
  unfold validateBearerToken at validated
  split at validated
  · simp at validated
  · split at validated
    · simp at validated
    · split at validated
      · simp at validated
      · rename_i session got
        simp only [Prod.mk.injEq, Option.some.injEq] at validated
        rw [got, validated.2]

theorem sameSession_increaseLifetime (now : Time) (value : Tracked) :
    (increaseLifetime now value).SameSession value := by
  unfold increaseLifetime
  split <;> exact ⟨rfl, rfl, rfl⟩

theorem checkBearerToken_stepped (store : Store) (thread : Thread)
    (token : Nat) (uri method : String) :
    Stepped store thread store (checkBearerToken store token uri method).1
      (checkBearerToken store token uri method).2 := by
  unfold checkBearerToken
  split
  · exact .finished
  · rename_i claims parsed
    have known := Store.mem_of_parseToken parsed
    split
    · exact .finished
    · rename_i found validated
      exact .read known (validateBearerToken_some validated) (.inl rfl) (.inl rfl)
    · rename_i found validated
      exact .read known (validateBearerToken_some validated)
        (.inr ⟨_, sameSession_increaseLifetime _ _, rfl⟩) (.inr rfl)

theorem updateTokenAccess_stepped (store : Store) (thread : Thread)
    (token : Nat) (accessTime : Time) (userAgent remoteAddress : String) :
    Stepped store thread store (updateTokenAccess store token accessTime userAgent remoteAddress).1
      (updateTokenAccess store token accessTime userAgent remoteAddress).2 := by
  unfold updateTokenAccess
  split
  · exact .finished
  · rename_i claims parsed
    split
    · exact .finished
    · rename_i found got
      refine .read (Store.mem_of_parseToken parsed) got (.inr ⟨_, ?_, rfl⟩) (.inl rfl)
      exact ⟨rfl, rfl, rfl⟩

theorem getAllByUser_visible {username : String} {value : Tracked}
    (member : value ∈ store.getAllByUser username) : store.Visible value := by
  simp only [Store.getAllByUser, mem_insertionSort, mem_filter, mem_map, Store.items] at member
  obtain ⟨⟨item, ⟨cached, live⟩, rfl⟩, -⟩ := member
  exact .inr ⟨item, cached, live, rfl⟩

variable {store next : Store} {thread after : Thread} {shown : List Output}

theorem atomic_stepped {choice : Choice}
    (ran : atomic store thread choice = some (next, after, shown)) :
    Stepped store thread next after shown := by
  cases thread with
  | createAuthToken request =>
    cases choice <;> simp only [atomic, reduceCtorEq] at ran
    split at ran <;> cases ran
    · exact .finished
    · exact .requested rfl
  | checkBearerToken token uri method =>
    cases choice <;> cases ran
    exact checkBearerToken_stepped store _ token uri method
  | updateTokenAccess token accessTime userAgent remoteAddress =>
    cases choice <;> cases ran
    exact updateTokenAccess_stepped store _ token accessTime userAgent remoteAddress
  | get sessionID =>
    cases choice <;> cases ran
    apply Stepped.listed
    intro value member
    exact .inr (Store.get_visible (Option.mem_toList.mp member)).1
  | storageGet sessionID =>
    cases choice <;> cases ran
    apply Stepped.listed
    intro value member
    exact .inl (mem_of_lookup (Option.mem_toList.mp member)).1
  | getAllByUser username =>
    cases choice <;> cases ran
    exact .listed fun value member => getAllByUser_visible member
  | add session after =>
    cases choice <;> simp only [atomic, reduceCtorEq] at ran
    split at ran <;> cases ran
    · exact .finished
    · exact .added
  | update value after =>
    cases choice <;> simp only [atomic, reduceCtorEq] at ran
    split at ran <;> cases ran
    · exact .finished
    · exact .updated
  | cacheSet value after =>
    cases choice <;> cases ran
    exact .cached
  | mint value scopes =>
    cases choice <;> simp only [atomic, reduceCtorEq] at ran
    split at ran <;> cases ran
    · exact .finished
    · exact .minted rfl rfl rfl
  | delete sessionID =>
    cases choice <;> simp only [atomic, reduceCtorEq] at ran
    split at ran <;> cases ran
    · exact .finished
    · exact .deletedRow
  | deleteCached sessionID removed =>
    cases choice <;> cases ran
    exact .deletedCached
  | deleteByID username sessionID =>
    cases choice <;> cases ran
    exact .uncachedOne
  | listItems username target =>
    cases choice <;> cases ran
    exact .listedItems
  | uncache username keys removed target =>
    cases choice <;> simp only [atomic, reduceCtorEq] at ran
    split at ran
    · simp at ran
    · rename_i sessionID picked
      cases ran
      exact .uncached picked
  | unstore username removed target =>
    cases choice <;> simp only [atomic, reduceCtorEq] at ran
    split at ran <;> cases ran
    · exact .finished
    · exact .unstored
  | deleteExpired =>
    cases choice <;> simp only [atomic, reduceCtorEq] at ran
    split at ran <;> cases ran
    · exact .finished
    · exact .expired
  | returned result => cases choice <;> simp [atomic] at ran

theorem Item.live_of_later {item : Item} {now later : Time}
    (passed : now ≤ later) (showing : item.live later = true) : item.live now = true := by
  unfold live at showing ⊢
  split at showing
  · rfl
  · simp only [decide_eq_true_eq] at showing ⊢
    exact Int.le_trans passed showing

/-- Time and the janitor only hide items. -/
structure Store.Hides (store next : Store) : Prop where
  rows : next.rows = store.rows
  created : next.created = store.created
  minted : next.minted = store.minted
  clock : store.clock ≤ next.clock
  cache : ∀ item ∈ next.cache, item ∈ store.cache

theorem Store.Hides.live (hides : store.Hides next) {item : Item}
    (showing : item.live next.clock = true) : item.live store.clock = true :=
  Item.live_of_later hides.clock showing

theorem environment_hides {event : Event} (ran : environment store event = some (next, shown)) :
    shown = [] ∧ store.Hides next := by
  cases event with
  | tick now =>
    simp only [environment] at ran
    split at ran <;> simp only [Option.some.injEq, Prod.mk.injEq, reduceCtorEq] at ran
    rename_i passed
    obtain ⟨rfl, rfl⟩ := ran
    exact ⟨rfl, rfl, rfl, rfl, passed, fun _ found => found⟩
  | janitor =>
    cases ran
    exact ⟨rfl, rfl, rfl, rfl, Int.le_refl _, fun _ found => mem_of_mem_filter found⟩

/-- The value goes back to an insertion under its id and user name. -/
def Store.Known (store : Store) (value : Tracked) : Prop :=
  ∃ inserted, store.created[value.origin]? = some inserted ∧
    inserted.sessionID = value.session.sessionID ∧
    inserted.username = value.session.username

theorem Store.Known.congr {left right : Tracked} (known : store.Known right)
    (same : left.SameSession right) : store.Known left := by
  obtain ⟨inserted, found, sessionID, username⟩ := known
  refine ⟨inserted, ?_, ?_, ?_⟩
  · rw [same.origin, found]
  · rw [same.sessionID, sessionID]
  · rw [same.username, username]

theorem Store.Known.sameSession {left right : Tracked}
    (leftKnown : store.Known left) (rightKnown : store.Known right)
    (same : left.origin = right.origin) : left.SameSession right := by
  obtain ⟨inserted, found, sessionID, username⟩ := leftKnown
  obtain ⟨other, otherFound, otherID, otherName⟩ := rightKnown
  rw [same, otherFound] at found
  cases found
  exact ⟨same, sessionID.symm.trans otherID, username.symm.trans otherName⟩

theorem Store.Known.lt {value : Tracked} (known : store.Known value) :
    value.origin < store.created.length := by
  obtain ⟨inserted, found, -⟩ := known
  exact (List.getElem?_eq_some_iff.mp found).1

def Thread.value : Thread → Option Tracked
  | .update value _ | .cacheSet value _ | .mint value _ => some value
  | _ => none

structure Registered (config : Config Store Thread) : Prop where
  numbered : ∀ inserted ∈ config.shared.created, 0 < inserted.sessionID
  rows : ∀ row ∈ config.shared.rows, config.shared.Known row
  cache : ∀ item ∈ config.shared.cache, config.shared.Known item.object
  values : ∀ thread ∈ config.threads, ∀ value ∈ thread.value, config.shared.Known value
  tokens : ∀ token ∈ config.shared.minted, ∃ inserted,
    config.shared.created[token.origin]? = some inserted ∧ inserted.sessionID = token.sessionID ∧
      inserted.username = token.username

theorem initial_registered (clock : Time) : Registered (initial clock) := by
  constructor <;> simp [initial, Store.new]

def Store.Grows (store next : Store) : Prop :=
  ∀ (origin : Nat) (inserted : APISession),
    store.created[origin]? = some inserted →
    next.created[origin]? = some inserted

theorem Store.Grows.known (grows : store.Grows next) {value : Tracked}
    (known : store.Known value) : next.Known value := by
  obtain ⟨inserted, found, same⟩ := known
  exact ⟨inserted, grows value.origin inserted found, same⟩

theorem Store.grows_add (store : Store) (session : APISession) :
    store.Grows (store.add session).1 := by
  intro origin inserted found
  have bound : origin < store.created.length := (List.getElem?_eq_some_iff.mp found).1
  simpa [add, List.getElem?_append_left bound] using found

theorem Stepped.grows (stepped : Stepped store thread next after shown) : store.Grows next := by
  cases stepped with
  | added => exact store.grows_add _
  | _ => exact fun _ _ found => found

theorem Thread.value_enter (call : Call) : (Thread.enter call).value = none := by
  cases call <;> simp only [Thread.enter]
  all_goals try split
  all_goals rfl

theorem Thread.value_save {value saved : Tracked} {after : AfterSave}
    (found : saved ∈ (Thread.save value after).value) : saved = value := by
  unfold Thread.save at found
  split at found
  · simp [Thread.value] at found
  · simpa [Thread.value] using found.symm

theorem Thread.value_afterSave {value saved : Tracked} {after : AfterSave}
    (found : saved ∈ (Thread.afterSave value after).value) : saved = value := by
  cases after with
  | mint scopes => simpa [Thread.afterSave, Thread.value] using found.symm
  | done => simp [Thread.afterSave, Thread.value] at found

theorem Thread.value_uncacheNext (username : String) (keys : List Int)
    (removed : List Nat) (target : Target) :
    (Thread.uncacheNext username keys removed target).value = none := by
  unfold Thread.uncacheNext
  split <;> rfl

/-- What holds of every session that is stored, cached or about to be written
by the thread, and of a session it inserts, holds after the section. -/
theorem Stepped.preserves {property : Tracked → Prop}
    (respects : ∀ left right, left.SameSession right →
      property right → property left) (rows : ∀ row ∈ store.rows, property row)
    (cache : ∀ item ∈ store.cache, property item.object)
    (own : ∀ value ∈ thread.value, property value)
    (fresh : ∀ session after, thread = .add session after →
      next = (store.add session).1 → property (store.add session).2)
    (stepped : Stepped store thread next after shown) :
    (∀ row ∈ next.rows, property row) ∧ (∀ item ∈ next.cache, property item.object) ∧
      (∀ value ∈ after.value, property value) := by
  cases stepped with
  | read claims got leaves _ =>
    refine ⟨rows, cache, ?_⟩
    intro value found
    rcases leaves with rfl | ⟨saved, same, rfl⟩
    · simp [Thread.value] at found
    · obtain ⟨⟨item, cached, -, rfl⟩, -⟩ := Store.get_visible got
      rw [Thread.value_save found]
      exact respects saved item.object same (cache item cached)
  | @added session after =>
    have added := fresh session after rfl rfl
    refine ⟨?_, cache, ?_⟩
    · exact forall_mem_concat rows added
    · intro value found
      simp only [Thread.value, Option.mem_some_iff] at found
      rw [← found]
      exact added
  | @updated value after =>
    refine ⟨?_, cache, own⟩
    intro row found
    obtain ⟨before, old, rfl⟩ := mem_map.mp found
    split
    · exact own value rfl
    · exact rows before old
  | @cached value after =>
    refine ⟨rows, ?_, ?_⟩
    · intro item found
      rcases mem_put.mp found with rfl | ⟨old, -⟩
      · exact own value rfl
      · exact cache item old
    · intro saved found
      rw [Thread.value_afterSave found]
      exact own value rfl
  | deletedRow | unstored | expired =>
    refine ⟨?_, cache, by simp [Thread.value]⟩
    intro row found
    exact rows row (mem_of_mem_filter found)
  | deletedCached | uncachedOne =>
    refine ⟨rows, ?_, by simp [Thread.value]⟩
    intro item found
    exact cache item (mem_remove.mp found).1
  | uncached =>
    refine ⟨rows, ?_, by simp [Thread.value_uncacheNext]⟩
    intro item found
    exact cache item (mem_remove.mp found).1
  | listedItems =>
    exact ⟨rows, cache, by simp [Thread.value_uncacheNext]⟩
  | _ => exact ⟨rows, cache, by simp [Thread.value]⟩

variable {config : Config Store Thread} {next : Store}

theorem Stepped.known_after (registered : Registered config) (member : thread ∈ config.threads)
    (stepped : Stepped config.shared thread next after shown) :
    (∀ row ∈ next.rows, next.Known row) ∧ (∀ item ∈ next.cache, next.Known item.object) ∧
      (∀ value ∈ after.value, next.Known value) := by
  have grows := stepped.grows
  apply stepped.preserves
  · exact fun _ _ same known => known.congr same
  · exact fun row found => grows.known (registered.rows row found)
  · exact fun item found => grows.known (registered.cache item found)
  · exact fun value found =>
      grows.known (registered.values thread member value found)
  · rintro session after rfl rfl
    exact ⟨{ session with sessionID := Store.nextID config.shared.rows },
      by simp [Store.add], rfl, rfl⟩

theorem origin_eq_of_distinct {created : List APISession}
    (distinct : (created.map APISession.sessionID).Nodup)
    {left right : Nat} {leftSession rightSession : APISession}
    (leftFound : created[left]? = some leftSession)
    (rightFound : created[right]? = some rightSession)
    (same : leftSession.sessionID = rightSession.sessionID) :
    left = right := by
  have inside : left < (created.map APISession.sessionID).length := by
    rw [length_map]
    exact (List.getElem?_eq_some_iff.mp leftFound).1
  apply (List.getElem?_inj inside distinct).mp
  simp [leftFound, rightFound, same]

theorem Stepped.tokens_known (registered : Registered config) (member : thread ∈ config.threads)
    (stepped : Stepped config.shared thread next after shown) {token : Token}
    (found : token ∈ next.minted) :
    ∃ inserted, next.created[token.origin]? = some inserted ∧ inserted.sessionID = token.sessionID ∧
      inserted.username = token.username := by
  have grows := stepped.grows
  have old : token ∈ config.shared.minted →
      ∃ inserted, next.created[token.origin]? = some inserted ∧
        inserted.sessionID = token.sessionID ∧
        inserted.username = token.username := by
    intro before
    obtain ⟨inserted, stored, same⟩ := registered.tokens token before
    exact ⟨inserted, grows _ _ stored, same⟩
  cases stepped with
  | @minted value scopes added result origin sessionID username =>
    rcases mem_or_eq_of_mem_concat found with before | rfl
    · exact old before
    · rw [origin, sessionID, username]
      exact registered.values _ member value rfl
  | _ => exact old found

theorem Store.nextID_pos (rows : List Tracked) : 0 < nextID rows := by
  have bound : 0 ≤ rows.foldr (fun row highest => max row.session.sessionID highest) 0 := by
    induction rows with
    | nil => simp
    | cons row rows induction =>
      exact Int.le_trans induction (Int.le_max_right _ _)
  exact Int.lt_add_one_of_le bound

variable {threads : List Thread}

theorem Registered.withThreads (registered : Registered config)
    (others : ∀ other ∈ threads, other ∈ config.threads ∨
      ∀ value ∈ other.value, config.shared.Known value) :
    Registered ⟨config.shared, threads⟩ := by
  refine ⟨registered.numbered, registered.rows, registered.cache, ?_, registered.tokens⟩
  intro other member value written
  rcases others other member with old | known
  · exact registered.values other old value written
  · exact known value written

theorem Stepped.registered (registered : Registered config) (member : thread ∈ config.threads)
    (stepped : Stepped config.shared thread next after shown)
    (others : ∀ other ∈ threads, other ∈ config.threads ∨ other = after) :
    Registered ⟨next, threads⟩ := by
  obtain ⟨rows, cache, own⟩ := stepped.known_after registered member
  refine ⟨?_, rows, cache, ?_, fun token => stepped.tokens_known registered member⟩
  · cases stepped with
    | added => exact forall_mem_concat registered.numbered (Store.nextID_pos _)
    | _ => exact registered.numbered
  intro other otherMember value written
  rcases others other otherMember with old | rfl
  · exact stepped.grows.known (registered.values other old value written)
  · exact own value written

theorem Store.Hides.registered (hides : config.shared.Hides next) (registered : Registered config) :
    Registered ⟨next, config.threads⟩ := by
  have known : ∀ {value}, config.shared.Known value →
      next.Known value := by
    intro value known
    rwa [Store.Known, hides.created]
  constructor
  · rw [hides.created]
    exact registered.numbered
  · intro row found
    rw [hides.rows] at found
    exact known (registered.rows row found)
  · intro item found
    exact known (registered.cache item (hides.cache item found))
  · intro thread member value found
    exact known (registered.values thread member value found)
  · intro token found
    rw [hides.minted] at found
    rw [hides.created]
    exact registered.tokens token found

theorem step_registered {config next : Config Store Thread}
    {move : Move Call Choice Event} (registered : Registered config)
    (stepped : program.system.step config move = some (next, shown)) : Registered next := by
  cases Program.step_cases stepped with
  | spawn call =>
    apply registered.withThreads
    exact forall_mem_concat (fun _ => .inl) (.inr (by simp [program, Thread.value_enter]))
  | @advance _ _ thread store after shown found ran =>
    have effect : Stepped config.shared thread store after shown := atomic_stepped ran
    apply effect.registered registered (List.mem_of_getElem? found)
    exact fun _ => mem_or_eq_of_mem_set
  | environment ran =>
    exact (environment_hides ran).2.registered registered

def logsIn (index : Nat) (username : String) : List (Move Call Choice Event) :=
  [.spawn (.createAuthToken ⟨600 * second, username, [], "curl", "::1"⟩),
    .advance index .proceed, .advance index (.sql (.ok ())),
    .advance index .proceed, .advance index (.sign (.ok ()))]

/-- However requests interleave, every session that is stored, cached or about to be
written has the id and the user name that some login gave it, and every token those
of the session it was minted for. -/
theorem sessions_keep_owner {clock : Time} {history : List Output} {config : Config Store Thread}
    (run : Run program.system Unrestricted (initial clock) history config) : Registered config :=
  run.stateInvariant Registered (initial_registered clock)
    fun registered _ stepped => step_registered registered stepped

theorem sessions_keep_owner_twoLogins :
    ∃ config history, Run program.system Unrestricted (initial 0) history config ∧
      config.shared.created.map APISession.username = ["ada", "bob"] ∧ Registered config :=
  Run.exists_reaching_follows (logsIn 0 "ada" ++ logsIn 1 "bob") (by decide +kernel)
    (program.system.admitsAlong_unrestricted _ _) fun run _ => sessions_keep_owner run

end ProxiPort.Session
