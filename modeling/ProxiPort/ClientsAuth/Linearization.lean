import ProxiPort.ClientsAuth.FileProvider
import ProxiPort.Foundation.Ledger

/-!
# Successful calls are not undone

The calls that returned without an error, in the order of their returns, are a
ledger over an abstract map from ids to passwords.  Because every change
rewrites the whole file from what it has read before, a call can bring back a
deleted credential and can undo calls on other ids.  The file is what the
ledger says, and a deleted credential stays away, in runs in which

* a file is written only when it has not changed meanwhile at any other id,
  and, by an `Update`, only when the id is still there,
* a credential is cached only when its id is still in the file and no `Delete`
  of it has already passed the cache,
* no write of the file fails after the file has been truncated.
-/

namespace ProxiPort.ClientsAuth

open Concurrency List Keyed

def stored (pairs : Pairs) (id : String) : Option String :=
  (lookup ClientAuth.id id pairs).map ClientAuth.password

namespace Output

def write : Output → Option (String × Option String)
  | .added id password | .updated id password => some (id, some password)
  | .deleted id => some (id, none)
  | .got _ _ => none

def allowed (map : String → Option String) : Output → Prop
  | .got id (some _) | .updated id _ => map id ≠ none
  | _ => True

end Output

theorem got_none_of_legal {map : String → Option String} {id : String}
    {found : Option String} {middle later : List Output} (absent : map id = none)
    (legal : Ledger.Legal Output.write Output.allowed map (middle ++ Output.got id found :: later))
    (unadded : ∀ password, .added id password ∉ middle) : found = none := by
  induction middle generalizing map with
  | nil =>
    cases found with
    | none => rfl
    | some password => exact absurd absent legal.1
  | cons event middle induction =>
    refine induction ?_ legal.2 fun password member =>
      unadded password (mem_cons_of_mem _ member)
    by_cases own : ∃ value, event.write = some (id, value)
    · obtain ⟨value, writes⟩ := own
      rw [Ledger.apply_of_effect writes, Function.update_self]
      cases event with
      | added other password =>
        cases writes
        exact absurd mem_cons_self (unadded password)
      | updated other password =>
        cases writes
        exact absurd absent legal.1
      | deleted other =>
        cases writes
        rfl
      | got other password => cases writes
    · rw [Ledger.apply_other map (not_exists.mp own)]
      exact absent

def SameElsewhere (id : String) (left right : Pairs) : Prop :=
  ∀ entry ∈ left ++ right, entry.id ≠ id → stored left entry.id = stored right entry.id

instance (id : String) (left right : Pairs) : Decidable (SameElsewhere id left right) :=
  inferInstanceAs (Decidable (∀ entry ∈ left ++ right, entry.id ≠ id →
    stored left entry.id = stored right entry.id))

theorem SameElsewhere.stored_eq {id other : String} {left right : Pairs}
    (same : SameElsewhere id left right) (different : other ≠ id) :
    stored left other = stored right other := by
  by_cases present : ∃ entry ∈ left ++ right, entry.id = other
  · obtain ⟨entry, member, rfl⟩ := present
    exact same entry member different
  · have absent : ∀ entry ∈ left ++ right, entry.id ≠ other := by
      intro entry member named
      exact present ⟨entry, member, named⟩
    have leftNone : lookup ClientAuth.id other left = none :=
      lookup_eq_none_iff.mpr fun entry member =>
        absent entry (mem_append_left _ member)
    have rightNone : lookup ClientAuth.id other right = none :=
      lookup_eq_none_iff.mpr fun entry member =>
        absent entry (mem_append_right _ member)
    rw [stored, stored, leftNone, rightNone]

def Choice.truncates : Choice → Bool
  | .write (.truncated _) => true
  | _ => false

/-- A `Delete` of the id that has passed the cache. -/
def Thread.removes (id : String) : Thread → Bool
  | .deleteSave removed _ => removed = id
  | _ => false

def WritesFresh (config : Config FileProvider Thread) : Thread → Choice → Prop
  | .addSave clientAuth pairs, choice =>
    choice.truncates = false ∧ ∀ file ∈ config.shared.file, SameElsewhere clientAuth.id pairs file
  | .updateSave clientAuth pairs, choice =>
    choice.truncates = false ∧ ∀ file ∈ config.shared.file, SameElsewhere clientAuth.id pairs file ∧
        stored file clientAuth.id ≠ none
  | .deleteSave id pairs, choice =>
    choice.truncates = false ∧ ∀ file ∈ config.shared.file, SameElsewhere id pairs file
  | .getCache clientAuth _, _ =>
    (∀ file ∈ config.shared.file, stored file clientAuth.id ≠ none) ∧
      ∀ thread ∈ config.threads, thread.removes clientAuth.id = false
  | _, _ => True

instance (config : Config FileProvider Thread) (thread : Thread)
    (choice : Choice) : Decidable (WritesFresh config thread choice) := by
  unfold WritesFresh
  split <;> infer_instance

namespace Thread

def Prepared : Thread → Prop
  | .addSave clientAuth pairs | .updateUncache clientAuth pairs
  | .updateSave clientAuth pairs =>
    stored pairs clientAuth.id = some clientAuth.password
  | .deleteUncache id pairs | .deleteSave id pairs => stored pairs id = none
  | _ => True

def Quiet (thread : Thread) : Prop := thread.Prepared ∧ ∀ id, thread.removes id = false

def saves : Thread → Option (Output × Pairs)
  | .addSave clientAuth pairs =>
    some (.added clientAuth.id clientAuth.password, pairs)
  | .updateSave clientAuth pairs =>
    some (.updated clientAuth.id clientAuth.password, pairs)
  | .deleteSave id pairs => some (.deleted id, pairs)
  | _ => none

end Thread

inductive Stepped (provider : FileProvider) (choice : Choice) :
    Thread → FileProvider → Thread → List Output → Prop where
  | moved {thread after : Thread} : after.Quiet → Stepped provider choice thread provider after []
  | answered {thread after : Thread} {id : String} {password : Option String} :
      (password = none ∨ ∃ item ∈ provider.cache, item.key = id) →
      after.Quiet →
      Stepped provider choice thread provider after [.got id password]
  | cached {clientAuth : ClientAuth} {caller : Caller} {after : Thread} : after.Quiet →
      Stepped provider choice (.getCache clientAuth caller) (provider.cacheAdd clientAuth) after
        [.got clientAuth.id (some clientAuth.password)]
  | uncachedUpdate {clientAuth : ClientAuth} {pairs : Pairs} :
      Stepped provider choice (.updateUncache clientAuth pairs)
        (provider.uncache clientAuth.id) (.updateSave clientAuth pairs) []
  | uncachedDelete {id : String} {pairs : Pairs} :
      Stepped provider choice (.deleteUncache id pairs) (provider.uncache id)
        (.deleteSave id pairs) []
  | saved {thread : Thread} {output : Output} {pairs : Pairs} {result : Result} :
      thread.saves = some (output, pairs) →
      Stepped provider choice thread (provider.store (some pairs)) (.returned result) [output]
  | broken {thread : Thread} {output : Output} {pairs : Pairs} {result : Result} :
      thread.saves = some (output, pairs) → choice.truncates = true →
      Stepped provider choice thread (provider.store none) (.returned result) []

theorem quiet_returned (result : Result) : (Thread.returned result).Quiet := ⟨trivial, fun _ => rfl⟩

theorem quiet_get (id : String) (caller : Caller) : (Thread.get id caller).Quiet :=
  ⟨trivial, fun _ => rfl⟩

theorem quiet_enter (call : Call) : (Thread.enter call).Quiet := by
  cases call <;> exact ⟨trivial, fun _ => rfl⟩

theorem quiet_getFailed (caller : Caller) (err : String) : (getFailed caller err).Quiet := by
  cases caller <;> exact quiet_returned _

theorem quiet_afterGet (settings : Settings) (id : String)
    (found : Option ClientAuth) (caller : Caller) : (afterGet settings id found caller).Quiet := by
  cases caller with
  | handleGetClientAuth => cases found <;> exact quiet_returned _
  | handleDeleteClientAuth force =>
    cases found with
    | none => exact quiet_returned _
    | some clientAuth => exact ⟨trivial, fun _ => rfl⟩
  | authUser password =>
    simp only [afterGet]
    split
    · exact quiet_returned _
    · split
      · exact quiet_returned _
      · split
        · exact quiet_returned _
        · split
          · exact quiet_returned _
          · exact ⟨trivial, fun _ => rfl⟩

theorem quiet_postClientsAuth (settings : Settings)
    (newClient : ClientAuth) (generated : Except String String) :
    (postClientsAuth settings newClient generated).Quiet := by
  unfold postClientsAuth
  split
  · exact quiet_returned _
  · split
    · exact quiet_returned _
    · split
      · exact quiet_returned _
      · split
        · exact quiet_returned _
        · dsimp only
          split
          · exact quiet_returned _
          · exact ⟨trivial, fun _ => rfl⟩

theorem quiet_deleteClientAuth (settings : Settings) (clientAuthID forceStr : String) :
    (deleteClientAuth settings clientAuthID forceStr).Quiet := by
  unfold deleteClientAuth
  split
  · exact quiet_returned _
  · split
    · exact quiet_returned _
    · split
      · exact quiet_get _ _
      · split
        · exact quiet_returned _
        · exact quiet_get _ _

theorem quiet_deleteBoundClients (clientAuthID : String) (force : Bool)
    (deletions : List (Except String Unit)) :
    (deleteBoundClients clientAuthID force deletions).Quiet := by
  unfold deleteBoundClients
  split
  · exact quiet_returned _
  · split
    · exact quiet_returned _
    · exact ⟨trivial, fun _ => rfl⟩

theorem quiet_upgradeHash (clientAuth : ClientAuth) (generated : Except String String) :
    (upgradeHash clientAuth generated).Quiet := by
  unfold upgradeHash
  split
  · exact quiet_returned _
  · dsimp only
    split
    · exact quiet_returned _
    · exact ⟨trivial, fun _ => rfl⟩

variable {provider : FileProvider}

theorem finish_stepped {thread : Thread} {output : Output} {pairs : Pairs}
    (writes : thread.saves = some (output, pairs)) (outcome : Written)
    (done : Result) (failed : String → Result) :
    Stepped provider (.write outcome) thread (provider.finish pairs outcome output done failed).1
      (provider.finish pairs outcome output done failed).2.1
      (provider.finish pairs outcome output done failed).2.2 := by
  cases outcome with
  | complete => exact .saved writes
  | notOpened err => exact .moved (quiet_returned _)
  | truncated err => exact .broken writes rfl

variable {settings : Settings}

theorem atomic_stepped {provider next : FileProvider} {thread after : Thread}
    {choice : Choice} {shown : List Output} (ran : atomic settings provider thread choice =
      some (next, after, shown)) :
    Stepped provider choice thread next after shown := by
  cases thread with
  | handlePostClientsAuth newClient =>
    cases choice <;> cases ran
    exact .moved (quiet_postClientsAuth _ _ _)
  | handleDeleteClientAuth clientAuthID forceStr =>
    cases choice <;> cases ran
    exact .moved (quiet_deleteClientAuth _ _ _)
  | authUser clientAuthID password =>
    cases choice <;> simp only [atomic, reduceCtorEq] at ran
    split at ran <;> cases ran
    · exact .moved (quiet_returned _)
    · exact .moved (quiet_get _ _)
  | get id caller =>
    cases choice <;> simp only [atomic, reduceCtorEq] at ran
    split at ran <;> cases ran
    · rename_i clientAuth found
      simp only [FileProvider.cacheGet, Option.map_eq_some_iff, Option.filter_eq_some_iff] at found
      obtain ⟨item, ⟨listed, -⟩, -⟩ := found
      exact .answered (.inr ⟨item, mem_of_lookup listed⟩) (quiet_afterGet _ _ _ _)
    · exact .moved ⟨trivial, fun _ => rfl⟩
  | getLoad id caller =>
    cases choice <;> simp only [atomic, reduceCtorEq] at ran
    split at ran
    · cases ran
      exact .moved (quiet_getFailed _ _)
    · split at ran <;> cases ran
      · exact .answered (.inl rfl) (quiet_afterGet _ _ _ _)
      · exact .moved ⟨trivial, fun _ => rfl⟩
  | getCache clientAuth caller =>
    cases choice <;> simp only [atomic, reduceCtorEq] at ran
    split at ran <;> cases ran
    · exact .moved (quiet_getFailed _ _)
    · exact .cached (quiet_afterGet _ _ _ _)
  | boundClients clientAuthID force =>
    cases choice <;> cases ran
    exact .moved (quiet_deleteBoundClients _ _ _)
  | maybeUpgradeClientAuthHash clientAuth =>
    cases choice <;> cases ran
    exact .moved (quiet_upgradeHash _ _)
  | add | update =>
    cases choice <;> simp only [atomic, reduceCtorEq] at ran
    split at ran
    · cases ran
      exact .moved (quiet_returned _)
    · split at ran <;> cases ran
      · exact .moved (quiet_returned _)
      · refine .moved ⟨?_, fun _ => rfl⟩
        rw [Thread.Prepared, stored, lookup_put_self]
        rfl
  | addSave clientAuth pairs =>
    cases choice <;> simp only [atomic, Option.some.injEq, reduceCtorEq] at ran
    rename_i outcome
    have effect := @finish_stepped provider _ _ _
      (rfl : (Thread.addSave clientAuth pairs).saves = _) outcome .created serverError
    rwa [ran] at effect
  | updateUncache clientAuth pairs =>
    cases choice <;> cases ran
    exact .uncachedUpdate
  | updateSave clientAuth pairs =>
    cases choice <;> simp only [atomic, Option.some.injEq, reduceCtorEq] at ran
    rename_i outcome
    have effect := @finish_stepped provider _ _ _
      (rfl : (Thread.updateSave clientAuth pairs).saves = _) outcome
      (.authenticated none) fun err => .authenticated (some err)
    rwa [ran] at effect
  | delete id =>
    cases choice <;> simp only [atomic, reduceCtorEq] at ran
    split at ran <;> cases ran
    · exact .moved (quiet_returned _)
    · refine .moved ⟨?_, fun _ => rfl⟩
      rw [Thread.Prepared, stored, lookup_remove_self]
      rfl
  | deleteUncache id pairs =>
    cases choice <;> cases ran
    exact .uncachedDelete
  | deleteSave id pairs =>
    cases choice <;> simp only [atomic, Option.some.injEq, reduceCtorEq] at ran
    rename_i outcome
    have effect := @finish_stepped provider _ _ _
      (rfl : (Thread.deleteSave id pairs).saves = _) outcome .deleted serverError
    rwa [ran] at effect
  | returned result => cases choice <;> simp [atomic] at ran

abbrev ledger (start : Pairs) (history : List Output) : String → Option String :=
  Ledger.replay Output.write (stored start) history

structure Kept (start : Pairs) (history : List Output)
    (config : Config FileProvider Thread) : Prop where
  file : ∃ pairs, config.shared.file = some pairs ∧ stored pairs = ledger start history
  cache : ∀ item ∈ config.shared.cache, ledger start history item.key ≠ none
  prepared : ∀ thread ∈ config.threads, thread.Prepared
  removing : ∀ thread ∈ config.threads, ∀ item ∈ config.shared.cache,
    thread.removes item.key = false
  legal : Ledger.Legal Output.write Output.allowed (stored start) history

theorem initial_kept (clock : Time) (start : Pairs) : Kept start [] (initial clock start) := by
  refine ⟨⟨start, rfl, rfl⟩, ?_, ?_, ?_, trivial⟩ <;> simp [initial]

section Sections

variable {start : Pairs} {history : List Output}
  {config : Config FileProvider Thread} {index : Nat} {after : Thread}

namespace Kept

variable (kept : Kept start history config)
include kept

theorem withThreads {threads : List Thread}
    (others : ∀ thread ∈ threads, thread ∈ config.threads ∨ thread.Quiet) :
    Kept start history ⟨config.shared, threads⟩ := by
  refine ⟨kept.file, kept.cache, ?_, ?_, kept.legal⟩
  · intro thread member
    rcases others thread member with old | quiet
    · exact kept.prepared thread old
    · exact quiet.1
  · intro thread member item cached
    rcases others thread member with old | quiet
    · exact kept.removing thread old item cached
    · exact quiet.2 item.key

theorem move (quiet : after.Quiet) :
    Kept start history
      ⟨config.shared, config.threads.set index after⟩ := by
  apply kept.withThreads
  exact forall_mem_set (fun _ => .inl) (.inr quiet)

theorem got {id : String} {password : Option String}
    (present : password = none ∨ ledger start history id ≠ none) :
    Kept start (history ++ [.got id password]) config := by
  have same : ledger start (history ++ [.got id password]) = ledger start history :=
    Ledger.replay_append _ _
  refine ⟨?_, ?_, kept.prepared, kept.removing, ?_⟩
  · rw [same]
    exact kept.file
  · rw [same]
    exact kept.cache
  · refine Ledger.legal_append.mpr ⟨kept.legal, ?_, trivial⟩
    cases password with
    | none => trivial
    | some password =>
      rcases present with absurdity | found
      · cases absurdity
      · exact found

theorem cacheAdd {clientAuth : ClientAuth} (present : ledger start history clientAuth.id ≠ none)
    (unremoved : ∀ thread ∈ config.threads, thread.removes clientAuth.id = false) :
    Kept start history ⟨config.shared.cacheAdd clientAuth, config.threads⟩ := by
  refine ⟨kept.file, ?_, kept.prepared, ?_, kept.legal⟩
  · intro item member
    rcases mem_put.mp member with rfl | ⟨old, -⟩
    · exact present
    · exact kept.cache item old
  · intro thread running item member
    rcases mem_put.mp member with rfl | ⟨old, -⟩
    · exact unremoved thread running
    · exact kept.removing thread running item old

theorem uncache {id : String} (prepared : after.Prepared)
    (own : ∀ other, after.removes other = true → other = id) :
    Kept start history ⟨config.shared.uncache id, config.threads.set index after⟩ := by
  refine ⟨kept.file, ?_, ?_, ?_, kept.legal⟩
  · intro item member
    exact kept.cache item (mem_remove.mp member).1
  · exact forall_mem_set kept.prepared prepared
  · intro thread running item member
    obtain ⟨cached, different⟩ := mem_remove.mp member
    rcases mem_or_eq_of_mem_set running with old | rfl
    · exact kept.removing thread old item cached
    · exact eq_false_of_ne_true fun removes => different (own _ removes)

end Kept

variable {thread : Thread} {choice : Choice} {output : Output}

theorem saves_fresh {pairs file : Pairs} (writes : thread.saves = some (output, pairs))
    (present : config.shared.file = some file) (prepared : thread.Prepared)
    (fresh : WritesFresh config thread choice) :
    ∃ id value, output.write = some (id, value) ∧
      stored pairs id = value ∧ SameElsewhere id pairs file ∧
      choice.truncates = false ∧ output.allowed (stored file) ∧
      (value = none → thread.removes id = true) := by
  cases thread with
  | addSave clientAuth written =>
    cases writes
    obtain ⟨complete, same⟩ := fresh
    exact ⟨_, _, rfl, prepared, same file present, complete, trivial, nofun⟩
  | updateSave clientAuth written =>
    cases writes
    obtain ⟨complete, same⟩ := fresh
    obtain ⟨elsewhere, here⟩ := same file present
    exact ⟨_, _, rfl, prepared, elsewhere, complete, here, nofun⟩
  | deleteSave id written =>
    cases writes
    obtain ⟨complete, same⟩ := fresh
    refine ⟨_, _, rfl, prepared, same file present, complete, trivial, ?_⟩
    simp [Thread.removes]
  | _ => simp [Thread.saves] at writes

theorem Kept.saved (kept : Kept start history config) {pairs : Pairs}
    (member : thread ∈ config.threads) (writes : thread.saves = some (output, pairs))
    (fresh : WritesFresh config thread choice) :
    Kept start (history ++ [output]) ⟨config.shared.store (some pairs), config.threads⟩ := by
  obtain ⟨file, present, agrees⟩ := kept.file
  obtain ⟨id, value, effect, own, elsewhere, -, allowed, removed⟩ :=
    saves_fresh writes present (kept.prepared thread member) fresh
  have recorded : ledger start (history ++ [output]) =
      Function.update (ledger start history) id value :=
    (Ledger.replay_append _ _).trans (Ledger.apply_of_effect effect)
  have written : stored pairs = ledger start (history ++ [output]) := by
    funext other
    rw [recorded]
    by_cases same : other = id
    · rw [same, Function.update_self, own]
    · rw [Function.update_of_ne same, elsewhere.stored_eq same, agrees]
  refine ⟨⟨pairs, rfl, written⟩, ?_, kept.prepared, kept.removing, ?_⟩
  · intro item cached
    rw [recorded]
    by_cases same : item.key = id
    · rw [same, Function.update_self]
      intro absent
      -- only a deletion leaves nothing behind, and it has passed the cache
      have overlooked := kept.removing thread member item cached
      rw [same, removed absent] at overlooked
      cases overlooked
    · rw [Function.update_of_ne same]
      exact kept.cache item cached
  · rw [agrees] at allowed
    exact Ledger.legal_append.mpr ⟨kept.legal, allowed, trivial⟩

theorem Stepped.kept {provider : FileProvider} {shown : List Output}
    (kept : Kept start history config) (member : thread ∈ config.threads)
    (fresh : WritesFresh config thread choice)
    (stepped : Stepped config.shared choice thread provider after shown) :
    Kept start (history ++ shown) ⟨provider, config.threads.set index after⟩ := by
  cases stepped with
  | moved quiet =>
    rw [append_nil]
    exact kept.move quiet
  | answered present quiet =>
    refine (kept.got ?_).move quiet
    rcases present with none | ⟨item, cached, rfl⟩
    · exact .inl none
    · exact .inr (kept.cache item cached)
  | cached quiet =>
    obtain ⟨file, present, agrees⟩ := kept.file
    have here := fresh.1 file present
    rw [agrees] at here
    exact ((kept.cacheAdd here fresh.2).got (.inr here)).move quiet
  | uncachedUpdate | uncachedDelete =>
    have prepared := kept.prepared _ member
    rw [append_nil]
    exact kept.uncache prepared (by simp [Thread.removes])
  | saved writes =>
    exact (kept.saved member writes fresh).move (quiet_returned _)
  | broken writes truncated =>
    obtain ⟨file, present, -⟩ := kept.file
    obtain ⟨-, -, -, -, -, complete, -⟩ := saves_fresh writes present (kept.prepared _ member) fresh
    rw [truncated] at complete
    cases complete

end Sections

variable {config : Config FileProvider Thread} {start : Pairs}

theorem environment_kept {history shown : List Output} {event : Event}
    (kept : Kept start history config)
    (ran : environment config.shared event = some (provider, shown)) :
    Kept start (history ++ shown) ⟨provider, config.threads⟩ := by
  cases event with
  | tick now =>
    simp only [environment] at ran
    split at ran <;> cases ran
    rw [append_nil]
    exact ⟨kept.file, kept.cache, kept.prepared, kept.removing, kept.legal⟩
  | janitor =>
    cases ran
    rw [append_nil]
    refine ⟨kept.file, ?_, kept.prepared, ?_, kept.legal⟩
    · intro item member
      exact kept.cache item (mem_of_mem_filter member)
    · intro thread running item member
      exact kept.removing thread running item (mem_of_mem_filter member)

theorem step_kept {next : Config FileProvider Thread}
    {move : Move Call Choice Event} {history shown : List Output} (kept : Kept start history config)
    (admitted : OnAdvance WritesFresh config move)
    (stepped : (program settings).system.step config move = some (next, shown)) :
    Kept start (history ++ shown) next := by
  cases Program.step_cases stepped with
  | spawn call =>
    rw [append_nil]
    apply kept.withThreads
    exact forall_mem_concat (fun _ => .inl) (.inr (quiet_enter call))
  | @advance _ choice thread provider after shown found ran =>
    have effect : Stepped config.shared choice thread provider after shown := atomic_stepped ran
    exact effect.kept kept (List.mem_of_getElem? found) (admitted.condition found)
  | environment ran =>
    exact environment_kept kept ran

theorem run_kept {clock : Time} {history : List Output}
    (run : Run (program settings).system (OnAdvance WritesFresh)
      (initial clock start) history config) :
    Kept start history config :=
  run.invariant (Kept start) (initial_kept clock start) step_kept

/-- In a run in which calls do not get in each other's way, `Get` finds
nothing after a `Delete` of the id has returned and before the next `Add` of it
has, and what the last successful call on an id has stored is in the file
until the next one. -/
theorem successful_calls_kept {settings : Settings} {clock : Time}
    {start : Pairs} {history : List Output} {config : Config FileProvider Thread}
    (run : Run (program settings).system (OnAdvance WritesFresh)
      (initial clock start) history config) :
    (∀ before id middle found later, history = before ++ Output.deleted id ::
        (middle ++ Output.got id found :: later) →
      (∀ password, .added id password ∉ middle) → found = none) ∧
    (∀ before output later id value, history = before ++ output :: later →
      output.write = some (id, value) →
      (∀ other ∈ later, ∀ value, other.write ≠ some (id, value)) →
      ∃ pairs, config.shared.file = some pairs ∧ stored pairs id = value) := by
  have kept := run_kept run
  constructor
  · rintro before id middle found later rfl unadded
    obtain ⟨-, legal⟩ := Ledger.legal_append.mp kept.legal
    have writes : (Output.deleted id).write = some (id, none) := rfl
    refine got_none_of_legal ?_ legal.2 unadded
    rw [Ledger.apply_of_effect writes, Function.update_self]
  · rintro before output later id value rfl writes others
    obtain ⟨pairs, present, agrees⟩ := kept.file
    refine ⟨pairs, present, ?_⟩
    rw [agrees]
    exact Ledger.replay_last writes others

def plainSettings : Settings :=
  { fileName := "clients.json"
    authWrite := true
    unicode := .ascii
    compareHashAndPassword := fun hash password => hash = "$2a$" ++ password }

def reads (index : Nat) : Move Call Choice Event := .advance index (.read (.ok ()))

def writes (index : Nat) : Move Call Choice Event := .advance index (.write .complete)

def posts (index : Nat) (id : String) : List (Move Call Choice Event) :=
  [.spawn (.handlePostClientsAuth ⟨id, "secret"⟩),
    .advance index (.generated (.ok "$2a$secret")), reads index]

def logsIn (index : Nat) (id : String) : List (Move Call Choice Event) :=
  [.spawn (.authUser id "secret"), .advance index (.banned false),
    .advance index .proceed, reads index, .advance index .proceed,
    .advance index (.generated (.ok "$2a$secret")), reads index]

def upgrades (index : Nat) : List (Move Call Choice Event) :=
  [.advance index .proceed, writes index]

def deletesCached (index : Nat) (id : String) : List (Move Call Choice Event) :=
  [.spawn (.handleDeleteClientAuth id ""), .advance index .proceed,
    .advance index .proceed, .advance index (.clients []), reads index,
    .advance index .proceed, writes index]

def looksUp (index : Nat) (id : String) : List (Move Call Choice Event) :=
  [.spawn (.handleGetClientAuth id), .advance index .proceed, reads index]

theorem successful_calls_kept_inSequence :
    ∃ config history,
      Run (program plainSettings).system (OnAdvance WritesFresh)
        (initial 0 [⟨"agent", "secret"⟩]) history config ∧
      history = [.got "agent" (some "secret"),
        .updated "agent" "$2a$secret", .added "other" "$2a$secret",
        .got "agent" (some "$2a$secret"),
        .got "agent" (some "$2a$secret"), .deleted "agent",
        .got "agent" none] ∧
      (∀ before id middle found later, history = before ++ Output.deleted id ::
            (middle ++ Output.got id found :: later) →
        (∀ password, .added id password ∉ middle) → found = none) ∧
      (∀ before output later id value, history = before ++ output :: later →
        output.write = some (id, value) →
        (∀ other ∈ later, ∀ value, other.write ≠ some (id, value)) →
        ∃ pairs, config.shared.file = some pairs ∧ stored pairs id = value) :=
  Run.exists_reaching_follows (List.flatten [logsIn 0 "agent", upgrades 0, posts 1 "other",
      [writes 1], looksUp 2 "agent", [.advance 2 .proceed],
      deletesCached 3 "agent", looksUp 4 "agent"])
    (by decide +kernel) (by decide +kernel)
    fun run _ => successful_calls_kept run

/-- A login that upgrades its credential brings a deleted credential back, and
the second of two overlapping `Add` calls takes away what the first has
stored. -/
theorem successful_calls_undone :
    (∃ config history, Run (program plainSettings).system Unrestricted
        (initial 0 [⟨"agent", "secret"⟩]) history config ∧
      history = [.got "agent" (some "secret"), .got "agent" (some "secret"), .deleted "agent",
        .updated "agent" "$2a$secret",
        .got "agent" (some "$2a$secret")]) ∧
    ∃ config history, Run (program plainSettings).system Unrestricted (initial 0 [])
        history config ∧
      history = [.added "agent" "$2a$secret", .added "other" "$2a$secret"] ∧
      config.shared.file = some [⟨"other", "$2a$secret"⟩] :=
  ⟨Run.exists_reaching_unrestricted (List.flatten [logsIn 0 "agent", deletesCached 1 "agent",
        upgrades 0, looksUp 2 "agent", [.advance 2 .proceed]])
      (by decide +kernel),
    Run.exists_reaching_unrestricted
      (List.flatten [posts 0 "agent", posts 1 "other", [writes 0, writes 1]]) (by decide +kernel)⟩

end ProxiPort.ClientsAuth
