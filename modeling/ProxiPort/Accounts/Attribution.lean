import ProxiPort.Accounts.Credentials

/-!
# The account behind a request

Deleting or renaming a user leaves the sessions and the API tokens of the name
in their stores, so whoever takes the name next is authenticated by them.
-/

namespace ProxiPort.Accounts

open Concurrency List

def Thread.actsFor (username : String) : Thread → Bool
  | .saveToken issued => issued.token.username = username
  | .resolveUser name _ => name = username
  | .sessionCall purpose inner =>
    (match purpose with
      | .authenticated name _ => decide (name = username)
      | _ => false) ||
    (inner.value.any fun value => value.session.username = username) ||
    decide (sessionFor inner = some username)
  | _ => false

/-- Something is stored, or on its way, under the user name. -/
def uses (config : Config Server Thread) (username : String) : Bool :=
  (config.shared.sessions.rows.any fun row =>
    row.session.username = username) ||
  (config.shared.sessions.cache.any fun item =>
    item.object.session.username = username) ||
  (config.shared.apiTokens.any fun issued =>
    issued.token.username = username) ||
  config.threads.any (Thread.actsFor username)

def sessionConfig (config : Config Server Thread) : Config Session.Store Session.Thread :=
  { shared := config.shared.sessions
    threads := config.threads.filterMap Thread.inner }

/-- A name is given to an account only when it is out of use, and a new
session gets an id that was never given out. -/
def NamesUnused (config : Config Server Thread) : Thread → Choice → Prop
  | .provide dataToChange userID _, _ =>
    ∀ username ∈ takenName dataToChange userID, uses config username = false
  | .sessionCall _ inner, _ => config.shared.sessions.InsertsUnused inner
  | _, _ => True

instance (config : Config Server Thread) (thread : Thread)
    (choice : Choice) : Decidable (NamesUnused config thread choice) := by
  unfold NamesUnused
  split <;> infer_instance

def SessionBelongs (server : Server) (value : Session.Tracked) : Prop :=
  Belongs server.directory value.session.username server.issuedTo[value.origin]?

/-- The credential a request works with belongs to the name it works for. -/
def Thread.Owned (server : Server) : Thread → Prop
  | .saveToken issued =>
    Belongs server.directory issued.token.username (some issued.issuedTo)
  | .resolveUser username credential =>
    Belongs server.directory username credential
  | .sessionCall purpose inner =>
    (∀ value ∈ inner.value, SessionBelongs server value) ∧
    (∀ username ∈ sessionFor inner, ∃ owner, purpose = .issue owner ∧
      Belongs server.directory username (some owner)) ∧
    ∀ username credential, purpose = .authenticated username credential →
      Belongs server.directory username credential
  | _ => True

structure Vouched (config : Config Server Thread) : Prop where
  registered : Session.Registered (sessionConfig config)
  distinctIDs : (config.shared.sessions.created.map Session.APISession.sessionID).Nodup
  distinctNames : NamesDistinct config.shared.directory
  recorded : config.shared.issuedTo.length = config.shared.sessions.created.length
  rows : ∀ row ∈ config.shared.sessions.rows, SessionBelongs config.shared row
  cache : ∀ item ∈ config.shared.sessions.cache, SessionBelongs config.shared item.object
  apiTokens : ∀ issued ∈ config.shared.apiTokens,
    Belongs config.shared.directory issued.token.username (some issued.issuedTo)
  threads : ∀ thread ∈ config.threads, thread.Owned config.shared

theorem initial_vouched (clock : Time) : Vouched (initial clock) := by
  refine ⟨Session.initial_registered clock, ?_, ?_, ?_, ?_, ?_, ?_, ?_⟩ <;>
    simp [initial, Session.Store.new, NamesDistinct]

variable {thread : Thread}

theorem Thread.Idle.owned (idle : thread.Idle) (server : Server) : thread.Owned server := by
  cases thread with
  | saveToken | resolveUser => exact idle.elim
  | sessionCall purpose inner =>
    obtain ⟨rfl, noValue, noRequest⟩ := idle
    refine ⟨?_, ?_, ?_⟩
    · simp [noValue]
    · simp [noRequest]
    · simp
  | _ => trivial

/-- A request keeps its credential when the names it acts for keep theirs and
the sessions it is about to write keep their records. -/
theorem Thread.Owned.transfer {server next : Server} (owned : thread.Owned server)
    (names : ∀ username credential, thread.actsFor username = true →
      Belongs server.directory username credential →
      Belongs next.directory username credential)
    (records : ∀ inner ∈ thread.inner, ∀ value ∈ inner.value,
      next.issuedTo[value.origin]? = server.issuedTo[value.origin]?) :
    thread.Owned next := by
  cases thread with
  | saveToken | resolveUser =>
    exact names _ _ (by simp [Thread.actsFor]) owned
  | sessionCall purpose inner =>
    obtain ⟨values, requests, authenticated⟩ := owned
    refine ⟨?_, ?_, ?_⟩
    · intro value written
      rw [SessionBelongs, records inner rfl value written]
      refine names _ _ ?_ (values value written)
      simp [Thread.actsFor, Option.mem_def.mp written]
    · intro username requested
      obtain ⟨owner, issues, belongs⟩ := requests username requested
      refine ⟨owner, issues, names _ _ ?_ belongs⟩
      simp [Thread.actsFor, Option.mem_def.mp requested]
    · rintro username credential rfl
      refine names _ _ ?_ (authenticated username credential rfl)
      simp [Thread.actsFor]
  | _ => trivial

variable {config : Config Server Thread}

theorem Vouched.known (vouched : Vouched config)
    (member : thread ∈ config.threads) {inner : Session.Thread}
    (inside : inner ∈ thread.inner) {value : Session.Tracked} (written : value ∈ inner.value) :
    config.shared.sessions.Known value :=
  vouched.registered.values inner (mem_filterMap.mpr ⟨thread, member, inside⟩) value written

section Sections

variable {config : Config Server Thread} {index : Nat} {after : Thread}

theorem Vouched.withThreads (vouched : Vouched config) {threads : List Thread}
    (others : ∀ thread ∈ threads, thread ∈ config.threads ∨ thread.Owned config.shared ∧
        ∀ inner ∈ thread.inner, ∀ value ∈ inner.value, config.shared.sessions.Known value) :
    Vouched ⟨config.shared, threads⟩ := by
  refine ⟨?_, vouched.distinctIDs, vouched.distinctNames, vouched.recorded,
    vouched.rows, vouched.cache, vouched.apiTokens, ?_⟩
  · refine vouched.registered.withThreads ?_
    intro inner member
    obtain ⟨thread, found, inside⟩ := mem_filterMap.mp member
    rcases others thread found with old | ⟨-, known⟩
    · exact .inl (mem_filterMap.mpr ⟨thread, old, inside⟩)
    · exact .inr (known inner inside)
  · intro thread member
    rcases others thread member with old | ⟨owned, -⟩
    · exact vouched.threads thread old
    · exact owned

theorem Vouched.move (vouched : Vouched config) (owned : after.Owned config.shared)
    (known : ∀ inner ∈ after.inner, ∀ value ∈ inner.value, config.shared.sessions.Known value) :
    Vouched ⟨config.shared, config.threads.set index after⟩ := by
  apply vouched.withThreads
  exact forall_mem_set (fun _ => .inl) (.inr ⟨owned, known⟩)

variable {thread : Thread} {inner : Session.Thread}

theorem Thread.Idle.value_eq_none (idle : thread.Idle) (inside : inner ∈ thread.inner) :
    inner.value = none := by
  cases thread with
  | sessionCall purpose own =>
    cases inside
    exact idle.2.1
  | _ => simp [Thread.inner] at inside

theorem Vouched.idle (vouched : Vouched config) (idle : after.Idle) :
    Vouched ⟨config.shared, config.threads.set index after⟩ := by
  refine vouched.move (idle.owned config.shared) ?_
  intro inner inside value written
  rw [idle.value_eq_none inside] at written
  simp at written

theorem Vouched.spawned (vouched : Vouched config) (idle : after.Idle) :
    Vouched ⟨config.shared, config.threads ++ [after]⟩ := by
  apply vouched.withThreads
  refine forall_mem_concat (fun _ => .inl) (.inr ⟨idle.owned config.shared, ?_⟩)
  intro inner inside value written
  rw [idle.value_eq_none inside] at written
  simp at written

theorem Vouched.loggedIn (vouched : Vouched config)
    {request : Session.AuthRequest} {account : Account}
    (found : config.shared.directory.getByUsername request.username = some account) :
    Vouched ⟨config.shared, config.threads.set index (.sessionCall (.issue account.creation)
        (.createAuthToken request))⟩ := by
  have belongs := vouched.distinctNames.belongs (mem_of_find?_eq_some found)
  have same : account.user.username = request.username := by
    simpa using find?_some found
  rw [same] at belongs
  refine vouched.move ⟨?_, ?_, ?_⟩ ?_
  · simp [Session.Thread.value]
  · intro username requested
    cases requested
    exact ⟨account.creation, rfl, belongs⟩
  · simp
  · intro inner inside value written
    cases inside
    simp [Session.Thread.value] at written

/-- A session that is written back is in the table under a positive id, so
`Save` does not take it for a new one. -/
theorem sessionFor_save {store : Session.Store} {value : Session.Tracked}
    (numbered : ∀ inserted ∈ store.created, 0 < inserted.sessionID) (known : store.Known value) :
    sessionFor (.save value .done) = none := by
  obtain ⟨inserted, found, same, -⟩ := known
  have positive := numbered inserted (List.mem_of_getElem? found)
  rw [Session.Thread.save, if_neg (by omega)]
  rfl

/-- A bearer token is accepted on the session it was minted for, so the
session's user name and its record are the token's. -/
theorem Vouched.sessionMatched (vouched : Vouched config)
    {claims : Session.Token} {found value : Session.Tracked}
    (minted : claims ∈ config.shared.sessions.minted)
    (got : config.shared.sessions.get claims.sessionID = some found)
    (same : value.SameSession found) :
    Vouched ⟨config.shared, config.threads.set index (.sessionCall (.authenticated claims.username
        config.shared.issuedTo[claims.origin]?) (.save value .done))⟩ := by
  obtain ⟨⟨item, cached, -, rfl⟩, named⟩ := Session.Store.get_visible got
  have itemKnown := vouched.registered.cache item cached
  have itemBelongs := vouched.cache item cached
  have valueKnown : config.shared.sessions.Known value := itemKnown.congr same
  obtain ⟨inserted, stored, storedID, storedName⟩ := itemKnown
  obtain ⟨mintedFor, mintedAt, mintedID, mintedName⟩ := vouched.registered.tokens claims minted
  -- no id was given out twice, so the cached session is the token's own
  have origin : item.object.origin = claims.origin :=
    Session.origin_eq_of_distinct vouched.distinctIDs stored mintedAt
      (storedID.trans (named.trans mintedID.symm))
  rw [origin] at stored
  cases stored.symm.trans mintedAt
  refine vouched.move ⟨?_, ?_, ?_⟩ ?_
  · intro saved written
    rw [Session.Thread.value_save written, SessionBelongs, same.origin, same.username]
    exact itemBelongs
  · intro username requested
    rw [sessionFor_save vouched.registered.numbered valueKnown] at requested
    simp at requested
  · rintro username credential ⟨rfl, rfl⟩
    rw [SessionBelongs, origin, ← storedName, mintedName] at itemBelongs
    exact itemBelongs
  · intro inner inside saved written
    cases inside
    rw [Session.Thread.value_save written]
    exact valueKnown

variable {username : String}

theorem uses_iff :
    uses config username = true ↔ (((∃ row ∈ config.shared.sessions.rows,
          row.session.username = username) ∨
        ∃ item ∈ config.shared.sessions.cache, item.object.session.username = username) ∨
        ∃ issued ∈ config.shared.apiTokens, issued.token.username = username) ∨
      ∃ thread ∈ config.threads, thread.actsFor username = true := by
  simp only [uses, Bool.or_eq_true, any_eq_true, decide_eq_true_eq]

variable {issued : IssuedToken} {directory : Directory}

theorem Vouched.withDirectory (vouched : Vouched config) (distinct : NamesDistinct directory)
    (keeps : ∀ username credential, uses config username = true →
      Belongs config.shared.directory username credential →
      Belongs directory username credential) :
    Vouched ⟨config.shared.withDirectory directory, config.threads⟩ := by
  refine ⟨vouched.registered, vouched.distinctIDs, distinct, vouched.recorded, ?_, ?_, ?_, ?_⟩
  · intro row member
    exact keeps _ _ (uses_iff.mpr (.inl (.inl (.inl ⟨row, member, rfl⟩)))) (vouched.rows row member)
  · intro item member
    exact keeps _ _ (uses_iff.mpr (.inl (.inl (.inr ⟨item, member, rfl⟩))))
      (vouched.cache item member)
  · intro issued member
    exact keeps _ _ (uses_iff.mpr (.inl (.inr ⟨issued, member, rfl⟩)))
      (vouched.apiTokens issued member)
  · intro thread member
    refine (vouched.threads thread member).transfer ?_ fun _ _ _ _ => rfl
    intro username credential acts
    exact keeps username credential (uses_iff.mpr (.inr ⟨thread, member, acts⟩))

theorem Vouched.provided (vouched : Vouched config) {dataToChange : User} {userID : String}
    (provided : provide config.shared.directory dataToChange userID =
      .ok directory) (unused : ∀ username ∈ takenName dataToChange userID,
      uses config username = false) :
    Vouched ⟨config.shared.withDirectory directory, config.threads⟩ := by
  apply vouched.withDirectory (provide_namesDistinct provided vouched.distinctNames)
  intro username credential used
  apply provide_belongs provided
  intro taken
  rw [unused username taken] at used
  simp at used

variable {apiTokens : List IssuedToken}

theorem Vouched.withTokens (vouched : Vouched config) (belong : ∀ issued ∈ apiTokens,
      Belongs config.shared.directory issued.token.username (some issued.issuedTo)) :
    Vouched ⟨config.shared.withTokens apiTokens, config.threads⟩ := by
  refine ⟨vouched.registered, vouched.distinctIDs, vouched.distinctNames,
    vouched.recorded, vouched.rows, vouched.cache, belong, ?_⟩
  intro thread member
  exact (vouched.threads thread member).transfer (fun _ _ _ held => held) fun _ _ _ _ => rfl

theorem mem_saveToken {saved : IssuedToken} (member : saved ∈ saveToken apiTokens issued) :
    saved = issued ∨ ∃ stored ∈ apiTokens, saved.token.username = stored.token.username ∧
        saved.issuedTo = stored.issuedTo := by
  unfold saveToken at member
  split at member
  · obtain ⟨stored, found, rfl⟩ := mem_map.mp member
    refine .inr ⟨stored, found, ?_⟩
    split <;> exact ⟨rfl, rfl⟩
  · rcases mem_or_eq_of_mem_concat member with old | same
    · exact .inr ⟨saved, old, rfl, rfl⟩
    · exact .inl same

theorem Vouched.tokenSaved (vouched : Vouched config)
    (member : .saveToken issued ∈ config.threads) :
    Vouched ⟨config.shared.withTokens
      (saveToken config.shared.apiTokens issued), config.threads⟩ := by
  apply vouched.withTokens
  intro saved found
  rcases mem_saveToken found with rfl | ⟨stored, old, name, record⟩
  · exact vouched.threads _ member
  · rw [name, record]
    exact vouched.apiTokens stored old

theorem serve_issuedTo (server : Server) (purpose : Purpose)
    (sessions : Session.Store) {origin : Nat} (inside : origin < server.issuedTo.length) :
    (server.serve purpose sessions).issuedTo[origin]? = server.issuedTo[origin]? := by
  unfold Server.serve
  dsimp only
  split
  · split
    · exact List.getElem?_append_left inside
    · rfl
  · rfl

variable {shown : List Session.Output}

theorem created_cases {store next : Session.Store} {after : Session.Thread}
    (stepped : Session.Stepped store inner next after shown) :
    next.created = store.created ∨ ∃ session save, inner = .add session save ∧
        next = (store.add session).1 := by
  cases stepped with
  | added => exact .inr ⟨_, _, rfl, rfl⟩
  | _ => exact .inl rfl

theorem sessionFor_after {sessions : Config Session.Store Session.Thread}
    {next : Session.Store} {after : Session.Thread} (registered : Session.Registered sessions)
    (stepped : Session.Stepped sessions.shared inner next after shown)
    (requested : username ∈ sessionFor after) : username ∈ sessionFor inner := by
  cases stepped with
  | requested named =>
    simp only [sessionFor, named] at requested ⊢
    exact requested
  | read minted got leaves _ =>
    rcases leaves with rfl | ⟨value, same, rfl⟩
    · simp [sessionFor] at requested
    · obtain ⟨⟨item, cached, -, rfl⟩, -⟩ := Session.Store.get_visible got
      rw [sessionFor_save registered.numbered
        ((registered.cache item cached).congr same)] at requested
      simp at requested
  | @cached value save =>
    cases save <;> cases requested
  | listedItems | uncached =>
    unfold Session.Thread.uncacheNext at requested
    split at requested <;> cases requested
  | _ => simp [sessionFor] at requested

variable {purpose : Purpose} {sessions : Session.Store}
  {afterInner : Session.Thread}

section

variable (vouched : Vouched config)
include vouched

theorem Vouched.recorded_after (owned : (Thread.sessionCall purpose inner).Owned config.shared)
    (stepped : Session.Stepped config.shared.sessions inner sessions afterInner shown) :
    (config.shared.serve purpose sessions).issuedTo.length = sessions.created.length := by
  rcases created_cases stepped with same | ⟨session, save, rfl, rfl⟩
  · unfold Server.serve
    cases purpose <;> simp [same, vouched.recorded]
  · obtain ⟨owner, rfl, -⟩ := owned.2.1 session.username rfl
    simp [Server.serve, Session.Store.add, vouched.recorded]

theorem Vouched.belongs_add {session : Session.APISession} {save : Session.AfterSave}
    (owned : (Thread.sessionCall purpose (.add session save)).Owned config.shared) :
    SessionBelongs (config.shared.serve purpose (config.shared.sessions.add session).1)
      (config.shared.sessions.add session).2 := by
  obtain ⟨owner, rfl, belongs⟩ := owned.2.1 session.username rfl
  have record : (config.shared.serve (.issue owner)
      (config.shared.sessions.add session).1).issuedTo[
        config.shared.sessions.created.length]? = some owner := by
    simp [Server.serve, Session.Store.add, ← vouched.recorded]
  unfold SessionBelongs
  rw [show (config.shared.sessions.add session).2.origin =
    config.shared.sessions.created.length from rfl, record]
  exact belongs

theorem Vouched.served (member : .sessionCall purpose inner ∈ config.threads)
    (unused : config.shared.sessions.InsertsUnused inner)
    (stepped : Session.Stepped config.shared.sessions inner sessions afterInner shown) :
    Vouched ⟨config.shared.serve purpose sessions,
      config.threads.set index (.sessionCall purpose afterInner)⟩ := by
  have owned := vouched.threads _ member
  have innerMember : inner ∈ (sessionConfig config).threads := mem_filterMap.mpr ⟨_, member, rfl⟩
  have kept : ∀ value, config.shared.sessions.Known value →
      (config.shared.serve purpose sessions).issuedTo[value.origin]? =
        config.shared.issuedTo[value.origin]? := by
    intro value known
    apply serve_issuedTo
    rw [vouched.recorded]
    exact known.lt
  have carried : ∀ value, config.shared.sessions.Known value → SessionBelongs config.shared value →
      SessionBelongs (config.shared.serve purpose sessions) value := by
    intro value known belongs
    rw [SessionBelongs, kept value known]
    exact belongs
  have respects : ∀ left right, left.SameSession right →
      SessionBelongs (config.shared.serve purpose sessions) right →
      SessionBelongs (config.shared.serve purpose sessions) left := by
    intro left right same belongs
    rw [SessionBelongs, same.origin, same.username]
    exact belongs
  obtain ⟨rows, cache, own⟩ := stepped.preserves respects
    (fun row found => carried row (vouched.registered.rows row found) (vouched.rows row found))
    (fun item found => carried item.object
      (vouched.registered.cache item found) (vouched.cache item found))
    (fun value written => carried value (vouched.known member rfl written) (owned.1 value written))
    (by
      rintro session save rfl rfl
      exact vouched.belongs_add owned)
  refine ⟨?_, stepped.distinct_after vouched.distinctIDs unused,
    vouched.distinctNames, vouched.recorded_after owned stepped, rows, cache, vouched.apiTokens, ?_⟩
  · refine stepped.registered vouched.registered innerMember ?_
    intro other found
    obtain ⟨thread, there, same⟩ := mem_filterMap.mp found
    rcases mem_or_eq_of_mem_set there with old | rfl
    · exact .inl (mem_filterMap.mpr ⟨thread, old, same⟩)
    · exact .inr (Option.some.inj same).symm
  · intro thread found
    rcases mem_or_eq_of_mem_set found with old | rfl
    · exact (vouched.threads thread old).transfer (fun _ _ _ held => held)
        fun other inside value written =>
          kept value (vouched.known old inside written)
    · refine ⟨own, ?_, owned.2.2⟩
      intro username requested
      exact owned.2.1 username (sessionFor_after vouched.registered stepped requested)

theorem Vouched.hides (hides : config.shared.sessions.Hides sessions) :
    Vouched ⟨{ config.shared with sessions := sessions }, config.threads⟩ := by
  refine ⟨hides.registered vouched.registered, ?_, vouched.distinctNames,
    ?_, ?_, ?_, vouched.apiTokens, ?_⟩
  · rw [hides.created]
    exact vouched.distinctIDs
  · rw [hides.created]
    exact vouched.recorded
  · intro row member
    rw [hides.rows] at member
    exact vouched.rows row member
  · intro item member
    exact vouched.cache item (hides.cache item member)
  · intro thread member
    exact (vouched.threads thread member).transfer (fun _ _ _ held => held) fun _ _ _ _ => rfl

end

variable {server : Server}

theorem owned_resume {result : Session.Result}
    (owned : (Thread.sessionCall purpose inner).Owned server) :
    (resume purpose result).Owned server := by
  cases purpose with
  | authenticated username credential =>
    exact owned.2.2 username credential rfl
  | _ => cases result <;> trivial

theorem inner_resume (purpose : Purpose) (result : Session.Result) :
    (resume purpose result).inner = none := by
  cases purpose <;> cases result <;> rfl

variable {shown : List Output}

theorem Stepped.vouched {choice : Choice} (vouched : Vouched config)
    (member : thread ∈ config.threads) (unused : NamesUnused config thread choice)
    (stepped : Stepped config.shared thread server after shown) :
    Vouched ⟨server, config.threads.set index after⟩ := by
  cases stepped with
  | moved idle => exact vouched.idle idle
  | provided provided idle =>
    exact (vouched.provided provided unused).idle idle
  | removed deleted =>
    have removed := vouched.withDirectory
      (vouched.distinctNames.sublist ((delete_sublist deleted).map _))
      fun _ _ _ belongs account member =>
        belongs account ((delete_sublist deleted).subset member)
    exact removed.idle trivial
  | loggedIn named => exact vouched.loggedIn named
  | tokenMade holder name record =>
    refine vouched.move ?_ (by simp [Thread.inner])
    rw [Thread.Owned, name, record]
    exact vouched.distinctNames.belongs holder
  | tokenSaved => exact (vouched.tokenSaved member).idle trivial
  | tokenDeleted =>
    refine (vouched.withTokens ?_).idle trivial
    intro issued kept
    exact vouched.apiTokens issued (mem_of_mem_filter kept)
  | tokenMatched stored =>
    exact vouched.move (vouched.apiTokens _ stored) (by simp [Thread.inner])
  | sessionMatched minted got same =>
    exact vouched.sessionMatched minted got same
  | served inner => exact vouched.served member unused inner
  | resumed =>
    refine vouched.move (owned_resume (vouched.threads _ member)) ?_
    simp [inner_resume]
  | attributed named => exact vouched.idle trivial

theorem Stepped.attributed_eq (vouched : Vouched config) (member : thread ∈ config.threads)
    (stepped : Stepped config.shared thread server after shown)
    {issuedTo : Option Nat} {account : Nat} (attributed : .attributed issuedTo account ∈ shown) :
    issuedTo = some account := by
  cases stepped with
  | attributed named =>
    simp only [mem_singleton, Output.attributed.injEq] at attributed
    obtain ⟨rfl, rfl⟩ := attributed
    have belongs := vouched.threads _ member
    exact Belongs.getByUsername belongs named
  | _ => simp at attributed

end Sections

structure Attributed (history : List Output)
    (config : Config Server Thread) : Prop where
  vouched : Vouched config
  attributed : ∀ issuedTo account, .attributed issuedTo account ∈ history → issuedTo = some account

variable {settings : Settings}

theorem step_attributed {next : Config Server Thread}
    {move : Move Call Choice Session.Event} {history shown : List Output}
    (held : Attributed history config) (admitted : OnAdvance NamesUnused config move)
    (stepped : (program settings).system.step config move = some (next, shown)) :
    Attributed (history ++ shown) next := by
  obtain ⟨vouched, attributed⟩ := held
  cases Program.step_cases stepped with
  | spawn call =>
    rw [append_nil]
    exact ⟨vouched.spawned (Thread.idle_enter call), attributed⟩
  | @advance _ _ thread server after shown found ran =>
    have member := List.mem_of_getElem? found
    have effect : Stepped config.shared thread server after shown := atomic_stepped ran
    refine ⟨effect.vouched vouched member (admitted.condition found), ?_⟩
    intro issuedTo account shownNow
    rcases mem_append.mp shownNow with before | now
    · exact attributed issuedTo account before
    · exact effect.attributed_eq vouched member now
  | environment ran =>
    simp only [program, environment] at ran
    split at ran
    · simp at ran
    · rename_i sessions shownThere environment
      cases ran
      rw [append_nil]
      exact ⟨vouched.hides (Session.environment_hides environment).2, attributed⟩

theorem run_attributed {clock : Time} {history : List Output}
    (run : Run (program settings).system (OnAdvance NamesUnused) (initial clock) history config) :
    Attributed history config :=
  run.invariant Attributed ⟨initial_vouched clock, by simp⟩ step_attributed

/-- In a run in which names are given to accounts only when they are out of
use, and session ids are given out once, every request that is let through on
a session or an API token is attributed to the account the session or the
token was issued to. -/
theorem request_attributed_to_owner {settings : Settings} {clock : Time}
    {history : List Output} {config : Config Server Thread}
    (run : Run (program settings).system (OnAdvance NamesUnused) (initial clock) history config)
    {issuedTo : Option Nat} {account : Nat} (attributed : .attributed issuedTo account ∈ history) :
    issuedTo = some account :=
  (run_attributed run).attributed issuedTo account attributed

def plainSettings : Settings :=
  { service := .plain
    secondFactor := false }

def newUser (username : String) : User :=
  { username := username
    password := "correct horse"
    passwordExpired := none
    groups := none
    twoFASendTo := ""
    totP := "" }

def creates (index : Nat) (username : String) : List (Move Call Choice Session.Event) :=
  [.spawn (.handleChangeUser (newUser username) ""),
    .advance index .proceed, .advance index .proceed]

def deletes (index : Nat) (username : String) : List (Move Call Choice Session.Event) :=
  [.spawn (.handleDeleteUser username), .advance index .proceed, .advance index .proceed]

def logsIn (index : Nat) (username : String) : List (Move Call Choice Session.Event) :=
  [.spawn (.handleLogin "correct horse" ⟨600 * second, username, [], "curl", "::1"⟩),
    .advance index .proceed, .advance index (.session .proceed),
    .advance index (.session (.sql (.ok ()))), .advance index (.session .proceed),
    .advance index (.session (.sign (.ok ()))), .advance index .proceed]

def authenticates (index token : Nat) : List (Move Call Choice Session.Event) :=
  [.spawn (.bearerAuth token "/api/v1/me" "GET"), .advance index .proceed,
    .advance index (.session (.sql (.ok ()))),
    .advance index (.session .proceed), .advance index .proceed, .advance index .proceed]

theorem request_attributed_to_owner_logout :
    ∃ config history,
      Run (program plainSettings).system (OnAdvance NamesUnused) (initial 0) history config ∧
      history = [.attributed (some 0) 0, .attributed (some 2) 2] ∧
      ∀ issuedTo account, .attributed issuedTo account ∈ history → issuedTo = some account :=
  Run.exists_reaching_follows (List.flatten [creates 0 "ada", creates 1 "bob", logsIn 2 "ada",
      logsIn 3 "bob", authenticates 4 0,
      [.spawn (.session (.delete 1)), .advance 5 (.session (.sql (.ok ()))),
        .advance 5 (.session .proceed)],
      deletes 6 "ada", creates 7 "ada", logsIn 8 "ada", authenticates 9 2])
    (by decide +kernel) (by decide +kernel)
    fun run _ _ _ => request_attributed_to_owner run

/-- The account is deleted, another user gets its name, and the session of
the deleted account authenticates a request as the new account. -/
theorem request_attributed_to_successor :
    ∃ config history,
      Run (program plainSettings).system Unrestricted (initial 0) history config ∧
      history = [.attributed (some 0) 1] :=
  Run.exists_reaching_unrestricted (List.flatten [creates 0 "ada", logsIn 1 "ada", deletes 2 "ada",
      creates 3 "ada", authenticates 4 0])
    (by decide +kernel)

end ProxiPort.Accounts
