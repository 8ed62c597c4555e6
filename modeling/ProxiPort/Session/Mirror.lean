import ProxiPort.Session.Requests

/-!
# The cache and the table of sessions

The calls of `server/api/session/cache.go`, each run to its end before the next
one starts.  `Save`, `Delete` and the deletions for a user change the table by
an SQL statement and the cache by its keys.  The two selections differ: the
cache ignores the user of a deletion by id, takes the id -1 for all sessions of
the user, and keeps what a statement on no row or a failed statement leaves out;
`DeleteExpired` compares whole seconds.
-/

namespace ProxiPort.Session

open Concurrency List Keyed

inductive Operation where
  | save (value : Tracked)
  | delete (sessionID : Int)
  | deleteByID (username : String) (sessionID : Int)
  | deleteAllByUser (username : String)
  | deleteExpired
  deriving DecidableEq, Repr

namespace Store

def userKeys (store : Store) (username : String) : List Int := (store.items.filter fun item =>
    item.object.session.username = username).map Item.key

def uncacheAll (store : Store) (keys : List Int) : Store := keys.foldl uncache store

def deleteUserSessionsFromCache (store : Store) (username : String) (sessionID : Int) : Store :=
  if sessionID ≠ -1 then store.uncache sessionID
  else store.uncacheAll (store.userKeys username)

/-- `SqliteProvider.DeleteByID` and `SqliteProvider.DeleteAllByUser`. -/
def unstore (store : Store) (username : String) (target : Target) : Store :=
  store.deleteRows fun row => decide (row.session.username = username) &&
    target.covers row.session.sessionID

def save (store : Store) (value : Tracked) : Store :=
  if value.session.sessionID = 0 then
    (store.add value.session).1.cacheSet (store.add value.session).2
  else (store.update value).cacheSet value

end Store

/-- `Cache.Save` when the statement fails. -/
def saveFailure (value : Tracked) (err : String) : String :=
  if value.session.sessionID = 0 then "unable to create api session: " ++ err
  else "unable to update api session: " ++ err

def deleteFromStorage (store : Store) (username : String) (target : Target) :
    Except String Unit → Store × Result
  | .error err => (store, .failed (target.failure err))
  | .ok () => (store.unstore username target, .succeeded)

/-- A call from its beginning to its end, with the outcome of its statement. -/
def perform (store : Store) : Operation → Except String Unit → Store × Result
  | .save value, .error err =>
    (store, .failed (saveFailure value err))
  | .save value, .ok () => (store.save value, .succeeded)
  | .delete _, .error err =>
    (store, .failed ("unable to delete api session by token: " ++ err))
  | .delete sessionID, .ok () =>
    ((store.deleteRows fun row =>
      decide (row.session.sessionID = sessionID)).uncache sessionID,
      .succeeded)
  | .deleteByID username sessionID, sql =>
    deleteFromStorage (store.deleteUserSessionsFromCache username sessionID)
      username (.byID sessionID) sql
  | .deleteAllByUser username, sql =>
    deleteFromStorage (store.deleteUserSessionsFromCache username (-1)) username .all sql
  | .deleteExpired, .error err =>
    (store, .failed ("unable to delete expired api sessions: " ++ err))
  | .deleteExpired, .ok () =>
    (store.deleteRows fun row =>
      decide (Time.unix row.session.expiresAt ≤ Time.unix store.clock),
      .succeeded)

def Operation.thread : Operation → Thread
  | .save value => .save value .done
  | .delete sessionID => .enter (.delete sessionID)
  | .deleteByID username sessionID => .enter (.deleteByID username sessionID)
  | .deleteAllByUser username => .enter (.deleteAllByUser username)
  | .deleteExpired => .enter .deleteExpired

def runAlone (store : Store) (thread : Thread) (choices : List Choice) :
    Option (Config Store Thread × List Output) :=
  program.system.execute ⟨store, [thread]⟩ (choices.map (.advance 0))

theorem runAlone_cons {store next : Store} {thread after : Thread}
    {choice : Choice} {choices : List Choice} {shown later : List Output}
    {final : Config Store Thread} (ran : atomic store thread choice = some (next, after, shown))
    (rest : runAlone next after choices = some (final, later)) :
    runAlone store thread (choice :: choices) = some (final, shown ++ later) := by
  have stepped : program.system.step ⟨store, [thread]⟩ (.advance 0 choice) =
      some (⟨next, [after]⟩, shown) := by
    simp [Program.system, Program.step, program, ran]
  simp only [runAlone, map_cons, System.execute, stepped] at rest ⊢
  simp [rest]

def ended (outcome : Store × Result) : Config Store Thread := ⟨outcome.1, [.returned outcome.2]⟩

theorem runAlone_unstore (store : Store) (username : String)
    (removed : List Nat) (target : Target) (sql : Except String Unit) :
    ∃ choices shown, runAlone store (.unstore username removed target)
      choices = some (ended (deleteFromStorage store username target sql), shown) := by
  cases sql with
  | error err => exact ⟨[.sql (.error err)], _, rfl⟩
  | ok done => exact ⟨[.sql (.ok done)], _, rfl⟩

theorem runAlone_uncacheNext (store : Store) (username : String)
    (keys : List Int) (removed : List Nat) (target : Target) (sql : Except String Unit) :
    ∃ choices shown, runAlone store (.uncacheNext username keys removed target) choices =
        some (ended (deleteFromStorage (store.uncacheAll keys) username target sql), shown) := by
  induction keys generalizing store removed with
  | nil => exact runAlone_unstore store username removed target sql
  | cons key keys induction =>
    obtain ⟨choices, shown, rest⟩ := induction (store.uncache key) (removed ++ store.orphans key)
    refine ⟨.pick 0 :: choices, [] ++ shown, ?_⟩
    exact runAlone_cons (by rfl) rest

theorem runAlone_listItems (store : Store) (username : String)
    (target : Target) (sql : Except String Unit) :
    ∃ choices shown, runAlone store (.listItems username target) choices =
      some (ended (deleteFromStorage
        (store.deleteUserSessionsFromCache username (-1)) username target
        sql), shown) := by
  obtain ⟨choices, shown, ran⟩ := runAlone_uncacheNext store username
    (store.userKeys username) [] target sql
  exact ⟨.proceed :: choices, [] ++ shown, runAlone_cons (by rfl) ran⟩

/-- A call with the outcome of its statement, or what happens in between. -/
inductive Input where
  | perform (operation : Operation) (sql : Except String Unit)
  | environment (event : Event)

def sequential : System Store Input Empty where
  step store input :=
    match input with
    | .perform operation sql => some ((perform store operation sql).1, [])
    | .environment event =>
      (environment store event).map fun (next, _) => (next, [])

def Store.opened (clock : Time) (rows : List Tracked) : Store :=
  { Store.new clock with
    rows := rows
    created := rows.map Tracked.session }

/-- `SqliteProvider.GetAll`. -/
def validSessions (clock : Time) (rows : List Tracked) : List Tracked := rows.filter fun row =>
    Time.unix clock ≤ Time.unix row.session.expiresAt

def newCache (clock : Time) (rows : List Tracked) : Store :=
  (validSessions clock rows).foldl Store.cacheSet (.opened clock rows)

def Mirroring (store : Store) : Input → Prop
  | .perform (.save value) (.ok _) =>
    -- the row is new, or there is one to update; what has expired is not
    -- looked for
    value.session.sessionID = 0 ∨ (store.storageGet value.session.sessionID).isSome ∨
      value.session.expiresAt ≤ store.clock
  | .perform (.deleteByID username sessionID) sql =>
    if sessionID ≠ -1 then
      ∀ cached ∈ store.get sessionID, sql.isOk ∧ cached.session.username = username
    else ∀ key ∈ store.userKeys username, sql.isOk ∧ key = -1
  | .perform (.deleteAllByUser username) (.error _) =>
    store.userKeys username = []
  | .perform .deleteExpired (.ok _) =>
    ∀ row ∈ store.rows, store.clock < row.session.expiresAt →
      Time.unix store.clock < Time.unix row.session.expiresAt
  | _ => True

instance (store : Store) : ∀ input, Decidable (Mirroring store input)
  | .perform (.save value) (.ok _) =>
    inferInstanceAs (Decidable (value.session.sessionID = 0 ∨
      (store.storageGet value.session.sessionID).isSome ∨
      value.session.expiresAt ≤ store.clock))
  | .perform (.deleteByID username sessionID) sql =>
    inferInstanceAs (Decidable (if sessionID ≠ -1 then
      ∀ cached ∈ store.get sessionID, sql.isOk ∧ cached.session.username = username
      else ∀ key ∈ store.userKeys username, sql.isOk ∧ key = -1))
  | .perform (.deleteAllByUser username) (.error _) =>
    inferInstanceAs (Decidable (store.userKeys username = []))
  | .perform .deleteExpired (.ok _) =>
    inferInstanceAs (Decidable (∀ row ∈ store.rows, store.clock < row.session.expiresAt →
        Time.unix store.clock < Time.unix row.session.expiresAt))
  | .perform (.save _) (.error _) | .perform (.delete _) _
  | .perform (.deleteAllByUser _) (.ok _) | .perform .deleteExpired (.error _)
  | .environment _ => .isTrue trivial

/-- An unexpired session is found in the cache exactly when it is in the
table. -/
def Store.Agrees (store : Store) : Prop :=
  ∀ session, store.clock < session.expiresAt →
    ((store.get session.sessionID).map Tracked.session = some session ↔
      (store.storageGet session.sessionID).map Tracked.session = some session)

def keeps (username : String) (sessionID : Int) (value : Tracked) : Bool :=
  !(value.session.username = username && value.session.sessionID = sessionID)

def Store.Caches (store : Store) (session : APISession) : Prop :=
  ∃ item ∈ store.cache, item.object.session = session

def Store.Stores (store : Store) (session : APISession) : Prop :=
  ∃ row ∈ store.rows, row.session = session

structure Mirrors (store : Store) : Prop where
  rowKeys : (store.rows.map fun row => row.session.sessionID).Nodup
  cacheKeys : (store.cache.map Item.key).Nodup
  /-- An item is dropped when its session expires, or that is over. -/
  timed : ∀ item ∈ store.cache, item.expiration = some item.object.session.expiresAt ∨
      item.object.session.expiresAt ≤ store.clock
  same : ∀ session, store.clock < session.expiresAt → (store.Caches session ↔ store.Stores session)

variable {store next : Store} {session : APISession} {value : Tracked}
  {username : String} {item : Item}

section

variable (mirrors : Mirrors store)
include mirrors

theorem Mirrors.live (member : item ∈ store.cache)
    (unexpired : store.clock < item.object.session.expiresAt) : item.live store.clock = true := by
  rcases mirrors.timed item member with known | expired
  · simp [Item.live, known, Int.le_of_lt unexpired]
  · exact absurd unexpired (Int.not_lt.mpr expired)

variable {sessionID : Int}

theorem get_eq_some_iff :
    store.get sessionID = some value ↔
      ∃ item ∈ store.cache, item.object = value ∧ item.key = sessionID ∧
        item.live store.clock = true := by
  simp only [Store.get, Option.map_eq_some_iff, Option.filter_eq_some_iff,
    lookup_eq_some_iff mirrors.cacheKeys]
  constructor
  · rintro ⟨item, ⟨⟨member, key⟩, live⟩, object⟩
    exact ⟨item, member, object, key, live⟩
  · rintro ⟨item, member, object, key, live⟩
    exact ⟨item, ⟨⟨member, key⟩, live⟩, object⟩

theorem storageGet_eq_some_iff :
    store.storageGet sessionID = some value ↔
      value ∈ store.rows ∧ value.session.sessionID = sessionID :=
  lookup_eq_some_iff mirrors.rowKeys

theorem Mirrors.agrees : store.Agrees := by
  intro session unexpired
  have cached : (store.get session.sessionID).map Tracked.session =
      some session ↔ store.Caches session := by
    simp only [Option.map_eq_some_iff, get_eq_some_iff mirrors]
    constructor
    · rintro ⟨value, ⟨item, member, rfl, -, -⟩, same⟩
      exact ⟨item, member, same⟩
    · rintro ⟨item, member, rfl⟩
      exact ⟨item.object, ⟨item, member, rfl, rfl, mirrors.live member unexpired⟩, rfl⟩
  have stored : (store.storageGet session.sessionID).map Tracked.session =
      some session ↔ store.Stores session := by
    simp only [Option.map_eq_some_iff, storageGet_eq_some_iff mirrors]
    constructor
    · rintro ⟨value, ⟨member, -⟩, same⟩
      exact ⟨value, member, same⟩
    · rintro ⟨row, member, rfl⟩
      exact ⟨row, ⟨member, rfl⟩, rfl⟩
  rw [cached, stored]
  exact mirrors.same session unexpired

end

theorem caches_cacheSet :
    (store.cacheSet value).Caches session ↔ value.session = session ∨
        store.Caches session ∧ session.sessionID ≠ value.session.sessionID := by
  simp only [Store.Caches, Store.cacheSet, mem_put, Item.key]
  constructor
  · rintro ⟨item, rfl | ⟨member, different⟩, rfl⟩
    · exact .inl rfl
    · exact .inr ⟨⟨item, member, rfl⟩, different⟩
  · rintro (same | ⟨⟨item, member, rfl⟩, different⟩)
    · exact ⟨_, .inl rfl, same⟩
    · exact ⟨item, .inr ⟨member, different⟩, rfl⟩

theorem expiration_cases (expiresAt clock : Int) :
    (if expiresAt - clock = 0 then some (clock + defaultTokenLifetime)
      else if 0 < expiresAt - clock then some (clock + (expiresAt - clock))
      else none) = some expiresAt ∨ expiresAt ≤ clock := by
  by_cases later : 0 < expiresAt - clock
  · have apart : expiresAt - clock ≠ 0 := by omega
    have total : clock + (expiresAt - clock) = expiresAt := by omega
    rw [if_neg apart, if_pos later, total]
    exact .inl rfl
  · exact .inr (by omega)

theorem timed_cacheSet (timed : ∀ item ∈ store.cache,
      item.expiration = some item.object.session.expiresAt ∨
        item.object.session.expiresAt ≤ store.clock) :
    ∀ item ∈ (store.cacheSet value).cache, item.expiration = some item.object.session.expiresAt ∨
        item.object.session.expiresAt ≤ store.clock := by
  intro item member
  simp only [Store.cacheSet, mem_put] at member
  rcases member with rfl | ⟨old, -⟩
  · exact expiration_cases value.session.expiresAt store.clock
  · exact timed item old

theorem Mirrors.cacheSet (mirrors : Mirrors store)
    (clock : next.clock = store.clock) (cache : next.cache = store.cache)
    (rowKeys : (next.rows.map fun row => row.session.sessionID).Nodup)
    (stores : ∀ session, next.clock < session.expiresAt →
      (next.Stores session ↔ value.session = session ∨ store.Stores session ∧
          session.sessionID ≠ value.session.sessionID)) :
    Mirrors (next.cacheSet value) where
  rowKeys := rowKeys
  cacheKeys := by
    have distinct : (next.cache.map Item.key).Nodup := by
      rw [cache]
      exact mirrors.cacheKeys
    exact (Table.put ⟨next.cache, distinct⟩ _).distinct
  timed := by
    apply timed_cacheSet
    rw [cache, clock]
    exact mirrors.timed
  same := by
    intro session unexpired
    have before : store.clock < session.expiresAt := clock ▸ unexpired
    have cached : next.Caches session ↔ store.Caches session := by
      rw [Store.Caches, cache]
      rfl
    rw [caches_cacheSet, cached, mirrors.same session before]
    exact (stores session unexpired).symm

variable {rows : List Tracked}

theorem lt_nextID {row : Tracked} (member : row ∈ rows) : row.session.sessionID < Store.nextID rows := by
  induction rows with
  | nil => cases member
  | cons first rest induction =>
    simp only [Store.nextID, foldr_cons] at induction ⊢
    rcases mem_cons.mp member with rfl | later
    · omega
    · have bound := induction later
      omega

theorem Mirrors.add (mirrors : Mirrors store) (session : APISession) :
    Mirrors ((store.add session).1.cacheSet (store.add session).2) := by
  have fresh : ∀ row ∈ store.rows, row.session.sessionID ≠ Store.nextID store.rows :=
    fun row member => Int.ne_of_lt (lt_nextID member)
  refine mirrors.cacheSet rfl rfl ?_ ?_
  · simp only [Store.add, map_append, map_cons, map_nil]
    refine List.Nodup.append mirrors.rowKeys (nodup_singleton _) ?_
    rw [disjoint_singleton]
    intro known
    obtain ⟨row, member, same⟩ := mem_map.mp known
    exact fresh row member same
  · intro other _
    simp only [Store.Stores, Store.add, mem_append, mem_singleton]
    constructor
    · rintro ⟨row, old | rfl, rfl⟩
      · exact .inr ⟨⟨row, old, rfl⟩, fresh row old⟩
      · exact .inl rfl
    · rintro (same | ⟨⟨row, old, rfl⟩, -⟩)
      · exact ⟨_, .inr rfl, same⟩
      · exact ⟨row, .inl old, rfl⟩

theorem Mirrors.update (mirrors : Mirrors store)
    (present : (store.storageGet value.session.sessionID).isSome ∨
      value.session.expiresAt ≤ store.clock) :
    Mirrors ((store.update value).cacheSet value) := by
  refine mirrors.cacheSet rfl rfl ?_ ?_
  · have same : (store.update value).rows.map (fun row => row.session.sessionID) =
        store.rows.map fun row => row.session.sessionID := by
      simp only [Store.update, map_map]
      apply map_congr_left
      intro row _
      simp only [Function.comp_apply]
      split
      · rename_i found
        exact found.symm
      · rfl
    rw [same]
    exact mirrors.rowKeys
  · intro session unexpired
    simp only [Store.Stores, Store.update, mem_map]
    constructor
    · rintro ⟨_, ⟨row, member, rfl⟩, rfl⟩
      split
      · exact .inl rfl
      · rename_i different
        exact .inr ⟨⟨row, member, rfl⟩, different⟩
    · rintro (same | ⟨⟨row, member, rfl⟩, different⟩)
      · rcases present with found | expired
        · obtain ⟨row, known⟩ := Option.isSome_iff_exists.mp found
          obtain ⟨member, keyed⟩ := (storageGet_eq_some_iff mirrors).mp known
          exact ⟨value, ⟨row, member, if_pos keyed⟩, same⟩
        · rw [← same] at unexpired
          exact absurd unexpired (Int.not_lt.mpr expired)
      · exact ⟨row, ⟨row, member, if_neg different⟩, rfl⟩

/-- Take some keys out of the cache and some sessions out of the table. -/
def Store.thin (store : Store) (keys : List Int) (test : APISession → Bool) :
    Store :=
  { store with
    cache := store.cache.filter fun item => item.key ∉ keys
    rows := store.rows.filter fun row => !test row.session }

def Store.dropped (store : Store) (username : String) (sessionID : Int) : List Int :=
  if sessionID ≠ -1 then [sessionID] else store.userKeys username

theorem uncacheAll_eq (store : Store) (keys : List Int) :
    store.uncacheAll keys =
      { store with
        cache := store.cache.filter fun item => item.key ∉ keys } := by
  induction keys generalizing store with
  | nil => simp [Store.uncacheAll]
  | cons key keys induction =>
    rw [Store.uncacheAll, foldl_cons]
    refine (induction _).trans ?_
    simp only [Store.uncache, remove, filter_filter, mem_cons, not_or]
    congr 2
    funext item
    simp [Bool.and_comm]

theorem deleteUserSessionsFromCache_eq (store : Store) (username : String) (sessionID : Int) :
    store.deleteUserSessionsFromCache username sessionID =
      store.uncacheAll (store.dropped username sessionID) := by
  unfold Store.deleteUserSessionsFromCache Store.dropped
  split
  · rfl
  · rfl

theorem unstore_eq (store : Store) (keys : List Int) (username : String) (target : Target) :
    (store.uncacheAll keys).unstore username target = store.thin keys fun session =>
        decide (session.username = username) && target.covers session.sessionID := by
  rw [uncacheAll_eq]
  rfl

theorem uncacheAll_eq_thin (store : Store) (keys : List Int) :
    store.uncacheAll keys = store.thin keys fun _ => false := by
  rw [uncacheAll_eq, Store.thin]
  simp

section

variable (mirrors : Mirrors store)
include mirrors

theorem Mirrors.thin {keys : List Int} {test : APISession → Bool}
    (agree : ∀ item ∈ store.cache, store.clock < item.object.session.expiresAt →
        (item.key ∈ keys ↔ test item.object.session = true)) :
    Mirrors (store.thin keys test) where
  rowKeys := mirrors.rowKeys.sublist (filter_sublist.map _)
  cacheKeys := mirrors.cacheKeys.sublist (filter_sublist.map _)
  timed := fun item member =>
    mirrors.timed item (mem_of_mem_filter member)
  same := by
    intro session unexpired
    constructor
    · rintro ⟨item, kept, rfl⟩
      obtain ⟨member, outside⟩ := mem_filter.mp kept
      obtain ⟨row, stored, same⟩ := (mirrors.same _ unexpired).mp ⟨item, member, rfl⟩
      have passes : test item.object.session = false := by
        apply eq_false_of_ne_true
        intro selected
        exact of_decide_eq_true outside ((agree item member unexpired).mpr selected)
      exact ⟨row, mem_filter.mpr ⟨stored, by simp [same, passes]⟩, same⟩
    · rintro ⟨row, kept, rfl⟩
      obtain ⟨stored, passes⟩ := mem_filter.mp kept
      obtain ⟨item, member, same⟩ := (mirrors.same _ unexpired).mpr ⟨row, stored, rfl⟩
      rw [← same] at unexpired passes
      refine ⟨item, mem_filter.mpr ⟨member, ?_⟩, same⟩
      apply decide_eq_true
      intro selected
      rw [(agree item member unexpired).mp selected] at passes
      cases passes

theorem mem_userKeys (member : item ∈ store.cache) (live : item.live store.clock = true) :
    item.key ∈ store.userKeys username ↔ item.object.session.username = username := by
  simp only [Store.userKeys, Store.items, mem_map, mem_filter, decide_eq_true_eq]
  constructor
  · rintro ⟨other, ⟨⟨otherMember, -⟩, owned⟩, same⟩
    rwa [← inj_on_of_nodup_map mirrors.cacheKeys otherMember member same]
  · intro owned
    exact ⟨item, ⟨⟨member, live⟩, owned⟩, rfl⟩

variable {sql : Except String Unit}

theorem mem_dropped (mirroring : Mirroring store (.perform (.deleteByID username sessionID) sql))
    (member : item ∈ store.cache) (live : item.live store.clock = true) :
    item.key ∈ store.dropped username sessionID ↔
      sql.isOk = true ∧ item.object.session.username = username ∧ item.key = sessionID := by
  simp only [Mirroring] at mirroring
  unfold Store.dropped
  split at mirroring
  · rename_i single
    rw [if_pos single, mem_singleton]
    constructor
    · intro same
      obtain ⟨succeeded, owned⟩ := mirroring item.object
        ((get_eq_some_iff mirrors).mpr ⟨item, member, rfl, same, live⟩)
      exact ⟨succeeded, owned, same⟩
    · exact fun selected => selected.2.2
  · rename_i all
    rw [if_neg all]
    constructor
    · intro selected
      obtain ⟨succeeded, same⟩ := mirroring item.key selected
      exact ⟨succeeded, (mem_userKeys mirrors member live).mp selected,
        same.trans (not_not.mp all).symm⟩
    · exact fun selected =>
        (mem_userKeys mirrors member live).mpr selected.2.1

theorem Mirrors.perform {operation : Operation}
    (mirroring : Mirroring store (.perform operation sql)) :
    Mirrors (Session.perform store operation sql).1 := by
  cases operation with
  | save value =>
    cases sql with
    | error err => exact mirrors
    | ok done =>
      simp only [Session.perform, Store.save]
      split
      · exact mirrors.add value.session
      · rename_i old
        exact mirrors.update (mirroring.resolve_left old)
  | delete sessionID =>
    cases sql with
    | error err => exact mirrors
    | ok done =>
      have thinned : (Session.perform store (.delete sessionID)
          (.ok done)).1 = store.thin [sessionID] fun session =>
            decide (session.sessionID = sessionID) := by
        simp only [Session.perform, Store.thin, mem_singleton]
        rfl
      rw [thinned]
      apply mirrors.thin
      intro item _ _
      rw [mem_singleton, decide_eq_true_eq]
      rfl
  | deleteByID username sessionID =>
    have selected : ∀ item ∈ store.cache, store.clock < item.object.session.expiresAt →
          (item.key ∈ store.dropped username sessionID ↔
            sql.isOk = true ∧ item.object.session.username = username ∧ item.key = sessionID) :=
      fun item member unexpired => mem_dropped mirrors mirroring member
        (mirrors.live member unexpired)
    simp only [Session.perform, deleteUserSessionsFromCache_eq]
    cases sql with
    | error err =>
      rw [deleteFromStorage, uncacheAll_eq_thin]
      dsimp only
      apply mirrors.thin
      intro item member unexpired
      rw [selected item member unexpired]
      simp [Except.isOk, Except.toBool]
    | ok done =>
      rw [deleteFromStorage, unstore_eq]
      dsimp only
      apply mirrors.thin
      intro item member unexpired
      rw [selected item member unexpired]
      simp only [Except.isOk, Except.toBool, true_and, Bool.and_eq_true,
        decide_eq_true_eq, Target.covers]
      exact and_congr_right fun _ => eq_comm
  | deleteAllByUser username =>
    simp only [Session.perform, deleteUserSessionsFromCache_eq]
    have keys : store.dropped username (-1) = store.userKeys username := if_neg (not_not.mpr rfl)
    rw [keys]
    cases sql with
    | error err =>
      rw [deleteFromStorage, uncacheAll_eq_thin]
      dsimp only
      apply mirrors.thin
      intro item _ _
      have nothing : store.userKeys username = [] := mirroring
      simp [nothing]
    | ok done =>
      rw [deleteFromStorage, unstore_eq]
      dsimp only
      apply mirrors.thin
      intro item member unexpired
      rw [mem_userKeys mirrors member (mirrors.live member unexpired)]
      simp [Target.covers]
  | deleteExpired =>
    cases sql with
    | error err => exact mirrors
    | ok done =>
      have thinned : (Session.perform store .deleteExpired
          (.ok done)).1 = store.thin [] fun session =>
            decide (Time.unix session.expiresAt ≤ Time.unix store.clock) := by
        simp [Session.perform, Store.thin, Store.deleteRows]
      rw [thinned]
      apply mirrors.thin
      intro item member unexpired
      obtain ⟨row, stored, same⟩ := (mirrors.same _ unexpired).mp ⟨item, member, rfl⟩
      rw [← same] at unexpired ⊢
      have later := mirroring row stored unexpired
      simp [later]

theorem Mirrors.environment {event : Event} {shown : List Output}
    (happened : Session.environment store event = some (next, shown)) : Mirrors next := by
  cases event with
  | tick now =>
    simp only [Session.environment] at happened
    split at happened
    · rename_i forward
      cases happened
      refine ⟨mirrors.rowKeys, mirrors.cacheKeys, fun item member => ?_,
        fun session unexpired => ?_⟩
      · rcases mirrors.timed item member with known | expired
        · exact .inl known
        · exact .inr (Int.le_trans expired forward)
      · exact mirrors.same session (Int.lt_of_le_of_lt forward unexpired)
    · cases happened
  | janitor =>
    cases happened
    refine ⟨mirrors.rowKeys, mirrors.cacheKeys.sublist (filter_sublist.map _),
      fun item member => mirrors.timed item (mem_of_mem_filter member), fun session unexpired => ?_⟩
    refine Iff.trans ?_ (mirrors.same session unexpired)
    constructor
    · rintro ⟨item, kept, same⟩
      exact ⟨item, mem_of_mem_filter kept, same⟩
    · rintro ⟨item, member, rfl⟩
      exact ⟨item, mem_filter.mpr ⟨member, mirrors.live member unexpired⟩, rfl⟩

end

theorem foldl_cacheSet_rows (values : List Tracked) (store : Store) :
    (values.foldl Store.cacheSet store).rows = store.rows ∧
      (values.foldl Store.cacheSet store).clock = store.clock := by
  induction values generalizing store with
  | nil => exact ⟨rfl, rfl⟩
  | cons value values induction => exact induction (store.cacheSet value)

theorem caches_foldl {values : List Tracked} {store : Store}
    (distinct : (values.map fun row => row.session.sessionID).Nodup) :
    (values.foldl Store.cacheSet store).Caches session ↔ (∃ row ∈ values, row.session = session) ∨
        store.Caches session ∧ ∀ row ∈ values, row.session.sessionID ≠ session.sessionID := by
  induction values generalizing store with
  | nil => simp
  | cons value values induction =>
    obtain ⟨fresh, others⟩ := nodup_cons.mp distinct
    rw [foldl_cons, induction others, caches_cacheSet]
    have apart : ∀ row ∈ values, row.session.sessionID ≠ value.session.sessionID := by
      intro row member same
      exact fresh (mem_map.mpr ⟨row, member, same⟩)
    constructor
    · rintro (⟨row, member, same⟩ | ⟨same | ⟨cached, different⟩, absent⟩)
      · exact .inl ⟨row, mem_cons_of_mem _ member, same⟩
      · exact .inl ⟨value, mem_cons_self, same⟩
      · refine .inr ⟨cached, fun row member => ?_⟩
        rcases mem_cons.mp member with rfl | later
        · exact Ne.symm different
        · exact absent row later
    · rintro (⟨row, member, rfl⟩ | ⟨cached, absent⟩)
      · rcases mem_cons.mp member with rfl | later
        · exact .inr ⟨.inl rfl, apart⟩
        · exact .inl ⟨row, later, rfl⟩
      · exact .inr ⟨.inr ⟨cached, Ne.symm (absent value mem_cons_self)⟩,
          fun row later => absent row (mem_cons_of_mem _ later)⟩

theorem timed_foldl (values : List Tracked) (store : Store)
    (cacheKeys : (store.cache.map Item.key).Nodup) (timed : ∀ item ∈ store.cache,
      item.expiration = some item.object.session.expiresAt ∨
        item.object.session.expiresAt ≤ store.clock) :
    ((values.foldl Store.cacheSet store).cache.map Item.key).Nodup ∧
      ∀ item ∈ (values.foldl Store.cacheSet store).cache,
        item.expiration = some item.object.session.expiresAt ∨
          item.object.session.expiresAt ≤ store.clock := by
  induction values generalizing store with
  | nil => exact ⟨cacheKeys, timed⟩
  | cons value values induction =>
    exact induction (store.cacheSet value) (Table.put ⟨store.cache, cacheKeys⟩ _).distinct
      (timed_cacheSet timed)

theorem unix_le_unix {earlier later : Int} (order : earlier ≤ later) :
    Time.unix earlier ≤ Time.unix later := by
  have positive : 0 ≤ second := by decide
  rw [Time.unix, Time.unix, Int.fdiv_eq_ediv_of_nonneg _ positive,
    Int.fdiv_eq_ediv_of_nonneg _ positive]
  exact Int.ediv_le_ediv (by decide) order

theorem mirrors_newCache (clock : Time)
    (distinct : (rows.map fun row => row.session.sessionID).Nodup) :
    Mirrors (newCache clock rows) := by
  obtain ⟨sameRows, sameClock⟩ :=
    foldl_cacheSet_rows (validSessions clock rows) (.opened clock rows)
  obtain ⟨cacheKeys, timed⟩ := timed_foldl (validSessions clock rows) (.opened clock rows)
      nodup_nil (forall_mem_nil _)
  refine ⟨?_, cacheKeys, ?_, ?_⟩
  · rw [newCache, sameRows]
    exact distinct
  · rw [newCache, sameClock]
    exact timed
  · intro session unexpired
    rw [newCache, sameClock] at unexpired
    have kept : (validSessions clock rows).map (fun row => row.session.sessionID) |>.Nodup :=
      distinct.sublist (filter_sublist.map _)
    rw [newCache, caches_foldl kept, Store.Stores, sameRows]
    constructor
    · rintro (⟨row, member, same⟩ | ⟨⟨item, member, -⟩, -⟩)
      · exact ⟨row, mem_of_mem_filter member, same⟩
      · cases member
    · rintro ⟨row, member, rfl⟩
      refine .inl ⟨row, mem_filter.mpr ⟨member, ?_⟩, rfl⟩
      exact decide_eq_true (unix_le_unix (Int.le_of_lt unexpired))

theorem get_thin (mirrors : Mirrors store) (keys : List Int)
    (test : APISession → Bool) (sessionID : Int) :
    (store.thin keys test).get sessionID = (store.get sessionID).filter
        fun value => value.session.sessionID ∉ keys := by
  simp only [Store.get, Store.thin, lookup_filter mirrors.cacheKeys]
  cases lookup Item.key sessionID store.cache with
  | none => rfl
  | some item =>
    have key : item.object.session.sessionID = item.key := rfl
    by_cases live : item.live store.clock = true
    · by_cases dropped : item.key ∈ keys
      all_goals simp [Option.filter_some, live, dropped, key]
    · by_cases dropped : item.key ∈ keys
      all_goals simp [Option.filter_some, live, dropped]

theorem filter_congr_of_mem {Value : Type} {found : Option Value} {first second : Value → Bool}
    (same : ∀ value, found = some value → first value = second value) :
    found.filter first = found.filter second := by
  cases found with
  | none => rfl
  | some value =>
    rw [Option.filter_some, Option.filter_some, same value rfl]

theorem deleteByID_keeps (mirrors : Mirrors store) (mirroring : Mirroring store
      (.perform (.deleteByID username sessionID) (.ok ()))) (other : Int) :
    (perform store (.deleteByID username sessionID) (.ok ())).1.get other =
        (store.get other).filter (keeps username sessionID) ∧
      (perform store (.deleteByID username sessionID) (.ok ())).1.storageGet other =
        (store.storageGet other).filter (keeps username sessionID) := by
  simp only [perform, deleteUserSessionsFromCache_eq, deleteFromStorage,
    unstore_eq, get_thin mirrors]
  constructor
  · apply filter_congr_of_mem
    intro value found
    obtain ⟨item, member, rfl, -, live⟩ := (get_eq_some_iff mirrors).mp found
    have selected := mem_dropped mirrors mirroring member live
    simp only [Except.isOk, Except.toBool, true_and] at selected
    simp only [keeps, ← Bool.decide_and, ← decide_not, decide_eq_decide]
    exact not_congr selected
  · apply (lookup_filter mirrors.rowKeys _).trans
    apply filter_congr_of_mem
    intro value _
    simp only [keeps, Target.covers, eq_comm]

/-- From any table, in every sequence of calls each of which meets the
condition: an unexpired session is found in the cache exactly when it is in the
table, and a successful deletion by id that meets the condition removes the
session with that id if it belongs to that user, and nothing else. -/
theorem cache_mirrors_storage (clock : Time) {rows : List Tracked}
    (distinct : (rows.map fun row => row.session.sessionID).Nodup) {history : List Empty}
    (run : Run sequential Mirroring (newCache clock rows) history store) :
    store.Agrees ∧ ∀ username sessionID,
        Mirroring store (.perform (.deleteByID username sessionID) (.ok ())) →
        ∀ other, (perform store (.deleteByID username sessionID) (.ok ())).1.get other =
            (store.get other).filter (keeps username sessionID) ∧
          (perform store (.deleteByID username sessionID) (.ok ())).1.storageGet other =
            (store.storageGet other).filter (keeps username sessionID) := by
  have mirrors : Mirrors store := by
    refine run.stateInvariant Mirrors (mirrors_newCache clock distinct) ?_
    intro shown before next input kept mirroring stepped
    cases input with
    | perform operation sql =>
      cases stepped
      exact kept.perform mirroring
    | environment event =>
      simp only [sequential, Option.map_eq_some_iff] at stepped
      obtain ⟨⟨after, output⟩, happened, result⟩ := stepped
      cases result
      exact kept.environment happened
  exact ⟨mirrors.agrees, fun username sessionID mirroring other =>
    deleteByID_keeps mirrors mirroring other⟩

def sessionOf (username : String) : Tracked where
  session :=
    { sessionID := 0
      expiresAt := 1000 * second
      lastAccessAt := 0
      username := username
      userAgent := "curl"
      ipAddress := "127.0.0.1" }
  origin := 0

def loggedIn : List Input :=
  [.perform (.save (sessionOf "alice")) (.ok ()),
    .perform (.save (sessionOf "bob")) (.ok ())]

def inSecondRow (username : String) : Tracked :=
  { session := { (sessionOf username).session with sessionID := 2 }
    origin := 1 }

def secondIsShown (outcome : Store × List Empty) : Bool :=
  outcome.1.get 2 = some (inSecondRow "bob") &&
    (outcome.1.get 1).all fun cached => cached.session.username = "alice"

theorem cache_mirrors_storage_loggedIn :
    ∃ store history,
      Run sequential Mirroring (newCache 0 []) history store ∧
      store.Agrees ∧
      (perform store (.deleteByID "alice" 1) (.ok ())).1.get 2 = some (inSecondRow "bob") := by
  obtain ⟨store, history, run, check⟩ := Run.exists_ofExecute sequential
    Mirroring (newCache 0 []) loggedIn secondIsShown (by decide +kernel) (by decide +kernel)
  simp only [secondIsShown, Bool.and_eq_true, decide_eq_true_eq, Option.all_eq_true] at check
  obtain ⟨shown, owned⟩ := check
  have distinct : (([] : List Tracked).map fun row => row.session.sessionID).Nodup := nodup_nil
  have mirrors := cache_mirrors_storage 0 distinct run
  have mirroring : Mirroring store (.perform (.deleteByID "alice" 1) (.ok ())) := by
    simp only [Mirroring]
    rw [if_pos (by decide)]
    exact fun cached found => ⟨rfl, owned cached found⟩
  refine ⟨store, history, run, mirrors.1, ?_⟩
  rw [(mirrors.2 "alice" 1 mirroring 2).1, shown]
  rfl

def deletedByAnother : List Input := loggedIn ++ [.perform (.deleteByID "alice" 2) (.ok ())]

def secondIsLost (outcome : Store × List Empty) : Bool :=
  outcome.1.clock = 0 && outcome.1.get 2 = none && outcome.1.storageGet 2 = some (inSecondRow "bob")

/-- The session stays in the table and is gone from the cache. -/
theorem cache_loses_foreign_session :
    ∃ store history,
      Run sequential Unrestricted (newCache 0 []) history store ∧
      ¬ store.Agrees := by
  obtain ⟨store, history, run, check⟩ := Run.exists_unrestricted sequential
    (newCache 0 []) deletedByAnother secondIsLost (by decide +kernel)
  simp only [secondIsLost, Bool.and_eq_true, decide_eq_true_eq] at check
  obtain ⟨⟨clock, lost⟩, stored⟩ := check
  refine ⟨store, history, run, fun agrees => ?_⟩
  have unexpired : store.clock < (inSecondRow "bob").session.expiresAt := by
    rw [clock]
    decide
  have found := (agrees _ unexpired).mpr (by
    rw [show (inSecondRow "bob").session.sessionID = 2 from rfl, stored]
    rfl)
  rw [show (inSecondRow "bob").session.sessionID = 2 from rfl, lost] at found
  cases found

end ProxiPort.Session
