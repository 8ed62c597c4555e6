import ProxiPort.Clients.Deletion

/-!
# Clean-up of obsolete clients

`DeleteObsolete` of `server/clients/cr.go`, next to the sessions.  It collects
the obsolete clients of the map, looking at one of them after the other without
the lock of the map, and then removes what it has collected by id.  A client
that comes back in between is removed all the same.
-/

namespace ProxiPort.Clients

open Concurrency Ports List Keyed

/-- `DeleteObsolete` of the store: `DATETIME` cuts instants to seconds. -/
def Repository.deleteObsoleteRows (repo : Repository) (keep : Option Int)
    (now : Time) : Repository :=
  { repo with stored := repo.stored.filter fun row =>
      match row.disconnectedAt, keep with
      | some disconnectedAt, some keep =>
        !(Time.unix disconnectedAt < Time.unix (now - keep))
      | _, _ => true }

/-- How far a clean-up has come.  `remaining` are the ids that were in the map
when the iteration began and that it has not produced yet, `found` are the
pointers that are collected. -/
inductive Cleanup where
  | deletingRows
  | iterating
  | collecting (remaining : List String) (found : List Address)
  | checking (client : Address) (remaining : List String) (found : List Address)
  | removing (found left : List Address)
  | deleted (found : List Address)
  | failed (err : String)
  deriving DecidableEq

/-- What a section of the sessions leaves open, and the entry that the iteration
over the map produces next, if it does not end. -/
structure Pick where
  base : Choice
  produced : Option Address

structure Removal where
  client : Client
  time : Time

/-- An iteration over a map produces each entry that was there when it began,
unless the entry is removed before; entries that are added may be produced. -/
def cleanupSection (keep : Option Int) (repo : Repository) (pick : Pick) :
    Cleanup → Option (Repository × Cleanup × List Removal)
  | .deletingRows =>
    match pick.base.failure with
    | some err => some (repo, .failed ("failed to delete obsolete clients: " ++ err), [])
    | none => some (repo.deleteObsoleteRows keep pick.base.now, .iterating, [])
  | .iterating => some (repo, .collecting (repo.clientState.entries.map Address.id) [], [])
  | .collecting remaining found =>
    match pick.produced with
    | some client =>
      if repo.clientState.get client.id = some client then
        some (repo, .checking client (remaining.filter fun id => id ≠ client.id) found, [])
      else none
    | none =>
      if remaining.all fun id => (repo.clientState.get id).isNone then
        some (repo, .removing found found, [])
      else none
  | .checking client remaining found =>
    if (repo.client client).obsolete keep pick.base.now then
      some (repo, .collecting remaining (found ++ [client]), [])
    else some (repo, .collecting remaining found, [])
  | .removing found [] => some (repo, .deleted found, [])
  | .removing found (client :: left) => some (repo.removeClient client.id, .removing found left,
      (repo.clientState.get client.id).toList.map fun entry =>
        ⟨repo.client entry, pick.base.now⟩)
  | .deleted _ | .failed _ => none

structure Clocked where
  repo : Repository
  clock : Time

inductive Activity where
  | session (thread : Thread)
  | cleanup (point : Cleanup)

inductive Request where
  | session (call : Call)
  | deleteObsolete

/-- A section of any activity; the time does not run backwards. -/
def tidySection (keep : Option Int) (clocked : Clocked) (activity : Activity)
    (pick : Pick) : Option (Clocked × Activity × List Removal) :=
  if clocked.clock ≤ pick.base.now then
    match activity with
    | .session thread =>
      (atomic keep clocked.repo thread pick.base).map fun outcome =>
        (⟨outcome.1, pick.base.now⟩, .session outcome.2.1, [])
    | .cleanup point =>
      (cleanupSection keep clocked.repo pick point).map fun outcome =>
        (⟨outcome.1, pick.base.now⟩, .cleanup outcome.2.1, outcome.2.2)
  else none

def tidying (keep : Option Int) : Program Clocked Activity Request Pick Nat Removal where
  enter
    | .session call => .session ((program keep).enter call)
    | .deleteObsolete => .cleanup .deletingRows
  atomic := tidySection keep
  environment clocked sshConn :=
    ((program keep).environment clocked.repo sshConn).map fun outcome =>
      ({ clocked with repo := outcome.1 }, [])

def tidyInitial (rows : Table Client.id) (now : Time)
    (distributor : PortDistributor) : Config Clocked Activity :=
  ⟨⟨loaded rows now distributor, now⟩, []⟩

variable {keep : Option Int} {repo changed : Repository} {choice : Choice}
  {thread after : Thread}

/-- The object that the map has for a client after a section: either it was
there before, or the section puts it there. -/
inductive Origin (repo changed : Repository) (thread : Thread)
    (client : Address) : Prop where
  | kept (entry : repo.clientState.get client.id = some client)
      (same : (changed.client client).disconnectedAt = (repo.client client).disconnectedAt)
  | set (entry : repo.clientState.get client.id = some client)
      (sets : thread.setsDisconnectedAt repo = some client)
  | entered (enters : thread.updatesEntry = some client)
      (same : (changed.client client).disconnectedAt = (repo.client client).disconnectedAt)

def Accounted (repo changed : Repository) (thread : Thread) : Prop :=
  ∀ client, changed.clientState.get client.id = some client → Origin repo changed thread client

theorem Accounted.sameObjects (objects : changed.objects = repo.objects)
    (clientState : changed.clientState = repo.clientState) : Accounted repo changed thread := by
  intro client entry
  rw [clientState] at entry
  refine .kept entry ?_
  rw [Repository.client, objects]
  rfl

variable {client : Client} {written : Address}

theorem Accounted.write (same : client.disconnectedAt = (repo.client written).disconnectedAt) :
    Accounted repo (repo.write written client) thread := by
  intro address entry
  refine .kept entry ?_
  by_cases isWritten : address = written
  · subst isWritten
    rw [Repository.client_write_self]
    exact same
  · rw [Repository.client_write_of_ne isWritten]

theorem Accounted.sets (sets : thread.setsDisconnectedAt repo = some written) :
    Accounted repo (repo.write written client) thread := by
  intro address entry
  by_cases isWritten : address = written
  · subst isWritten
    exact .set entry sets
  · refine .kept entry ?_
    rw [Repository.client_write_of_ne isWritten]

theorem Accounted.updates {client : Address} (updates : thread.updatesEntry = some client) :
    Accounted repo (repo.updateClient client) thread := by
  intro address entry
  rcases Table.get_put_cases entry with ⟨_, rfl⟩ | ⟨_, before⟩
  · exact .entered updates rfl
  · exact .kept before rfl

theorem Accounted.removes {id : String} : Accounted repo (repo.removeClient id) thread :=
  fun _ entry => .kept (Table.get_of_get_remove entry) rfl

theorem Accounted.closes {client : Address} : Accounted repo (repo.close client) thread := by
  simp only [Repository.close]
  split
  all_goals exact .sameObjects rfl rfl

theorem Accounted.trans {last : Repository} (accounted : Accounted repo changed thread)
    (objects : last.objects = changed.objects)
    (clientState : last.clientState = changed.clientState) : Accounted repo last thread := by
  intro client entry
  have sameClient : last.client client = changed.client client := by
    rw [Repository.client, objects]
    rfl
  rw [clientState] at entry
  cases accounted client entry with
  | kept before same => exact .kept before (sameClient ▸ same)
  | set before sets => exact .set before sets
  | entered enters same => exact .entered enters (sameClient ▸ same)

theorem StartStep.accounted {call : StartCall} {point : Start}
    (stepped : StartStep keep repo call choice point changed after) :
    Accounted repo changed (.starting call point) := by
  cases stepped with
  | releases => exact .write rfl
  | registers =>
    rename_i existing kept
    cases existing with
    | none =>
      have written : Accounted repo (repo.write ⟨call.clientID, repo.allocated⟩
            (call.newClientFromConnRequest none call.host))
          (.starting call (.registering none kept)) := .sets rfl
      exact written.trans rfl rfl
    | some known => exact .sets rfl
  | connects => exact .sets rfl
  | tunnels only | tunnelsFail only =>
    exact .trans (.write only.disconnectedAt) rfl rfl
  | @updates client =>
    have updated : Accounted repo (repo.updateClient client)
        (.starting call (.updating client)) := .updates rfl
    exact updated.trans rfl rfl
  | _ => exact .sameObjects rfl rfl

theorem Writes.accounted (writes : Writes repo thread changed) : Accounted repo changed thread := by
  cases writes with
  | sets sets => exact .sets sets
  | stamps => exact .write rfl
  | edits edit => exact .write (edit.disconnectedAt _)
  | updates updates => exact .updates updates
  | removes => exact .removes
  | closes => exact .closes
  | nothing | accepts | saves | deletesRow => exact .sameObjects rfl rfl

def Cleanup.listed : Cleanup → List Address
  | .collecting _ found | .checking _ _ found => found
  | .removing _ left => left
  | .deletingRows | .iterating | .deleted _ | .failed _ => []

def Cleanup.underCheck : Cleanup → Option Address
  | .checking client _ _ => some client
  | .deletingRows | .iterating | .collecting _ _ | .removing _ _
  | .deleted _ | .failed _ => none

/-- The clean-up may remove the entry of a client whatever becomes of this
object: its id is on the list, or another object with its id is looked at. -/
def Cleanup.overlooks (point : Cleanup) (client : Address) : Prop :=
  (∃ listed ∈ point.listed, listed.id = client.id) ∨
    ∃ looked ∈ point.underCheck, looked.id = client.id ∧ looked ≠ client

def Activity.overlooks (client : Address) : Activity → Prop
  | .session _ => False
  | .cleanup point => point.overlooks client

def Overlooked (config : Config Clocked Activity) (client : Address) : Prop :=
  ∃ activity ∈ config.threads, activity.overlooks client

/-- A session does not set the time of an entry that a clean-up may remove
without another look, and puts only obsolete objects under its id. -/
def Undisturbed (keep : Option Int) (config : Config Clocked Activity)
    (activity : Activity) (pick : Pick) : Prop :=
  match activity with
  | .cleanup _ => True
  | .session thread =>
    (∀ client ∈ thread.setsDisconnectedAt config.shared.repo,
      config.shared.repo.clientState.get client.id = some client → ¬Overlooked config client) ∧
    ∀ client ∈ thread.updatesEntry, Overlooked config client →
      (config.shared.repo.client client).obsolete keep pick.base.now = true

/-- What a clean-up may remove without another look is obsolete. -/
def Decided (keep : Option Int) (config : Config Clocked Activity) : Prop :=
  ∀ client, config.shared.repo.clientState.get client.id = some client → Overlooked config client →
      (config.shared.repo.client client).obsolete keep config.shared.clock = true

theorem obsolete_iff {now : Time} :
    client.obsolete keep now = true ↔
      ∃ disconnectedAt ∈ client.disconnectedAt, ∃ duration ∈ keep,
        disconnectedAt + duration < now := by
  cases time : client.disconnectedAt with
  | none => simp [Client.obsolete, time]
  | some disconnectedAt =>
    cases keep with
    | none | some => simp [Client.obsolete, time]

theorem obsolete_later {later : Client} {before now : Time}
    (obsolete : client.obsolete keep before = true)
    (same : later.disconnectedAt = client.disconnectedAt)
    (passed : before ≤ now) : later.obsolete keep now = true := by
  obtain ⟨disconnectedAt, isTime, duration, isKeep, early⟩ := obsolete_iff.mp obsolete
  rw [obsolete_iff, same]
  exact ⟨disconnectedAt, isTime, duration, isKeep, early.trans_le passed⟩

variable {config : Config Clocked Activity} {index : Nat} {pick : Pick}
  {shared : Clocked}

theorem overlooked_set {next : Activity} {client : Address} (overlooked : Overlooked
      ⟨shared, config.threads.set index next⟩ client) :
    Overlooked config client ∨ next.overlooks client := by
  obtain ⟨other, member, overlooks⟩ := overlooked
  rcases mem_or_eq_of_mem_set member with old | rfl
  · exact .inl ⟨other, old, overlooks⟩
  · exact .inr overlooks

theorem Decided.session {shown : List Action} (decided : Decided keep config)
    (admitted : Undisturbed keep config (.session thread) pick)
    (passed : config.shared.clock ≤ pick.base.now)
    (ran : atomic keep config.shared.repo thread pick.base = some (changed, after, shown)) :
    Decided keep ⟨⟨changed, pick.base.now⟩, config.threads.set index (.session after)⟩ := by
  intro client entry overlooked
  have before : Overlooked config client := by
    rcases overlooked_set overlooked with before | overlooks
    · exact before
    · exact overlooks.elim
  have accounted : Accounted config.shared.repo changed thread := by
    cases atomicStep_of_atomic ran with
    | starts stepped => exact stepped.accounted
    | other _ writes => exact writes.1.accounted
  cases accounted client entry with
  | kept earlier same =>
    exact obsolete_later (decided client earlier before) same passed
  | set earlier sets =>
    exact absurd before (admitted.1 client sets earlier)
  | entered enters same =>
    exact obsolete_later (admitted.2 client enters before) same le_rfl

/-- A section of the clean-up writes no object and puts none into the map, and
what it newly overlooks is obsolete. -/
structure CleanupStep (keep : Option Int) (repo changed : Repository)
    (now : Time) (point next : Cleanup) : Prop where
  objects : changed.objects = repo.objects
  entries : ∀ client, changed.clientState.get client.id = some client →
      repo.clientState.get client.id = some client
  overlooks : ∀ client, changed.clientState.get client.id = some client →
      next.overlooks client → point.overlooks client ∨ (repo.client client).obsolete keep now = true

variable {point next : Cleanup}

theorem CleanupStep.same {now : Time} (objects : changed.objects = repo.objects)
    (clientState : changed.clientState = repo.clientState)
    (listed : next.listed ⊆ point.listed) (unchecked : next.underCheck = none) :
    CleanupStep keep repo changed now point next where
  objects := objects
  entries := fun client entry => clientState ▸ entry
  overlooks := by
    rintro client - (⟨other, member, same⟩ | ⟨looked, isLooked, _⟩)
    · exact .inl (.inl ⟨other, listed member, same⟩)
    · cases unchecked.symm.trans isLooked

variable {shown : List Removal}

theorem cleanupStep_of_section (ran : cleanupSection keep repo pick point =
      some (changed, next, shown)) :
    CleanupStep keep repo changed pick.base.now point next := by
  cases point with
  | deletingRows =>
    simp only [cleanupSection] at ran
    split at ran
    all_goals
      cases ran
      exact .same rfl rfl (List.Subset.refl _) rfl
  | iterating =>
    cases ran
    exact .same rfl rfl (List.Subset.refl _) rfl
  | collecting remaining found =>
    simp only [cleanupSection] at ran
    split at ran
    · split at ran
      · rename_i client _ produced
        cases ran
        refine ⟨rfl, fun _ entry => entry, ?_⟩
        -- The object that is looked at is the one the map has.
        rintro other entry (listed | ⟨looked, isLooked, same, different⟩)
        · exact .inl (.inl listed)
        · cases isLooked
          rw [same] at produced
          cases produced.symm.trans entry
          exact absurd rfl different
      · cases ran
    · split at ran
      · cases ran
        exact .same rfl rfl (List.Subset.refl _) rfl
      · cases ran
  | checking client remaining found =>
    simp only [cleanupSection] at ran
    split at ran
    · rename_i obsolete
      cases ran
      refine ⟨rfl, fun _ entry => entry, ?_⟩
      rintro other entry (⟨listed, member, same⟩ | ⟨looked, isLooked, _⟩)
      · rcases mem_or_eq_of_mem_concat member with old | rfl
        · exact .inl (.inl ⟨listed, old, same⟩)
        · by_cases isOther : listed = other
          · subst isOther
            exact .inr obsolete
          · exact .inl (.inr ⟨listed, rfl, same, isOther⟩)
      · cases isLooked
    · cases ran
      exact .same rfl rfl (List.Subset.refl _) rfl
  | removing found left =>
    cases left with
    | nil =>
      cases ran
      exact .same rfl rfl (List.Subset.refl _) rfl
    | cons client left =>
      cases ran
      refine ⟨rfl, fun _ => Table.get_of_get_remove, ?_⟩
      rintro other entry (⟨listed, member, same⟩ | ⟨looked, isLooked, _⟩)
      · exact .inl (.inl ⟨listed, mem_cons_of_mem _ member, same⟩)
      · cases isLooked
  | deleted | failed => cases ran

theorem Decided.cleanup (decided : Decided keep config)
    (found : config.threads[index]? = some (.cleanup point))
    (passed : config.shared.clock ≤ pick.base.now)
    (ran : cleanupSection keep config.shared.repo pick point = some (changed, next, shown)) :
    Decided keep ⟨⟨changed, pick.base.now⟩, config.threads.set index (.cleanup next)⟩ := by
  have stepped := cleanupStep_of_section ran
  intro client entry overlooked
  have earlier := stepped.entries client entry
  have sameClient : changed.client client = config.shared.repo.client client := by
    rw [Repository.client, stepped.objects]
    rfl
  have before : Overlooked config client ∨ (config.shared.repo.client client).obsolete keep
        pick.base.now = true := by
    rcases overlooked_set overlooked with before | overlooks
    · exact .inl before
    · refine (stepped.overlooks client entry overlooks).imp_left ?_
      intro overlooksNow
      exact ⟨_, List.mem_of_getElem? found, overlooksNow⟩
  rcases before with before | obsolete
  · exact obsolete_later (decided client earlier before)
      (congrArg Client.disconnectedAt sameClient) passed
  · rw [← sameClient] at obsolete
    exact obsolete

theorem removal_of_section (ran : cleanupSection keep repo pick point = some (changed, next, shown))
    {removal : Removal} (member : removal ∈ shown) :
    ∃ client, repo.clientState.get client.id = some client ∧ point.overlooks client ∧
      removal = ⟨repo.client client, pick.base.now⟩ := by
  cases point with
  | deletingRows | checking =>
    simp only [cleanupSection] at ran
    split at ran
    all_goals
      cases ran
      cases member
  | iterating =>
    cases ran
    cases member
  | collecting remaining found =>
    simp only [cleanupSection] at ran
    split at ran
    all_goals
      split at ran
      · cases ran
        cases member
      · cases ran
  | removing found left =>
    cases left with
    | nil =>
      cases ran
      cases member
    | cons client left =>
      cases ran
      obtain ⟨entry, isEntry, rfl⟩ := mem_map.mp member
      have there := Option.mem_toList.mp isEntry
      have same : entry.id = client.id := (Table.get_eq_some_iff.mp there).2
      refine ⟨entry, ?_, ?_, rfl⟩
      · rw [same]
        exact there
      · exact .inl ⟨client, mem_cons_self, same.symm⟩
  | deleted | failed => cases ran

section

variable (decided : Decided keep config)
include decided

theorem decided_spawn (request : Request) :
    Decided keep ⟨config.shared, config.threads ++ [(tidying keep).enter request]⟩ := by
  rintro client entry ⟨activity, member, overlooks⟩
  rcases mem_or_eq_of_mem_concat member with old | rfl
  · exact decided client entry ⟨activity, old, overlooks⟩
  · cases request with
    | session call => exact overlooks.elim
    | deleteObsolete =>
      rcases overlooks with ⟨listed, isListed, _⟩ | ⟨looked, isLooked, _⟩
      · cases isListed
      · cases isLooked

theorem decided_environment {sshConn : Nat}
    (ran : (tidying keep).environment config.shared sshConn = some (shared, shown)) :
    Decided keep ⟨shared, config.threads⟩ ∧ shown = [] := by
  obtain ⟨⟨dropped, _⟩, accepted, result⟩ := Option.map_eq_some_iff.mp ran
  cases result
  simp only [program] at accepted
  split at accepted
  · cases accepted
    exact ⟨decided, rfl⟩
  · cases accepted

theorem decided_advance {activity next : Activity} (found : config.threads[index]? = some activity)
    (admitted : Undisturbed keep config activity pick)
    (ran : tidySection keep config.shared activity pick = some (shared, next, shown)) :
    Decided keep ⟨shared, config.threads.set index next⟩ ∧ ∀ removal ∈ shown,
        removal.client.obsolete keep removal.time = true := by
  simp only [tidySection] at ran
  split at ran
  · rename_i passed
    cases activity with
    | session thread =>
      obtain ⟨⟨changed, after, _⟩, ranHere, result⟩ := Option.map_eq_some_iff.mp ran
      cases result
      refine ⟨decided.session admitted passed ranHere, ?_⟩
      intro removal member
      cases member
    | cleanup point =>
      obtain ⟨⟨changed, after, shown⟩, ranHere, result⟩ := Option.map_eq_some_iff.mp ran
      cases result
      refine ⟨decided.cleanup found passed ranHere, ?_⟩
      intro removal member
      obtain ⟨client, entry, overlooks, rfl⟩ := removal_of_section ranHere member
      have obsolete := decided client entry ⟨_, List.mem_of_getElem? found, overlooks⟩
      exact obsolete_later obsolete rfl passed
  · cases ran

theorem step_decided {next : Config Clocked Activity} {move : Move Request Pick Nat}
    (admitted : OnAdvance (Undisturbed keep) config move)
    (stepped : (tidying keep).system.step config move = some (next, shown)) :
    Decided keep next ∧ ∀ removal ∈ shown, removal.client.obsolete keep removal.time = true := by
  cases Program.step_cases stepped with
  | spawn request =>
    refine ⟨decided_spawn decided request, ?_⟩
    intro removal member
    cases member
  | advance found ran =>
    exact decided_advance decided found (admitted.condition found) ran
  | environment ran =>
    obtain ⟨kept, rfl⟩ := decided_environment decided ran
    refine ⟨kept, ?_⟩
    intro removal member
    cases member

end

/-- In every run in which no session sets the time of an entry, or puts a client
that is not obsolete under its id, while a clean-up may remove that entry without
another look, every client that a clean-up removes is obsolete when it is
removed. -/
theorem cleanup_removes_obsolete (keep : Option Int) (rows : Table Client.id) (now : Time)
    (distributor : PortDistributor) {history : List Removal} {config : Config Clocked Activity}
    (run : Run (tidying keep).system (OnAdvance (Undisturbed keep))
      (tidyInitial rows now distributor) history config)
    (removal : Removal) (removed : removal ∈ history) :
    removal.client.obsolete keep removal.time = true := by
  have both := run.invariant (fun history config => Decided keep config ∧ ∀ removal ∈ history,
      removal.client.obsolete keep removal.time = true)
    ⟨fun _ _ ⟨_, member, _⟩ => absurd member not_mem_nil, fun _ member => absurd member not_mem_nil⟩
    (fun held admitted stepped => by
      obtain ⟨decided, shown⟩ := step_decided held.1 admitted stepped
      refine ⟨decided, ?_⟩
      intro removal member
      rcases mem_append.mp member with earlier | now
      · exact held.2 removal earlier
      · exact shown removal now)
  exact both.2 removal removed

instance (config : Config Clocked Activity) (client : Address) :
    Decidable (Overlooked config client) :=
  let decideHere : ∀ activity : Activity, Decidable (activity.overlooks client)
    | .session _ => .isFalse id
    | .cleanup point => inferInstanceAs (Decidable
        ((∃ listed ∈ point.listed, listed.id = client.id) ∨ ∃ looked ∈ point.underCheck,
            looked.id = client.id ∧ looked ≠ client))
  @List.decidableBEx _ _ decideHere config.threads

instance (keep : Option Int) (config : Config Clocked Activity) (pick : Pick) :
    ∀ activity, Decidable (Undisturbed keep config activity pick)
  | .cleanup _ => .isTrue trivial
  | .session thread => inferInstanceAs (Decidable (
      (∀ client ∈ thread.setsDisconnectedAt config.shared.repo, _ → ¬ _) ∧
      ∀ client ∈ thread.updatesEntry, _ → _))

def steps (thread count : Nat) : List (Move Request Pick Nat) :=
  List.replicate count (.advance thread ⟨noon, none⟩)

def collects (thread : Nat) (client : Address) : List (Move Request Pick Nat) :=
  List.flatten [steps thread 2, [.advance thread ⟨noon, some client⟩], steps thread 2]

theorem cleanup_removes_obsolete_lostClient :
    ∃ config history,
      Run (tidying (some 5)).system (OnAdvance (Undisturbed (some 5)))
        (tidyInitial (Table.empty.put lostClient) 100 (PortDistributor.new ∅)) history config ∧
      ∃ removal ∈ history, removal.client.id = "client" ∧
        removal.client.obsolete (some 5) removal.time = true := by
  obtain ⟨config, history, run, outcome⟩ := Run.exists_ofExecute (tidying (some 5)).system
      (OnAdvance (Undisturbed (some 5))) (tidyInitial (Table.empty.put lostClient) 100
        (PortDistributor.new ∅))
      (List.flatten [[.spawn .deleteObsolete], collects 0 ⟨"client", 0⟩, steps 0 2,
        [.spawn (.session (.handleWebsocket (newcomer "client" "auth")))], steps 1 9])
      (fun outcome => outcome.2.any fun removal =>
        removal.client.id = "client")
      (by decide +kernel) (by decide +kernel)
  obtain ⟨removal, removed, isClient⟩ := any_eq_true.mp outcome
  exact ⟨config, history, run, removal, removed, of_decide_eq_true isClient,
    cleanup_removes_obsolete (some 5) _ 100 _ run removal removed⟩

/-- A clean-up has collected a client that was lost.  The client connects again,
and then the clean-up removes it.  It is connected over an open connection, and
the map no longer has it. -/
theorem cleanup_removes_connected :
    ∃ config history, Run (tidying (some 5)).system Unrestricted
        (tidyInitial (Table.empty.put lostClient) 100 (PortDistributor.new ∅)) history config ∧
      (∃ removal ∈ history, removal.client.isConnected = true ∧
        removal.client.obsolete (some 5) removal.time = false) ∧
      config.shared.repo.clientState.get "client" = none ∧
      (config.shared.repo.client ⟨"client", 1⟩).connection = some 0 ∧
      0 ∉ config.shared.repo.closed :=
  Run.exists_reaching_unrestricted
    (List.flatten [[.spawn .deleteObsolete], collects 0 ⟨"client", 0⟩,
      [.spawn (.session (.handleWebsocket (newcomer "client" "auth")))], steps 1 9, steps 0 2])
    (by decide +kernel)

end ProxiPort.Clients
