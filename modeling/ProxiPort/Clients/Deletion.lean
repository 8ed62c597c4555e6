import ProxiPort.Clients.Exclusion

/-!
# Deletion

`ForceDelete` closes the connection of a client and then takes the client out
of the store and out of the map.  The teardown that this sets off, like every
other operation on the client, ends in a `Save`, which puts the client back into
both.
-/

namespace ProxiPort.Clients

open Concurrency Ports Keyed

variable {keep : Option Int} {repo changed : Repository} {choice : Choice}
  {thread after : Thread} {shown : List Action} {id : String}

variable {client : Address}

theorem saveRow_none (absent : repo.stored.get id = none) :
    (repo.saveRow client).stored.get id = none ∨ client.id = id := by
  by_cases same : id = client.id
  · exact .inr same.symm
  · have key : id ≠ (repo.client client).id := same
    exact .inl ((Table.get_put_of_ne key).trans absent)

/-- What the store and the map have for a client can only appear there by the
two halves of a `Save`. -/
structure OnlySaved (repo changed : Repository) (thread : Thread)
    (id : String) : Prop where
  row : repo.stored.get id = none →
    changed.stored.get id = none ∨ ∃ client ∈ thread.savesRow, client.id = id
  entry : repo.clientState.get id = none → changed.clientState.get id = none ∨
      ∃ client ∈ thread.updatesEntry, client.id = id

theorem OnlySaved.same (stored : changed.stored = repo.stored)
    (clientState : changed.clientState = repo.clientState) : OnlySaved repo changed thread id where
  row := by
    intro absent
    rw [stored]
    exact .inl absent
  entry := by
    intro absent
    rw [clientState]
    exact .inl absent

theorem OnlySaved.saves (saves : thread.savesRow = some client) :
    OnlySaved repo (repo.saveRow client) thread id where
  row := fun absent => (saveRow_none absent).imp_right fun same => ⟨client, saves, same⟩
  entry := .inl

theorem OnlySaved.updates (updates : thread.updatesEntry = some client) :
    OnlySaved repo (repo.updateClient client) thread id where
  row := .inl
  entry := by
    intro absent
    by_cases same : id = client.id
    · exact .inr ⟨client, updates, same.symm⟩
    · exact .inl ((Table.get_put_of_ne same).trans absent)

theorem OnlySaved.deletesRow {other : String} :
    OnlySaved repo (repo.deleteRow other) thread id where
  row := by
    intro absent
    by_cases same : id = other
    · subst same
      exact .inl Table.get_remove_self
    · exact .inl ((Table.get_remove_of_ne same).trans absent)
  entry := .inl

theorem OnlySaved.removes {other : String} :
    OnlySaved repo (repo.removeClient other) thread id where
  row := .inl
  entry := by
    intro absent
    by_cases same : id = other
    · subst same
      exact .inl Table.get_remove_self
    · exact .inl ((Table.get_remove_of_ne same).trans absent)

theorem OnlySaved.closes : OnlySaved repo (repo.close client) thread id := by
  simp only [Repository.close]
  split
  all_goals exact .same rfl rfl

theorem StartStep.onlySaved {call : StartCall} {point : Start}
    (stepped : StartStep keep repo call choice point changed after) :
    OnlySaved repo changed (.starting call point) id := by
  cases stepped with
  | stores => exact .saves rfl
  | @updates client =>
    have updated : OnlySaved repo (repo.updateClient client)
        (.starting call (.updating client)) id := .updates rfl
    exact ⟨updated.row, updated.entry⟩
  | @registers existing kept =>
    cases existing with
    | none | some => exact .same rfl rfl
  | _ => exact .same rfl rfl

theorem Writes.onlySaved (writes : Writes repo thread changed) :
    OnlySaved repo changed thread id := by
  cases writes with
  | nothing | accepts | sets | stamps | edits => exact .same rfl rfl
  | saves saves => exact .saves saves
  | updates updates => exact .updates updates
  | deletesRow => exact .deletesRow
  | removes => exact .removes
  | closes => exact .closes

def Thread.isRemoving (id : String) : Thread → Bool
  | .deleting client .removing => client.id = id
  | _ => false

/-- A client is saved only while it is in the map, and its row not while it is
being deleted. -/
def SavedIfRegistered (id : String) (config : Config Repository Thread)
    (thread : Thread) (_ : Choice) : Prop :=
  (∀ client ∈ thread.savesRow, client.id = id → (config.shared.clientState.get id).isSome = true ∧
      ∀ other ∈ config.threads, other.isRemoving id = false) ∧
  ∀ client ∈ thread.updatesEntry, client.id = id → (config.shared.clientState.get id).isSome = true

instance (id : String) (config : Config Repository Thread) (thread : Thread) (choice : Choice) :
    Decidable (SavedIfRegistered id config thread choice) :=
  inferInstanceAs (Decidable ((∀ client ∈ _, _ → _ ∧ ∀ other ∈ _, _) ∧ ∀ client ∈ _, _ → _))

def NoNewStart (id : String) (_ : Config Repository Thread) : Move Call Choice Nat → Prop
  | .spawn (.handleWebsocket call) => call.clientID ≠ id
  | _ => True

inductive Progress (client : Address) (repo : Repository) :
    Thread → Prop where
  | begun {point : Deletion} (early : point ≠ .removing) :
      Progress client repo (.deleting client point)
  | halfway (row : repo.stored.get client.id = none) :
      Progress client repo (.deleting client .removing)
  | done (entry : repo.clientState.get client.id = none) (row : repo.stored.get client.id = none) :
      Progress client repo (.deleted client.id)
  | failed : Progress client repo .finished

theorem progress_own (progress : Progress client repo thread)
    (ran : atomic keep repo thread choice = some (changed, after, shown)) :
    Progress client changed after := by
  cases progress with
  | failed => cases ran
  | done => cases ran
  | halfway row =>
    cases ran
    exact .done Table.get_remove_self row
  | @begun point early =>
    cases ran
    cases point with
    | checking =>
      simp only [deletionSection]
      split
      all_goals exact .begun fun wrong => by cases wrong
    | closing =>
      simp only [deletionSection]
      split
      · exact .failed
      · exact .begun fun wrong => by cases wrong
    | deletingRow =>
      simp only [deletionSection]
      split
      · exact .failed
      · exact .halfway Table.get_remove_self
    | removing => exact absurd rfl early

theorem progress_other {config : Config Repository Thread} {mine : Thread}
    (member : mine ∈ config.threads) (progress : Progress client config.shared mine)
    (saved : SavedIfRegistered client.id config thread choice)
    (ran : atomic keep config.shared thread choice = some (changed, after, shown)) :
    Progress client changed mine := by
  have only : OnlySaved config.shared changed thread client.id := by
    cases atomicStep_of_atomic ran with
    | starts stepped => exact stepped.onlySaved
    | other _ writes => exact writes.1.onlySaved
  cases progress with
  | failed => exact .failed
  | begun early => exact .begun early
  | halfway row =>
    rcases only.row row with absent | ⟨saver, saves, same⟩
    · exact .halfway absent
    · have idle := (saved.1 saver saves same).2 _ member
      simp [Thread.isRemoving] at idle
  | done entry row =>
    have gone : (config.shared.clientState.get client.id).isSome ≠ true := by
      rw [entry]
      exact nofun
    refine .done ?_ ?_
    · rcases only.entry entry with absent | ⟨saver, saves, same⟩
      · exact absent
      · exact absurd (saved.2 saver saves same) gone
    · rcases only.row row with absent | ⟨saver, saves, same⟩
      · exact absent
      · exact absurd (saved.1 saver saves same).1 gone

theorem step_progress {index : Nat} {config next : Config Repository Thread}
    {move : Move Call Choice Nat} (tracked : ∃ thread, config.threads[index]? = some thread ∧
      Progress client config.shared thread)
    (admitted : OnAdvance (SavedIfRegistered client.id) config move)
    (stepped : (program keep).system.step config move = some (next, shown)) :
    ∃ thread, next.threads[index]? = some thread ∧ Progress client next.shared thread := by
  obtain ⟨mine, found, progress⟩ := tracked
  have inside := (List.getElem?_eq_some_iff.mp found).1
  cases Program.step_cases stepped with
  | spawn call =>
    refine ⟨mine, ?_, progress⟩
    rw [List.getElem?_append_left inside]
    exact found
  | environment ran =>
    obtain ⟨rfl, rfl⟩ := environment_drop ran
    refine ⟨mine, found, ?_⟩
    cases progress with
    | begun early => exact .begun early
    | halfway row => exact .halfway row
    | done entry row => exact .done entry row
    | failed => exact .failed
  | @advance position _ _ _ after _ there ran =>
    by_cases same : position = index
    · subst same
      cases found.symm.trans there
      exact ⟨after, List.getElem?_set_self inside, progress_own progress ran⟩
    · refine ⟨mine, ?_, progress_other (List.mem_of_getElem? found)
        progress (admitted.condition there) ran⟩
      rw [List.getElem?_set_ne same]
      exact found

def Orderly (id : String) (config : Config Repository Thread)
    (move : Move Call Choice Nat) : Prop :=
  NoNewStart id config move ∧ OnAdvance (SavedIfRegistered id) config move

/-- From any state in which a `ForceDelete` begins: if no new `StartClient` for
the client is made and the client is saved only while it is registered, then the
deletion is final as soon as it has succeeded. -/
theorem deletion_is_final (keep : Option Int) (client : Address)
    (start config : Config Repository Thread) (index : Nat)
    (begins : start.threads[index]? = some (.deleting client .checking)) {history : List Action}
    (run : Run (program keep).system (Orderly client.id) start history config)
    (succeeded : config.threads[index]? = some (.deleted client.id)) :
    config.shared.clientState.get client.id = none ∧ config.shared.stored.get client.id = none := by
  obtain ⟨thread, found, progress⟩ := run.stateInvariant
    (fun config => ∃ thread, config.threads[index]? = some thread ∧
      Progress client config.shared thread)
    ⟨_, begins, .begun nofun⟩
    (fun tracked admitted stepped =>
      step_progress tracked admitted.2 stepped)
  cases found.symm.trans succeeded
  cases progress with
  | done entry row => exact ⟨entry, row⟩

instance (id : String) (config : Config Repository Thread) :
    ∀ move, Decidable (NoNewStart id config move)
  | .spawn (.handleWebsocket call) =>
    inferInstanceAs (Decidable (call.clientID ≠ id))
  | .spawn (.newConnection _ _) | .spawn (.ping _)
  | .spawn (.setLastHeartbeat _) | .spawn (.forceDelete _)
  | .spawn (.edit _ _) | .spawn (.editHeld _ _) | .advance _ _
  | .environment _ => .isTrue trivial

instance (id : String) (config : Config Repository Thread)
    (move : Move Call Choice Nat) : Decidable (Orderly id config move) :=
  inferInstanceAs (Decidable (_ ∧ _))

def Thread.isDeleted (id : String) : Thread → Bool
  | .deleted other => other = id
  | _ => false

def Thread.beginsDeletion (client : Address) : Thread → Bool
  | .deleting other .checking => other = client
  | _ => false

variable {found : Option Thread}

theorem eq_of_isDeleted (check : found.any (Thread.isDeleted id) = true) :
    found = some (.deleted id) := by
  obtain ⟨thread, rfl, isDeleted⟩ := (Option.any_eq_true _ _).mp check
  cases thread with
  | deleted other =>
    have same : other = id := of_decide_eq_true isDeleted
    rw [same]
  | _ => cases isDeleted

theorem eq_of_beginsDeletion (check : found.any (Thread.beginsDeletion client) = true) :
    found = some (.deleting client .checking) := by
  obtain ⟨thread, rfl, begins⟩ := (Option.any_eq_true _ _).mp check
  cases thread with
  | deleting other point =>
    cases point with
    | checking =>
      have same : other = client := of_decide_eq_true begins
      rw [same]
    | closing | deletingRow | removing => cases begins
  | _ => cases begins

def deletionBegins : List (Move Call Choice Nat) :=
  List.flatten [[.spawn (.handleWebsocket (newcomer "a" "x"))], sections 0 9,
    [.spawn (.forceDelete "a")], sections 1 1]

def teardownFirst : List (Move Call Choice Nat) :=
  List.flatten [sections 1 2, sections 0 6, sections 1 2]

def teardownLast : List (Move Call Choice Nat) :=
  List.flatten [sections 1 2, sections 0 4, sections 1 2, sections 0 2]

theorem deletion_is_final_afterTeardown :
    ∃ start before config later,
      Run (program none).system Unrestricted
        (initial .empty 0 (PortDistributor.new ∅)) before start ∧
      Run (program none).system (Orderly "a") start later config ∧
      start.threads[1]? = some (.deleting ⟨"a", 1⟩ .checking) ∧
      config.threads[1]? = some (.deleted "a") ∧
      config.shared.clientState.get "a" = none ∧
      config.shared.stored.get "a" = none := by
  obtain ⟨start, before, first, outcome⟩ := Run.exists_unrestricted (program none).system
      (initial .empty 0 (PortDistributor.new ∅)) deletionBegins (fun outcome =>
        outcome.1.threads[1]?.any (Thread.beginsDeletion ⟨"a", 1⟩) &&
        (((program none).system.execute outcome.1 teardownFirst).any
            (fun outcome => outcome.1.threads[1]?.any (Thread.isDeleted "a")) &&
          decide ((program none).system.AdmitsAlong (Orderly "a") outcome.1 teardownFirst)))
      (by decide +kernel)
  simp only [Bool.and_eq_true, decide_eq_true_eq] at outcome
  obtain ⟨begins, passed, admitted⟩ := outcome
  obtain ⟨config, later, run, deleted⟩ :=
    Run.exists_ofExecute (program none).system (Orderly "a") start teardownFirst _ passed admitted
  have begun := eq_of_beginsDeletion begins
  have succeeded := eq_of_isDeleted deleted
  obtain ⟨entry, row⟩ := deletion_is_final none ⟨"a", 1⟩ start config 1 begun run succeeded
  exact ⟨start, before, config, later, first, run, begun, succeeded, entry, row⟩

def undone (outcome : Config Repository Thread × List Action) : Bool :=
  outcome.1.threads[1]?.any (Thread.isDeleted "a") &&
    decide (outcome.1.threads.all Thread.isEnded = true ∧
      outcome.1.shared.clientState.get "a" = some ⟨"a", 1⟩ ∧
      (outcome.1.shared.stored.get "a").isSome = true)

/-- The teardown that a deletion sets off looks the client up before it is
deleted and saves it afterwards.  Everything has ended, no client has connected,
and the client is back. -/
theorem deletion_undone_by_teardown :
    ∃ start before config later,
      Run (program none).system Unrestricted
        (initial .empty 0 (PortDistributor.new ∅)) before start ∧
      Run (program none).system (NoNewStart "a") start later config ∧
      start.threads[1]? = some (.deleting ⟨"a", 1⟩ .checking) ∧
      config.threads[1]? = some (.deleted "a") ∧
      config.threads.all Thread.isEnded = true ∧
      config.shared.clientState.get "a" = some ⟨"a", 1⟩ ∧
      (config.shared.stored.get "a").isSome = true := by
  obtain ⟨start, before, first, outcome⟩ := Run.exists_unrestricted (program none).system
      (initial .empty 0 (PortDistributor.new ∅)) deletionBegins (fun outcome =>
        outcome.1.threads[1]?.any (Thread.beginsDeletion ⟨"a", 1⟩) &&
        (((program none).system.execute outcome.1 teardownLast).any undone &&
          decide ((program none).system.AdmitsAlong (NoNewStart "a") outcome.1 teardownLast)))
      (by decide +kernel)
  simp only [Bool.and_eq_true, decide_eq_true_eq] at outcome
  obtain ⟨begins, passed, admitted⟩ := outcome
  obtain ⟨config, later, run, ended⟩ :=
    Run.exists_ofExecute (program none).system (NoNewStart "a") start
      teardownLast undone passed admitted
  simp only [undone, Bool.and_eq_true, decide_eq_true_eq] at ended
  exact ⟨start, before, config, later, first, run,
    eq_of_beginsDeletion begins, eq_of_isDeleted ended.1, ended.2⟩

end ProxiPort.Clients
