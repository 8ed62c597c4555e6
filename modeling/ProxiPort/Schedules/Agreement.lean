import ProxiPort.Schedules.Manager

/-!
# The cron entries and the stored schedules

A call that changes a schedule is pending on its id from its database statement
to its last change of the cron entries.  Nothing keeps two calls from being
pending on one id, `Update` does not look whether there is a row, and a call
that fails after its statement leaves the two stores apart.
-/

namespace ProxiPort.Schedules

open Concurrency List Keyed

def Manager.live (manager : Manager) (id : String) : List String :=
  (manager.cron.cron.entries.filter fun entry => entry.id = id).map Entry.schedule

def Manager.stored (manager : Manager) (id : String) : Option String :=
  (manager.schedules.get id).map Schedule.schedule

/-- The id whose entry the call still has to bring in line with the row. -/
def Thread.pending : Thread → Option String
  | .addCron schedule _ => some schedule.id
  | .removeCron id _ | .deleteJobs id | .deleteMultiJobs id => some id
  | _ => none

def Settled (config : Config Manager Thread) (id : String) : Prop :=
  ∀ thread ∈ config.threads, thread.pending ≠ some id

instance (config : Config Manager Thread) (id : String) : Decidable (Settled config id) :=
  inferInstanceAs (Decidable (∀ thread ∈ config.threads, thread.pending ≠ some id))

/-- The condition on a step: a statement changes the row of an id only while no
call is pending on the id, an update finds its row, and nothing fails from a
call's statement to its last change of the cron entries. -/
def InTurn (config : Config Manager Thread) (thread : Thread) (choice : Choice) : Prop :=
  match thread, choice with
  | .insert schedule, .proceed =>
    config.shared.schedules.get schedule.id = none → Settled config schedule.id
  | .updateRow schedule, .proceed =>
    config.shared.schedules.get schedule.id ≠ none ∧ Settled config schedule.id
  | .deleteRow id, .proceed =>
    config.shared.schedules.get id ≠ none → Settled config id
  | .deleteRow id, .rowsAffectedFails _ =>
    config.shared.schedules.get id = none
  | .addCron .., .fails _ | .deleteJobs _, .fails _
  | .deleteMultiJobs _, .fails _ => False
  | _, _ => True

instance (config : Config Manager Thread) (thread : Thread)
    (choice : Choice) : Decidable (InTurn config thread choice) :=
  match thread, choice with
  | .insert schedule, .proceed =>
    inferInstanceAs (Decidable (config.shared.schedules.get schedule.id = none →
        Settled config schedule.id))
  | .updateRow schedule, .proceed =>
    inferInstanceAs (Decidable (config.shared.schedules.get schedule.id ≠ none ∧
        Settled config schedule.id))
  | .deleteRow id, .proceed =>
    inferInstanceAs (Decidable (config.shared.schedules.get id ≠ none → Settled config id))
  | .deleteRow id, .rowsAffectedFails _ =>
    inferInstanceAs (Decidable (config.shared.schedules.get id = none))
  | .addCron .., .fails _ | .deleteJobs _, .fails _
  | .deleteMultiJobs _, .fails _ => .isFalse not_false
  | .insert _, .drawn .. | .insert _, .fails _
  | .insert _, .rowsAffectedFails _ | .updateRow _, .drawn ..
  | .updateRow _, .fails _ | .updateRow _, .rowsAffectedFails _
  | .deleteRow _, .drawn .. | .deleteRow _, .fails _
  | .addCron .., .proceed | .addCron .., .drawn ..
  | .addCron .., .rowsAffectedFails _ | .deleteJobs _, .proceed
  | .deleteJobs _, .drawn .. | .deleteJobs _, .rowsAffectedFails _
  | .deleteMultiJobs _, .proceed | .deleteMultiJobs _, .drawn ..
  | .deleteMultiJobs _, .rowsAffectedFails _ | .create .., _
  | .removeCron .., _ | .readBack _, _ | .returned _, _ => .isTrue trivial

namespace CronImplementation

def Mapped (implementation : CronImplementation) : Prop :=
  ∀ id, (implementation.cron.entries.filter fun entry => entry.id = id).map
    Entry.entryID = (implementation.mapping id).toList

variable {implementation after : CronImplementation} {parsers : Parsers}
  {id other schedule : String}

theorem entries_remove (mapped : implementation.Mapped) (id other : String) :
    ((implementation.remove id).cron.entries.filter fun entry => entry.id = other) =
    if other = id then []
    else implementation.cron.entries.filter fun entry => entry.id = other := by
  have known : ∀ entry ∈ implementation.cron.entries,
      implementation.mapping entry.id = some entry.entryID := by
    intro entry member
    have kept : entry.entryID ∈ (implementation.cron.entries.filter
        fun candidate => candidate.id = entry.id).map Entry.entryID :=
      mem_map_of_mem (mem_filter.mpr ⟨member, by simp⟩)
    rw [mapped entry.id, Option.mem_toList] at kept
    exact kept
  split
  · rename_i same
    subst same
    rw [filter_eq_nil_iff]
    intro entry left
    have ⟨member, different⟩ := mem_filter.mp left
    simp only [decide_eq_true_eq] at different ⊢
    rintro rfl
    rw [known entry member] at different
    exact different rfl
  · rename_i apart
    simp only [remove, Cron.remove, filter_filter]
    refine filter_congr fun entry member => ?_
    by_cases same : entry.id = other
    · -- the removed number is that of another id, or zero
      have different : entry.entryID ≠ (implementation.mapping id).getD 0 := by
        intro equal
        cases found : implementation.mapping id with
        | none =>
          rw [found, Option.getD_none] at equal
          have positive := (implementation.cron.issued entry member).1
          omega
        | some number =>
          rw [found, Option.getD_some] at equal
          have listed := mapped id
          rw [found] at listed
          have present : number ∈ (implementation.cron.entries.filter
              fun candidate => candidate.id = id).map Entry.entryID := by
            rw [listed]
            exact mem_singleton_self number
          obtain ⟨candidate, inside, numbered⟩ := mem_map.mp present
          obtain ⟨candidateMember, candidateOf⟩ := mem_filter.mp inside
          have identical := inj_on_of_nodup_map implementation.cron.distinct candidateMember member
            (numbered.trans equal.symm)
          subst identical
          exact apart (same.symm.trans (of_decide_eq_true candidateOf))
      simp [same, different]
    · simp [same]

theorem mapped_remove (mapped : implementation.Mapped) : (implementation.remove id).Mapped := by
  intro other
  rw [entries_remove mapped]
  split
  · rename_i same
    subst same
    simp [remove]
  · rename_i apart
    simp only [mapped other, remove, Function.update_of_ne apart]

theorem entries_add (added : implementation.add parsers id schedule = .ok after) (other : String) :
    (after.cron.entries.filter fun entry => entry.id = other) =
      (implementation.cron.entries.filter fun entry => entry.id = other) ++
        if other = id then
          [⟨implementation.cron.nextID + 1, id, schedule⟩] else [] := by
  unfold add at added
  split at added
  · cases added
  · cases added
    simp only [Cron.schedule, filter_append]
    congr 1
    split
    · rename_i same
      simp [same]
    · rename_i apart
      simp [Ne.symm apart]

theorem mapped_add (added : implementation.add parsers id schedule = .ok after)
    (mapped : implementation.Mapped) (absent : (implementation.cron.entries.filter
      fun entry => entry.id = id) = []) : after.Mapped := by
  intro other
  rw [entries_add added]
  unfold add at added
  split at added
  · cases added
  · cases added
    split
    · rename_i same
      subst same
      simp [absent, Cron.schedule]
    · rename_i apart
      rw [append_nil, mapped other]
      simp [Function.update_of_ne apart]

end CronImplementation

variable {parsers : Parsers} {manager next : Manager}
  {config : Config Manager Thread} {thread after : Thread} {id : String}

theorem length_live_le_one (mapped : manager.cron.Mapped) (id : String) :
    (manager.live id).length ≤ 1 := by
  have counted := congrArg List.length (mapped id)
  rw [length_map] at counted
  rw [Manager.live, length_map, counted]
  exact Option.length_toList_le

theorem addAll_sound {rows : List Schedule} {before final : CronImplementation}
    (added : addAll parsers rows before = .ok final)
    (distinct : (rows.map Schedule.id).Nodup) (mapped : before.Mapped) (absent : ∀ row ∈ rows,
      (before.cron.entries.filter fun entry => entry.id = row.id) = []) :
    final.Mapped ∧ ∀ id, ((final.cron.entries.filter fun entry => entry.id = id).map
        Entry.schedule) =
      ((before.cron.entries.filter fun entry => entry.id = id).map Entry.schedule) ++
      ((lookup Schedule.id id rows).map Schedule.schedule).toList := by
  induction rows generalizing before with
  | nil =>
    cases added
    exact ⟨mapped, fun id => (append_nil _).symm⟩
  | cons row rows induction =>
    unfold addAll at added
    split at added
    · cases added
    · rename_i middle first
      obtain ⟨fresh, others⟩ := nodup_cons.mp distinct
      have apart : ∀ later ∈ rows, later.id ≠ row.id := by
        intro later member same
        exact fresh (same ▸ mem_map_of_mem member)
      have mappedMiddle := CronImplementation.mapped_add first mapped (absent row mem_cons_self)
      obtain ⟨mappedFinal, listed⟩ := induction added others mappedMiddle fun later member => by
          rw [CronImplementation.entries_add first, if_neg (apart later member), append_nil]
          exact absent later (mem_cons_of_mem _ member)
      refine ⟨mappedFinal, fun id => ?_⟩
      rw [listed id, CronImplementation.entries_add first]
      by_cases same : id = row.id
      · have gone : Keyed.lookup Schedule.id id rows = none :=
          Keyed.lookup_eq_none_iff.mpr fun later member => by
            rw [same]
            exact apart later member
        rw [if_pos same, gone, same]
        simp [Keyed.lookup]
      · have skipped : Keyed.lookup Schedule.id id (row :: rows) =
            Keyed.lookup Schedule.id id rows := by
          simp [Keyed.lookup, Ne.symm same]
        rw [if_neg same, skipped, append_nil]

def Thread.Holds (parsers : Parsers) (manager : Manager) : Thread → Prop
  | .insert schedule | .updateRow schedule =>
    parsers.cronError schedule.schedule = none
  | .addCron schedule _ =>
    parsers.cronError schedule.schedule = none ∧
      manager.stored schedule.id = some schedule.schedule ∧
      manager.live schedule.id = []
  | .removeCron id (some schedule) =>
    parsers.cronError schedule.schedule = none ∧ schedule.id = id ∧
      manager.stored id = some schedule.schedule
  | .removeCron id none | .deleteJobs id | .deleteMultiJobs id =>
    manager.stored id = none
  | _ => True

structure Sound (parsers : Parsers) (config : Config Manager Thread) :
    Prop where
  mapped : config.shared.cron.Mapped
  alone : ∀ id, (config.threads.countP fun thread =>
    thread.pending = some id) ≤ 1
  holds : ∀ thread ∈ config.threads, thread.Holds parsers config.shared
  agree : ∀ id, Settled config id → config.shared.live id = (config.shared.stored id).toList

def SameAt (manager next : Manager) (id : String) : Prop :=
  next.live id = manager.live id ∧ next.stored id = manager.stored id

theorem Thread.Holds.frame (held : thread.Holds parsers manager)
    (same : ∀ id, thread.pending = some id → SameAt manager next id) :
    thread.Holds parsers next := by
  cases thread with
  | addCron schedule created =>
    obtain ⟨accepted, stored, absent⟩ := held
    obtain ⟨liveSame, storedSame⟩ := same _ rfl
    exact ⟨accepted, storedSame.trans stored, liveSame.trans absent⟩
  | removeCron id replacement =>
    obtain ⟨-, storedSame⟩ := same _ rfl
    cases replacement with
    | none => exact storedSame.trans held
    | some schedule =>
      exact ⟨held.1, held.2.1, storedSame.trans held.2.2⟩
  | deleteJobs | deleteMultiJobs => exact (same _ rfl).2.trans held
  | insert | updateRow => exact held
  | create | readBack | deleteRow | returned => trivial

section

variable {index : Nat} (sound : Sound parsers config)
  (found : config.threads[index]? = some thread)

include sound found

theorem Sound.pending_ne {place : Nat} {other : Thread}
    (pending : thread.pending = some id) (apart : place ≠ index)
    (elsewhere : config.threads[place]? = some other) : other.pending ≠ some id := by
  intro both
  -- Without the pending call at `index` there is none left to count.
  have counted := Program.countP_set found (.returned .deleted)
    fun thread => thread.pending = some id
  have once := sound.alone id
  have ended : (Thread.returned .deleted).pending = none := rfl
  simp only [pending, ended, decide_true, if_true, reduceCtorEq,
    decide_false, Bool.false_eq_true, if_false] at counted
  have present : 0 < (config.threads.set index
      (.returned .deleted)).countP fun thread => thread.pending = some id := by
    rw [countP_pos_iff]
    refine ⟨other, List.mem_of_getElem? (i := place) ?_, by simp [both]⟩
    rw [List.getElem?_set_ne (Ne.symm apart), elsewhere]
  omega

theorem Sound.advance (turn : thread.pending = some id ∨
      thread.pending = none ∧ Settled config id) (mapped : next.cron.Mapped)
    (others : ∀ other, other ≠ id → SameAt config.shared next other)
    (own : ∀ other, after.pending = some other → other = id)
    (held : after.Holds parsers next)
    (done : after.pending = none → next.live id = (next.stored id).toList) :
    Sound parsers ⟨next, config.threads.set index after⟩ where
  mapped := mapped
  alone := by
    intro other
    dsimp only
    have counted := Program.countP_set found after fun thread => thread.pending = some other
    have once := sound.alone other
    by_cases same : other = id
    · subst same
      rcases turn with pending | ⟨-, settled⟩
      · simp only [pending, decide_true, if_true] at counted
        split at counted <;> omega
      · have none : (config.threads.countP fun thread =>
            thread.pending = some other) = 0 :=
          countP_eq_zero.mpr fun thread member => by
            simpa using settled thread member
        rw [none] at counted
        split at counted <;> split at counted <;> omega
    · have foreign : after.pending ≠ some other := fun pending => same (own other pending)
      simp only [foreign, decide_false, Bool.false_eq_true, if_false, Nat.add_zero] at counted
      omega
  holds := by
    intro candidate member
    obtain ⟨place, placed⟩ := List.mem_iff_getElem?.mp member
    rcases getElem?_set_cases placed with ⟨-, rfl⟩ | ⟨apart, elsewhere⟩
    · exact held
    · have known := List.mem_of_getElem? elsewhere
      refine (sound.holds candidate known).frame fun other pending =>
        others other ?_
      rintro rfl
      rcases turn with mine | ⟨-, settled⟩
      · exact sound.pending_ne found mine apart elsewhere pending
      · exact settled candidate known pending
  agree := by
    intro other settled
    by_cases same : other = id
    · subst same
      apply done
      cases waiting : after.pending with
      | none => rfl
      | some mine =>
        cases own mine waiting
        exact absurd waiting (settled after (mem_set (List.getElem?_eq_some_iff.mp found).1 after))
    · obtain ⟨liveSame, storedSame⟩ := others other same
      rw [liveSame, storedSame]
      apply sound.agree
      intro candidate member pending
      refine settled candidate (mem_set_of_ne found member ?_ after) pending
      rintro rfl
      rcases turn with mine | ⟨idle, -⟩
      · exact same (Option.some.inj (pending.symm.trans mine))
      · cases idle.symm.trans pending

theorem Sound.stay (idle : thread.pending = none)
    (still : after.pending = none) (held : after.Holds parsers config.shared) :
    Sound parsers ⟨config.shared, config.threads.set index after⟩ where
  mapped := sound.mapped
  alone := by
    intro other
    have counted := Program.countP_set found after fun thread => thread.pending = some other
    simp only [idle, still, reduceCtorEq, decide_false, Bool.false_eq_true,
      if_false, Nat.add_zero] at counted
    exact counted ▸ sound.alone other
  holds := forall_mem_set sound.holds held
  agree := by
    intro other settled
    apply sound.agree
    intro candidate member pending
    refine settled candidate (mem_set_of_ne found member ?_ after) pending
    rintro rfl
    cases idle.symm.trans pending

end

theorem stored_put_self (manager : Manager) (row : Schedule) :
    Manager.stored ⟨manager.schedules.put row, manager.cron⟩ row.id = some row.schedule := by
  simp [Manager.stored]

theorem sameAt_put (manager : Manager) (row : Schedule) {other : String} (apart : other ≠ row.id) :
    SameAt manager ⟨manager.schedules.put row, manager.cron⟩ other := by
  refine ⟨rfl, ?_⟩
  simp only [Manager.stored, Table.get_put_of_ne apart]

theorem live_cronRemove (mapped : manager.cron.Mapped) (id other : String) :
    Manager.live ⟨manager.schedules, manager.cron.remove id⟩ other =
      if other = id then [] else manager.live other := by
  simp only [Manager.live, CronImplementation.entries_remove mapped]
  split
  · rfl
  · rfl

theorem live_cronAdd {cron : CronImplementation} {schedule : String}
    (added : manager.cron.add parsers id schedule = .ok cron) (other : String) :
    Manager.live ⟨manager.schedules, cron⟩ other =
      manager.live other ++ if other = id then [schedule] else [] := by
  simp only [Manager.live, CronImplementation.entries_add added, map_append]
  congr 1
  split
  · rfl
  · rfl

section Steps

variable {index : Nat} {choice : Choice} {shown : List Empty}
  {schedule : Schedule}

namespace Sound

variable (sound : Sound parsers config)
include sound

theorem insert (found : config.threads[index]? = some (.insert schedule))
    (turn : InTurn config (.insert schedule) choice)
    (ran : atomic parsers config.shared (.insert schedule) choice = some (next, after, shown)) :
    Sound parsers ⟨next, config.threads.set index after⟩ := by
  have accepted := sound.holds _ (List.mem_of_getElem? found)
  cases choice with
  | proceed =>
    simp only [atomic] at ran
    split at ran
    · cases ran
      exact sound.stay found rfl rfl trivial
    · rename_i fresh
      cases ran
      have absent := Option.not_isSome_iff_eq_none.mp fresh
      have settled := turn absent
      have unlisted : config.shared.live schedule.id = [] := by
        rw [sound.agree _ settled, Manager.stored, absent]
        rfl
      exact sound.advance found (.inr ⟨rfl, settled⟩) sound.mapped
        (fun other apart => sameAt_put config.shared schedule apart)
        (fun other pending => (Option.some.inj pending).symm)
        ⟨accepted, stored_put_self config.shared schedule, unlisted⟩ (fun idle => by cases idle)
  | fails err =>
    cases ran
    exact sound.stay found rfl rfl trivial
  | drawn | rowsAffectedFails => cases ran

theorem addCron {created : Bool} (found : config.threads[index]? = some (.addCron schedule created))
    (turn : InTurn config (.addCron schedule created) choice)
    (ran : atomic parsers config.shared (.addCron schedule created) choice =
      some (next, after, shown)) :
    Sound parsers ⟨next, config.threads.set index after⟩ := by
  obtain ⟨accepted, stored, absent⟩ := sound.holds _ (List.mem_of_getElem? found)
  cases choice with
  | proceed =>
    simp only [atomic] at ran
    split at ran
    · rename_i err failed
      rw [CronImplementation.add, accepted] at failed
      cases failed
    · rename_i cron added
      cases ran
      have quiet : Thread.pending (if created then
          .returned (.created schedule) else .readBack schedule.id) =
          none := by
        cases created <;> rfl
      refine sound.advance found (.inl rfl) (CronImplementation.mapped_add added sound.mapped
          (map_eq_nil_iff.mp absent)) ?_ ?_ ?_ ?_
      · intro other apart
        refine ⟨?_, rfl⟩
        rw [live_cronAdd added, if_neg apart, append_nil]
      · intro other pending
        cases quiet.symm.trans pending
      · cases created <;> trivial
      · intro _
        have kept : Manager.stored ⟨config.shared.schedules, cron⟩
            schedule.id = some schedule.schedule := stored
        rw [live_cronAdd added, if_pos rfl, absent, kept]
        rfl
  | fails err => exact turn.elim
  | drawn | rowsAffectedFails => cases ran

theorem updateRow (found : config.threads[index]? = some (.updateRow schedule))
    (turn : InTurn config (.updateRow schedule) choice)
    (ran : atomic parsers config.shared (.updateRow schedule) choice = some (next, after, shown)) :
    Sound parsers ⟨next, config.threads.set index after⟩ := by
  have accepted := sound.holds _ (List.mem_of_getElem? found)
  cases choice with
  | proceed =>
    cases ran
    obtain ⟨present, settled⟩ := turn
    obtain ⟨row, known⟩ := Option.ne_none_iff_exists'.mp present
    have same : (row.updatedBy schedule).id = schedule.id := (Table.get_eq_some_iff.mp known).2
    have updated : config.shared.updateRow schedule =
        ⟨config.shared.schedules.put (row.updatedBy schedule), config.shared.cron⟩ := by
      rw [Manager.updateRow, known]
    have stored := stored_put_self config.shared (row.updatedBy schedule)
    rw [same] at stored
    rw [updated]
    exact sound.advance found (.inr ⟨rfl, settled⟩) sound.mapped
      (fun other apart => sameAt_put config.shared _ (same ▸ apart))
      (fun other pending => (Option.some.inj pending).symm)
      ⟨accepted, rfl, stored⟩ (fun idle => by cases idle)
  | fails err =>
    cases ran
    exact sound.stay found rfl rfl trivial
  | drawn | rowsAffectedFails => cases ran

theorem removeCron {replacement : Option Schedule}
    (found : config.threads[index]? = some (.removeCron id replacement))
    (ran : atomic parsers config.shared (.removeCron id replacement) choice =
      some (next, after, shown)) :
    Sound parsers ⟨next, config.threads.set index after⟩ := by
  have held := sound.holds _ (List.mem_of_getElem? found)
  have cleared : Manager.live ⟨config.shared.schedules, config.shared.cron.remove id⟩ id = [] := by
    rw [live_cronRemove sound.mapped, if_pos rfl]
  have others : ∀ other, other ≠ id → SameAt config.shared
      ⟨config.shared.schedules, config.shared.cron.remove id⟩ other := by
    intro other apart
    refine ⟨?_, rfl⟩
    rw [live_cronRemove sound.mapped, if_neg apart]
  have mapped : (config.shared.cron.remove id).Mapped :=
    CronImplementation.mapped_remove sound.mapped
  cases choice with
  | proceed =>
    cases replacement with
    | none =>
      cases ran
      have gone : Manager.stored ⟨config.shared.schedules,
          config.shared.cron.remove id⟩ id = none := held
      refine sound.advance found (.inl rfl) mapped others
        (fun other pending => by cases pending) trivial ?_
      intro _
      rw [cleared, gone]
      rfl
    | some schedule =>
      cases ran
      obtain ⟨accepted, same, stored⟩ := held
      subst same
      exact sound.advance found (.inl rfl) mapped others
        (fun other pending => (Option.some.inj pending).symm)
        ⟨accepted, stored, cleared⟩ (fun idle => by cases idle)
  | fails | drawn | rowsAffectedFails => cases ran

theorem deleteRow (found : config.threads[index]? = some (.deleteRow id))
    (turn : InTurn config (.deleteRow id) choice)
    (ran : atomic parsers config.shared (.deleteRow id) choice = some (next, after, shown)) :
    Sound parsers ⟨next, config.threads.set index after⟩ := by
  cases choice with
  | proceed =>
    simp only [atomic] at ran
    split at ran
    · cases ran
      exact sound.stay found rfl rfl trivial
    · rename_i present
      cases ran
      have settled := turn fun absent => present (by rw [absent]; rfl)
      exact sound.advance found (.inr ⟨rfl, settled⟩) sound.mapped (fun other apart => ⟨rfl, by
          simp only [Manager.stored, Table.get_remove_of_ne apart]⟩)
        (fun other pending => (Option.some.inj pending).symm)
        (by simp [Thread.Holds, Manager.stored]) (fun idle => by cases idle)
  | rowsAffectedFails err =>
    cases ran
    rw [Table.remove_of_get_eq_none turn]
    exact sound.stay found rfl rfl trivial
  | fails err =>
    cases ran
    exact sound.stay found rfl rfl trivial
  | drawn => cases ran

theorem atomic (found : config.threads[index]? = some thread) (turn : InTurn config thread choice)
    (ran : Schedules.atomic parsers config.shared thread choice = some (next, after, shown)) :
    Sound parsers ⟨next, config.threads.set index after⟩ := by
  cases thread with
  | create schedule user =>
    cases choice with
    | drawn id now =>
      simp only [Schedules.atomic] at ran
      split at ran
      · cases ran
        exact sound.stay found rfl rfl trivial
      · rename_i accepted
        cases ran
        exact sound.stay found rfl rfl (cronError_of_validate accepted)
    | fails err =>
      cases ran
      exact sound.stay found rfl rfl trivial
    | proceed | rowsAffectedFails => cases ran
  | insert schedule => exact sound.insert found turn ran
  | addCron schedule created => exact sound.addCron found turn ran
  | updateRow schedule => exact sound.updateRow found turn ran
  | removeCron id replacement => exact sound.removeCron found ran
  | deleteRow id => exact sound.deleteRow found turn ran
  | readBack id =>
    cases choice with
    | proceed | fails err =>
      cases ran
      exact sound.stay found rfl rfl trivial
    | drawn | rowsAffectedFails => cases ran
  | deleteJobs id | deleteMultiJobs id =>
    have gone := sound.holds _ (List.mem_of_getElem? found)
    cases choice with
    | proceed =>
      cases ran
      exact sound.advance found (.inl rfl) sound.mapped (fun _ _ => ⟨rfl, rfl⟩)
        (fun _ same => (Option.some.inj same).symm) gone (fun idle => by cases idle)
    | fails err => exact turn.elim
    | drawn | rowsAffectedFails => cases ran
  | returned result => cases choice <;> cases ran

theorem spawn {entered : Thread} (idle : entered.pending = none)
    (held : entered.Holds parsers config.shared) :
    Sound parsers ⟨config.shared, config.threads ++ [entered]⟩ where
  mapped := sound.mapped
  alone := by
    intro id
    have once := sound.alone id
    simpa [countP_append, idle] using once
  holds := forall_mem_concat sound.holds held
  agree := by
    intro id settled
    exact sound.agree id fun candidate member =>
      settled candidate (mem_append_left _ member)

end Sound

theorem enter_idle (parsers : Parsers) (manager : Manager) (call : Call) :
    (enter parsers call).pending = none ∧ (enter parsers call).Holds parsers manager := by
  cases call with
  | create | delete => exact ⟨rfl, trivial⟩
  | update id schedule =>
    simp only [enter]
    split
    · exact ⟨rfl, trivial⟩
    · rename_i accepted
      exact ⟨rfl, cronError_of_validate accepted⟩

end Steps

theorem Sound.initial {schedules : Table Schedule.id}
    (started : Manager.new parsers schedules = .ok manager) : Sound parsers manager.idle := by
  unfold Manager.new at started
  split at started
  · cases started
  · rename_i cron added
    cases started
    obtain ⟨mapped, listed⟩ := addAll_sound added schedules.distinct (fun _ => rfl) (fun _ _ => rfl)
    exact ⟨mapped, fun _ => Nat.zero_le _, forall_mem_nil _, fun id _ => listed id⟩

def Thread.isReturned : Thread → Bool
  | .returned _ => true
  | _ => false

/-- From any stored schedules, in every run whose steps are in turn: no
schedule id ever has two live cron entries, and whenever every call has
returned, the live entries of an id are exactly the stored expression. -/
theorem cron_agrees_with_schedules {schedules : Table Schedule.id}
    (started : Manager.new parsers schedules = .ok manager) {history : List Empty}
    (run : Run (program parsers).system (OnAdvance InTurn) manager.idle history config) :
    (∀ id, (config.shared.live id).length ≤ 1) ∧
      ((∀ thread ∈ config.threads, thread.isReturned = true) →
        ∀ id, config.shared.live id = (config.shared.stored id).toList) := by
  have sound : Sound parsers config := by
    refine run.stateInvariant _ (.initial started) ?_
    intro shown before next input kept admitted stepped
    cases Program.step_cases stepped with
    | spawn call =>
      obtain ⟨idle, held⟩ := enter_idle parsers before.shared call
      exact kept.spawn idle held
    | advance found ran =>
      exact kept.atomic found (admitted.condition found) ran
    | @environment event => cases event
  refine ⟨length_live_le_one sound.mapped, fun returned id => ?_⟩
  apply sound.agree
  intro thread member pending
  have finished := returned thread member
  cases thread with
  | returned result => cases pending
  | _ => cases finished

def accepting : Parsers := ⟨fun _ => none, fun _ => "illegal base64 data at input byte 0"⟩

def everyMinute : Schedule :=
  { id := "a"
    createdAt := 0
    createdBy := "admin"
    name := "clean up"
    schedule := "* * * * *"
    type := typeCommand
    details :=
      { clientIDs := ["c"]
        groupIDs := []
        command := "date"
        script := ""
        interpreter := ""
        cwd := ""
        isSudo := false
        timeoutSec := 60
        executeConcurrently := false
        abortOnError := none
        overlaps := false } }

def everyHour : Schedule :=
  { everyMinute with schedule := "0 * * * *" }

def storedOne : Table Schedule.id := Table.empty.put everyMinute

def loaded : CronImplementation :=
  ⟨Cron.new.schedule "a" "* * * * *",
    Function.update (fun _ => none) "a" (some 1)⟩

def inSequence : List (Move Call Choice Empty) :=
  [.spawn (.update "a" everyHour), .advance 0 .proceed, .advance 0 .proceed,
    .advance 0 .proceed, .advance 0 .proceed, .spawn (.create everyMinute "b"),
    .advance 1 (.drawn "b" 5), .advance 1 .proceed, .advance 1 .proceed]

def allReturned (config : Config Manager Thread) : Bool := config.threads.all Thread.isReturned

def bothListed (outcome : Config Manager Thread × List Empty) : Bool :=
  allReturned outcome.1 && outcome.1.shared.stored "a" = some "0 * * * *" &&
    outcome.1.shared.stored "b" = some "* * * * *"

theorem cron_agrees_with_schedules_inSequence :
    ∃ manager config history,
      Manager.new accepting storedOne = .ok manager ∧
      Run (program accepting).system (OnAdvance InTurn) manager.idle history config ∧
      config.shared.live "a" = ["0 * * * *"] ∧
      config.shared.live "b" = ["* * * * *"] := by
  have started : Manager.new accepting storedOne = .ok ⟨storedOne, loaded⟩ := rfl
  obtain ⟨config, history, run, check⟩ := Run.exists_ofExecute
    (program accepting).system (OnAdvance InTurn)
    (Manager.idle ⟨storedOne, loaded⟩) inSequence bothListed (by decide +kernel) (by decide +kernel)
  simp only [bothListed, allReturned, Bool.and_eq_true, all_eq_true, decide_eq_true_eq] at check
  obtain ⟨⟨returned, first⟩, second⟩ := check
  have agrees := (cron_agrees_with_schedules started run).2 returned
  refine ⟨_, config, history, started, run, ?_, ?_⟩
  · rw [agrees, first]
    rfl
  · rw [agrees, second]
    rfl

def interleaved : List (Move Call Choice Empty) :=
  [.spawn (.update "a" everyHour), .spawn (.update "a" everyHour),
    .advance 0 .proceed, .advance 1 .proceed, .advance 0 .proceed,
    .advance 1 .proceed, .advance 0 .proceed, .advance 1 .proceed,
    .advance 0 .proceed, .advance 1 .proceed]

def listedTwice (outcome : Config Manager Thread × List Empty) : Bool :=
  allReturned outcome.1 &&
    outcome.1.shared.live "a" = ["0 * * * *", "0 * * * *"]

/-- The second `Add` forgets the entry of the first, which then stays. -/
theorem cron_entry_left_behind :
    ∃ manager config history,
      Manager.new accepting storedOne = .ok manager ∧
      Run (program accepting).system Unrestricted manager.idle history config ∧
      (∀ thread ∈ config.threads, thread.isReturned = true) ∧
      (config.shared.live "a").length = 2 := by
  have started : Manager.new accepting storedOne = .ok ⟨storedOne, loaded⟩ := rfl
  obtain ⟨config, history, run, check⟩ := Run.exists_unrestricted
    (program accepting).system (Manager.idle ⟨storedOne, loaded⟩) interleaved
    listedTwice (by decide +kernel)
  simp only [listedTwice, allReturned, Bool.and_eq_true, all_eq_true, decide_eq_true_eq] at check
  refine ⟨_, config, history, started, run, check.1, ?_⟩
  rw [check.2]
  rfl

end ProxiPort.Schedules
