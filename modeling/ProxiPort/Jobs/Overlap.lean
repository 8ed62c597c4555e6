import ProxiPort.Jobs.MultiJob
import ProxiPort.Jobs.ResultKept

/-!
# Schedules that must not overlap

Before it starts a run, the tick of a schedule counts the rows of its unfinished
jobs.  A run has no such row before its first job is inserted and between two jobs
of a sequential run, and between the count and the start anything can happen.
-/

namespace ProxiPort.MultiJobs

open Concurrency Jobs List Keyed

def Dispatch.isOpen : Dispatch → Bool
  | .starting _ _ => true
  | .under _ (.creating _ _ _) | .under _ (.dispatched _ _) => false
  | .under _ _ => true

def Execution.clientsLeft (execution : Execution) : Bool :=
  match execution.phase with
  | .opening => 0 < execution.orderedClients.length
  | .next k => k < execution.orderedClients.length
  | .dispatching k dispatch =>
    dispatch.isOpen || k + 1 < execution.orderedClients.length
  | .waiting k _ => k + 1 < execution.orderedClients.length
  | .closing | .ended => false

/-- A run has clients left to dispatch to, itself or in its goroutines, or a
command of it is running on a client. -/
def Active (state : State) (execution : Execution) : Prop :=
  execution.clientsLeft = true ∨
    (∃ goroutine ∈ state.goroutines,
      goroutine.job.jid = execution.jid ∧ goroutine.dispatch.isOpen = true) ∨
    ∃ job ∈ state.running, job.multiJobID = some execution.jid

instance (state : State) (execution : Execution) : Decidable (Active state execution) :=
  inferInstanceAs (Decidable (_ ∨ _ ∨ _))

def Young (now : Time) (job : MultiJob) : Prop := now - job.startedAt < job.timeoutSec * 1000000000

instance (now : Time) (job : MultiJob) : Decidable (Young now job) :=
  inferInstanceAs (Decidable (_ < _))

def Busy (state : State) (id : String) : Prop :=
  ∃ execution ∈ state.executions.entries,
    execution.job.scheduleID = some id ∧ Young state.now execution.job ∧ Active state execution

instance (state : State) (id : String) : Decidable (Busy state id) :=
  inferInstanceAs (Decidable (∃ execution ∈ _, _ ∧ _ ∧ _))

def Starter.counts : Starter → Option Schedule
  | .counting schedule => some schedule
  | .fetching _ | .starting _ | .done _ => none

def Starter.passed : Starter → Option String
  | .starting request => request.scheduleID
  | .fetching _ | .counting _ | .done _ => none

/-- When the jobs of a schedule are counted, no other tick of it is past its
count; and if a run of the schedule is going on, one of the rows is in
progress. -/
def Counted (settings : Settings) (state : State) : Input → Prop
  | .start index _ => ∀ schedule ∈ state.starters[index]?.bind Starter.counts,
      (∀ starter ∈ state.starters, starter.passed ≠ some schedule.id) ∧
      (Busy state schedule.id → ∃ row ∈ state.shared.database.jobs.entries,
          inProgress state.shared.database schedule.id
            (settings.timeoutSec schedule.timeoutSec) state.now row = true)
  | .tick _ | .request _ | .execute _ _ _ | .dispatch _ _ _ | .report _ _
  | .message _ _ | .wait _ | .forget _ => True

section Dispatches

variable {settings : Settings} {shared after : Shared} {now : Time}
  {job : MultiJob} {client : Target} {choice : Choice}
  {dispatch later : Dispatch} {jid : String}

theorem dispatchStep_isOpen (carried : dispatch.IsFor job jid)
    (stepped : dispatchStep settings shared now job client choice dispatch =
      some (after, later)) (isOpen : later.isOpen = true) :
    dispatch.isOpen = true := by
  cases dispatch with
  | starting own clientID => rfl
  | under known thread =>
    simp only [dispatchStep] at stepped
    split at stepped
    · cases stepped
    · rename_i taken
      cases stepped
      cases thread with
      | creating origin curJob err =>
        simp only [atomic] at taken
        split at taken
        all_goals
          cases taken
          exact isOpen
      | dispatched curJob result => cases taken
      | _ => rfl

theorem accepted_isOpen (carried : later.IsFor job jid) {curJob : Job}
    (member : curJob ∈ accepted dispatch later) :
    dispatch.isOpen = true ∧ curJob.multiJobID = some job.jid := by
  rw [accepted.eq_def] at member
  split at member
  · cases mem_singleton.mp member
    exact ⟨rfl, carried.2⟩
  · cases member

end Dispatches

structure Owned (state : State) : Prop where
  dispatching : ∀ {jid execution k dispatch}, state.executions.get jid = some execution →
    execution.phase = .dispatching k dispatch →
    ∃ curJID, dispatch.IsFor execution.job curJID
  goroutines : ∀ goroutine ∈ state.goroutines,
    ∃ curJID, goroutine.dispatch.IsFor goroutine.job curJID

section Steps

variable {settings : Settings} {state after : State} {execution : Execution}
  {shown : List Event}

structure Moved (state : State) (execution : Execution) (phase : Phase)
    (after : State) : Prop where
  now : after.now = state.now
  executions : after.executions = state.executions.put { execution with phase := phase }
  left : Execution.clientsLeft { execution with phase := phase } = true →
    execution.clientsLeft = true
  dispatching : ∀ {k dispatch}, phase = .dispatching k dispatch →
    ∃ curJID, dispatch.IsFor execution.job curJID
  goroutines : ∀ goroutine ∈ after.goroutines, goroutine ∈ state.goroutines ∨
      execution.clientsLeft = true ∧ goroutine.job = execution.job ∧
        ∃ curJID, goroutine.dispatch.IsFor goroutine.job curJID
  running : ∀ job ∈ after.running, job ∈ state.running ∨
    execution.clientsLeft = true ∧ job.multiJobID = some execution.jid

variable {phase : Phase}

theorem Moved.of_phase (now : after.now = state.now) (executions : after.executions =
      state.executions.put { execution with phase := phase })
    (goroutines : after.goroutines = state.goroutines)
    (running : after.running = state.running)
    (left : Execution.clientsLeft { execution with phase := phase } = true →
      execution.clientsLeft = true)
    (dispatching : ∀ {k dispatch}, phase = .dispatching k dispatch →
      ∃ curJID, dispatch.IsFor execution.job curJID) :
    Moved state execution phase after where
  now := now
  executions := executions
  left := left
  dispatching := dispatching
  goroutines := fun _ member => .inl (goroutines ▸ member)
  running := fun _ member => .inl (running ▸ member)

theorem Execution.clientsLeft_next {k : Nat} {clientID : String} (here : execution.phase = .next k)
    (found : execution.orderedClients[k]? = some clientID) : execution.clientsLeft = true := by
  rw [Execution.clientsLeft, here]
  exact decide_eq_true (List.getElem?_eq_some_iff.mp found).1

theorem Execution.clientsLeft_dispatching {k : Nat} {dispatch : Dispatch}
    (here : execution.phase = .dispatching k dispatch) (left : dispatch.isOpen = true ∨
      k + 1 < execution.orderedClients.length) :
    execution.clientsLeft = true := by
  rw [Execution.clientsLeft, here]
  rcases left with isOpen | further
  · exact Bool.or_eq_true_iff.mpr (.inl isOpen)
  · exact Bool.or_eq_true_iff.mpr (.inr (decide_eq_true further))

theorem settle_clientsLeft (execution : Execution) (k : Nat) (known : Target)
    (curJob : Job) (err : Option String) (left : Execution.clientsLeft { execution with
      phase := (settle execution.job k known curJob err).1 } = true) :
    k + 1 < execution.orderedClients.length := by
  cases err with
  | none => exact of_decide_eq_true left
  | some err =>
    simp only [settle] at left
    split at left
    · cases left
    · exact of_decide_eq_true left

theorem settle_not_dispatching (job : MultiJob) (k : Nat) (known : Target)
    (curJob : Job) (err : Option String) (other : Nat) (dispatch : Dispatch) :
    (settle job k known curJob err).1 ≠ .dispatching other dispatch := by
  cases err with
  | none =>
    intro same
    cases same
  | some err =>
    simp only [settle]
    split
    all_goals
      intro same
      cases same

variable {choice : Choice} {client : Target}

theorem Looped.moved (owned : Owned state) {jid : String}
    (found : state.executions.get jid = some execution)
    (looped : Looped settings state execution client choice phase after
      shown) : Moved state execution phase after := by
  cases looped with
  | opensConcurrent here | opens here =>
    refine .of_phase rfl rfl rfl rfl ?_ (fun same => by cases same)
    intro left
    rw [Execution.clientsLeft, here]
    exact left
  | closes finished =>
    rw [State.close]
    split
    all_goals
      exact .of_phase rfl rfl rfl rfl (fun left => by cases left) (fun same => by cases same)
  | returns here left noID =>
    exact .of_phase rfl rfl rfl rfl (fun left => by cases left) (fun same => by cases same)
  | spawns here left concurrent fresh =>
    have before := Execution.clientsLeft_next here left
    rw [State.dispatchNext, if_pos concurrent]
    refine ⟨rfl, rfl, fun _ => before, (fun same => by cases same), ?_,
      fun job member => .inl member⟩
    exact forall_mem_concat (fun _ => .inl) (.inr ⟨before, rfl, _, rfl⟩)
  | dispatches here left sequential fresh =>
    have before := Execution.clientsLeft_next here left
    rw [State.dispatchNext, if_neg (by rw [sequential]; exact Bool.false_ne_true)]
    refine .of_phase rfl rfl rfl rfl (fun _ => before) ?_
    intro k dispatch same
    cases same
    exact ⟨_, rfl⟩
  | @advances k dispatch later shared here taken =>
    obtain ⟨curJID, carried⟩ := owned.dispatching found here
    have carriedOn := dispatchStep_isFor taken carried
    refine ⟨rfl, rfl, ?_, ?_, fun goroutine member => .inl member, ?_⟩
    · intro left
      apply Execution.clientsLeft_dispatching here
      rcases Bool.or_eq_true_iff.mp left with isOpen | further
      · exact .inl (dispatchStep_isOpen carried taken isOpen)
      · exact .inr (of_decide_eq_true further)
    · intro k dispatch same
      cases same
      exact ⟨curJID, carriedOn⟩
    · intro job member
      rcases mem_append.mp member with old | new
      · exact .inl old
      · obtain ⟨isOpen, own⟩ := accepted_isOpen carriedOn new
        exact .inr ⟨Execution.clientsLeft_dispatching here (.inl isOpen), own⟩
  | @settles k dispatch shared known curJob err here taken =>
    obtain ⟨curJID, carried⟩ := owned.dispatching found here
    have carriedOn := dispatchStep_isFor taken carried
    refine ⟨rfl, rfl, ?_, ?_, fun goroutine member => .inl member, ?_⟩
    · intro left
      exact Execution.clientsLeft_dispatching here
        (.inr (settle_clientsLeft execution k known curJob err left))
    · intro other dispatch same
      exact (settle_not_dispatching _ _ _ _ _ _ _ same).elim
    · intro job member
      rcases mem_append.mp member with old | new
      · exact .inl old
      · obtain ⟨isOpen, own⟩ := accepted_isOpen carriedOn new
        exact .inr ⟨Execution.clientsLeft_dispatching here (.inl isOpen), own⟩
  | @concludes k curJob jobResult rest channel here foundChannel first =>
    refine .of_phase rfl rfl rfl rfl ?_ ?_
    · intro left
      rw [Execution.clientsLeft, here]
      simp only [conclude] at left
      split at left
      · cases left
      · exact left
    · intro other dispatch same
      simp only [conclude] at same
      split at same
      all_goals cases same

/-- What a step leaves of the runs: one that is active afterwards is new or was
active before. -/
structure Continues (state after : State) (shown : List Event) : Prop where
  now : state.now ≤ after.now
  owned : Owned after
  active : ∀ {jid execution}, after.executions.get jid = some execution → Active after execution →
    .started execution.job ∈ shown ∨ ∃ earlier, state.executions.get jid = some earlier ∧
        earlier.job = execution.job ∧ Active state earlier

theorem Moved.continues (owned : Owned state) {jid : String}
    (found : state.executions.get jid = some execution)
    (moved : Moved state execution phase after) (shown : List Event) :
    Continues state after shown := by
  have here : execution.jid = jid := (Table.get_eq_some_iff.mp found).2
  subst here
  refine ⟨Int.le_of_eq moved.now.symm, ⟨?_, ?_⟩, ?_⟩
  · intro other known k dispatch foundKnown dispatching
    rw [moved.executions] at foundKnown
    rcases Table.get_put_cases foundKnown with ⟨rfl, rfl⟩ | ⟨_, there⟩
    · exact moved.dispatching dispatching
    · exact owned.dispatching there dispatching
  · intro goroutine member
    rcases moved.goroutines goroutine member with old | ⟨_, _, carried⟩
    · exact owned.goroutines goroutine old
    · exact carried
  · intro other known foundKnown active
    right
    rw [moved.executions] at foundKnown
    rcases Table.get_put_cases foundKnown with ⟨rfl, rfl⟩ | ⟨different, there⟩
    · refine ⟨execution, found, rfl, ?_⟩
      rcases active with left | ⟨goroutine, member, isOpen⟩ | ⟨job, member, own⟩
      · exact .inl (moved.left left)
      · rcases moved.goroutines goroutine member with old | ⟨left, _⟩
        · exact .inr (.inl ⟨goroutine, old, isOpen⟩)
        · exact .inl left
      · rcases moved.running job member with old | ⟨left, _⟩
        · exact .inr (.inr ⟨job, old, own⟩)
        · exact .inl left
    · -- What is new belongs to the run that has moved, not to this one.
      have named : known.jid = other := (Table.get_eq_some_iff.mp there).2
      refine ⟨known, there, rfl, ?_⟩
      rcases active with left | ⟨goroutine, member, own, isOpen⟩ | ⟨job, member, own⟩
      · exact .inl left
      · rcases moved.goroutines goroutine member with old | ⟨_, new, _⟩
        · exact .inr (.inl ⟨goroutine, old, own, isOpen⟩)
        · rw [new, named] at own
          exact (different own.symm).elim
      · rcases moved.running job member with old | ⟨_, new⟩
        · exact .inr (.inr ⟨job, old, own⟩)
        · rw [new, named] at own
          exact (different (Option.some.inj own).symm).elim

theorem Continues.of_frame (owned : Owned state) (now : state.now ≤ after.now)
    (executions : after.executions = state.executions)
    (goroutines : after.goroutines = state.goroutines) (running : after.running ⊆ state.running) :
    Continues state after shown := by
  refine ⟨now, ⟨?_, ?_⟩, ?_⟩
  · rw [executions]
    exact owned.dispatching
  · rw [goroutines]
    exact owned.goroutines
  · intro jid execution found active
    rw [executions] at found
    refine .inr ⟨execution, found, rfl, ?_⟩
    rcases active with left | ⟨goroutine, member, same⟩ | ⟨job, member, own⟩
    · exact .inl left
    · rw [goroutines] at member
      exact .inr (.inl ⟨goroutine, member, same⟩)
    · exact .inr (.inr ⟨job, running member, own⟩)

variable {index : Nat}

theorem goroutineStep_continues (owned : Owned state) {goroutine : Goroutine}
    (found : state.goroutines[index]? = some goroutine)
    (stepped : goroutineStep settings state index goroutine client choice =
      some (after, shown)) : Continues state after shown := by
  simp only [goroutineStep] at stepped
  split at stepped
  · cases stepped
  · rename_i shared later taken
    cases stepped
    have there := List.mem_of_getElem? found
    obtain ⟨curJID, carried⟩ := owned.goroutines goroutine there
    have carriedOn := dispatchStep_isFor taken carried
    refine ⟨Int.le_refl _, ⟨owned.dispatching, ?_⟩, ?_⟩
    · exact forall_mem_set owned.goroutines ⟨curJID, carriedOn⟩
    · intro jid execution foundExecution active
      refine .inr ⟨execution, foundExecution, rfl, ?_⟩
      rcases active with left | ⟨other, member, own, isOpen⟩ | ⟨job, member, own⟩
      · exact .inl left
      · rcases mem_or_eq_of_mem_set member with old | rfl
        · exact .inr (.inl ⟨other, old, own, isOpen⟩)
        · exact .inr (.inl ⟨goroutine, there, own, dispatchStep_isOpen carried taken isOpen⟩)
      · rcases mem_append.mp member with old | new
        · exact .inr (.inr ⟨job, old, own⟩)
        · obtain ⟨isOpen, ofRun⟩ := accepted_isOpen carriedOn new
          exact .inr (.inl ⟨goroutine, there, Option.some.inj (ofRun.symm.trans own), isOpen⟩)

theorem messageStep_frame {message : Message}
    (stepped : messageStep settings state index message choice = some (after, shown)) :
    after.now = state.now ∧ after.executions = state.executions ∧
      after.goroutines = state.goroutines ∧
      after.starters = state.starters ∧ after.running ⊆ state.running ∧
      ∀ job, .started job ∉ shown := by
  cases message with
  | received clientID payload =>
    simp only [messageStep] at stepped
    split at stepped
    · cases stepped
    · split at stepped
      all_goals
        cases stepped
        exact ⟨rfl, rfl, rfl, rfl, List.Subset.refl _, fun _ => not_mem_nil⟩
  | saving clientID payload reported dispatched =>
    simp only [messageStep] at stepped
    split at stepped
    · cases stepped
    · split at stepped
      · cases stepped
        refine ⟨rfl, rfl, rfl, rfl, filter_subset_self _, ?_⟩
        intro job new
        cases mem_singleton.mp new
      · cases stepped
        exact ⟨rfl, rfl, rfl, rfl, List.Subset.refl _, fun _ => not_mem_nil⟩
  | announcing job =>
    cases stepped
    obtain ⟨channels, same⟩ := State.announce_eq state job
    rw [same]
    exact ⟨rfl, rfl, rfl, rfl, List.Subset.refl _, fun _ => not_mem_nil⟩
  | done => cases stepped

variable {choice : StartChoice} {starter : Starter}

theorem Begun.continues (owned : Owned state)
    (begun : Begun settings state index starter choice after shown) :
    Continues state after shown := by
  cases begun with
  | ends | overlaps | fetches | passes =>
    exact .of_frame owned (Int.le_refl _) rfl rfl (List.Subset.refl _)
  | @launches request job orderedClients here made fresh =>
    have absent := (State.isFresh_elim fresh).2.1
    refine ⟨Int.le_refl _, ⟨?_, owned.goroutines⟩, ?_⟩
    · intro other known k dispatch found dispatching
      rcases Table.get_put_cases found with ⟨rfl, rfl⟩ | ⟨_, there⟩
      · cases dispatching
      · exact owned.dispatching there dispatching
    · intro other known found active
      rcases Table.get_put_cases found with ⟨rfl, rfl⟩ | ⟨_, there⟩
      · exact .inl (mem_singleton_self _)
      · exact .inr ⟨known, there, rfl, active⟩

theorem step_continues (owned : Owned state) {input : Input}
    (stepped : step settings state input = some (after, shown)) : Continues state after shown := by
  cases input with
  | tick | report | forget =>
    cases stepped
    exact .of_frame owned (Int.le_refl _) rfl rfl (List.Subset.refl _)
  | request request =>
    simp only [step] at stepped
    split at stepped
    · cases stepped
      exact .of_frame owned (Int.le_refl _) rfl rfl (List.Subset.refl _)
    · cases stepped
  | start index choice =>
    obtain ⟨starter, _, taken⟩ := Option.bind_eq_some_iff.mp stepped
    exact (starterStep_begun taken).continues owned
  | execute jid client choice =>
    obtain ⟨execution, found, taken⟩ := Option.bind_eq_some_iff.mp stepped
    obtain ⟨phase, looped⟩ := executeStep_looped taken
    exact (looped.moved owned found).continues owned found shown
  | dispatch index client choice =>
    obtain ⟨goroutine, found, taken⟩ := Option.bind_eq_some_iff.mp stepped
    exact goroutineStep_continues owned found taken
  | message index choice =>
    obtain ⟨message, _, taken⟩ := Option.bind_eq_some_iff.mp stepped
    obtain ⟨now, executions, goroutines, _, running, _⟩ := messageStep_frame taken
    exact .of_frame owned (Int.le_of_eq now.symm) executions goroutines running
  | wait nanoseconds =>
    cases stepped
    exact .of_frame owned (Int.le_add_of_nonneg_right (Int.natCast_nonneg _))
      rfl rfl (List.Subset.refl _)

theorem Young.of_le {earlier later : Time} {job : MultiJob}
    (order : earlier ≤ later) (young : Young later job) : Young earlier job :=
  Int.lt_of_le_of_lt (Int.sub_le_sub_right order _) young

variable {id : String}

theorem Continues.busy (continues : Continues state after shown) (busy : Busy after id) :
    Busy state id ∨ ∃ job, .started job ∈ shown ∧ job.scheduleID = some id := by
  obtain ⟨execution, member, ofSchedule, young, active⟩ := busy
  have found : after.executions.get execution.jid = some execution :=
    Table.get_eq_some_iff.mpr ⟨member, rfl⟩
  rcases continues.active found active with new | ⟨earlier, there, same, was⟩
  · exact .inr ⟨execution.job, new, ofSchedule⟩
  · have present := (Table.get_eq_some_iff.mp there).1
    rw [← same] at ofSchedule young
    exact .inl ⟨earlier, present, ofSchedule, young.of_le continues.now, was⟩

def State.past (state : State) (id : String) : Nat :=
  state.starters.countP fun starter => starter.passed = some id

/-- At most one tick of the schedule is past its count, and while there is one
the schedule is not busy. -/
structure Guarded (state : State) (id : String) : Prop where
  single : state.past id ≤ 1
  free : 0 < state.past id → ¬ Busy state id

theorem Guarded.of_le (guarded : Guarded state id) (continues : Continues state after shown)
    (notStarted : ∀ job, .started job ∈ shown → job.scheduleID ≠ some id)
    (fewer : after.past id ≤ state.past id) : Guarded after id where
  single := Nat.le_trans fewer guarded.single
  free := by
    intro past busy
    rcases continues.busy busy with before | ⟨job, new, ofSchedule⟩
    · exact guarded.free (Nat.lt_of_lt_of_le past fewer) before
    · exact notStarted job new ofSchedule

theorem Guarded.of_none (none : state.past id = 0) : Guarded state id where
  single := by
    rw [none]
    exact Nat.zero_le 1
  free := by
    intro past
    rw [none] at past
    cases past

variable {starter new : Starter}

section

variable {index : Nat} (found : state.starters[index]? = some starter)
  (starters : after.starters = state.starters.set index new)

include found starters

theorem State.past_set (id : String) :
    after.past id + (if starter.passed = some id then 1 else 0) =
      state.past id + (if new.passed = some id then 1 else 0) := by
  have count := Program.countP_set found new fun starter => starter.passed = some id
  simp only [decide_eq_true_eq] at count
  rw [State.past, State.past, starters]
  exact count

theorem State.past_set_le {id : String}
    (other : new.passed ≠ some id) : after.past id ≤ state.past id := by
  have count := State.past_set found starters id
  rw [if_neg other, Nat.add_zero] at count
  exact Nat.le.intro count

theorem State.past_set_eq_zero {id : String}
    (own : starter.passed = some id) (other : new.passed ≠ some id)
    (single : state.past id ≤ 1) : after.past id = 0 := by
  have count := State.past_set found starters id
  rw [if_pos own, if_neg other] at count
  omega

end

theorem State.past_concat_le {new : Starter} (starters : after.starters = state.starters ++ [new])
    (other : new.passed ≠ some id) : after.past id ≤ state.past id := by
  rw [State.past, starters, countP_append, countP_singleton, decide_eq_false other]
  exact Nat.le_refl _

theorem Guarded.pass {schedule : Schedule} (continues : Continues state after [])
    (found : state.starters[index]? = some (.counting schedule))
    (counted : Counted settings state (.start index choice))
    (free : countJobsInProgress state.shared.database schedule.id
      (settings.timeoutSec schedule.timeoutSec) state.now = 0)
    (starters : after.starters = state.starters.set index (.starting schedule.request)) :
    Guarded after schedule.id := by
  obtain ⟨alone, seen⟩ := counted schedule (by rw [found]; rfl)
  have none : state.past schedule.id = 0 := by
    apply countP_eq_zero.mpr
    intro starter member
    rw [decide_eq_true_eq]
    exact alone starter member
  have one : after.past schedule.id = 1 := by
    have count := State.past_set found starters schedule.id
    rw [none] at count
    simpa [Starter.passed, Schedule.request] using count
  refine ⟨Nat.le_of_eq one, ?_⟩
  intro _ busy
  rcases continues.busy busy with before | ⟨job, new, _⟩
  · obtain ⟨row, member, counts⟩ := seen before
    exact countP_eq_zero.mp free row member counts
  · cases new

theorem startMultiClientJob_scheduleID {request : MultiJobRequest} {now : Time}
    {job : MultiJob} {orderedClients : List String}
    (made : startMultiClientJob settings request choice now =
      .ok (job, orderedClients)) : job.scheduleID = request.scheduleID := by
  simp only [startMultiClientJob, Outcome.bind_eq_ok_iff] at made
  obtain ⟨jid, _, clients, _, rest⟩ := made
  split at rest
  · cases rest
  · split at rest
    · cases rest
    · split at rest
      · obtain ⟨command, _, made⟩ := Outcome.bind_eq_ok_iff.mp rest
        cases made
        rfl
      · cases rest
        rfl

theorem Begun.guarded (found : state.starters[index]? = some starter)
    (counted : Counted settings state (.start index choice))
    (begun : Begun settings state index starter choice after shown)
    (continues : Continues state after shown)
    (apart : settings.overlaps id = false) (guarded : Guarded state id) : Guarded after id := by
  cases begun with
  | ends | fetches =>
    refine guarded.of_le continues (fun job new => by cases new) (State.past_set_le found rfl ?_)
    intro same
    cases same
  | @overlaps own schedule here named mayOverlap =>
    refine guarded.of_le continues (fun job new => by cases new) (State.past_set_le found rfl ?_)
    intro same
    have isOwn : own = id := named.symm.trans (Option.some.inj same)
    rw [isOwn, apart] at mayOverlap
    cases mayOverlap
  | @passes schedule here free =>
    by_cases own : schedule.id = id
    · subst own here
      exact .pass continues found counted free rfl
    · refine guarded.of_le continues (fun job new => by cases new) (State.past_set_le found rfl ?_)
      exact fun same => own (Option.some.inj same)
  | @launches request job orderedClients here made fresh =>
    have ofRequest := startMultiClientJob_scheduleID made
    by_cases own : request.scheduleID = some id
    · -- the tick was the only one past its count
      subst here
      apply Guarded.of_none
      refine State.past_set_eq_zero found rfl own ?_ guarded.single
      intro same
      cases same
    · refine guarded.of_le continues ?_ (State.past_set_le found rfl ?_)
      · intro started new
        cases mem_singleton.mp new
        rwa [ofRequest]
      · intro same
        cases same

section

variable {input : Input}
  (stepped : step settings state input = some (after, shown))

include stepped

theorem step_starters :
    ((after.starters = state.starters ∨ ∃ new,
        after.starters = state.starters ++ [new] ∧ new.passed = none) ∧
      ∀ job, .started job ∉ shown) ∨
    ∃ index choice starter, input = .start index choice ∧ state.starters[index]? = some starter ∧
      Begun settings state index starter choice after shown := by
  cases input with
  | tick own =>
    cases stepped
    exact .inl ⟨.inr ⟨_, rfl, rfl⟩, fun _ => not_mem_nil⟩
  | request request =>
    simp only [step] at stepped
    split at stepped
    · rename_i none
      cases stepped
      exact .inl ⟨.inr ⟨_, rfl, none⟩, fun _ => not_mem_nil⟩
    · cases stepped
  | start index choice =>
    obtain ⟨starter, found, taken⟩ := Option.bind_eq_some_iff.mp stepped
    exact .inr ⟨index, choice, starter, rfl, found, starterStep_begun taken⟩
  | execute jid client choice =>
    obtain ⟨execution, found, taken⟩ := Option.bind_eq_some_iff.mp stepped
    obtain ⟨phase, looped⟩ := executeStep_looped taken
    exact .inl ⟨.inl looped.starters, fun job new => (looped.isOf _ new).elim⟩
  | dispatch index client choice =>
    obtain ⟨goroutine, found, taken⟩ := Option.bind_eq_some_iff.mp stepped
    simp only [goroutineStep] at taken
    split at taken
    · cases taken
    · cases taken
      exact .inl ⟨.inl rfl, fun _ => not_mem_nil⟩
  | report | wait | forget =>
    cases stepped
    exact .inl ⟨.inl rfl, fun _ => not_mem_nil⟩
  | message index choice =>
    obtain ⟨message, _, taken⟩ := Option.bind_eq_some_iff.mp stepped
    obtain ⟨_, _, _, starters, _, quiet⟩ := messageStep_frame taken
    exact .inl ⟨.inl starters, quiet⟩

theorem step_guarded (counted : Counted settings state input)
    (continues : Continues state after shown) {id : String}
    (apart : settings.overlaps id = false) (guarded : Guarded state id) : Guarded after id := by
  rcases step_starters stepped with
    ⟨same | ⟨new, added, unpassed⟩, quiet⟩ |
    ⟨index, choice, starter, rfl, found, begun⟩
  · refine guarded.of_le continues (fun job new => (quiet job new).elim) ?_
    rw [State.past, State.past, same]
  · refine guarded.of_le continues (fun job new => (quiet job new).elim)
      (State.past_concat_le added ?_)
    rw [unpassed]
    exact nofun
  · exact begun.guarded found counted continues apart guarded

theorem step_started {job : MultiJob} (launched : .started job ∈ shown) {id : String}
    (ofSchedule : job.scheduleID = some id) : 0 < state.past id := by
  rcases step_starters stepped with
    ⟨-, quiet⟩ | ⟨index, choice, starter, rfl, found, begun⟩
  · exact (quiet job launched).elim
  · cases begun with
    | ends | overlaps | fetches | passes => cases launched
    | launches here made fresh =>
      cases mem_singleton.mp launched
      refine countP_pos_iff.mpr ⟨starter, List.mem_of_getElem? found, decide_eq_true ?_⟩
      rw [here]
      exact (startMultiClientJob_scheduleID made).symm.trans ofSchedule

end

end Steps

structure Sound (settings : Settings) (state : State) : Prop where
  owned : Owned state
  guarded : ∀ {id}, settings.overlaps id = false → Guarded state id

theorem started_sound (settings : Settings) (now : Time)
    (database : Database) : Sound settings (started now database) where
  owned := by
    constructor
    · intro jid execution k dispatch found
      cases found
    · exact forall_mem_nil _
  guarded := fun _ => .of_none rfl

/-- A schedule that may not overlap is started only when no earlier run of it,
started less than its timeout ago, has a job running or clients left to dispatch
to. -/
theorem schedule_never_overlaps (settings : Settings) (now : Time)
    (database : Database) {history : List Event} {state : State}
    (run : Run (multiJobs settings) (Counted settings) (started now database) history state)
    {input : Input} {after : State} {shown : List Event}
    (stepped : (multiJobs settings).step state input = some (after, shown))
    {job : MultiJob} (launched : .started job ∈ shown) {id : String}
    (ofSchedule : job.scheduleID = some id)
    (apart : settings.overlaps id = false) : ¬ Busy state id := by
  have sound := run.stateInvariant (Sound settings) (started_sound settings now database) (by
      intro shown state next input sound counted stepped
      have continues := step_continues sound.owned stepped
      exact ⟨continues.owned, fun apart =>
        step_guarded stepped counted continues apart (sound.guarded apart)⟩)
  exact (sound.guarded apart).free (step_started stepped launched ofSchedule)

instance (settings : Settings) (state : State) : DecidablePred (Counted settings state)
  | .start index _ => inferInstanceAs (Decidable
      (∀ schedule ∈ state.starters[index]?.bind Starter.counts,
        (∀ starter ∈ _, _) ∧ (_ → ∃ row ∈ _, _)))
  | .tick _ | .request _ | .execute _ _ _ | .dispatch _ _ _ | .report _ _
  | .message _ _ | .wait _ | .forget _ => .isTrue trivial

def nightly : Schedule where
  id := "nightly"
  createdBy := "user"
  command := "date"
  script := ""
  cwd := ""
  isSudo := false
  interpreter := ""
  timeoutSec := 0
  executeConcurrently := false
  abortOnError := none
  isScript := false
  overlaps := false

def nightlySettings : Settings where
  server := { plainServer with
    listener := { plainServer.listener with
      decode := fun payload =>
        if payload = [1] then .ok { dateResult with jid := "job-a" }
        else .error "invalid character" } }
  decodeScript := .ok
  overlaps := fun _ => false

def tickOn (index : Nat) (jid : String) (orderedClients : List String) :
    Input :=
  .start index ⟨.ok (some nightly), .ok jid, .ok orderedClients, none, none⟩

def tickAgain (orderedClients : List String) : List Input :=
  List.flatten [
    [.tick "nightly"], List.replicate 3 (tickOn 0 "run" orderedClients),
    List.replicate 5 (.execute "run" ⟨"a", "a", none, true⟩
      { works with jid := .ok "job-a" }),
    [.report "a" [1]], List.replicate 3 (.message 0 works),
    [.tick "nightly"], List.replicate 2 (tickOn 1 "again" orderedClients)]

def nightlyRun (jid : String) : MultiJob where
  jid := jid
  startedAt := 0
  createdBy := "user"
  scheduleID := some "nightly"
  command := "date"
  interpreter := ""
  cwd := ""
  isScript := false
  isSudo := false
  timeoutSec := 60
  concurrent := false
  abortOnErr := true

def launchedAgain (orderedClients : List String) (state : State) : Option (List Event) :=
  ((multiJobs nightlySettings).step state (tickOn 1 "again" orderedClients)).map Prod.snd

theorem schedule_never_overlaps_afterwards :
    ∃ history state after,
      Run (multiJobs nightlySettings) (Counted nightlySettings)
        (started 0 emptyDatabase) history state ∧
      (multiJobs nightlySettings).step state (tickOn 1 "again" ["a"]) =
        some (after, [.started (nightlyRun "again")]) ∧
      (∃ execution ∈ state.executions.entries,
        execution.job = nightlyRun "run" ∧ Young state.now execution.job) ∧
      ¬ Busy state "nightly" := by
  obtain ⟨state, history, run, outcome⟩ :=
    Run.exists_ofExecute (multiJobs nightlySettings) (Counted nightlySettings)
      (started 0 emptyDatabase) (tickAgain ["a"]) (fun outcome => decide
        (launchedAgain ["a"] outcome.1 = some [.started (nightlyRun "again")] ∧
          ∃ execution ∈ outcome.1.executions.entries, execution.job = nightlyRun "run" ∧
              Young outcome.1.now execution.job))
      (by decide +kernel) (by decide +kernel)
  obtain ⟨launched, earlier⟩ := of_decide_eq_true outcome
  obtain ⟨⟨after, shown⟩, stepped, same⟩ := Option.map_eq_some_iff.mp launched
  cases same
  exact ⟨history, state, after, run, stepped, earlier,
    schedule_never_overlaps nightlySettings 0 emptyDatabase run stepped
      (mem_singleton_self _) rfl rfl⟩

/-- A sequential run has saved the result of its first client and has not
dispatched to the second.  No row is in progress, and the next run starts. -/
theorem schedule_overlaps :
    ∃ history state after,
      Run (multiJobs nightlySettings) Unrestricted (started 0 emptyDatabase) history state ∧
      (multiJobs nightlySettings).step state (tickOn 1 "again" ["a", "b"]) =
        some (after, [.started (nightlyRun "again")]) ∧
      (nightlyRun "again").scheduleID = some "nightly" ∧
      nightlySettings.overlaps "nightly" = false ∧
      Busy state "nightly" := by
  obtain ⟨state, history, run, outcome⟩ := Run.exists_unrestricted (multiJobs nightlySettings)
      (started 0 emptyDatabase) (tickAgain ["a", "b"]) (fun outcome => decide
        (launchedAgain ["a", "b"] outcome.1 = some [.started (nightlyRun "again")] ∧
          Busy outcome.1 "nightly"))
      (by decide +kernel)
  obtain ⟨launched, busy⟩ := of_decide_eq_true outcome
  obtain ⟨⟨after, shown⟩, stepped, same⟩ := Option.map_eq_some_iff.mp launched
  cases same
  exact ⟨history, state, after, run, stepped, rfl, rfl, busy⟩

end ProxiPort.MultiJobs
