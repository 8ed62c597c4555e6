import ProxiPort.Jobs.MultiJob
import ProxiPort.Jobs.ResultKept

/-!
# Sequential runs

All jobs of a sequential run share one channel, and whatever result is sent to it
is taken for that of the job the run is waiting for.
-/

namespace ProxiPort.MultiJobs

open Concurrency Jobs List Keyed

/-- The dispatch to a client failed, or a result of its job was saved. -/
def Answered (before : List Event) (job : MultiJob) (k : Nat) (jid : String) :
    Prop :=
  (∃ notConnected, .dispatchFailed job k jid notConnected ∈ before) ∨
    ∃ status, .saved (some job.jid) jid status ∈ before

/-- The dispatch to a client failed with an error other than that it is not
connected, or the result of its job is a failure. -/
def Fails (before : List Event) (job : MultiJob) (k : Nat) (jid : String) :
    Prop :=
  .dispatchFailed job k jid false ∈ before ∨ .saved (some job.jid) jid jobStatusFailed ∈ before

structure Dispatched (before : List Event) (job : MultiJob) (k : Nat)
    (jid : String) : Prop where
  dispatched : .dispatching job k jid ∈ before
  only : ∀ other, .dispatching job k other ∈ before → other = jid

def GoesOn (before : List Event) (job : MultiJob) (k : Nat) : Prop :=
  ∃ jid, Dispatched before job k jid ∧ Answered before job k jid ∧
    (job.abortOnErr = true → ¬ Fails before job k jid)

def Stops (before : List Event) (job : MultiJob) (k : Nat) : Prop :=
  job.abortOnErr = true ∧
    ∃ jid, Dispatched before job k jid ∧ Fails before job k jid

def Event.InSequence (before : List Event) : Event → Prop
  | .dispatching job k _ => job.concurrent = false →
      ∀ previous, k = previous + 1 → GoesOn before job previous
  | .stopped job k => job.concurrent = false → Stops before job k
  | .returned job _ => job.concurrent = true
  | .started _ => True
  | .dispatchFailed _ _ _ _ => True
  | .saved _ _ _ => True

namespace State

def queue (state : State) (jid : String) : List Job :=
  match state.jobsDoneChannel.get jid with
  | none => []
  | some channel => channel.queue

end State

/-- A saved result on its way to the channel of a run. -/
def Message.announced (jid : String) : Message → Option Job
  | .announcing job => if job.multiJobID = some jid then some job else none
  | _ => none

namespace State

def announced (state : State) (jid : String) : List Job :=
  state.messages.filterMap (Message.announced jid)

def pending (state : State) (jid : String) : List Job := state.queue jid ++ state.announced jid

end State

def Phase.isGoing : Phase → Bool
  | .opening | .next _ | .dispatching _ _ | .waiting _ _ => true
  | .closing | .ended => false

def Phase.awaits : Phase → Option String
  | .waiting _ curJob => some curJob.jid
  | .opening | .next _ | .dispatching _ _ | .closing | .ended => none

theorem Phase.waiting_of_awaits {phase : Phase} {jid : String} (awaits : phase.awaits = some jid) :
    ∃ k curJob, phase = .waiting k curJob ∧ curJob.jid = jid := by
  cases phase with
  | waiting k curJob => exact ⟨k, curJob, rfl, Option.some.inj awaits⟩
  | opening | next | dispatching | closing | ended => cases awaits

def Execution.hasNext (execution : Execution) : Bool :=
  match execution.phase with
  | .next k => k < execution.orderedClients.length
  | _ => false

def Message.dispatched : Message → Option Job
  | .saving _ _ _ dispatched => some dispatched
  | .received _ _ | .announcing _ | .done => none

/-- A result is for the job that its run waits for, and the run has no other
result to take. -/
def Awaited (state : State) (execution : Execution) (jid : String) : Prop :=
  execution.phase.awaits = some jid ∧ state.pending execution.jid = []

/-- A result of a sequential run that has not left its loop is saved only when
it is awaited; and such a run can generate a job id for every client. -/
def InTurn (state : State) : Input → Prop
  | .message index _ =>
    ∀ dispatched ∈ state.messages[index]?.bind Message.dispatched,
    ∀ execution ∈ dispatched.multiJobID.bind state.executions.get,
      execution.job.concurrent = false → execution.phase.isGoing = true →
      Awaited state execution dispatched.jid
  | .execute jid _ choice => ∀ execution ∈ state.executions.get jid,
      execution.job.concurrent = false → execution.hasNext = true →
      choice.jid.isOk = true
  | .tick _ | .request _ | .start _ _ | .dispatch _ _ _ | .report _ _
  | .wait _ | .forget _ => True

section Sections

variable {server : Jobs.Server} {shared after : Shared}
  {thread later : Jobs.Thread} {choice : Choice} {shown : List Effect}

theorem atomic_seen (stepped : atomic server shared thread choice =
      some (after, later, shown)) : shared.seen ⊆ after.seen := by
  cases thread with
  | createAndRunJob request =>
    simp only [atomic] at stepped
    split at stepped
    · cases stepped
      exact List.Subset.refl _
    · split at stepped
      · cases stepped
        exact subset_cons_self _ _
      · cases stepped
  | handleExecuteCommand input =>
    simp only [atomic] at stepped
    split at stepped
    · cases stepped
      exact List.Subset.refl _
    · cases stepped
      exact List.Subset.refl _
    · split at stepped
      · cases stepped
        exact subset_cons_self _ _
      · cases stepped
  | sent origin curJob dispatchedAt =>
    cases stepped
    exact List.Subset.refl _
  | creating origin curJob err =>
    simp only [atomic] at stepped
    split at stepped
    all_goals
      cases stepped
      exact List.Subset.refl _
  | cmdResult clientID payload =>
    simp only [atomic] at stepped
    split at stepped
    · cases stepped
      exact List.Subset.refl _
    · split at stepped
      · cases stepped
        exact List.Subset.refl _
      · split at stepped
        all_goals
          cases stepped
          exact subset_cons_self _ _
  | saving clientID payload reported dispatched =>
    simp only [atomic] at stepped
    split at stepped
    all_goals
      cases stepped
      exact List.Subset.refl _
  | dispatched | refused | resulted => cases stepped

variable {payload sent : List UInt8} {clientID sender : String}

theorem atomic_cmdResult (stepped : atomic server shared (.cmdResult clientID payload) choice =
      some (after, later, shown)) {reported dispatched : Job}
    (found : later = .saving sender sent reported dispatched) :
    dispatched.jid ∈ after.seen := by
  simp only [atomic] at stepped
  split at stepped
  · cases stepped
    cases found
  · split at stepped
    · cases stepped
      cases found
    · split at stepped
      · cases stepped
        cases found
      · rename_i lookedUp
        cases stepped
        cases found
        obtain ⟨row, details, error, result, stored, _, _, rfl⟩ := findDispatched_eq_ok lookedUp
        have named : row.jid = reported.jid := (Table.get_eq_some_iff.mp stored).2
        exact named ▸ mem_cons_self

theorem atomic_saving {reported dispatched : Job} (stepped : atomic server shared
      (.saving clientID payload reported dispatched) choice =
        some (after, later, shown)) {resp : Job}
    (saved : later = .resulted sender sent (.ok resp)) :
    resp = reconcile dispatched reported := by
  simp only [atomic] at stepped
  split at stepped
  · cases stepped
    cases saved
  · cases stepped
    cases saved
    rfl

end Sections

section Dispatches

variable {settings : Settings} {shared after : Shared} {now : Time}
  {job : MultiJob} {client : Target} {choice : Choice}
  {dispatch later : Dispatch}

theorem dispatchStep_seen (stepped : dispatchStep settings shared now job client choice dispatch =
      some (after, later)) : shared.seen ⊆ after.seen := by
  cases dispatch with
  | starting jid clientID =>
    simp only [dispatchStep] at stepped
    split at stepped
    · cases stepped
      exact List.Subset.refl _
    · cases stepped
  | under known thread =>
    simp only [dispatchStep] at stepped
    split at stepped
    · cases stepped
    · rename_i taken
      cases stepped
      exact atomic_seen taken

end Dispatches

def Event.About (job : MultiJob) : Event → Prop
  | .dispatching other _ _ => other = job
  | .dispatchFailed other _ _ _ => other = job
  | .saved multiJobID _ _ => multiJobID = some job.jid
  | .started _ | .stopped _ _ | .returned _ _ => False

structure Earlier (history : List Event) (job : MultiJob) (k : Nat) :
    Prop where
  dispatched : ∀ other jid, .dispatching job other jid ∈ history → other < k
  failed : ∀ other jid notConnected,
    .dispatchFailed job other jid notConnected ∈ history → other < k

structure Current (history : List Event) (job : MultiJob) (k : Nat)
    (jid : String) : Prop where
  dispatched : .dispatching job k jid ∈ history
  latest : ∀ other otherJID, .dispatching job other otherJID ∈ history →
    other < k ∨ other = k ∧ otherJID = jid
  failed : ∀ other otherJID notConnected,
    .dispatchFailed job other otherJID notConnected ∈ history → other < k

section History

variable {history shown : List Event} {job : MultiJob} {k : Nat}
  {jid : String}

theorem mem_of_not_about (others : ∀ event ∈ shown, ¬ event.About job)
    {event : Event} (about : event.About job)
    (member : event ∈ history ++ shown) : event ∈ history := by
  rcases mem_append.mp member with old | new
  · exact old
  · exact (others event new about).elim

structure NoDispatch (shown : List Event) (job : MultiJob) : Prop where
  dispatched : ∀ {k jid}, .dispatching job k jid ∉ shown
  failed : ∀ {k jid notConnected}, .dispatchFailed job k jid notConnected ∉ shown

theorem NoDispatch.of_not_about (others : ∀ event ∈ shown, ¬ event.About job) :
    NoDispatch shown job :=
  ⟨fun new => others _ new rfl, fun new => others _ new rfl⟩

theorem Earlier.append (earlier : Earlier history job k)
    (none : NoDispatch shown job) : Earlier (history ++ shown) job k where
  dispatched := fun other jid member => earlier.dispatched other jid
    ((mem_append.mp member).resolve_right none.dispatched)
  failed := fun other jid notConnected member =>
    earlier.failed other jid notConnected ((mem_append.mp member).resolve_right none.failed)

theorem Current.append (current : Current history job k jid) (none : NoDispatch shown job) :
    Current (history ++ shown) job k jid where
  dispatched := mem_append_left _ current.dispatched
  latest := fun other otherJID member => current.latest other otherJID
    ((mem_append.mp member).resolve_right none.dispatched)
  failed := fun other otherJID notConnected member =>
    current.failed other otherJID notConnected ((mem_append.mp member).resolve_right none.failed)

theorem Current.toDispatched (current : Current history job k jid) :
    Dispatched history job k jid where
  dispatched := current.dispatched
  only := by
    intro other member
    rcases current.latest k other member with before | ⟨_, same⟩
    · exact (Nat.lt_irrefl _ before).elim
    · exact same

theorem Dispatched.append (dispatched : Dispatched history job k jid)
    (none : ∀ {k jid}, .dispatching job k jid ∉ shown) :
    Dispatched (history ++ shown) job k jid where
  dispatched := mem_append_left _ dispatched.dispatched
  only := fun other member => dispatched.only other ((mem_append.mp member).resolve_right none)

theorem Current.earlier (current : Current history job k jid) : Earlier history job (k + 1) where
  dispatched := by
    intro other otherJID member
    rcases current.latest other otherJID member with before | ⟨same, _⟩
    · exact Nat.lt_succ_of_lt before
    · exact same ▸ Nat.lt_succ_self k
  failed := fun other otherJID notConnected member =>
    Nat.lt_succ_of_lt (current.failed other otherJID notConnected member)

theorem Earlier.current (earlier : Earlier history job k) (jid : String) :
    Current (history ++ [.dispatching job k jid]) job k jid where
  dispatched := mem_append_right _ (mem_singleton_self _)
  latest := by
    intro other otherJID member
    rcases mem_or_eq_of_mem_concat member with old | new
    · exact .inl (earlier.dispatched other otherJID old)
    · cases new
      exact .inr ⟨rfl, rfl⟩
  failed := by
    intro other otherJID notConnected member
    exact earlier.failed other otherJID notConnected (mem_of_mem_concat (by simp) member)

theorem Current.failing (current : Current history job k jid) (notConnected : Bool) :
    Earlier (history ++ [.dispatchFailed job k jid notConnected]) job (k + 1) where
  dispatched := by
    intro other otherJID member
    exact current.earlier.dispatched other otherJID (mem_of_mem_concat (by simp) member)
  failed := by
    intro other otherJID known member
    rcases mem_or_eq_of_mem_concat member with old | new
    · exact current.earlier.failed other otherJID known old
    · cases new
      exact Nat.lt_succ_self k

theorem GoesOn.append (goesOn : GoesOn history job k)
    (others : ∀ event ∈ shown, ¬ event.About job) : GoesOn (history ++ shown) job k := by
  obtain ⟨jid, dispatched, answered, notFailed⟩ := goesOn
  refine ⟨jid, dispatched.append (NoDispatch.of_not_about others).dispatched, ?_, ?_⟩
  · rcases answered with ⟨notConnected, failed⟩ | ⟨status, saved⟩
    · exact .inl ⟨notConnected, mem_append_left _ failed⟩
    · exact .inr ⟨status, mem_append_left _ saved⟩
  · intro aborts fails
    apply notFailed aborts
    rcases fails with failed | saved
    · exact .inl (mem_of_not_about others rfl failed)
    · exact .inr (mem_of_not_about others rfl saved)

end History

def Opened (state : State) (execution : Execution) : Prop :=
  ∃ channel, state.jobsDoneChannel.get execution.jid = some channel ∧
    channel.capacity = execution.orderedClients.length

def Unsaved (history : List Event) (job : MultiJob) (jid : String) : Prop :=
  ∀ status, .saved (some job.jid) jid status ∉ history

section

variable (history : List Event) (state : State) (execution : Execution)

inductive Phased : Phase → Prop where
  | opening (earlier : Earlier history execution.job 0) (idle : state.pending execution.jid = []) :
      Phased .opening
  | next {k : Nat} (opened : Opened state execution) (earlier : Earlier history execution.job k)
      (goesOn : ∀ previous, k = previous + 1 → GoesOn history execution.job previous)
      (idle : state.pending execution.jid = []) :
      Phased (.next k)
  | dispatching {k : Nat} {dispatch : Dispatch} {jid : String} (opened : Opened state execution)
      (within : k < execution.orderedClients.length) (current : Current history execution.job k jid)
      (named : dispatch.IsFor execution.job jid) (unsaved : Unsaved history execution.job jid)
      (idle : state.pending execution.jid = []) :
      Phased (.dispatching k dispatch)
  | waiting {k : Nat} {curJob : Job} (opened : Opened state execution)
      (within : k < execution.orderedClients.length)
      (current : Current history execution.job k curJob.jid)
      (unsaved : Unsaved history execution.job curJob.jid)
      (idle : state.pending execution.jid = []) :
      Phased (.waiting k curJob)
  | answered {k : Nat} {curJob jobResult : Job} (opened : Opened state execution)
      (within : k < execution.orderedClients.length)
      (current : Current history execution.job k curJob.jid)
      (saved : ∀ status, .saved (some execution.jid) curJob.jid status ∈ history ↔
          status = jobResult.status)
      (pends : state.pending execution.jid = [jobResult]) :
      Phased (.waiting k curJob)
  | closing : Phased .closing
  | ended : Phased .ended

end

structure Traced (history : List Event) (state : State) : Prop where
  dispatched : ∀ {job k jid}, .dispatching job k jid ∈ history →
    ∃ execution, state.executions.get job.jid = some execution ∧ execution.job = job
  failed : ∀ {job k jid notConnected}, .dispatchFailed job k jid notConnected ∈ history →
    ∃ execution, state.executions.get job.jid = some execution ∧ execution.job = job
  saved : ∀ {multiJobID jid status},
    .saved multiJobID jid status ∈ history → jid ∈ state.shared.seen
  named : ∀ {clientID payload reported dispatched},
    .saving clientID payload reported dispatched ∈ state.messages →
    dispatched.jid ∈ state.shared.seen
  channels : ∀ {multiJobID channel}, state.jobsDoneChannel.get multiJobID = some channel →
    ∃ execution, state.executions.get multiJobID = some execution
  phased : ∀ {multiJobID execution}, state.executions.get multiJobID = some execution →
    execution.job.concurrent = false →
    Phased history state execution execution.phase

theorem State.pending_eq {state : State} {jid : String} {channel : Channel}
    (found : state.jobsDoneChannel.get jid = some channel) :
    state.pending jid = channel.queue ++ state.announced jid := by
  rw [State.pending, State.queue, found]

section Steps

variable {settings : Settings} {history shown : List Event}
  {state after : State} {execution : Execution}

variable {phase : Phase}

theorem Phased.frame (phased : Phased history state execution phase)
    (shown : List Event) (others : ∀ event ∈ shown, ¬ event.About execution.job)
    (channel : after.jobsDoneChannel.get execution.jid = state.jobsDoneChannel.get execution.jid)
    (announced : after.announced execution.jid = state.announced execution.jid) :
    Phased (history ++ shown) after execution phase := by
  have samePending : after.pending execution.jid = state.pending execution.jid := by
    rw [State.pending, State.pending, State.queue, State.queue, channel, announced]
  have stillOpened : Opened state execution → Opened after execution := by
    rintro ⟨opened, found, capacity⟩
    exact ⟨opened, channel.trans found, capacity⟩
  have none := NoDispatch.of_not_about others
  have stillUnsaved : ∀ jid, Unsaved history execution.job jid →
      Unsaved (history ++ shown) execution.job jid := by
    intro jid unsaved status member
    exact unsaved status (mem_of_not_about others rfl member)
  cases phased with
  | opening earlier idle =>
    exact .opening (earlier.append none) (samePending.trans idle)
  | next opened earlier goesOn idle =>
    exact .next (stillOpened opened) (earlier.append none)
      (fun previous same => (goesOn previous same).append others) (samePending.trans idle)
  | dispatching opened within current named unsaved idle =>
    exact .dispatching (stillOpened opened) within (current.append none)
      named (stillUnsaved _ unsaved) (samePending.trans idle)
  | waiting opened within current unsaved idle =>
    exact .waiting (stillOpened opened) within (current.append none)
      (stillUnsaved _ unsaved) (samePending.trans idle)
  | answered opened within current saved pends =>
    refine .answered (stillOpened opened) within (current.append none) ?_ (samePending.trans pends)
    intro status
    rw [← saved status]
    exact ⟨mem_of_not_about others rfl, mem_append_left _⟩
  | closing => exact .closing
  | ended => exact .ended

theorem Traced.quiet (traced : Traced history state)
    (executions : after.executions = state.executions)
    (channels : after.jobsDoneChannel = state.jobsDoneChannel)
    (announced : ∀ jid, after.announced jid = state.announced jid)
    (seen : state.shared.seen ⊆ after.shared.seen)
    (named : ∀ {clientID payload reported dispatched},
      .saving clientID payload reported dispatched ∈ after.messages →
      dispatched.jid ∈ after.shared.seen) :
    Traced (history ++ []) after := by
  rw [append_nil]
  refine ⟨?_, ?_, fun member => seen (traced.saved member), named, ?_, ?_⟩
  · rw [executions]
    exact traced.dispatched
  · rw [executions]
    exact traced.failed
  · rw [executions, channels]
    exact traced.channels
  · intro multiJobID execution found sequential
    rw [executions] at found
    have phased := (traced.phased found sequential).frame []
      (forall_mem_nil _) (by rw [channels]) (announced execution.jid)
    rwa [append_nil] at phased

variable {job : MultiJob}

theorem not_about_of_isOf {other : MultiJob} {event : Event}
    (own : event.IsOf job) (different : other ≠ job) : ¬ event.About other := by
  cases event with
  | dispatching named k jid => exact fun about => different (about ▸ own)
  | dispatchFailed named k jid notConnected =>
    exact fun about => different (about ▸ own)
  | stopped | returned | started => exact id
  | saved multiJobID jid status => exact own.elim

structure Advanced (state : State) (execution : Execution) (phase : Phase)
    (after : State) (shown : List Event) : Prop where
  executions : after.executions = state.executions.put { execution with phase := phase }
  messages : after.messages = state.messages
  channels : ∀ {multiJobID}, multiJobID ≠ execution.jid →
    after.jobsDoneChannel.get multiJobID = state.jobsDoneChannel.get multiJobID
  seen : state.shared.seen ⊆ after.shared.seen
  own : ∀ event ∈ shown, event.IsOf execution.job

variable {jid : String}

theorem Traced.advance (traced : Traced history state)
    (found : state.executions.get jid = some execution)
    (advanced : Advanced state execution phase after shown)
    (phased : execution.job.concurrent = false →
      Phased (history ++ shown) after { execution with phase := phase } phase) :
    Traced (history ++ shown) after := by
  have here : execution.jid = jid := (Table.get_eq_some_iff.mp found).2
  subst here
  have self : after.executions.get execution.jid = some { execution with phase := phase } := by
    rw [advanced.executions]
    exact Table.get_put_self
  -- A run that there was is still there, and has the same job.
  have still : ∀ {other known}, state.executions.get other = some known →
      ∃ later, after.executions.get other = some later ∧ later.job = known.job := by
    intro other known foundKnown
    by_cases same : other = execution.jid
    · subst same
      cases found.symm.trans foundKnown
      exact ⟨_, self, rfl⟩
    · refine ⟨known, ?_, rfl⟩
      rw [advanced.executions, ← foundKnown]
      exact Table.get_put_of_ne same
  have stillOf : ∀ {job}, (∃ known, state.executions.get job.jid = some known ∧ known.job = job) →
      ∃ later, after.executions.get job.jid = some later ∧ later.job = job := by
    rintro job ⟨known, foundKnown, rfl⟩
    exact still foundKnown
  refine ⟨?_, ?_, ?_, ?_, ?_, ?_⟩
  · intro job k jid member
    rcases mem_append.mp member with old | new
    · exact stillOf (traced.dispatched old)
    · have own : job = execution.job := advanced.own _ new
      subst own
      exact ⟨_, self, rfl⟩
  · intro job k jid notConnected member
    rcases mem_append.mp member with old | new
    · exact stillOf (traced.failed old)
    · have own : job = execution.job := advanced.own _ new
      subst own
      exact ⟨_, self, rfl⟩
  · intro multiJobID jid status member
    rcases mem_append.mp member with old | new
    · exact advanced.seen (traced.saved old)
    · exact (advanced.own _ new).elim
  · intro clientID payload reported dispatched member
    rw [advanced.messages] at member
    exact advanced.seen (traced.named member)
  · intro multiJobID channel foundChannel
    by_cases same : multiJobID = execution.jid
    · exact ⟨_, same ▸ self⟩
    · rw [advanced.channels same] at foundChannel
      obtain ⟨known, foundKnown⟩ := traced.channels foundChannel
      obtain ⟨later, foundLater, _⟩ := still foundKnown
      exact ⟨later, foundLater⟩
  · intro multiJobID other foundOther sequential
    rw [advanced.executions] at foundOther
    rcases Table.get_put_cases foundOther with ⟨rfl, rfl⟩ | ⟨same, there⟩
    · exact phased sequential
    · have named : other.jid = multiJobID := (Table.get_eq_some_iff.mp there).2
      have different : other.job ≠ execution.job := by
        intro sameJob
        apply same
        rw [← named]
        exact congrArg MultiJob.jid sameJob
      refine (traced.phased there sequential).frame shown
        (fun event member => not_about_of_isOf (advanced.own event member)
          different) (advanced.channels (named ▸ same)) ?_
      rw [State.announced, State.announced, advanced.messages]

variable {client : Target} {choice : Choice}

theorem Looped.advanced (looped : Looped settings state execution client choice phase after
      shown) : Advanced state execution phase after shown := by
  have own := looped.isOf
  cases looped with
  | opensConcurrent | returns =>
    exact ⟨rfl, rfl, fun _ => rfl, List.Subset.refl _, own⟩
  | opens here sequential =>
    exact ⟨rfl, rfl, fun different => Table.get_put_of_ne different, List.Subset.refl _, own⟩
  | closes finished =>
    rw [State.close]
    split
    · exact ⟨rfl, rfl, fun _ => rfl, List.Subset.refl _, own⟩
    · exact ⟨rfl, rfl, fun different => Table.get_remove_of_ne different, List.Subset.refl _, own⟩
  | spawns here left concurrent fresh =>
    rw [State.dispatchNext, if_pos concurrent]
    exact ⟨rfl, rfl, fun _ => rfl, subset_cons_self _ _, own⟩
  | dispatches here left sequential fresh =>
    rw [State.dispatchNext, if_neg (by rw [sequential]; exact Bool.false_ne_true)]
    exact ⟨rfl, rfl, fun _ => rfl, subset_cons_self _ _, own⟩
  | advances here taken | settles here taken =>
    exact ⟨rfl, rfl, fun _ => rfl, dispatchStep_seen taken, own⟩
  | concludes here found first =>
    have named := (Table.get_eq_some_iff.mp found).2
    exact ⟨rfl, rfl, fun different => Table.get_put_of_ne (named ▸ different),
      List.Subset.refl _, own⟩

theorem Current.goesOn_of_failed {k : Nat} (current : Current history job k jid)
    (unsaved : Unsaved history job jid) {notConnected : Bool}
    (goes : job.abortOnErr = true → notConnected = true) :
    GoesOn (history ++ [.dispatchFailed job k jid notConnected]) job k := by
  refine ⟨jid, current.toDispatched.append (by simp), .inl ⟨notConnected, mem_append_right _
      (mem_singleton_self _)⟩, ?_⟩
  intro aborts fails
  rcases fails with failed | saved
  · rcases mem_or_eq_of_mem_concat failed with old | new
    · exact Nat.lt_irrefl _ (current.failed k jid false old)
    · cases new
      cases goes aborts
  · rcases mem_or_eq_of_mem_concat saved with old | new
    · exact unsaved _ old
    · cases new

theorem Looped.phased (traced : Traced history state)
    (looped : Looped settings state execution client choice phase after shown)
    (sequential : execution.job.concurrent = false)
    (before : Phased history state execution execution.phase) :
    Phased (history ++ shown) after { execution with phase := phase }
      phase := by
  cases looped with
  | opensConcurrent here concurrent | spawns here left concurrent =>
    rw [concurrent] at sequential
    cases sequential
  | closes finished => exact .ended
  | returns here left noID => exact .closing
  | opens here _ =>
    rw [here] at before
    cases before with
    | opening earlier idle =>
      rw [append_nil]
      have announced := (append_eq_nil_iff.mp idle).2
      refine .next ⟨_, Table.get_put_self, rfl⟩ earlier ?_ ?_
      · intro previous same
        cases same
      · rw [State.pending_eq Table.get_put_self]
        exact announced
  | @dispatches k clientID jid here left _ fresh =>
    rw [here] at before
    cases before with
    | next opened earlier goesOn idle =>
      have isNew := (State.isFresh_elim fresh).1
      have unsaved : Unsaved (history ++ [.dispatching execution.job k jid]) execution.job jid := by
        intro status member
        exact isNew (traced.saved (mem_of_mem_concat (by simp) member))
      rw [State.dispatchNext, if_neg (by rw [sequential]; exact Bool.false_ne_true)]
      exact .dispatching opened (List.getElem?_eq_some_iff.mp left).1
        (earlier.current jid) rfl unsaved idle
  | advances here taken =>
    rw [here] at before
    rw [append_nil]
    cases before with
    | dispatching opened within current named unsaved idle =>
      exact .dispatching opened within current (dispatchStep_isFor taken named) unsaved idle
  | @settles k dispatch shared known curJob err here taken =>
    rw [here] at before
    cases before with
    | dispatching opened within current named unsaved idle =>
      obtain ⟨rfl, _⟩ := dispatchStep_isFor taken named
      cases err with
      | none =>
        have quiet : (settle execution.job k known curJob none).2 = [] := rfl
        rw [quiet, append_nil]
        exact .waiting opened within current unsaved idle
      | some err =>
        simp only [settle]
        split
        · exact .closing
        · rename_i goes
          have connected : execution.job.abortOnErr = true → notConnected known = true := by
            intro aborts
            simpa [aborts] using goes
          refine .next opened (current.failing _) ?_ idle
          intro previous same
          cases same
          exact current.goesOn_of_failed unsaved connected
  | @concludes k curJob jobResult rest channel here found first =>
    rw [here] at before
    cases before with
    | waiting opened within current unsaved idle =>
      have pends : state.pending execution.jid = _ := State.pending_eq found
      rw [idle, first] at pends
      cases pends
    | @answered _ _ taken opened within current saved pends =>
      obtain ⟨known, foundKnown, capacity⟩ := opened
      cases found.symm.trans foundKnown
      have all : state.pending execution.jid = _ := State.pending_eq found
      rw [pends, first, cons_append, List.cons.injEq] at all
      obtain ⟨rfl, rest⟩ := all
      obtain ⟨rfl, announced⟩ := append_eq_nil_iff.mp rest.symm
      have named : channel.multiJobID = execution.jid := (Table.get_eq_some_iff.mp found).2
      have now : (state.jobsDoneChannel.put
          { channel with queue := [] }).get execution.jid =
          some { channel with queue := [] } := by
        rw [← named]
        exact Table.get_put_self
      simp only [conclude]
      split
      · exact .closing
      · rename_i goes
        rw [append_nil]
        refine .next ⟨_, now, capacity⟩ current.earlier ?_ ?_
        · intro previous same
          cases same
          refine ⟨curJob.jid, current.toDispatched, .inr ⟨_, (saved _).mpr rfl⟩, ?_⟩
          intro aborts fails
          rcases fails with failed | wrong
          · exact Nat.lt_irrefl _ (current.failed k _ false failed)
          · have failed : taken.status = jobStatusFailed := ((saved _).mp wrong).symm
            apply goes
            rw [Bool.and_eq_true, decide_eq_true_eq]
            exact ⟨aborts, failed⟩
        · rw [State.pending_eq now]
          exact announced

theorem State.announced_of_isFresh (fresh : state.isFresh jid = true) :
    state.announced jid = [] := by
  apply filterMap_eq_nil_iff.mpr
  intro message member
  have apart := (State.isFresh_elim fresh).2.2.2 message member
  cases message with
  | announcing job => exact if_neg (of_decide_eq_false apart)
  | received | saving | done => rfl

theorem Traced.launch (traced : Traced history state)
    (fresh : state.isFresh job.jid = true) (orderedClients : List String)
    (executions : after.executions = state.executions.put ⟨job, orderedClients, .opening⟩)
    (channels : after.jobsDoneChannel = state.jobsDoneChannel)
    (messages : after.messages = state.messages) (seen : state.shared.seen ⊆ after.shared.seen) :
    Traced (history ++ [.started job]) after := by
  have absent := (State.isFresh_elim fresh).2.1
  have noChannel : state.jobsDoneChannel.get job.jid = none := by
    cases found : state.jobsDoneChannel.get job.jid with
    | none => rfl
    | some channel =>
      obtain ⟨execution, known⟩ := traced.channels found
      cases absent.symm.trans known
  have still : ∀ {other known}, state.executions.get other = some known →
      after.executions.get other = some known := by
    intro other known found
    rw [executions]
    refine (Table.get_put_of_ne ?_).trans found
    rintro rfl
    cases absent.symm.trans found
  refine ⟨?_, ?_, ?_, ?_, ?_, ?_⟩
  · intro own k jid member
    obtain ⟨execution, found, same⟩ := traced.dispatched (mem_of_mem_concat (by simp) member)
    exact ⟨execution, still found, same⟩
  · intro own k jid notConnected member
    obtain ⟨execution, found, same⟩ := traced.failed (mem_of_mem_concat (by simp) member)
    exact ⟨execution, still found, same⟩
  · intro multiJobID jid status member
    exact seen (traced.saved (mem_of_mem_concat (by simp) member))
  · intro clientID payload reported dispatched member
    rw [messages] at member
    exact seen (traced.named member)
  · intro multiJobID channel found
    rw [channels] at found
    obtain ⟨execution, known⟩ := traced.channels found
    exact ⟨execution, still known⟩
  · intro multiJobID execution found sequential
    rw [executions] at found
    rcases Table.get_put_cases found with ⟨rfl, rfl⟩ | ⟨_, there⟩
    · refine .opening ⟨?_, ?_⟩ ?_
      · intro other jid member
        obtain ⟨known, foundKnown, _⟩ := traced.dispatched (mem_of_mem_concat (by simp) member)
        cases absent.symm.trans foundKnown
      · intro other jid notConnected member
        obtain ⟨known, foundKnown, _⟩ := traced.failed (mem_of_mem_concat (by simp) member)
        cases absent.symm.trans foundKnown
      · apply append_eq_nil_iff.mpr
        constructor
        · simp only [State.queue, channels, Execution.jid, noChannel]
        · rw [State.announced, messages]
          exact State.announced_of_isFresh fresh
    · refine (traced.phased there sequential).frame _ ?_ (by rw [channels])
        (by rw [State.announced, State.announced, messages])
      exact forall_mem_singleton.mpr id

theorem Traced.setStarter (traced : Traced history state) (index : Nat) (starter : Starter) :
    Traced (history ++ []) (state.setStarter index starter) :=
  traced.quiet rfl rfl (fun _ => rfl) (List.Subset.refl _) traced.named

variable {index : Nat} {starter : Starter}

theorem Begun.traced (traced : Traced history state) {choice : StartChoice}
    (begun : Begun settings state index starter choice after shown) :
    Traced (history ++ shown) after := by
  cases begun with
  | ends | overlaps | fetches | passes => exact traced.setStarter _ _
  | launches here made fresh =>
    exact traced.launch fresh _ rfl rfl rfl (subset_cons_self _ _)

def InSequence (history : List Event) : List Event → Prop
  | [] => True
  | event :: later =>
    event.InSequence history ∧ InSequence (history ++ [event]) later

theorem InSequence.of_split {earlier later : List Event} {event : Event}
    (inSequence : InSequence history (earlier ++ event :: later)) :
    event.InSequence (history ++ earlier) := by
  induction earlier generalizing history with
  | nil =>
    rw [append_nil]
    exact inSequence.1
  | cons first rest induction =>
    have further := induction inSequence.2
    rwa [append_assoc] at further

variable {message : Message}

theorem State.announced_set (found : state.messages[index]? = some message)
    (new : Message) (same : message.announced jid = new.announced jid)
    (messages : after.messages = state.messages.set index new) :
    after.announced jid = state.announced jid := by
  obtain ⟨front, back, before, replaced⟩ := filterMap_set found new (Message.announced jid)
  rw [State.announced, State.announced, messages, before, replaced, same]

theorem Traced.setMessage (traced : Traced history state) {message new : Message} {shared : Shared}
    (found : state.messages[index]? = some message) (quiet : ∀ jid, message.announced jid = none)
    (newQuiet : ∀ jid, new.announced jid = none) (seen : state.shared.seen ⊆ shared.seen)
    (named : ∀ {clientID payload reported dispatched},
      new = .saving clientID payload reported dispatched →
      dispatched.jid ∈ shared.seen) :
    Traced (history ++ []) ({ state with shared := shared }.setMessage index new) := by
  refine traced.quiet rfl rfl ?_ seen ?_
  · intro jid
    exact State.announced_set found new ((quiet jid).trans (newQuiet jid).symm) rfl
  · intro clientID payload reported dispatched member
    rcases mem_or_eq_of_mem_set member with old | same
    · exact seen (traced.named old)
    · exact named same.symm

theorem State.announce_frame (state : State) (job : Job) :
    (state.announce job).executions = state.executions ∧
      (state.announce job).messages = state.messages ∧
      (state.announce job).shared = state.shared := by
  obtain ⟨channels, same⟩ := State.announce_eq state job
  rw [same]
  exact ⟨rfl, rfl, rfl⟩

variable {job : Job}

theorem State.announce_get_of_ne (state : State) (different : job.multiJobID ≠ some jid) :
    (state.announce job).jobsDoneChannel.get jid = state.jobsDoneChannel.get jid := by
  rw [State.announce]
  split
  · rfl
  · rename_i multiJobID named
    split
    · rfl
    · rename_i done found
      split
      · refine Table.get_put_of_ne ?_
        rintro rfl
        exact different (named.trans (congrArg some (Table.get_eq_some_iff.mp found).2.symm))
      · rfl

theorem State.channel_of_announce {channel : Channel}
    (found : (state.announce job).jobsDoneChannel.get jid = some channel) :
    ∃ before, state.jobsDoneChannel.get jid = some before := by
  by_cases own : job.multiJobID = some jid
  · rw [State.announce, own] at found
    cases there : state.jobsDoneChannel.get jid with
    | none =>
      simp only [there] at found
      cases found
    | some before => exact ⟨before, rfl⟩
  · rw [State.announce_get_of_ne state own] at found
    exact ⟨channel, found⟩

theorem Phased.announce (phased : Phased history state execution phase)
    (found : state.messages[index]? = some (.announcing job))
    (own : job.multiJobID = some execution.jid) :
    Phased history ((state.announce job).setMessage index .done) execution
      phase := by
  obtain ⟨front, back, before, replaced⟩ :=
    filterMap_set found .done (Message.announced execution.jid)
  have part : Message.announced execution.jid (.announcing job) = some job := if_pos own
  rw [part] at before
  have notIdle : state.pending execution.jid ≠ [] := by
    intro idle
    have none := (append_eq_nil_iff.mp idle).2
    rw [State.announced, before] at none
    exact absurd (append_eq_nil_iff.mp none).2 (cons_ne_nil _ _)
  cases phased with
  | opening earlier idle | next opened earlier goesOn idle
  | waiting opened within current unsaved idle => exact (notIdle idle).elim
  | dispatching opened within current named unsaved idle =>
    exact (notIdle idle).elim
  | @answered k curJob jobResult opened within current saved pends =>
    obtain ⟨channel, foundChannel, capacity⟩ := opened
    rw [State.pending_eq foundChannel, State.announced, before] at pends
    obtain ⟨empty, rfl, rfl, rfl⟩ : channel.queue = [] ∧ front = [] ∧
        job = jobResult ∧ back = [] := by
      simpa [append_eq_singleton_iff] using pends
    have room : channel.queue.length < channel.capacity := by
      rw [empty, capacity]
      exact Nat.zero_lt_of_lt within
    have same : channel.multiJobID = execution.jid := (Table.get_eq_some_iff.mp foundChannel).2
    have sent : ((state.announce job).setMessage index .done).jobsDoneChannel.get
        execution.jid = some { channel with queue := [job] } := by
      simp only [State.setMessage, State.announce, own, foundChannel]
      rw [if_pos room, ← same, empty]
      exact Table.get_put_self
    refine .answered ⟨_, sent, capacity⟩ within current saved ?_
    rw [State.pending_eq sent, State.announced, State.setMessage,
      (State.announce_frame state job).2.1, replaced]
    rfl
  | closing => exact .closing
  | ended => exact .ended

theorem Traced.announce (traced : Traced history state)
    (found : state.messages[index]? = some (.announcing job)) :
    Traced (history ++ []) ((state.announce job).setMessage index .done) := by
  obtain ⟨executions, messages, shared⟩ := State.announce_frame state job
  rw [append_nil]
  refine ⟨?_, ?_, ?_, ?_, ?_, ?_⟩
  · rw [State.setMessage, executions]
    exact traced.dispatched
  · rw [State.setMessage, executions]
    exact traced.failed
  · rw [State.setMessage, shared]
    exact traced.saved
  · intro clientID payload reported dispatched member
    rw [State.setMessage, shared]
    rw [State.setMessage, messages] at member
    rcases mem_or_eq_of_mem_set member with old | same
    · exact traced.named old
    · cases same
  · intro multiJobID channel there
    rw [State.setMessage, executions]
    obtain ⟨known, thereBefore⟩ := State.channel_of_announce there
    exact traced.channels thereBefore
  · intro multiJobID execution there sequential
    rw [State.setMessage, executions] at there
    have phased := traced.phased there sequential
    by_cases own : job.multiJobID = some execution.jid
    · exact phased.announce found own
    · rw [← append_nil history]
      refine phased.frame [] (forall_mem_nil _) (State.announce_get_of_ne state own) ?_
      refine State.announced_set found .done (if_neg own) ?_
      rw [State.setMessage, messages]

theorem Phased.of_not_going (left : phase.isGoing = false) :
    Phased history state execution phase := by
  cases phase with
  | closing => exact .closing
  | ended => exact .ended
  | opening | next | dispatching | waiting => cases left

theorem Phased.answer (phased : Phased history state execution execution.phase)
    {resp : Job} (found : state.messages[index]? = some message)
    (quiet : message.announced execution.jid = none) (own : resp.multiJobID = some execution.jid)
    (awaited : Awaited state execution resp.jid)
    (channels : after.jobsDoneChannel = state.jobsDoneChannel)
    (messages : after.messages = state.messages.set index (.announcing resp)) :
    Phased (history ++ [.saved resp.multiJobID resp.jid resp.status]) after
      execution execution.phase := by
  obtain ⟨awaits, idle⟩ := awaited
  obtain ⟨k, curJob, here, same⟩ := Phase.waiting_of_awaits awaits
  rw [here] at phased ⊢
  cases phased with
  | answered opened within current saved pends =>
    rw [idle] at pends
    cases pends
  | waiting opened within current unsaved _ =>
    obtain ⟨noQueue, noAnnounced⟩ := append_eq_nil_iff.mp idle
    obtain ⟨front, back, before, replaced⟩ := filterMap_set found (.announcing resp)
        (Message.announced execution.jid)
    rw [State.announced, before, quiet] at noAnnounced
    obtain ⟨rfl, rest⟩ := append_eq_nil_iff.mp noAnnounced
    obtain ⟨_, rfl⟩ := append_eq_nil_iff.mp rest
    have part : Message.announced execution.jid (.announcing resp) = some resp := if_pos own
    have saved : ∀ status, .saved (some execution.jid) curJob.jid status ∈
          history ++ [.saved resp.multiJobID resp.jid resp.status] ↔
        status = resp.status := by
      intro status
      constructor
      · intro member
        rcases mem_or_eq_of_mem_concat member with old | new
        · exact (unsaved status old).elim
        · exact (Event.saved.inj new).2.2
      · rintro rfl
        rw [← own, same]
        exact mem_append_right _ (mem_singleton_self _)
    refine .answered ?_ within (current.append ⟨by simp, by simp⟩) saved ?_
    · rw [Opened, channels]
      exact opened
    · rw [State.pending, State.queue, channels, State.announced, messages, replaced, part]
      rw [State.queue] at noQueue
      rw [noQueue]
      rfl

theorem Traced.answer (traced : Traced history state) {clientID : String}
    {payload : List UInt8} {reported dispatched resp : Job}
    (inTurn : InTurn state (.message index choice))
    (found : state.messages[index]? = some (.saving clientID payload reported dispatched))
    (jid : resp.jid = dispatched.jid) (multiJobID : resp.multiJobID = dispatched.multiJobID)
    (executions : after.executions = state.executions)
    (channels : after.jobsDoneChannel = state.jobsDoneChannel)
    (messages : after.messages = state.messages.set index (.announcing resp))
    (seen : state.shared.seen ⊆ after.shared.seen) :
    Traced (history ++ [.saved resp.multiJobID resp.jid resp.status])
      after := by
  have known := traced.named (List.mem_of_getElem? found)
  refine ⟨?_, ?_, ?_, ?_, ?_, ?_⟩
  · intro job k own member
    rw [executions]
    exact traced.dispatched (mem_of_mem_concat (by simp) member)
  · intro job k own notConnected member
    rw [executions]
    exact traced.failed (mem_of_mem_concat (by simp) member)
  · intro multiJobID own status member
    rcases mem_or_eq_of_mem_concat member with old | new
    · exact seen (traced.saved old)
    · cases new
      rw [jid]
      exact seen known
  · intro clientID payload reported dispatched member
    rw [messages] at member
    rcases mem_or_eq_of_mem_set member with old | same
    · exact seen (traced.named old)
    · cases same
  · rw [executions, channels]
    exact traced.channels
  · intro own execution there sequential
    rw [executions] at there
    have phased := traced.phased there sequential
    by_cases same : resp.multiJobID = some execution.jid
    · cases going : execution.phase.isGoing with
      | false => exact .of_not_going going
      | true =>
        have named : execution.jid = own := (Table.get_eq_some_iff.mp there).2
        refine phased.answer found rfl same ?_ channels messages
        rw [jid]
        rw [multiJobID, named] at same
        refine inTurn dispatched ?_ execution ?_ sequential going
        · rw [found]
          rfl
        · rw [same]
          exact there
    · refine phased.frame _ (forall_mem_singleton.mpr same)
        (by rw [channels]) (State.announced_set found _ ?_ messages)
      exact (if_neg same).symm

theorem messageStep_traced (traced : Traced history state)
    (found : state.messages[index]? = some message) (inTurn : InTurn state (.message index choice))
    (stepped : messageStep settings state index message choice = some (after, shown)) :
    Traced (history ++ shown) after ∧ InSequence history shown := by
  cases message with
  | received clientID payload =>
    simp only [messageStep] at stepped
    split at stepped
    · cases stepped
    · rename_i shared later effects taken
      split at stepped
      · cases stepped
        refine ⟨traced.setMessage found (fun _ => rfl) (fun _ => rfl)
          (atomic_seen taken) ?_, trivial⟩
        intro sender sent other job same
        cases same
        exact atomic_cmdResult taken rfl
      · cases stepped
        exact ⟨traced.setMessage found (fun _ => rfl) (fun _ => rfl)
          (atomic_seen taken) (fun same => by cases same), trivial⟩
  | saving clientID payload reported dispatched =>
    simp only [messageStep] at stepped
    split at stepped
    · cases stepped
    · rename_i shared later effects taken
      split at stepped
      · rename_i resp
        cases stepped
        cases atomic_saving taken rfl
        exact ⟨traced.answer inTurn found rfl rfl rfl rfl rfl (atomic_seen taken), trivial, trivial⟩
      · cases stepped
        exact ⟨traced.setMessage found (fun _ => rfl) (fun _ => rfl)
          (atomic_seen taken) (fun same => by cases same), trivial⟩
  | announcing job =>
    cases stepped
    exact ⟨traced.announce found, trivial⟩
  | done => cases stepped

theorem goroutineStep_traced (traced : Traced history state) {goroutine : Goroutine}
    (stepped : goroutineStep settings state index goroutine client choice = some (after, shown)) :
    Traced (history ++ shown) after ∧ InSequence history shown := by
  simp only [goroutineStep] at stepped
  split at stepped
  · cases stepped
  · rename_i shared later taken
    cases stepped
    have seen := dispatchStep_seen taken
    exact ⟨traced.quiet rfl rfl (fun _ => rfl) seen
      (fun member => seen (traced.named member)), trivial⟩

theorem started_traced (now : Time) (database : Database) : Traced [] (started now database) := by
  refine ⟨?_, ?_, ?_, ?_, ?_, ?_⟩
  · intro job k jid member
    cases member
  · intro job k jid notConnected member
    cases member
  · intro multiJobID jid status member
    cases member
  · intro clientID payload reported dispatched member
    cases member
  · intro multiJobID channel found
    cases found
  · intro multiJobID execution found
    cases found

theorem Looped.inSequence (looped : Looped settings state execution client choice phase after shown)
    (phased : execution.job.concurrent = false → Phased history state execution execution.phase)
    (generates : execution.job.concurrent = false →
      execution.hasNext = true → choice.jid.isOk = true) :
    InSequence history shown := by
  cases looped with
  | opensConcurrent | opens | closes | advances => trivial
  | returns here left noID =>
    refine ⟨?_, trivial⟩
    cases kind : execution.job.concurrent with
    | true => exact kind
    | false =>
      have isNext : execution.hasNext = true := by
        rw [Execution.hasNext, here]
        exact decide_eq_true (List.getElem?_eq_some_iff.mp left).1
      have generated := generates kind isNext
      rw [noID] at generated
      cases generated
  | spawns here left concurrent fresh =>
    refine ⟨?_, trivial⟩
    intro sequential
    rw [concurrent] at sequential
    cases sequential
  | dispatches here left sequential fresh =>
    have before := phased sequential
    rw [here] at before
    cases before with
    | next opened earlier goesOn idle => exact ⟨fun _ => goesOn, trivial⟩
  | @settles k dispatch shared known curJob err here taken =>
    cases err with
    | none => trivial
    | some err =>
      simp only [settle]
      split
      · rename_i stops
        rw [Bool.and_eq_true, Bool.not_eq_true'] at stops
        refine ⟨trivial, ?_, trivial⟩
        intro sequential
        have before := phased sequential
        rw [here] at before
        cases before with
        | dispatching opened within current named unsaved idle =>
          obtain ⟨rfl, _⟩ := dispatchStep_isFor taken named
          refine ⟨stops.1, curJob.jid, current.toDispatched.append (by simp), .inl ?_⟩
          rw [stops.2]
          exact mem_append_right _ (mem_singleton_self _)
      · exact ⟨trivial, trivial⟩
  | @concludes k curJob jobResult rest channel here found first =>
    simp only [conclude]
    split
    · rename_i stops
      rw [Bool.and_eq_true, decide_eq_true_eq] at stops
      refine ⟨?_, trivial⟩
      intro sequential
      have before := phased sequential
      have all : state.pending execution.jid = _ := State.pending_eq found
      rw [here] at before
      rw [first, cons_append] at all
      cases before with
      | waiting opened within current unsaved idle =>
        cases idle.symm.trans all
      | answered opened within current saved pends =>
        obtain ⟨rfl, _⟩ := List.cons.inj (pends.symm.trans all)
        exact ⟨stops.1, curJob.jid, current.toDispatched, .inr ((saved _).mpr stops.2.symm)⟩
    · trivial

theorem Begun.inSequence {choice : StartChoice}
    (begun : Begun settings state index starter choice after shown) : InSequence history shown := by
  cases begun with
  | ends | overlaps | fetches | passes => trivial
  | launches here made fresh => exact ⟨trivial, trivial⟩

theorem step_traced (traced : Traced history state) {input : Input} (inTurn : InTurn state input)
    (stepped : step settings state input = some (after, shown)) :
    Traced (history ++ shown) after ∧ InSequence history shown := by
  cases input with
  | tick | wait | forget =>
    cases stepped
    exact ⟨traced.quiet rfl rfl (fun _ => rfl) (List.Subset.refl _) traced.named, trivial⟩
  | request request =>
    simp only [step] at stepped
    split at stepped
    · cases stepped
      exact ⟨traced.quiet rfl rfl (fun _ => rfl) (List.Subset.refl _) traced.named, trivial⟩
    · cases stepped
  | start index choice =>
    obtain ⟨starter, _, taken⟩ := Option.bind_eq_some_iff.mp stepped
    have begun := starterStep_begun taken
    exact ⟨begun.traced traced, begun.inSequence⟩
  | execute jid client choice =>
    obtain ⟨execution, found, taken⟩ := Option.bind_eq_some_iff.mp stepped
    obtain ⟨phase, looped⟩ := executeStep_looped taken
    refine ⟨traced.advance found looped.advanced ?_,
      looped.inSequence (traced.phased found) (inTurn execution found)⟩
    intro sequential
    exact looped.phased traced sequential (traced.phased found sequential)
  | dispatch index client choice =>
    obtain ⟨goroutine, _, taken⟩ := Option.bind_eq_some_iff.mp stepped
    exact goroutineStep_traced traced taken
  | report clientID payload =>
    cases stepped
    refine ⟨traced.quiet rfl rfl ?_ (List.Subset.refl _) ?_, trivial⟩
    · intro jid
      rw [State.announced, filterMap_append]
      exact append_nil _
    · intro sender sent reported dispatched member
      exact traced.named (mem_of_mem_concat (by simp) member)
  | message index choice =>
    obtain ⟨message, found, taken⟩ := Option.bind_eq_some_iff.mp stepped
    exact messageStep_traced traced found inTurn taken

end Steps

/-- A sequential run goes on with the next client only when the job of the
client before has its answer, and leaves its loop after a client exactly when
this answer is a failure. -/
theorem sequential_in_turn (settings : Settings) (now : Time)
    (database : Database) {history : List Event} {state : State}
    (run : Run (multiJobs settings) InTurn (started now database) history state)
    {before later : List Event} {event : Event} (split : history = before ++ event :: later) :
    event.InSequence before := by
  refine run.justified Traced (started_traced now database) ?_
    (fun before event => event.InSequence before) ?_ split
  · intro history shown state next input traced inTurn stepped
    exact (step_traced traced inTurn stepped).1
  · intro history shown state next input traced inTurn stepped
    rintro earlier event later rfl
    exact (step_traced traced inTurn stepped).2.of_split

instance (state : State) : DecidablePred (InTurn state)
  | .message index _ => inferInstanceAs (Decidable
      (∀ dispatched ∈ state.messages[index]?.bind Message.dispatched,
        ∀ execution ∈ _, _ → _ → _ ∧ _))
  | .execute jid _ _ => inferInstanceAs (Decidable
      (∀ execution ∈ state.executions.get jid, _ → _ → _))
  | .tick _ | .request _ | .start _ _ | .dispatch _ _ _ | .report _ _
  | .wait _ | .forget _ => .isTrue trivial

def dateForAll : MultiJobRequest where
  scheduleID := none
  username := "user"
  command := "date"
  script := ""
  cwd := ""
  isSudo := false
  interpreter := ""
  timeoutSec := 0
  executeConcurrently := false
  abortOnError := none
  isScript := false

def dateRun : MultiJob where
  jid := "run"
  startedAt := 0
  createdBy := "user"
  scheduleID := none
  command := "date"
  interpreter := ""
  cwd := ""
  isScript := false
  isSudo := false
  timeoutSec := 60
  concurrent := false
  abortOnErr := true

def dateSettings : Settings where
  server := { plainServer with
    listener := { plainServer.listener with
      decode := fun payload =>
        if payload = [1] then .ok { dateResult with jid := "job-a" }
        else if payload = [2] then
          .ok { dateResult with jid := "job-b", status := jobStatusFailed }
        else .error "invalid character" } }
  decodeScript := .ok
  overlaps := fun _ => true

def allClients : StartChoice where
  schedule := .ok none
  jid := .ok "run"
  orderedClients := .ok ["a", "b", "c"]
  access := none
  failure := none

def dispatchTo (clientID jid : String) : List Input :=
  List.replicate 4 (.execute "run" ⟨clientID, clientID, none, true⟩
    { works with jid := .ok jid })

def resultOf (index : Nat) (clientID : String) (payload : List UInt8) : List Input :=
  .report clientID payload :: List.replicate 3 (.message index works)

def goOn : Input := .execute "run" ⟨"", "", none, true⟩ works

def oneAfterTheOther : List Input :=
  List.flatten [[.request dateForAll, .start 0 allClients, goOn],
    dispatchTo "a" "job-a", resultOf 0 "a" [1], [goOn],
    dispatchTo "b" "job-b", resultOf 1 "b" [2], [goOn]]

def secondFailed : List Event :=
  [.started dateRun, .dispatching dateRun 0 "job-a",
    .saved (some "run") "job-a" "successful",
    .dispatching dateRun 1 "job-b", .saved (some "run") "job-b" "failed"]

theorem sequential_in_turn_secondFailed :
    ∃ history state,
      Run (multiJobs dateSettings) InTurn (started 0 emptyDatabase) history state ∧
      history = secondFailed ++ [.stopped dateRun 1] ∧
      Stops secondFailed dateRun 1 :=
  exists_comm.mp (Run.exists_reaching_follows oneAfterTheOther
    (by decide +kernel) (by decide +kernel) fun run shown =>
      sequential_in_turn dateSettings 0 emptyDatabase run shown rfl)

def resultTwice : List Input :=
  List.flatten [[.request dateForAll, .start 0 allClients, goOn],
    dispatchTo "a" "job-a", resultOf 0 "a" [1], resultOf 1 "a" [1], [goOn],
    dispatchTo "b" "job-b", [goOn], (dispatchTo "c" "job-c").take 1]

def firstTwice : List Event :=
  [.started dateRun, .dispatching dateRun 0 "job-a",
    .saved (some "run") "job-a" "successful", .saved (some "run") "job-a" "successful",
    .dispatching dateRun 1 "job-b"]

/-- A sequential run takes the second copy of the first client's result for that
of the second client, and dispatches to the third while the second runs its
job. -/
theorem duplicate_taken_for_next :
    ∃ history state,
      Run (multiJobs dateSettings) Unrestricted (started 0 emptyDatabase) history state ∧
      history = firstTwice ++ [.dispatching dateRun 2 "job-c"] ∧
      dateRun.concurrent = false ∧
      (∀ status, .saved (some "run") "job-b" status ∉ history) ∧
      (∀ k jid notConnected, .dispatchFailed dateRun k jid notConnected ∉ history) ∧
      ¬ GoesOn firstTwice dateRun 1 := by
  obtain ⟨state, history, run, outcome⟩ := Run.exists_unrestricted (multiJobs dateSettings)
      (started 0 emptyDatabase) resultTwice
      (fun outcome => decide (outcome.2 = firstTwice ++ [.dispatching dateRun 2 "job-c"]))
      (by decide +kernel)
  have shown : history = firstTwice ++ [.dispatching dateRun 2 "job-c"] := of_decide_eq_true outcome
  have unsaved : ∀ status, .saved (some "run") "job-b" status ∉ history := by
    rw [shown]
    simp [firstTwice]
  have unfailed : ∀ k jid notConnected, .dispatchFailed dateRun k jid notConnected ∉ history := by
    rw [shown]
    simp [firstTwice]
  refine ⟨history, state, run, shown, rfl, unsaved, unfailed, ?_⟩
  rintro ⟨jid, dispatched, answered, _⟩
  have within : ∀ {event}, event ∈ firstTwice → event ∈ history := by
    intro event member
    rw [shown]
    exact mem_append_left _ member
  have job : "job-b" = jid := dispatched.only "job-b" (by decide)
  subst job
  rcases answered with ⟨notConnected, failed⟩ | ⟨status, saved⟩
  · exact unfailed _ _ _ (within failed)
  · exact unsaved _ (within saved)

end ProxiPort.MultiJobs
