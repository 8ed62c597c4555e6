import ProxiPort.Foundation.Run

/-!
# The queue of measurements

`Close` cancels the context that `process` saves measurements with, and
`Notify` may still pick the channel when the context is done as well.
-/

namespace ProxiPort.Monitoring

open Concurrency List

variable {Measurement : Type}

/-- Where the goroutine of `process` is: in front of a `select`, of the loop or
of `saveAllEnqueuedMeasurements`, or with a measurement that it has received. -/
inductive Process (Measurement : Type) where
  | receiving (drains : Bool)
  | saving (measurement : Measurement) (drains : Bool)
  | quit
  deriving DecidableEq, Repr

def Process.held : Process Measurement → List Measurement
  | .saving measurement _ => [measurement]
  | .receiving _ | .quit => []

def Process.stops : Process Measurement → Bool
  | .receiving drains | .saving _ drains => drains
  | .quit => true

structure Queue (Measurement : Type) where
  queue : List Measurement
  cancelled : Bool
  process : Process Measurement

def Queue.waiting (state : Queue Measurement) : List Measurement :=
  state.process.held ++ state.queue

def newMeasurementQueuing : Queue Measurement := ⟨[], false, .receiving false⟩

/-- A call of `Notify` has one effect, when its `select` picks a case. -/
inductive Input (Measurement : Type) where
  | send (measurement : Measurement)
  | handOver (measurement : Measurement)
  | refuse (measurement : Measurement)
  | receive
  | save
  | done
  | default
  | cancel
  | wait

inductive Output (Measurement : Type) where
  | notified (measurement : Measurement) (accepted : Bool)
  | saved (measurement : Measurement) (cancelled : Bool)
  | closed
  deriving DecidableEq, Repr

def step (queueSize : Nat) (state : Queue Measurement) (input : Input Measurement) :
    Option (Queue Measurement × List (Output Measurement)) :=
  match input, state.queue, state.process, state.cancelled with
  | .send measurement, queue, _, _ =>
    if queue.length < queueSize then
      some ({ state with queue := queue ++ [measurement] }, [.notified measurement true])
    else none
  -- to a receiver that is there already, as it has to be without a buffer
  | .handOver measurement, [], .receiving drains, _ =>
    some ({ state with process := .saving measurement drains }, [.notified measurement true])
  | .refuse measurement, _, _, true =>
    some (state, [.notified measurement false])
  | .receive, measurement :: queue, .receiving drains, _ =>
    some (⟨queue, state.cancelled, .saving measurement drains⟩, [])
  | .save, _, .saving measurement drains, cancelled =>
    some ({ state with process := .receiving drains }, [.saved measurement cancelled])
  | .done, _, .receiving false, true =>
    some ({ state with process := .receiving true }, [])
  | .default, [], .receiving true, _ =>
    some ({ state with process := .quit }, [])
  | .cancel, _, _, _ => some ({ state with cancelled := true }, [])
  | .wait, _, .quit, _ => some (state, [.closed])
  | _, _, _, _ => none

def measurements (queueSize : Nat) :
    System (Queue Measurement) (Input Measurement) (Output Measurement) :=
  ⟨step queueSize⟩

@[simp]
def Output.acceptance : Output Measurement → Option Measurement
  | .notified measurement true => some measurement
  | _ => none

/-- A measurement that is passed on while the context is not done. -/
@[simp]
def Output.passed : Output Measurement → Option Measurement
  | .saved measurement false => some measurement
  | _ => none

/-- Nothing is passed on with a cancelled context, and what is passed on is
what was accepted, each measurement as often as it was accepted. -/
def AllSaved (history : List (Output Measurement)) : Prop :=
  (∀ measurement, .saved measurement true ∉ history) ∧
    history.filterMap Output.passed = history.filterMap Output.acceptance

/-- The context is cancelled only when nothing waits to be saved, and nothing
is accepted afterwards. -/
def Settled (state : Queue Measurement) : Input Measurement → Prop
  | .cancel => state.waiting = []
  | .send _ | .handOver _ => state.cancelled = false
  | .refuse _ | .receive | .save | .done | .default | .wait => True

structure Traced (history : List (Output Measurement))
    (state : Queue Measurement) : Prop where
  live : ∀ measurement, .saved measurement true ∉ history
  balance : history.filterMap Output.acceptance = history.filterMap Output.passed ++ state.waiting
  idle : state.cancelled = true → state.waiting = []
  stops : state.process.stops = true → state.cancelled = true
  closed : .closed ∈ history → state.cancelled = true

variable {queueSize : Nat} {history shown : List (Output Measurement)}
  {state next : Queue Measurement} {input : Input Measurement}

theorem Traced.accept (traced : Traced history state)
    (live : state.cancelled = false) {measurement : Measurement}
    (waiting : next.waiting = state.waiting ++ [measurement])
    (cancelled : next.cancelled = state.cancelled)
    (stops : next.process.stops = state.process.stops) :
    Traced (history ++ [.notified measurement true]) next where
  live := by simpa using traced.live
  balance := by simp [traced.balance, waiting]
  idle := by simp [cancelled, live]
  stops := by simpa [cancelled, stops] using traced.stops
  closed := by simpa [cancelled] using traced.closed

theorem Traced.quiet (traced : Traced history state) (waiting : next.waiting = state.waiting)
    (cancelled : state.cancelled = true → next.cancelled = true)
    (idle : next.cancelled = true → state.waiting = [])
    (stops : next.process.stops = true → next.cancelled = true) : Traced history next where
  live := traced.live
  balance := waiting ▸ traced.balance
  idle := fun done => waiting.trans (idle done)
  stops := stops
  closed := fun closed => cancelled (traced.closed closed)

theorem step_traced (traced : Traced history state) (settled : Settled state input)
    (stepped : (measurements queueSize).step state input =
      some (next, shown)) : Traced (history ++ shown) next := by
  obtain ⟨queue, cancelled, process⟩ := state
  have ⟨live, balance, idle, stops, closed⟩ := traced
  simp only [measurements, step] at stepped
  split at stepped
  · split at stepped
    · cases stepped
      exact traced.accept settled (append_assoc _ _ _).symm rfl rfl
    · cases stepped
  · cases stepped
    exact traced.accept settled rfl rfl rfl
  · cases stepped
    exact ⟨by simpa using live, by simpa [filterMap_cons] using balance, idle, stops, fun _ => rfl⟩
  · cases stepped
    rw [append_nil]
    exact traced.quiet rfl id idle stops
  · rename_i measurement drains
    cases stepped
    have notDone : cancelled = false := eq_false_of_ne_true fun done => nomatch idle done
    subst notDone
    refine ⟨by simpa using live, ?_, nofun, stops, by simpa using closed⟩
    simpa [filterMap_cons, Queue.waiting, Process.held] using balance
  · cases stepped
    rw [append_nil]
    exact traced.quiet rfl id idle fun _ => rfl
  · cases stepped
    rw [append_nil]
    exact traced.quiet rfl id idle stops
  · cases stepped
    rw [append_nil]
    exact traced.quiet rfl (fun _ => rfl) (fun _ => settled) fun _ => rfl
  · cases stepped
    exact ⟨by simpa using live, by simpa [filterMap_cons] using balance,
      idle, stops, fun _ => stops rfl⟩
  · cases stepped

/-- If the context is cancelled when nothing waits, every accepted measurement
has been saved once `Close` has returned. -/
theorem accepted_measurements_saved
    (run : Run (measurements queueSize) Settled newMeasurementQueuing history
      state) (closed : .closed ∈ history) : AllSaved history := by
  have traced := run.invariant Traced ⟨nofun, rfl, fun _ => rfl, nofun, nofun⟩
    (fun traced settled stepped => step_traced traced settled stepped)
  have balance := traced.balance
  rw [traced.idle (traced.closed closed), append_nil] at balance
  exact ⟨traced.live, balance.symm⟩

instance (state : Queue Measurement) : DecidablePred (Settled state)
  | .cancel => inferInstanceAs (Decidable (state.waiting = []))
  | .send _ | .handOver _ =>
    inferInstanceAs (Decidable (state.cancelled = false))
  | .refuse _ | .receive | .save | .done | .default | .wait => .isTrue trivial

theorem accepted_measurements_saved_two :
    ∃ state history,
      Run (measurements 1) Settled newMeasurementQueuing history state ∧
      history = [.notified 1 true, .notified 2 true, .saved 1 false,
        .saved 2 false, .notified 3 false, .closed] ∧ AllSaved history :=
  Run.exists_reaching_follows
    [.send 1, .receive, .send 2, .save, .receive, .save, .cancel, .refuse 3, .done, .default, .wait]
    (by decide +kernel) (by decide +kernel)
    fun run shown => accepted_measurements_saved run (by simp [shown])

/-- What `Close` finds in the queue is saved with a cancelled context, and what
is accepted after `process` has quit is not saved at all. -/
theorem accepted_measurements_lost :
    (∃ state history,
      Run (measurements 1) Unrestricted newMeasurementQueuing history state ∧
      history = [.notified 1 true, .saved 1 true, .closed]) ∧
    ∃ state history, Run (measurements 1) Unrestricted newMeasurementQueuing history state ∧
      history = [.notified 1 true, .closed] :=
  ⟨Run.exists_reaching_unrestricted [.send 1, .cancel, .done, .receive, .save, .default, .wait]
      (by decide +kernel),
    Run.exists_reaching_unrestricted [.cancel, .done, .default, .send 1, .wait] (by decide +kernel)⟩

def Output.handled : Output Measurement → Option Measurement
  | .saved measurement _ => some measurement
  | .notified _ _ | .closed => none

/-- Measurements are passed on in the order in which they were accepted, none of
them twice, and those that were not are still held; the queue keeps its size. -/
theorem measurements_in_order
    (run : Run (measurements queueSize) Unrestricted newMeasurementQueuing history state) :
    history.filterMap Output.acceptance = history.filterMap Output.handled ++ state.waiting ∧
      state.queue.length ≤ queueSize := by
  refine run.invariant (fun history state => history.filterMap Output.acceptance =
    history.filterMap Output.handled ++ state.waiting ∧ state.queue.length ≤ queueSize)
    ⟨rfl, Nat.zero_le _⟩ ?_
  rintro history shown ⟨queue, cancelled, process⟩ next input ⟨balance, bound⟩ _ stepped
  simp only [measurements, step] at stepped
  split at stepped
  · split at stepped
    · rename_i room
      cases stepped
      exact ⟨by simp [balance, Queue.waiting, Output.handled],
        by simpa using Nat.succ_le_of_lt room⟩
    · cases stepped
  -- the other steps only move the front of what waits
  all_goals cases stepped
  all_goals simp_all [Queue.waiting, Process.held, Output.handled, filterMap_cons]
  omega

theorem measurements_in_order_oneWaits : ∃ state history,
    Run (measurements 1) Unrestricted newMeasurementQueuing history state ∧ state.queue = [2] ∧
      history.filterMap Output.acceptance = history.filterMap Output.handled ++ state.waiting :=
  Run.exists_reaching_follows [.send 1, .receive, .send 2, .save] (by decide +kernel)
    (System.admitsAlong_unrestricted _ _ _) fun run _ => (measurements_in_order run).1

end ProxiPort.Monitoring
