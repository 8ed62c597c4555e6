import Mathlib.Data.List.Basic

/-!
# Finite runs of an observed system

A system moves from state to state on inputs and shows a list of outputs at
every move.  `execute` plays a given list of inputs; `Run` is the relational
counterpart, in which every input must also be admitted in the state it is
played in.  The history of a run is the list of everything that was shown, so
a prefix of a run is again a run and a statement about the last state of every
run is a statement about every state that is ever reached.
-/

namespace Concurrency

open List

/-- A deterministic reaction to inputs.  `none` means that the input is not
possible in that state. -/
structure System (State Input Output : Type) where
  step : State → Input → Option (State × List Output)

namespace System

variable {State Input Output : Type}

def execute (system : System State Input Output) : State → List Input → Option (State × List Output)
  | state, [] => some (state, [])
  | state, input :: inputs => do
    let (next, shown) ← system.step state input
    let (final, later) ← system.execute next inputs
    pure (final, shown ++ later)

/-- Every input of a list is admitted in the state in which it is played. -/
def AdmitsAlong (system : System State Input Output)
    (admits : State → Input → Prop) : State → List Input → Prop
  | _, [] => True
  | state, input :: inputs =>
    admits state input ∧
      match system.step state input with
      | none => True
      | some (next, _) => system.AdmitsAlong admits next inputs

instance decidableAdmitsAlong (system : System State Input Output) (admits : State → Input → Prop)
    [decide : ∀ state input, Decidable (admits state input)] :
    ∀ state inputs, Decidable (system.AdmitsAlong admits state inputs)
  | _, [] => .isTrue trivial
  | state, input :: inputs =>
    @instDecidableAnd _ _ (decide state input) (match system.step state input with
      | none => .isTrue trivial
      | some (next, _) =>
        decidableAdmitsAlong system admits next inputs)

end System

variable {State Input Output : Type}

/-- Runs from `start` in which each input meets `admits`, together with their
histories. -/
inductive Run (system : System State Input Output)
    (admits : State → Input → Prop) (start : State) :
    List Output → State → Prop where
  | refl : Run system admits start [] start
  | step {history shown : List Output} {state next : State} {input : Input} :
      Run system admits start history state →
      admits state input →
      system.step state input = some (next, shown) →
      Run system admits start (history ++ shown) next

namespace Run

variable {system : System State Input Output}
  {admits : State → Input → Prop} {start : State}

variable {history : List Output} {state : State}

/-- What holds at the start and survives every admitted move holds at the end
of every run. -/
theorem invariant (run : Run system admits start history state)
    (property : List Output → State → Prop) (initial : property [] start)
    (preserved : ∀ {history shown state next input}, property history state → admits state input →
      system.step state input = some (next, shown) →
      property (history ++ shown) next) :
    property history state := by
  induction run with
  | refl => exact initial
  | step _ admitted stepped induction =>
    exact preserved induction admitted stepped

theorem stateInvariant (run : Run system admits start history state)
    (property : State → Prop) (initial : property start) (preserved : ∀ {shown state next input},
      property state → admits state input →
      system.step state input = some (next, shown) → property next) :
    property state :=
  run.invariant (fun _ state => property state) initial
    (fun held admitted stepped => preserved held admitted stepped)

/-- What every step ensures of the outputs it shows, given an invariant and the
history before them, holds of every output of a run. -/
theorem justified (run : Run system admits start history state)
    (property : List Output → State → Prop) (initial : property [] start)
    (preserved : ∀ {history shown state next input}, property history state → admits state input →
      system.step state input = some (next, shown) →
      property (history ++ shown) next) (claim : List Output → Output → Prop)
    (ensured : ∀ {history shown state next input}, property history state → admits state input →
      system.step state input = some (next, shown) →
      ∀ {earlier output later}, shown = earlier ++ output :: later →
        claim (history ++ earlier) output) {before after : List Output}
    {output : Output} (split : history = before ++ output :: after) :
    claim before output := by
  induction run generalizing before after with
  | refl => exact (append_ne_nil_of_right_ne_nil _ (cons_ne_nil _ _) split.symm).elim
  | step run admitted stepped induction =>
    -- The output was shown by the last step or before it.
    rcases append_eq_append_iff.mp split with
      ⟨rest, rfl, shown⟩ | ⟨rest, known, shown⟩
    · exact ensured (run.invariant property initial preserved) admitted stepped shown
    · cases rest with
      | nil =>
        have first : _ = [] ++ output :: after := shown.symm
        have empty := ensured (run.invariant property initial preserved) admitted stepped first
        rwa [known, append_nil, append_nil] at empty
      | cons first rest =>
        cases shown
        exact induction known

theorem trans {firstHistory laterHistory : List Output} {middle state : State}
    (first : Run system admits start firstHistory middle)
    (later : Run system admits middle laterHistory state) :
    Run system admits start (firstHistory ++ laterHistory) state := by
  induction later with
  | refl => simpa using first
  | step _ admitted stepped induction =>
    rw [← append_assoc]
    exact .step induction admitted stepped

theorem ofExecute {inputs : List Input}
    (executed : system.execute start inputs = some (state, history))
    (admitted : system.AdmitsAlong admits start inputs) :
    Run system admits start history state := by
  induction inputs generalizing start history with
  | nil =>
    cases executed
    exact .refl
  | cons input inputs induction =>
    simp only [System.execute, Option.bind_eq_bind, Option.bind_eq_some_iff] at executed
    obtain ⟨⟨next, shown⟩, stepped, ⟨final, later⟩, tail, result⟩ := executed
    cases result
    have first : Run system admits start ([] ++ shown) next := .step .refl admitted.1 stepped
    have tailAdmitted : system.AdmitsAlong admits next inputs := by
      have rest := admitted.2
      rwa [stepped] at rest
    exact first.trans (induction tail tailAdmitted)

/-- An executed list of admitted inputs whose outcome passes a check is a run
to a state and a history that pass it. -/
theorem exists_ofExecute (system : System State Input Output)
    (admits : State → Input → Prop) (start : State) (inputs : List Input)
    (check : State × List Output → Bool) (passed : (system.execute start inputs).any check = true)
    (admitted : system.AdmitsAlong admits start inputs) :
    ∃ state history, Run system admits start history state ∧ check (state, history) = true := by
  cases executed : system.execute start inputs with
  | none => simp [executed] at passed
  | some outcome =>
    refine ⟨outcome.1, outcome.2, ofExecute executed admitted, ?_⟩
    simpa [executed] using passed

section Reaching

variable {system : System State Input Output} {admits : State → Input → Prop}
  {start : State} {holds : State → List Output → Prop}
  [∀ state history, Decidable (holds state history)] (inputs : List Input)
  (passed : (system.execute start inputs).any
    (fun outcome => decide (holds outcome.1 outcome.2)) = true)
include passed

theorem exists_reaching (admitted : system.AdmitsAlong admits start inputs) :
    ∃ state history, Run system admits start history state ∧ holds state history := by
  obtain ⟨state, history, run, check⟩ := exists_ofExecute system admits start
    inputs (fun outcome => holds outcome.1 outcome.2) passed admitted
  exact ⟨state, history, run, of_decide_eq_true check⟩

theorem exists_reaching_follows (admitted : system.AdmitsAlong admits start inputs)
    {concluded : State → List Output → Prop}
    (follows : ∀ {state history}, Run system admits start history state →
      holds state history → concluded state history) :
    ∃ state history, Run system admits start history state ∧
      holds state history ∧ concluded state history := by
  obtain ⟨state, history, run, reached⟩ := exists_reaching inputs passed admitted
  exact ⟨state, history, run, reached, follows run reached⟩

end Reaching

end Run

def Unrestricted (_ : State) (_ : Input) : Prop := True

theorem System.admitsAlong_unrestricted (system : System State Input Output) (state : State)
    (inputs : List Input) : system.AdmitsAlong Unrestricted state inputs := by
  induction inputs generalizing state with
  | nil => trivial
  | cons input inputs induction =>
    refine ⟨trivial, ?_⟩
    cases system.step state input with
    | none => trivial
    | some result => exact induction result.1

theorem Run.exists_unrestricted (system : System State Input Output)
    (start : State) (inputs : List Input) (check : State × List Output → Bool)
    (passed : (system.execute start inputs).any check = true) :
    ∃ state history, Run system Unrestricted start history state ∧ check (state, history) = true :=
  exists_ofExecute system Unrestricted start inputs check passed
    (system.admitsAlong_unrestricted start inputs)

theorem Run.exists_reaching_unrestricted {system : System State Input Output}
    {start : State} {holds : State → List Output → Prop}
    [∀ state history, Decidable (holds state history)] (inputs : List Input)
    (passed : (system.execute start inputs).any
      (fun outcome => decide (holds outcome.1 outcome.2)) = true) :
    ∃ state history, Run system Unrestricted start history state ∧ holds state history :=
  exists_reaching inputs passed (system.admitsAlong_unrestricted start inputs)

end Concurrency
