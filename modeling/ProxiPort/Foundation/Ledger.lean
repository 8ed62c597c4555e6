import Mathlib.Logic.Function.Basic

/-!
# Ledgers of writes

A ledger is a list of events, some of which write a key of an abstract map.
Replaying it from a first map gives the map that the writes leave behind; a
ledger is legal when each of its events is allowed on the map it finds.
-/

namespace Ledger

variable {Event Key Value : Type} [DecidableEq Key]

section Replay

variable (effect : Event → Option (Key × Value))

def apply (map : Key → Value) (event : Event) : Key → Value :=
  match effect event with
  | none => map
  | some (key, value) => Function.update map key value

def replay (map : Key → Value) (history : List Event) : Key → Value :=
  history.foldl (apply effect) map

variable {effect} {map : Key → Value} {event : Event} {key : Key}

theorem replay_append (history later : List Event) :
    replay effect map (history ++ later) =
      replay effect (replay effect map history) later :=
  List.foldl_append

theorem apply_of_effect {value : Value} (writes : effect event = some (key, value)) :
    apply effect map event = Function.update map key value := by
  simp [apply, writes]

theorem apply_of_none (silent : effect event = none) :
    apply effect map event = map := by
  simp [apply, silent]

theorem apply_other (map : Key → Value) (other : ∀ value, effect event ≠ some (key, value)) :
    apply effect map event key = map key := by
  cases writes : effect event with
  | none => rw [apply_of_none writes]
  | some write =>
    obtain ⟨written, value⟩ := write
    have different : key ≠ written := by
      rintro rfl
      exact other value writes
    rw [apply_of_effect writes, Function.update_of_ne different]

theorem replay_other (map : Key → Value) {history : List Event}
    (others : ∀ event ∈ history, ∀ value, effect event ≠ some (key, value)) :
    replay effect map history key = map key := by
  induction history generalizing map with
  | nil => rfl
  | cons event history induction =>
    have head := apply_other map (others event List.mem_cons_self)
    have tail := induction (apply effect map event)
      fun later member => others later (List.mem_cons_of_mem _ member)
    exact tail.trans head

theorem replay_last {before later : List Event} {value : Value}
    (writes : effect event = some (key, value)) (others : ∀ event ∈ later, ∀ value,
      effect event ≠ some (key, value)) :
    replay effect map (before ++ event :: later) key = value := by
  rw [replay_append]
  calc replay effect (replay effect map before) (event :: later) key =
        apply effect (replay effect map before) event key :=
      replay_other _ others
    _ = value := by rw [apply_of_effect writes, Function.update_self]

end Replay

section Legal

variable (effect : Event → Option (Key × Value))
  (allowed : (Key → Value) → Event → Prop)

def Legal : (Key → Value) → List Event → Prop
  | _, [] => True
  | map, event :: later =>
    allowed map event ∧ Legal (apply effect map event) later

variable {effect} {allowed} {map : Key → Value}

theorem legal_append {history later : List Event} :
    Legal effect allowed map (history ++ later) ↔
      Legal effect allowed map history ∧
        Legal effect allowed (replay effect map history) later := by
  induction history generalizing map with
  | nil => simp [Legal, replay]
  | cons event history induction =>
    simp only [List.cons_append, Legal, induction, and_assoc]
    rfl

end Legal

end Ledger
