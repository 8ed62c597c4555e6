import Mathlib.Data.List.Basic

/-!
# Computations that can fail

What the success of a compound computation says about its parts.
-/

namespace Outcome

variable {Error Entry Value : Type}

theorem bind_eq_ok_iff {first : Except Error Entry}
    {rest : Entry → Except Error Value} {value : Value} :
    (first >>= rest) = .ok value ↔ ∃ entry, first = .ok entry ∧ rest entry = .ok value := by
  cases first with
  | error err =>
    constructor
    · intro succeeded
      cases succeeded
    · rintro ⟨entry, impossible, _⟩
      cases impossible
  | ok entry =>
    constructor
    · intro succeeded
      exact ⟨entry, rfl, succeeded⟩
    · rintro ⟨entry, same, succeeded⟩
      cases same
      exact succeeded

/-- Treat the entries of a list one after the other; each is told its index,
counted from a given one. -/
def traverse (treat : Nat → Entry → Except Error Value) :
    Nat → List Entry → Except Error (List Value)
  | _, [] => .ok []
  | index, entry :: rest => do
    let value ← treat index entry
    let values ← traverse treat (index + 1) rest
    return value :: values

variable {treat : Nat → Entry → Except Error Value} {entries : List Entry}
  {values : List Value}

theorem forall₂_traverse {index : Nat} (succeeded : traverse treat index entries = .ok values) :
    List.Forall₂ (fun entry value => ∃ position,
      treat position entry = .ok value) entries values := by
  induction entries generalizing index values with
  | nil =>
    cases succeeded
    exact .nil
  | cons entry rest induction =>
    simp only [traverse, bind_eq_ok_iff] at succeeded
    obtain ⟨first, treated, later, traversed, result⟩ := succeeded
    cases result
    exact .cons ⟨index, treated⟩ (induction traversed)

theorem mem_traverse {index : Nat}
    (succeeded : traverse treat index entries = .ok values) {value : Value}
    (member : value ∈ values) :
    ∃ entry ∈ entries, ∃ position, treat position entry = .ok value := by
  have related := forall₂_traverse succeeded
  clear succeeded
  induction related with
  | nil => cases member
  | cons treated _ induction =>
    rcases List.mem_cons.mp member with rfl | inRest
    · exact ⟨_, List.mem_cons_self, treated⟩
    · obtain ⟨origin, known, result⟩ := induction inRest
      exact ⟨origin, List.mem_cons_of_mem _ known, result⟩

end Outcome
