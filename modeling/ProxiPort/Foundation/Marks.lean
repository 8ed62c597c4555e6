import Mathlib.Data.List.Perm.Subperm

/-!
# Keys that are marked

A list of keys is gone through for each text of a list, and a key that a text
passes is marked once.
-/

namespace Marks

open List

variable {Text Key : Type*} {test : Text → Key → Bool} {keys marked : List Key}
  {texts : List Text}

def Marked (test : Text → Key → Bool) (keys : List Key) (texts : List Text)
    (marked : List Key) : Prop :=
  marked.Nodup ∧ ∀ key, key ∈ marked ↔ key ∈ keys ∧ ∃ text ∈ texts, test text key = true

theorem Marked.nil : Marked test keys [] [] := ⟨nodup_nil, by simp⟩

section Counting

variable {found : Key → Prop}
  (mem_iff : ∀ key, key ∈ marked ↔ key ∈ keys ∧ found key)

include mem_iff

theorem length_pos_iff : 0 < marked.length ↔ ∃ key ∈ keys, found key := by
  rw [length_pos_iff_exists_mem]
  exact exists_congr mem_iff

/-- As many keys are marked as there are, when none is repeated and all are
found. -/
theorem length_eq_iff (distinct : marked.Nodup) :
    marked.length = keys.length ↔
      keys.Nodup ∧ ∀ key ∈ keys, found key := by
  have among : marked.Subperm keys := subperm_of_subset distinct fun key member =>
      ((mem_iff key).mp member).1
  constructor
  · intro counted
    have perm := among.perm_of_length_le (Nat.le_of_eq counted.symm)
    refine ⟨perm.nodup_iff.mp distinct, fun key member => ?_⟩
    exact ((mem_iff key).mp (perm.mem_iff.mpr member)).2
  · rintro ⟨once, all⟩
    refine Nat.le_antisymm among.length_le ?_
    apply (subperm_of_subset once ?_).length_le
    intro key member
    exact (mem_iff key).mpr ⟨member, all key member⟩

end Counting

variable [DecidableEq Key]

def mark (test : Text → Key → Bool) (keys : List Key) (text : Text)
    (marked : List Key) : List Key :=
  keys.foldl (fun marked key =>
    if key ∈ marked then marked
    else if test text key then key :: marked
    else marked) marked

theorem mem_mark_iff {text : Text} {key : Key} :
    key ∈ mark test keys text marked ↔
      key ∈ marked ∨ key ∈ keys ∧ test text key = true := by
  unfold mark
  induction keys generalizing marked with
  | nil => simp
  | cons first keys induction =>
    rw [foldl_cons, induction, mem_cons]
    split
    · grind
    · split <;> grind

theorem nodup_mark {text : Text} (distinct : marked.Nodup) :
    (mark test keys text marked).Nodup := by
  unfold mark
  induction keys generalizing marked with
  | nil => exact distinct
  | cons first keys induction =>
    rw [foldl_cons]
    apply induction
    split
    · exact distinct
    · split
      · exact nodup_cons.mpr ⟨by assumption, distinct⟩
      · exact distinct

theorem Marked.foldl (sound : Marked test keys texts marked) (others : List Text) :
    Marked test keys (texts ++ others) (others.foldl (fun marked text => mark test keys text marked)
        marked) := by
  induction others generalizing texts marked with
  | nil => simpa using sound
  | cons text others induction =>
    have next : Marked test keys (texts ++ [text]) (mark test keys text marked) := by
      refine ⟨nodup_mark sound.1, fun key => ?_⟩
      rw [mem_mark_iff, sound.2]
      simp only [mem_append, mem_singleton]
      grind
    have later := induction next
    rwa [append_assoc, singleton_append] at later

end Marks
