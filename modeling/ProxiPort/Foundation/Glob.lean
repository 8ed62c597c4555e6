import Mathlib.Data.List.Infix

/-!
# Parts in order

A text with wildcards, cut at the wildcards, gives parts that have to follow one
another in a text.  Taking each part at its first occurrence finds them whenever
they are there.
-/

namespace Glob

open List

variable {α : Type*}

/-- The parts follow one another, the first at the start of the text and the
last at its end, with gaps between them. -/
def Spaced : List (List α) → List α → Prop
  | [], text => text = []
  | [part], text => text = part
  | part :: parts, text =>
    ∃ gap rest, text = part ++ (gap ++ rest) ∧ Spaced parts rest

variable {part text rest : List α} {parts : List (List α)}

theorem Spaced.getLast_suffix (spaced : Spaced parts text) : parts.getLastD [] <:+ text := by
  induction parts generalizing text with
  | nil => exact nil_suffix
  | cons part parts induction =>
    cases parts with
    | nil =>
      cases spaced
      exact suffix_rfl
    | cons second parts =>
      obtain ⟨gap, rest, rfl, later⟩ := spaced
      rw [← append_assoc]
      exact (induction later).trans (suffix_append _ _)

variable [DecidableEq α]

/-- What follows the first occurrence of a part. -/
def cutAfter (part : List α) : List α → Option (List α)
  | [] => if part = [] then some [] else none
  | character :: rest =>
    if part.isPrefixOf (character :: rest) then
      some ((character :: rest).drop part.length)
    else cutAfter part rest

/-- What follows when each part is taken at its first occurrence. -/
def cutAll (parts : List (List α)) (text : List α) : Option (List α) :=
  parts.foldlM (fun text part => cutAfter part text) text

theorem cutAfter_prefix (start : part <+: text) :
    cutAfter part text = some (text.drop part.length) := by
  cases text with
  | nil => simp [cutAfter, prefix_nil.mp start]
  | cons character text => simp [cutAfter, start]

theorem exists_of_cutAfter (cut : cutAfter part text = some rest) :
    ∃ before, text = before ++ (part ++ rest) := by
  induction text with
  | nil =>
    simp only [cutAfter] at cut
    split at cut
    · rename_i empty
      cases cut
      exact ⟨[], by simp [empty]⟩
    · cases cut
  | cons character text induction =>
    simp only [cutAfter] at cut
    split at cut
    · rename_i start
      cases cut
      obtain ⟨after, same⟩ := isPrefixOf_iff_prefix.mp start
      exact ⟨[], by simp [← same]⟩
    · obtain ⟨before, same⟩ := induction cut
      exact ⟨character :: before, by rw [same]; rfl⟩

theorem cutAfter_of_occurs (before : List α) :
    ∃ longer, cutAfter part (before ++ (part ++ rest)) = some longer ∧ rest <:+ longer := by
  induction before with
  | nil =>
    refine ⟨rest, ?_, suffix_rfl⟩
    rw [nil_append, cutAfter_prefix (prefix_append part rest), drop_left]
  | cons character before induction =>
    by_cases start : part <+: character :: (before ++ (part ++ rest))
    · refine ⟨_, cutAfter_prefix start, ?_⟩
      rw [← append_assoc, drop_append_of_le_length (by simp; omega)]
      exact suffix_append _ _
    · simpa [cutAfter, start] using induction

theorem cutAll_of_suffix {longer : List α} (inside : text <:+ longer)
    (cut : (cutAll parts text).isSome) : (cutAll parts longer).isSome := by
  induction parts generalizing text longer with
  | nil => rfl
  | cons part parts induction =>
    simp only [cutAll, foldlM_cons] at cut ⊢
    cases found : cutAfter part text with
    | none => simp [found] at cut
    | some rest =>
      obtain ⟨before, rfl⟩ := exists_of_cutAfter found
      obtain ⟨more, rfl⟩ := inside
      obtain ⟨left, cutLonger, within⟩ := cutAfter_of_occurs (more ++ before)
      rw [append_assoc] at cutLonger
      rw [found] at cut
      rw [cutLonger]
      exact induction within cut

theorem cutAll_of_spaced (spaced : Spaced parts text) : (cutAll parts text).isSome := by
  induction parts generalizing text with
  | nil => rfl
  | cons part parts induction =>
    cases parts with
    | nil =>
      cases spaced
      simp [cutAll, cutAfter_prefix prefix_rfl]
    | cons second parts =>
      obtain ⟨gap, rest, rfl, later⟩ := spaced
      rw [cutAll, foldlM_cons, cutAfter_prefix (prefix_append _ _), drop_left]
      exact cutAll_of_suffix (suffix_append _ _) (induction later)

theorem spaced_of_cutAll {whole : List α} (several : parts ≠ [])
    (inside : text <:+ whole) (final : parts.getLastD [] <:+ whole)
    (cut : (cutAll parts text).isSome) : ∃ gap rest, text = gap ++ rest ∧ Spaced parts rest := by
  induction parts generalizing text with
  | nil => exact absurd rfl several
  | cons part parts induction =>
    rw [cutAll, foldlM_cons] at cut
    cases found : cutAfter part text with
    | none => simp [found] at cut
    | some after =>
      obtain ⟨before, rfl⟩ := exists_of_cutAfter found
      cases parts with
      | nil =>
        have ending : part <:+ before ++ (part ++ after) :=
          suffix_of_suffix_length_le final inside (by simp; omega)
        exact ⟨ending.choose, part, ending.choose_spec.symm, rfl⟩
      | cons second parts =>
        rw [found] at cut
        have behind : after <:+ whole := ((suffix_append part after).trans
            (suffix_append before _)).trans inside
        obtain ⟨gap, rest, rfl, spaced⟩ := induction (by simp) behind final cut
        exact ⟨before, _, rfl, gap, rest, rfl, spaced⟩

/-- Spaced parts are found one after another from the first occurrence on. -/
theorem spaced_iff (several : parts ≠ []) :
    Spaced (part :: parts) text ↔
      part <+: text ∧ (part :: parts).getLastD [] <:+ text ∧
        (cutAll (part :: parts) text).isSome := by
  obtain ⟨second, parts, rfl⟩ := exists_cons_of_ne_nil several
  constructor
  · intro spaced
    refine ⟨?_, spaced.getLast_suffix, cutAll_of_spaced spaced⟩
    obtain ⟨gap, rest, rfl, -⟩ := spaced
    exact prefix_append _ _
  · rintro ⟨⟨after, rfl⟩, final, cut⟩
    rw [cutAll, foldlM_cons, cutAfter_prefix (prefix_append _ _), drop_left] at cut
    obtain ⟨gap, rest, rfl, spaced⟩ := spaced_of_cutAll several (suffix_append _ _) final cut
    exact ⟨gap, rest, rfl, spaced⟩

end Glob
