import Mathlib.Data.List.Basic
import Mathlib.Data.List.Induction
import Mathlib.Data.List.Infix

/-!
# LIKE patterns

The `LIKE` operator of SQL with an escape character: `%` stands for any text,
`_` for any character, and the character after an escape for itself.  A
pattern that ends in an escape with nothing after it matches no text.
Characters are compared after folding.
-/

namespace Like

open List

inductive Token where
  | anyText
  | anyCharacter
  | literal (character : Char)
  deriving DecidableEq, Repr

def Token.ofCharacter (character : Char) : Token :=
  if character = '%' then .anyText
  else if character = '_' then .anyCharacter
  else .literal character

/-- The tokens of a pattern, unless it ends in an unfinished escape. -/
def tokens (escape : Char) : List Char → Option (List Token)
  | [] => some []
  | [last] => if last = escape then none else some [.ofCharacter last]
  | first :: second :: rest =>
    if first = escape then
      (tokens escape rest).map (.literal second :: ·)
    else (tokens escape (second :: rest)).map (.ofCharacter first :: ·)

def accepts (fold : Char → Char) : List Token → List Char → Bool
  | [], text => text.isEmpty
  | .anyText :: rest, text => text.tails.any (accepts fold rest)
  | .anyCharacter :: rest, text =>
    match text with
    | [] => false
    | _ :: text => accepts fold rest text
  | .literal character :: rest, text =>
    match text with
    | [] => false
    | other :: text =>
      fold character = fold other && accepts fold rest text

def like (fold : Char → Char) (escape : Char) (pattern text : List Char) :
    Bool :=
  (tokens escape pattern).any fun tokens => accepts fold tokens text

variable {character : Char}

theorem tokens_cons {escape : Char} (other : character ≠ escape) (rest : List Char) :
    tokens escape (character :: rest) = (tokens escape rest).map (.ofCharacter character :: ·) := by
  cases rest with
  | nil => simp [tokens, other]
  | cons second rest => rw [tokens, if_neg other]

theorem tokens_escape (escape character : Char) (rest : List Char) :
    tokens escape (escape :: character :: rest) =
      (tokens escape rest).map (.literal character :: ·) := by
  rw [tokens, if_pos rfl]

def Token.map (change : Char → Char) : Token → Token
  | .literal character => .literal (change character)
  | .anyText => .anyText
  | .anyCharacter => .anyCharacter

theorem accepts_map {fold change : Char → Char}
    (folded : ∀ character, fold (change character) = fold character)
    (parts : List Token) (text : List Char) :
    accepts fold (parts.map (Token.map change)) (text.map change) = accepts fold parts text := by
  induction parts generalizing text with
  | nil => simp [accepts]
  | cons token rest induction =>
    cases token with
    | anyText =>
      have tails : (text.map change).tails = text.tails.map (List.map change) := by
        induction text with
        | nil => rfl
        | cons first text tails => simp [tails]
      simp only [map_cons, Token.map, accepts, tails, any_map]
      congr 1
      exact funext induction
    | anyCharacter =>
      cases text with
      | nil => rfl
      | cons first text =>
        simpa [accepts, Token.map] using induction text
    | literal character =>
      cases text with
      | nil => rfl
      | cons first text =>
        simp [accepts, Token.map, folded, induction text]

variable {parts : List Token}

theorem accepts_congr {fold other : Char → Char} {text : List Char}
    (literals : ∀ character, .literal character ∈ parts → fold character = other character)
    (texts : ∀ character ∈ text, fold character = other character) :
    accepts fold parts text = accepts other parts text := by
  induction parts generalizing text with
  | nil => rfl
  | cons token rest induction =>
    have remaining : ∀ character, .literal character ∈ rest →
        fold character = other character := fun character member =>
      literals character (mem_cons_of_mem _ member)
    cases token with
    | anyText =>
      simp only [accepts]
      rw [Bool.eq_iff_iff, any_eq_true, any_eq_true]
      refine exists_congr fun after => and_congr_right fun tail => ?_
      rw [induction remaining fun character member => texts character
        (((mem_tails _ _).mp tail).subset member)]
    | anyCharacter =>
      cases text with
      | nil => rfl
      | cons first text =>
        simp only [accepts]
        exact induction remaining fun character member =>
          texts character (mem_cons_of_mem _ member)
    | literal character =>
      cases text with
      | nil => rfl
      | cons first text =>
        simp only [accepts]
        rw [literals character mem_cons_self, texts first mem_cons_self,
          induction remaining fun character member =>
            texts character (mem_cons_of_mem _ member)]

def pending (escape : Char) (before : Bool) (character : Char) : Bool :=
  decide (character = escape) && !before

def unfinished (escape : Char) (pattern : List Char) : Bool := pattern.foldl (pending escape) false

theorem tokens_eq_none_iff (escape : Char) (pattern : List Char) :
    tokens escape pattern = none ↔ unfinished escape pattern = true := by
  induction pattern using tokens.induct escape with
  | case1 => simp [tokens, unfinished]
  | case2 =>
    simp [tokens, unfinished, pending]
  | case3 last other =>
    simp [tokens, unfinished, pending, other]
  | case4 second rest induction =>
    simp only [tokens, if_true, Option.map_eq_none_iff, induction]
    simp [unfinished, pending]
  | case5 first second rest other induction =>
    simp only [tokens, if_neg other, Option.map_eq_none_iff, induction]
    simp [unfinished, pending, other]

theorem unfinished_iff (escape : Char) (pattern : List Char) :
    unfinished escape pattern = true ↔
      (pattern.reverse.takeWhile (· = escape)).length % 2 = 1 := by
  induction pattern using List.reverseRecOn with
  | nil => simp [unfinished]
  | append_singleton pattern last induction =>
    have parity : unfinished escape (pattern ++ [last]) =
        pending escape (unfinished escape pattern) last := by
      simp [unfinished]
    rw [parity, reverse_append, reverse_singleton, singleton_append, takeWhile_cons]
    by_cases same : last = escape
    · simp only [pending, same, decide_true, Bool.true_and, Bool.not_eq_true', if_true, length_cons]
      rw [← Bool.not_eq_true, induction]
      omega
    · simp [pending, same]

def sample : List Token → List Char
  | [] => []
  | .anyText :: rest => sample rest
  | .anyCharacter :: rest => '_' :: sample rest
  | .literal character :: rest => character :: sample rest

theorem accepts_sample {fold change : Char → Char}
    (folded : ∀ character, fold (change character) = fold character) (parts : List Token) :
    accepts fold parts ((sample parts).map change) = true := by
  induction parts with
  | nil => rfl
  | cons token rest induction =>
    cases token with
    | anyText =>
      simp only [accepts, sample, any_eq_true]
      exact ⟨_, (mem_tails _ _).mpr suffix_rfl, induction⟩
    | anyCharacter => simpa [accepts, sample] using induction
    | literal character =>
      simp [accepts, sample, folded, induction]

theorem mem_sample_cons {first : Char} {rest : List Token}
    (member : character ∈ sample (.ofCharacter first :: rest)) :
    character = first ∨ character ∈ sample rest := by
  unfold Token.ofCharacter at member
  split at member
  · exact .inr member
  · split at member
    · rename_i underscore
      rw [underscore]
      exact mem_cons.mp member
    · exact mem_cons.mp member

theorem mem_of_mem_sample {escape : Char} {pattern : List Char}
    (split : tokens escape pattern = some parts) (member : character ∈ sample parts) :
    character ∈ pattern := by
  -- an escape is read together with the character after it
  induction pattern using tokens.induct escape generalizing parts with
  | case1 =>
    cases split
    simp [sample] at member
  | case2 => simp [tokens] at split
  | case3 last other =>
    simp only [tokens, if_neg other, Option.some.injEq] at split
    subst split
    rcases mem_sample_cons member with rfl | inside
    · simp
    · simp [sample] at inside
  | case4 second rest induction =>
    simp only [tokens, if_true, Option.map_eq_some_iff] at split
    obtain ⟨later, found, rfl⟩ := split
    rcases mem_cons.mp member with rfl | inside
    · simp
    · exact mem_cons_of_mem _ (mem_cons_of_mem _ (induction found inside))
  | case5 first second rest other induction =>
    simp only [tokens, if_neg other, Option.map_eq_some_iff] at split
    obtain ⟨later, found, rfl⟩ := split
    rcases mem_sample_cons member with rfl | inside
    · simp
    · exact mem_cons_of_mem _ (induction found inside)

end Like
