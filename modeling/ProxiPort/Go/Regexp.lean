import ProxiPort.Go.Strings
import ProxiPort.Foundation.Like

/-!
# Case folding and regular expressions

`strings.EqualFold` and the part of `regexp` that is needed: expressions
`(?i)^…$` with nothing but literals and `.*?` between the anchors.  The folding
of other than ASCII letters and all other expressions are a parameter.
-/

namespace ProxiPort.Go

open List

/-- Simple case folding. -/
structure Folding where
  fold : Char → Char
  fold_ascii : ∀ character, character.toNat < 128 → fold character = character.toLower

def equalFold (folding : Folding) (left right : String) : Bool :=
  left.toList.map folding.fold = right.toList.map folding.fold

namespace Regexp

inductive Piece where
  | literal (character : Char)
  | anyText
  deriving DecidableEq, Repr

def isMeta (character : Char) : Bool := "\\.+*?()|[]\x7b\x7d^$".toList.contains character

def isEscapable (character : Char) : Bool := character.toNat < 128 && !character.isAlphanum

/-- What stands before the closing anchor. -/
def pieces : List Char → Option (List Piece)
  | [] => none
  | ['$'] => some []
  | '.' :: '*' :: '?' :: rest => (pieces rest).map (.anyText :: ·)
  | '\\' :: character :: rest =>
    if isEscapable character then
      (pieces rest).map (.literal character :: ·)
    else none
  | character :: rest =>
    if isMeta character then none
    else (pieces rest).map (.literal character :: ·)

def parse (expression : String) : Option (List Piece) :=
  if hasPrefix expression "(?i)^" then pieces (expression.toList.drop 5)
  else none

/-- The rest is tried after every start of the text that has no newline, which
`.` does not match. -/
def skip (rest : List Char → Bool) : List Char → Bool
  | [] => rest []
  | character :: text =>
    rest (character :: text) || (character ≠ '\n' && skip rest text)

def accepts (fold : Char → Char) : List Piece → List Char → Bool
  | [], text => text.isEmpty
  | .anyText :: rest, text => skip (accepts fold rest) text
  | .literal character :: rest, text =>
    match text with
    | [] => false
    | other :: text =>
      fold character = fold other && accepts fold rest text

structure Engine where
  folding : Folding
  other : String → Option (String → Bool)

def Engine.compile (engine : Engine) (expression : String) : Option (String → Bool) :=
  match parse expression with
  | some parts => some fun text =>
    accepts engine.folding.fold parts text.toList
  | none => engine.other expression

theorem pieces_cons {character : Char} (plain : isMeta character = false) (rest : List Char) :
    pieces (character :: rest) = (pieces rest).map (.literal character :: ·) := by
  rw [pieces, if_neg (by simp [plain])]
  -- what stands for something else is a metacharacter
  · rintro rfl
    cases plain
  · rintro _ rfl
    cases plain
  · rintro _ _ rfl
    cases plain

variable {text : List Char}

theorem skip_eq_any {rest : List Char → Bool} (line : '\n' ∉ text) : skip rest text = text.tails.any rest := by
  induction text with
  | nil => simp [skip]
  | cons character text induction =>
    rw [mem_cons, not_or] at line
    rw [skip, induction line.2, List.tails, any_cons]
    simp [Ne.symm line.1]

/-- The same pieces of a LIKE pattern. -/
def Piece.token : Piece → Like.Token
  | .literal character => .literal character
  | .anyText => .anyText

theorem accepts_eq_like {fold : Char → Char} {parts : List Piece} (line : '\n' ∉ text) :
    accepts fold parts text = Like.accepts fold (parts.map Piece.token) text := by
  induction parts generalizing text with
  | nil => rfl
  | cons piece rest induction =>
    cases piece with
    | literal character =>
      cases text with
      | nil => rfl
      | cons other text =>
        rw [mem_cons, not_or] at line
        simp only [accepts, map_cons, Piece.token, Like.accepts,
          induction line.2]
    | anyText =>
      simp only [accepts, map_cons, Piece.token, Like.accepts, skip_eq_any line]
      rw [Bool.eq_iff_iff, any_eq_true, any_eq_true]
      -- every tail of a line is a line
      refine exists_congr fun after => and_congr_right fun tail => ?_
      rw [induction fun inside =>
        line (((mem_tails _ _).mp tail).subset inside)]

end Regexp

end ProxiPort.Go
