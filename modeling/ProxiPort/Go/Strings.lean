import Mathlib

/-!
# Pieces of the Go standard library

String helpers with the documented behaviour of the `strings`, `strconv` and
`unicode` packages, as far as the modelled code calls them.  Texts are handled
as lists of code points.
-/

namespace ProxiPort.Go

open List

def isSpace (character : Char) : Bool :=
  let code := character.toNat
  (0x09 ≤ code && code ≤ 0x0d) || code = 0x20 || code = 0x85 ||
    code = 0xa0 || code = 0x1680 || (0x2000 ≤ code && code ≤ 0x200a) ||
    code = 0x2028 || code = 0x2029 || code = 0x202f || code = 0x205f || code = 0x3000

def trimSpace (text : String) : String :=
  String.ofList
    ((text.toList.dropWhile isSpace).reverse.dropWhile isSpace).reverse

/-- `strings.Trim` with a cut set of one character. -/
def trim (text : String) (cut : Char) : String :=
  String.ofList
    ((text.toList.dropWhile (· = cut)).reverse.dropWhile (· = cut)).reverse

def digitsValue : List Char → Option Nat
  | [] => none
  | digits =>
    digits.foldl (fun value digit =>
      value.bind fun value =>
        if digit.isDigit then some (value * 10 + (digit.toNat - '0'.toNat))
        else none) (some 0)

/-- `strconv.Atoi` on a 64-bit machine: an optional sign and decimal digits,
within the range of `int`. -/
def atoi (text : String) : Option Int :=
  let value : Option Int :=
    match text.toList with
    | '-' :: digits => (digitsValue digits).map fun value => -(value : Int)
    | '+' :: digits => (digitsValue digits).map fun value => (value : Int)
    | digits => (digitsValue digits).map fun value => (value : Int)
  value.filter fun value => -(2 ^ 63) ≤ value && value < 2 ^ 63

example : atoi "-42" = some (-42) := by decide
example : atoi "9223372036854775808" = none := by decide

def splitCharacters (separator : Char) : List Char → List (List Char)
  | [] => [[]]
  | character :: rest =>
    if character = separator then [] :: splitCharacters separator rest
    else
      match splitCharacters separator rest with
      | [] => [[character]]
      | first :: others => (character :: first) :: others

def split (text : String) (separator : Char) : List String :=
  (splitCharacters separator text.toList).map String.ofList

def join (texts : List String) (separator : String) : String := String.intercalate separator texts

theorem splitCharacters_ne_nil (separator : Char) (text : List Char) :
    splitCharacters separator text ≠ [] := by
  cases text with
  | nil => simp [splitCharacters]
  | cons character rest =>
    rw [splitCharacters]
    split
    · simp
    · split <;> simp

variable {separator : Char}

theorem splitCharacters_of_not_mem {text : List Char} (absent : separator ∉ text) :
    splitCharacters separator text = [text] := by
  induction text with
  | nil => rfl
  | cons character rest induction =>
    rw [mem_cons, not_or] at absent
    obtain ⟨different, later⟩ := absent
    simp only [splitCharacters, if_neg (Ne.symm different), induction later]

theorem splitCharacters_append {first : List Char} (absent : separator ∉ first) (rest : List Char) :
    splitCharacters separator (first ++ separator :: rest) =
      first :: splitCharacters separator rest := by
  induction first with
  | nil => simp [splitCharacters]
  | cons character first induction =>
    rw [mem_cons, not_or] at absent
    obtain ⟨different, later⟩ := absent
    simp only [cons_append, splitCharacters, if_neg (Ne.symm different), induction later]

theorem not_mem_of_splitCharacters {text part : List Char}
    (member : part ∈ splitCharacters separator text) : separator ∉ part := by
  induction text generalizing part with
  | nil =>
    rw [mem_singleton.mp member]
    exact not_mem_nil
  | cons character rest induction =>
    simp only [splitCharacters] at member
    split at member
    · rcases mem_cons.mp member with rfl | later
      · exact not_mem_nil
      · exact induction later
    · rename_i different
      split at member
      · rw [mem_singleton.mp member, mem_singleton]
        exact Ne.symm different
      · rename_i first others parts
        rcases mem_cons.mp member with rfl | later
        · rintro (_ | ⟨_, inside⟩)
          · exact different rfl
          · exact induction (by rw [parts]; exact mem_cons_self) inside
        · exact induction (by rw [parts]; exact mem_cons_of_mem _ later)

theorem split_of_not_mem {text : String} (absent : separator ∉ text.toList) :
    split text separator = [text] := by
  rw [split, splitCharacters_of_not_mem absent]
  simp

theorem split_append {first : String} (absent : separator ∉ first.toList) (rest : String) :
    split (first ++ String.singleton separator ++ rest) separator =
      first :: split rest separator := by
  have characters : (first ++ String.singleton separator ++ rest).toList =
      first.toList ++ separator :: rest.toList := by simp
  rw [split, characters, splitCharacters_append absent]
  simp [split]

theorem not_mem_of_split {text part : String}
    (member : part ∈ split text separator) : separator ∉ part.toList := by
  obtain ⟨characters, inside, rfl⟩ := mem_map.mp member
  rw [String.toList_ofList]
  exact not_mem_of_splitCharacters inside

theorem split_join {parts : List String} (nonempty : parts ≠ [])
    (absent : ∀ part ∈ parts, separator ∉ part.toList) :
    split (join parts (String.singleton separator)) separator = parts := by
  induction parts with
  | nil => exact (nonempty rfl).elim
  | cons first rest induction =>
    obtain ⟨here, later⟩ := forall_mem_cons.mp absent
    by_cases last : rest = []
    · rw [last, join, String.intercalate_singleton, split_of_not_mem here]
    · rw [join, String.intercalate_cons_of_ne_nil last, split_append here,
        ← join, induction last later]

def hasPrefix (text start : String) : Bool := start.toList.isPrefixOf text.toList

def contains (text part : String) : Bool := text.toList.tails.any part.toList.isPrefixOf

/-- `strings.ReplaceAll` of one character. -/
def replaceAll (text : String) (old : Char) (new : String) : String :=
  String.ofList (text.toList.flatMap fun character =>
    if character = old then new.toList else [character])

def parseBool (text : String) : Option Bool :=
  if text ∈ ["1", "t", "T", "true", "TRUE", "True"] then some true
  else if text ∈ ["0", "f", "F", "false", "FALSE", "False"] then some false
  else none

end ProxiPort.Go
