import ProxiPort.Go.Strings

/-!
# Patterns of file names

`filepath.Match`.  A pattern is read into tokens first; that fails for a
malformed pattern, whatever it is matched against.  Texts are taken to be valid
UTF-8, so that matching goes by characters.
-/

namespace ProxiPort.Go.Match

open List

inductive Item where
  | literal (character : Char)
  | anyCharacter
  | characters (negated : Bool) (ranges : List (Char × Char))
  deriving DecidableEq, Repr

inductive Token where
  | star
  | item (item : Item)
  deriving DecidableEq, Repr

/-- The characters of a pattern, with those marked that a backslash takes their
meaning from.  On Windows a backslash is a separator. -/
def mark (escapes : Bool) : List Char → Option (List (Char × Bool))
  | [] => some []
  | [last] =>
    if escapes ∧ last = '\\' then none else some [(last, false)]
  | first :: second :: rest =>
    if escapes ∧ first = '\\' then
      (mark escapes rest).map ((second, true) :: ·)
    else (mark escapes (second :: rest)).map ((first, false) :: ·)

/-- Where the reading of a pattern is: outside of a class, right after its
opening bracket, in a class after some ranges and possibly the start of another
one, or after the dash of a range. -/
inductive Place where
  | outside
  | opened
  | inside (negated : Bool) (ranges : List (Char × Char)) (low : Option Char)
  | dash (negated : Bool) (ranges : List (Char × Char)) (low : Char)
  deriving DecidableEq, Repr

def insideStep (negated : Bool) (ranges : List (Char × Char))
    (low : Option Char) : Char × Bool → Option (Place × List Token)
  | (character, escaped) =>
    let complete := ranges ++ (low.map fun low => (low, low)).toList
    if escaped then some (.inside negated complete (some character), [])
    else if character = '-' then
      low.map fun low => (.dash negated ranges low, [])
    else if character = ']' then
      if complete = [] then none
      else some (.outside, [.item (.characters negated complete)])
    else some (.inside negated complete (some character), [])

def Place.step : Place → Char × Bool → Option (Place × List Token)
  | .outside, (character, escaped) =>
    if escaped then some (.outside, [.item (.literal character)])
    else if character = '*' then some (.outside, [.star])
    else if character = '?' then some (.outside, [.item .anyCharacter])
    else if character = '[' then some (.opened, [])
    else some (.outside, [.item (.literal character)])
  | .opened, next =>
    if next = ('^', false) then some (.inside true [] none, [])
    else insideStep false [] none next
  | .inside negated ranges low, next => insideStep negated ranges low next
  | .dash negated ranges low, (character, escaped) =>
    if escaped = false ∧ (character = '-' ∨ character = ']') then none
    else some (.inside negated (ranges ++ [(low, character)]) none, [])

def Place.read : Place → List (Char × Bool) → Option (List Token)
  | place, [] => if place = .outside then some [] else none
  | place, next :: rest =>
    match place.step next with
    | none => none
    | some (later, tokens) => (later.read rest).map (tokens ++ ·)

/-- The tokens of a pattern; none is `ErrBadPattern`. -/
def tokens (escapes : Bool) (pattern : List Char) : Option (List Token) :=
  (mark escapes pattern).bind Place.outside.read

variable (separator : Char)

/-- A class may match a separator; a question mark does not. -/
def Item.accepts (character : Char) : Item → Bool
  | .literal expected => character = expected
  | .anyCharacter => character ≠ separator
  | .characters negated ranges =>
    (ranges.any fun range =>
      range.1 ≤ character && character ≤ range.2) != negated

/-- The items up to the next star, and whether stars stand before them. -/
abbrev Chunk := Bool × List Item

/-- `scanChunk`, to the end of the pattern. -/
def chunks : List Token → List Chunk
  | [] => []
  | .star :: rest =>
    match chunks rest with
    | [] => [(true, [])]
    | (_, items) :: later => (true, items) :: later
  | .item item :: rest =>
    match chunks rest with
    | (false, items) :: later => (false, item :: items) :: later
    | later => (false, [item]) :: later

/-- `matchChunk`: what remains of a name. -/
def matchChunk : List Item → List Char → Option (List Char)
  | [], name => some name
  | _ :: _, [] => none
  | item :: items, character :: name =>
    if item.accepts separator character then matchChunk items name
    else none

/-- What remains of a name after a star, which does not skip a separator. -/
def starts : List Char → List (List Char)
  | [] => [[]]
  | character :: name =>
    (character :: name) ::
      if character = separator then [] else starts name

/-- The first place where a chunk matches is taken; the last chunk has to match
to the end. -/
def matchChunks : List Chunk → List Char → Bool
  | [], name => name.isEmpty
  | (star, items) :: rest, name =>
    if star && items.isEmpty then !name.contains separator
    else
      let places := if star then starts separator name else [name]
      match places.findSome? fun start =>
          (matchChunk separator items start).filter fun remainder =>
            remainder.isEmpty || !rest.isEmpty with
      | none => false
      | some remainder => matchChunks rest remainder

def matchPath (escapes : Bool) (pattern name : String) : Option Bool :=
  (tokens escapes pattern.toList).map fun tokens =>
    matchChunks separator (chunks tokens) name.toList

example : matchPath '/' true "[^a-c]\\*?" "d*x" = some true := by
  decide +kernel

def isPlain (character : Char) : Bool := !"*?[\\".toList.contains character

theorem isPlain_iff {character : Char} :
    isPlain character = true ↔
    character ≠ '*' ∧ character ≠ '?' ∧ character ≠ '[' ∧ character ≠ '\\' := by
  simp [isPlain]

/-- The pattern that matches a text and nothing else, where a backslash
escapes. -/
def quote (text : String) : String := String.ofList (text.toList.flatMap fun character =>
    if isPlain character then [character] else ['\\', character])

theorem mark_cons {first : Char} (plain : first ≠ '\\') (rest : List Char) :
    mark true (first :: rest) = (mark true rest).map ((first, false) :: ·) := by
  cases rest with
  | nil | cons => simp [mark, plain]

theorem mark_quote (text : List Char) : mark true (text.flatMap fun character =>
      if isPlain character then [character] else ['\\', character]) =
        some (text.map fun character => (character, !isPlain character)) := by
  induction text with
  | nil => rfl
  | cons first rest induction =>
    rw [flatMap_cons]
    cases plain : isPlain first with
    | true =>
      rw [if_pos rfl, singleton_append, mark_cons (isPlain_iff.mp plain).2.2.2, induction]
      simp [plain]
    | false =>
      rw [if_neg (by decide), cons_append, singleton_append, mark, if_pos ⟨rfl, rfl⟩, induction]
      simp [plain]

theorem read_quote (text : List Char) : Place.outside.read (text.map fun character =>
      (character, !isPlain character)) =
        some (text.map fun character => .item (.literal character)) := by
  induction text with
  | nil => rfl
  | cons first rest induction =>
    cases plain : isPlain first with
    | true =>
      obtain ⟨star, mark, bracket, -⟩ := isPlain_iff.mp plain
      simp [Place.read, Place.step, plain, star, mark, bracket, induction]
    | false => simp [Place.read, Place.step, plain, induction]

theorem chunks_literals (first : Char) (rest : List Char) :
    chunks ((first :: rest).map fun character =>
      .item (.literal character)) = [(false, (first :: rest).map Item.literal)] := by
  induction rest generalizing first with
  | nil => rfl
  | cons second rest induction =>
    rw [map_cons, chunks, induction]
    rfl

theorem matchChunk_literals (pattern name : List Char) :
    matchChunk separator (pattern.map Item.literal) name = some [] ↔ name = pattern := by
  induction pattern generalizing name with
  | nil => simp [matchChunk]
  | cons first rest induction =>
    cases name with
    | nil => simp [matchChunk]
    | cons character name =>
      rw [map_cons, matchChunk, List.cons.injEq, ← induction]
      simp only [Item.accepts, decide_eq_true_eq]
      split
      · rename_i same
        simp [same]
      · rename_i other
        simp [other]

theorem matchPath_quote (text name : String) :
    matchPath separator true (quote text) name =
      some (decide (name = text)) := by
  rw [matchPath, tokens, quote, String.toList_ofList, mark_quote,
    Option.bind_some, read_quote, Option.map_some]
  congr 1
  rw [Bool.eq_iff_iff, decide_eq_true_iff, ← String.toList_inj]
  cases characters : text.toList with
  | nil => simp [chunks, matchChunks]
  | cons first rest =>
    rw [chunks_literals, ← matchChunk_literals separator]
    cases found : matchChunk separator ((first :: rest).map Item.literal) name.toList with
    | none => simp [matchChunks, found, -map_cons]
    | some remainder =>
      cases remainder with
      | nil =>
        simp [matchChunks, found, Option.filter, -map_cons]
      | cons next remainder =>
        simp [matchChunks, found, -map_cons]

theorem matchPath_plain {root : String}
    (plain : ∀ character ∈ root.toList, isPlain character = true) (path : String) :
    matchPath separator true root path = some (decide (path = root)) := by
  have quoted : quote root = root := by
    rw [quote, flatMap_congr fun character member => if_pos (plain character member)]
    simp
  rw [← matchPath_quote, quoted]

end ProxiPort.Go.Match
