import ProxiPort.Query.Memory
import ProxiPort.Query.Restrictions

/-!
# One comparison in memory and in SQL

A text is compared with a filter value by `MatchesFilters` and, as the text of
a column, by a condition of the WHERE clause.
-/

namespace ProxiPort.Query

open List

open Go.Regexp (Piece isMeta isEscapable)

/-- The pieces of a value in which every character means the same to LIKE and
to a regular expression.  An underscore is special to LIKE only, an escaped
percent sign loses its escape in the LIKE pattern, and an escaped star becomes
something else on both sides. -/
inductive ReadAlike : List Char → List Piece → Prop where
  | nil : ReadAlike [] []
  | escaped {character : Char} {rest : List Char} {parts : List Piece} :
      isEscapable character = true → character ≠ '*' → character ≠ '%' →
      ReadAlike rest parts →
      ReadAlike ('\\' :: character :: rest) (.literal character :: parts)
  | star {rest : List Char} {parts : List Piece} :
      ReadAlike rest parts → ReadAlike ('*' :: rest) (.anyText :: parts)
  | plain {character : Char} {rest : List Char} {parts : List Piece} :
      isMeta character = false → character ≠ '_' →
      ReadAlike rest parts →
      ReadAlike (character :: rest) (.literal character :: parts)

variable {value : List Char}

theorem exists_readAlike (unmarked : ∀ character ∈ value, character = '*' ∨
      isMeta character = false ∧ character ≠ '_') :
    ∃ parts, ReadAlike value parts := by
  induction value with
  | nil => exact ⟨[], .nil⟩
  | cons character rest induction =>
    rw [forall_mem_cons] at unmarked
    obtain ⟨parts, alike⟩ := induction unmarked.2
    rcases unmarked.1 with rfl | ⟨unmarked, underscore⟩
    · exact ⟨_, alike.star⟩
    · exact ⟨_, alike.plain unmarked underscore⟩

def expressionPiece (character : Char) : List Char :=
  if character = '*' then ['.', '*', '?'] else [character]

variable {character : Char}

theorem not_meta_ne_star (plain : isMeta character = false) : character ≠ '*' := by
  rintro rfl
  cases plain

variable {parts : List Piece}

theorem ReadAlike.pieces (alike : ReadAlike value parts) :
    Go.Regexp.pieces (value.flatMap expressionPiece ++ ['$']) = some parts := by
  induction alike with
  | nil => rfl
  | escaped escapable star _ _ induction =>
    simp [Go.Regexp.pieces, expressionPiece, escapable, star, induction]
  | star _ induction =>
    simp [Go.Regexp.pieces, expressionPiece, induction]
  | plain unmarked _ _ induction =>
    rw [flatMap_cons, expressionPiece, if_neg (not_meta_ne_star unmarked), singleton_append,
      cons_append, Go.Regexp.pieces_cons unmarked, induction]
    rfl

theorem parse_wildcardExpression {value : String} (alike : ReadAlike value.toList parts) :
    Go.Regexp.parse (wildcardExpression value) = some parts := by
  have written : (wildcardExpression value).toList =
      "(?i)^".toList ++ (value.toList.flatMap expressionPiece ++ ['$']) := by
    simp [wildcardExpression, Go.replaceAll]
    rfl
  rw [Go.Regexp.parse, Go.hasPrefix, written, if_pos (by simp)]
  exact alike.pieces

def Ascii (text : String) : Prop := ∀ character ∈ text.toList, character.toNat < 128

theorem toLower_of_isEscapable (escapable : isEscapable character = true) :
    character.toLower = character := by
  apply Go.toLower_of_not_isUpper
  simp only [isEscapable, Char.isAlphanum, Char.isAlpha, Bool.and_eq_true,
    Bool.not_eq_true', Bool.or_eq_false_iff] at escapable
  exact escapable.2.1.1

section

variable (unicode : Go.Unicode)

variable {parts : List Piece} {value : List Char}

theorem ReadAlike.tokens (alike : ReadAlike value parts)
    (ascii : ∀ character ∈ value, character.toNat < 128) :
    Like.tokens '\\' (value.flatMap (patternPiece unicode)) =
      some ((parts.map Piece.token).map (Like.Token.map Char.toLower)) := by
  induction alike with
  | nil => rfl
  | @escaped character rest parts escapable star percent _ induction =>
    have backslash : patternPiece unicode '\\' = ['\\'] := by
      simp [patternPiece, unicode.toLower_ascii '\\' (by decide)]
    have itself : patternPiece unicode character = [character] := by
      rw [patternPiece, if_neg percent, if_neg star, unicode.toLower_ascii character (by grind),
        toLower_of_isEscapable escapable]
    rw [flatMap_cons, flatMap_cons, backslash, itself,
      singleton_append, singleton_append, Like.tokens_escape,
      induction (by grind)]
    simp [Piece.token, Like.Token.map, toLower_of_isEscapable escapable]
  | star _ induction =>
    rw [flatMap_cons, patternPiece, if_neg (by decide), if_pos rfl,
      singleton_append, Like.tokens_cons (by decide),
      induction (by grind)]
    rfl
  | @plain character rest parts unmarked underscore _ induction =>
    by_cases percent : character = '%'
    · rw [flatMap_cons, patternPiece, if_pos percent, cons_append,
        singleton_append, Like.tokens_escape, induction (by grind), percent]
      rfl
    · have lowered := unicode.toLower_ascii character (by grind)
      have same {symbol : Char} (small : symbol.toNat < 128) (unlettered : symbol.isAlpha = false) :
          character.toLower = symbol ↔ character = symbol := by
        rw [← lowered]
        exact toLower_eq_symbol_iff unicode small unlettered character
      have unescaped : character ≠ '\\' := by
        rintro rfl
        cases unmarked
      rw [flatMap_cons, patternPiece, if_neg percent,
        if_neg (not_meta_ne_star unmarked), singleton_append, lowered,
        Like.tokens_cons (by rwa [ne_eq, same (by decide) (by decide)]),
        induction (by grind)]
      simp [Like.Token.ofCharacter, same, percent, underscore, Piece.token, Like.Token.map]

theorem ReadAlike.isAscii (alike : ReadAlike value parts)
    (ascii : ∀ character ∈ value, character.toNat < 128) {character : Char}
    (member : .literal character ∈ parts) : character.toNat < 128 := by
  induction alike <;> grind

theorem accepts_wildcard (folding : Go.Folding) {value text : String}
    (alike : ReadAlike value.toList parts) (valueAscii : Ascii value)
    (textAscii : Ascii text) (line : '\n' ∉ text.toList) :
    Go.Regexp.accepts folding.fold parts text.toList =
      Like.like Char.toLower '\\' (likePattern unicode value).toList
        (text.toList.map Char.toLower) := by
  rw [Like.like, likePattern_toList, alike.tokens unicode valueAscii,
    Option.any_some, Like.accepts_map toLower_toLower, Go.Regexp.accepts_eq_like line]
  apply Like.accepts_congr
  · intro character member
    obtain ⟨piece, inside, same⟩ := mem_map.mp member
    cases piece with
    | anyText => cases same
    | literal other =>
      cases same
      exact folding.fold_ascii character (alike.isAscii valueAscii inside)
  · intro character member
    exact folding.fold_ascii character (textAscii character member)

end

/-- A text and a value that are compared alike: the value is not the timestamp
that the text is, it does not differ from the text in case only unless both are
dates, and its wildcards are read alike and need not run across a newline. -/
structure ComparedAlike (matcher : Matcher) (text value : String) : Prop where
  timestamp : value = text → matcher.dates.rfc3339 value = none
  case : '*' ∉ value.toList → value ≠ text → Go.equalFold matcher.regexp.folding value text = true →
    matcher.dates.filterDate value ≠ none ∧ matcher.dates.rfc3339 text ≠ none
  wildcards : '*' ∈ value.toList → (∃ parts, ReadAlike value.toList parts) ∧ '\n' ∉ text.toList

section

variable {matcher : Matcher} {text value : String}

theorem matchIfDate_eq_none_iff {operator : String} :
    matchIfDate matcher.dates text value operator = none ↔ matcher.dates.filterDate value = none ∨
        matcher.dates.rfc3339 text = none := by
  unfold matchIfDate
  cases matcher.dates.filterDate value with
  | none => simp
  | some filterDate =>
    cases matcher.dates.rfc3339 text with
    | none => simp
    | some date => grind

/-- With the default operator a date never matches a timestamp. -/
theorem matchIfDate_default : matchIfDate matcher.dates text value "" ≠ some true := by
  unfold matchIfDate
  cases matcher.dates.filterDate value with
  | none => simp
  | some filterDate =>
    cases matcher.dates.rfc3339 text with
    | none => simp
    | some date => simp

theorem matchesValue_plain (plain : '*' ∉ value.toList) :
    matchesValue matcher "" text value = true ↔
      Go.equalFold matcher.regexp.folding value text = true ∧
        (matcher.dates.filterDate value = none ∨ matcher.dates.rfc3339 text = none) := by
  rw [← matchIfDate_eq_none_iff, matchesValue,
    eq_false_of_ne_true fun found => plain ((contains_star value).mp found)]
  cases answer : matchIfDate matcher.dates text value "" with
  | none => simp
  | some matched =>
    cases matched with
    | false => simp
    | true => exact absurd answer matchIfDate_default

theorem matchesValue_eq_iff (plain : '*' ∉ value.toList) :
    (matchesValue matcher "" text value = true ↔ value = text) ↔
      ComparedAlike matcher text value := by
  rw [matchesValue_plain plain]
  constructor
  · intro agrees
    refine ⟨?_, ?_, fun star => absurd star plain⟩
    · rintro rfl
      rcases (agrees.mpr rfl).2 with undated | unstamped
      · unfold Dates.filterDate at undated
        split at undated
        · cases undated
        · assumption
      · exact unstamped
    · intro _ other folded
      by_contra undated
      rw [not_and_or, not_not, not_not] at undated
      exact other (agrees.mp ⟨folded, undated⟩)
  · intro alike
    constructor
    · rintro ⟨folded, undated⟩
      by_contra other
      have dated := alike.case plain other folded
      exact undated.elim dated.1 dated.2
    · rintro rfl
      exact ⟨by simp [Go.equalFold], .inr (alike.timestamp rfl)⟩

theorem matchesValue_wildcard (unicode : Go.Unicode)
    (star : '*' ∈ value.toList) (alike : ComparedAlike matcher text value)
    (valueAscii : Ascii value) (textAscii : Ascii text) :
    matchesValue matcher "" text value =
      Like.like Char.toLower '\\' (likePattern unicode value).toList
        (text.toList.map Char.toLower) := by
  obtain ⟨⟨parts, read⟩, line⟩ := alike.wildcards star
  have undated : matchIfDate matcher.dates text value "" = none := by
    rw [matchIfDate_eq_none_iff, Dates.filterDate, matcher.dates.rfc3339_star value star]
    exact .inl (matcher.dates.date_star value star)
  rw [← accepts_wildcard unicode matcher.regexp.folding read valueAscii
    textAscii line, matchesValue, undated, (contains_star value).mpr star]
  simp only [if_true, Go.Regexp.Engine.compile, parse_wildcardExpression read]

variable {column : String}

theorem holds_plain {engine : Engine} {unicode : Go.Unicode} {row : Row}
    (found : row.value column = some text) (plain : '*' ∉ value.toList) :
    (condition unicode (imposedFilter column value) column value).holds
      engine row = true ↔ value = text := by
  by_cases given : value = ""
  · have searched : (condition unicode (imposedFilter column value) column
        value).holds engine row = (compares engine "" "="
          (row.value column) value || (row.value column).isNone) := by
      rw [given]
      rfl
    rw [searched, found]
    simp [compares, eq_comm]
  · rw [condition_imposed given, if_neg plain]
    simp [Condition.holds, compares, found, eq_comm]

theorem matchesValue_eq_holds (engine : Engine) (unicode : Go.Unicode)
    {row : Row} (found : row.value column = some text)
    (alike : ComparedAlike matcher text value) (valueAscii : Ascii value) (textAscii : Ascii text) :
    matchesValue matcher "" text value =
      (condition unicode (imposedFilter column value) column value).holds engine row := by
  by_cases star : '*' ∈ value.toList
  · have given : value ≠ "" := by
      rintro rfl
      simp at star
    rw [condition_imposed given, if_pos star,
      matchesValue_wildcard unicode star alike valueAscii textAscii]
    simp [Condition.holds, found]
  · rw [Bool.eq_iff_iff, holds_plain found star]
    exact (matchesValue_eq_iff star).mpr alike

end

end ProxiPort.Query
