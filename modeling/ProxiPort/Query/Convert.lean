import ProxiPort.Foundation.Like
import ProxiPort.Query.Options

/-!
# From list options to SQL

`share/query/convert.go`.  The conditions that `AddWhere` writes are kept as
data, together with the text and the parameter each of them becomes and with
what it means for a row.  `=` on plain columns and `LIKE` have their documented
SQLite meaning; the other comparisons and the order of rows are a parameter.
-/

namespace ProxiPort.Query

open List

structure SQLConverter where
  dbDriverName : String

def operatorCode : String → String
  | "eq" => "="
  | "gt" => ">"
  | "lt" => "<"
  | "since" => ">="
  | "until" => "<="
  | _ => "="

/-- A comparison, with the function that is applied to both of its sides; the
comparison with the empty text, which also finds NULL; and a search. -/
inductive Condition where
  | compare (function column operator value : String)
  | compareOrNull (function column operator value : String)
  | like (column pattern : String)
  deriving DecidableEq, Repr

def likePattern (unicode : Go.Unicode) (value : String) : String :=
  Go.replaceAll (Go.toLower unicode (Go.replaceAll value '%' "\\%")) '*' "%"

def condition (unicode : Go.Unicode) (filter : FilterOption) (column value : String) : Condition :=
  let operator := operatorCode filter.operator
  if value = "" then
    .compareOrNull filter.compareFunc column operator value
  else if Go.contains value "*" ∧ operator = "=" then
    .like column (likePattern unicode value)
  else .compare filter.compareFunc column operator value

def orParts (unicode : Go.Unicode) (filter : FilterOption) : List Condition :=
  filter.column.flatMap fun column =>
    filter.values.map (condition unicode filter column)

/-- All of these disjunctions have to hold; a filter without columns or values
contributes none. -/
def clause (unicode : Go.Unicode) (filters : List FilterOption) : List (List Condition) :=
  (filters.map (orParts unicode)).filter fun parts => parts ≠ []

namespace Condition

def comparison (function column operator : String) : String :=
  if function = "" then column ++ " " ++ operator ++ " ?"
  else function ++ "(" ++ column ++ ") " ++ operator ++ " " ++ function ++ "(?)"

def text (converter : SQLConverter) : Condition → String
  | .compare function column operator _ => comparison function column operator
  | .compareOrNull function column operator _ =>
    "(" ++ comparison function column operator ++ " OR " ++ column ++ " IS NULL)"
  | .like column _ =>
    if converter.dbDriverName = "mysql" then
      "LOWER(" ++ column ++ ") LIKE ? ESCAPE '\\\\'"
    else "LOWER(" ++ column ++ ") LIKE ? ESCAPE '\\'"

def parameter : Condition → String
  | .compare _ _ _ value | .compareOrNull _ _ _ value => value
  | .like _ pattern => pattern

end Condition

section

variable (unicode : Go.Unicode) (converter : SQLConverter)

def addWhere (filters : List FilterOption) (q : String)
    (params : List String) : String × List String :=
  let disjunctions := clause unicode filters
  let params := params ++ disjunctions.flatMap fun parts =>
    parts.map Condition.parameter
  let whereParts := disjunctions.map fun parts =>
    match parts with
    | [part] => part.text converter
    | parts => "(" ++ Go.join (parts.map (Condition.text converter)) " OR " ++ ")"
  if whereParts = [] then (q, params)
  else
    let concat :=
      if Go.contains (Go.toUpper unicode q) " WHERE " then " AND "
      else " WHERE "
    (q ++ concat ++ Go.join whereParts " AND ", params)

def addOrderBy (sorts : List SortOption) (q : String) : String :=
  if sorts = [] then q
  else
    let orderByValues := sorts.map fun sort =>
      sort.column ++ if sort.isASC then " ASC" else " DESC"
    q ++ " ORDER BY " ++ Go.join orderByValues ", "

/-- `strings.Replace` of the first star. -/
def replaceStar (new : String) (text : String) : String :=
  match text.toList.span (· ≠ '*') with
  | (before, _ :: after) =>
    String.ofList before ++ new ++ String.ofList after
  | (_, []) => text

def replaceStarSelect (fields : List FieldsOption) (q : String) : String :=
  if Go.hasPrefix (Go.toUpper unicode q) "SELECT * " = false ∨ fields = [] then q
  else replaceStar (Go.join (fields.flatMap fun option =>
    option.fields.map fun field => option.resource ++ "." ++ field) ", ") q

def addLimitOffset (pagination : Option Pagination) (q : String)
    (params : List String) : String × List String :=
  match pagination with
  | none => (q, params)
  | some pagination => (q ++ " LIMIT ? OFFSET ?", params ++ [pagination.limit, pagination.offset])

def appendOptionsToQuery (options : ListOptions) (q : String)
    (params : List String) : String × List String :=
  let (q, params) := addWhere unicode converter options.filters q params
  let q := addOrderBy options.sorts q
  let q := replaceStarSelect unicode options.fields q
  addLimitOffset options.pagination q params

end

/-- The columns of a row; a missing value is NULL. -/
abbrev Row := List (String × Option String)

def Row.value (row : Row) (column : String) : Option String := (row.lookup column).join

/-- Comparisons other than `=`, or of function results, and the order of rows
in a column. -/
structure Engine where
  compare : String → String → Option String → String → Bool
  precedes : String → Row → Row → Bool

section

variable (engine : Engine)

def compares (function operator : String) (found : Option String) (value : String) : Bool :=
  if function = "" ∧ operator = "=" then found = some value
  else engine.compare function operator found value

/-- LOWER and LIKE fold the case of ASCII letters. -/
def Condition.holds (row : Row) : Condition → Bool
  | .compare function column operator value =>
    compares engine function operator (row.value column) value
  | .compareOrNull function column operator value =>
    compares engine function operator (row.value column) value || (row.value column).isNone
  | .like column pattern => (row.value column).any fun text =>
    Like.like Char.toLower '\\' pattern.toList (text.toList.map Char.toLower)

def satisfies (disjunctions : List (List Condition)) (row : Row) : Bool :=
  disjunctions.all fun parts => parts.any (Condition.holds engine row)

def precedes : List SortOption → Row → Row → Bool
  | [], _, _ => true
  | sort :: sorts, left, right =>
    let forward := engine.precedes sort.column left right
    let backward := engine.precedes sort.column right left
    if forward && backward then precedes sorts left right
    else if sort.isASC then forward
    else backward

/-- LIMIT and OFFSET; a negative limit is none. -/
def page (pagination : Option Pagination) (rows : List Row) : List Row :=
  match pagination with
  | none => rows
  | some pagination =>
    let limit := (Go.atoi pagination.limit).getD 0
    let rest := rows.drop ((Go.atoi pagination.offset).getD 0).toNat
    if limit < 0 then rest else rest.take limit.toNat

def answer (unicode : Go.Unicode) (options : ListOptions) (rows : List Row) : List Row :=
  let found := rows.filter (satisfies engine (clause unicode options.filters))
  page options.pagination (found.insertionSort fun left right =>
    precedes engine options.sorts left right)

def countAnswer (unicode : Go.Unicode) (options : ListOptions) (rows : List Row) : Nat :=
  (answer engine unicode { options with pagination := none } rows).length

end

variable {engine : Engine} {unicode : Go.Unicode} {options : ListOptions}
  {rows : List Row} {row : Row}

theorem mem_of_mem_page {pagination : Option Pagination}
    (member : row ∈ page pagination rows) : row ∈ rows := by
  unfold page at member
  split at member
  · exact member
  · dsimp only at member
    split at member
    · exact mem_of_mem_drop member
    · exact mem_of_mem_drop (mem_of_mem_take member)

theorem holds_of_mem_answer (member : row ∈ answer engine unicode options rows)
    {filter : FilterOption} (imposed : filter ∈ options.filters)
    (contributes : orParts unicode filter ≠ []) :
    ∃ part ∈ orParts unicode filter, part.holds engine row = true := by
  have sorted := mem_of_mem_page member
  rw [mem_insertionSort, mem_filter] at sorted
  have group : orParts unicode filter ∈ clause unicode options.filters := by
    refine mem_filter.mpr ⟨mem_map_of_mem imposed, ?_⟩
    simpa using contributes
  exact any_eq_true.mp (all_eq_true.mp sorted.2 _ group)

theorem contains_star (value : String) : Go.contains value "*" = true ↔ '*' ∈ value.toList := by
  unfold Go.contains
  generalize value.toList = characters
  induction characters with
  | nil => simp
  | cons character characters induction =>
    rw [List.tails, any_cons, Bool.or_eq_true, induction, mem_cons]
    simp

theorem toLower_eq_symbol_iff (unicode : Go.Unicode) {symbol : Char}
    (ascii : symbol.toNat < 128) (unlettered : symbol.isAlpha = false) (character : Char) :
    unicode.toLower character = symbol ↔ character = symbol := by
  have notUpper : symbol.isUpper = false := by
    simp only [Char.isAlpha, Bool.or_eq_false_iff] at unlettered
    exact unlettered.1
  have notLower : symbol.isLower = false := by
    simp only [Char.isAlpha, Bool.or_eq_false_iff] at unlettered
    exact unlettered.2
  constructor
  · intro mapped
    have fixed := unicode.toLower_symbol character
    rw [mapped] at fixed
    exact (fixed ascii notLower).symm
  · rintro rfl
    rw [unicode.toLower_ascii character ascii, Go.toLower_of_not_isUpper notUpper]

def patternPiece (unicode : Go.Unicode) (character : Char) : List Char :=
  if character = '%' then ['\\', '%']
  else if character = '*' then ['%']
  else [unicode.toLower character]

theorem likePattern_toList (value : String) :
    (likePattern unicode value).toList =
      value.toList.flatMap (patternPiece unicode) := by
  have percent : unicode.toLower '%' = '%' :=
    (toLower_eq_symbol_iff unicode (by decide) (by decide) _).mpr rfl
  have backslash : unicode.toLower '\\' = '\\' :=
    (toLower_eq_symbol_iff unicode (by decide) (by decide) _).mpr rfl
  simp only [likePattern, Go.replaceAll, Go.toLower, String.toList_ofList]
  generalize value.toList = characters
  induction characters with
  | nil => rfl
  | cons character characters induction =>
    simp only [flatMap_cons, map_append, flatMap_append,
      induction]
    congr 1
    have star : unicode.toLower character = '*' ↔ character = '*' :=
      toLower_eq_symbol_iff unicode (by decide) (by decide) character
    by_cases isPercent : character = '%'
    · simp [isPercent, patternPiece, percent, backslash]
    · by_cases isStar : character = '*'
      · subst isStar
        simp [patternPiece, star]
      · simp [isPercent, patternPiece, star, isStar]

theorem star_not_mem_likePattern (value : String) : '*' ∉ (likePattern unicode value).toList := by
  rw [likePattern_toList, mem_flatMap]
  rintro ⟨character, -, inside⟩
  unfold patternPiece at inside
  split at inside
  · simp at inside
  · split at inside
    · simp at inside
    · rename_i other
      rw [mem_singleton] at inside
      exact other ((toLower_eq_symbol_iff unicode (by decide) (by decide) character).mp inside.symm)

theorem unfinished_likePattern (value : String) :
    Like.unfinished '\\' (likePattern unicode value).toList =
      Like.unfinished '\\' value.toList := by
  rw [likePattern_toList, Like.unfinished, Like.unfinished]
  generalize false = before
  generalize value.toList = characters
  induction characters generalizing before with
  | nil => rfl
  | cons character characters induction =>
    have same : (patternPiece unicode character).foldl (Like.pending '\\') before =
        Like.pending '\\' before character := by
      have backslash : unicode.toLower character = '\\' ↔ character = '\\' :=
        toLower_eq_symbol_iff unicode (by decide) (by decide) character
      unfold patternPiece
      split
      · rename_i percent
        simp [Like.pending, percent]
      · split
        · rename_i star
          simp [Like.pending, star]
        · simp [Like.pending, backslash]
    rw [flatMap_cons, foldl_append, same, foldl_cons]
    exact induction _

end ProxiPort.Query
