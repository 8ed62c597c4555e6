import ProxiPort.Query.Listings

/-!
# What a statement is made of

Everything that `AppendOptionsToQuery` adds to a query is a sequence of tokens:
fixed words of the builder, the comparison function of a filter, names of the
listing, and placeholders with the parameters that are bound to them.
-/

namespace ProxiPort.Query

open List

/-- The texts that `convert.go` itself writes into a statement. -/
inductive Word where
  | wherever
  | and
  | or
  | opening
  | closing
  | equal
  | greater
  | less
  | since
  | until
  | isNull
  | lower
  | like
  | escape
  | escapeMySQL
  | orderBy
  | asc
  | desc
  | comma
  | limit
  | offset
  deriving DecidableEq, Repr

def Word.text : Word → String
  | .wherever => " WHERE "
  | .and => " AND "
  | .or => " OR "
  | .opening => "("
  | .closing => ")"
  | .equal => " = "
  | .greater => " > "
  | .less => " < "
  | .since => " >= "
  | .until => " <= "
  | .isNull => " IS NULL"
  | .lower => "LOWER("
  | .like => ") LIKE "
  | .escape => " ESCAPE '\\'"
  | .escapeMySQL => " ESCAPE '\\\\'"
  | .orderBy => " ORDER BY "
  | .asc => " ASC"
  | .desc => " DESC"
  | .comma => ", "
  | .limit => " LIMIT "
  | .offset => " OFFSET "

/-- A piece of a statement: a word, the function of a filter, a column to filter
or to sort by, a field of a resource, or a placeholder with its parameter. -/
inductive Token where
  | word (word : Word)
  | function (name : String)
  | column (name : String)
  | order (name : String)
  | field (resource name : String)
  | placeholder (parameter : String)
  deriving DecidableEq, Repr

namespace Token

def text : Token → String
  | .word fixed => fixed.text
  | .function name | .column name | .order name => name
  | .field resource name => resource ++ "." ++ name
  | .placeholder _ => "?"

def parameter : Token → Option String
  | .placeholder parameter => some parameter
  | .word _ | .function _ | .column _ | .order _ | .field _ _ => none

end Token

def render : List Token → String
  | [] => ""
  | token :: tokens => token.text ++ render tokens

def parameters (tokens : List Token) : List String := tokens.filterMap Token.parameter

def joinTokens (separator : Word) : List (List Token) → List Token
  | [] => []
  | [part] => part
  | part :: parts => part ++ .word separator :: joinTokens separator parts

def operatorWord : String → Word
  | "gt" => .greater
  | "lt" => .less
  | "since" => .since
  | "until" => .until
  | _ => .equal

def comparisonTokens (filter : FilterOption) (column value : String) : List Token :=
  if filter.compareFunc = "" then
    [.column column, .word (operatorWord filter.operator), .placeholder value]
  else
    [.function filter.compareFunc, .word .opening, .column column,
      .word .closing, .word (operatorWord filter.operator),
      .function filter.compareFunc, .word .opening, .placeholder value, .word .closing]

section

variable (unicode : Go.Unicode) (converter : SQLConverter)

def partTokens (filter : FilterOption) (column value : String) : List Token :=
  if value = "" then
    .word .opening :: comparisonTokens filter column value ++
      [.word .or, .column column, .word .isNull, .word .closing]
  else if Go.contains value "*" ∧ operatorCode filter.operator = "=" then
    [.word .lower, .column column, .word .like, .placeholder (likePattern unicode value),
      .word (if converter.dbDriverName = "mysql" then .escapeMySQL
        else .escape)]
  else comparisonTokens filter column value

def filterTokens (filter : FilterOption) : List (List Token) := filter.column.flatMap fun column =>
    filter.values.map (partTokens unicode converter filter column)

def groupTokens : List (List Token) → List Token
  | [part] => part
  | parts => .word .opening :: joinTokens .or parts ++ [.word .closing]

def whereTokens (filters : List FilterOption) (q : String) : List Token :=
  let groups := (filters.map (filterTokens unicode converter)).filter fun parts => parts ≠ []
  if groups = [] then []
  else .word (if Go.contains (Go.toUpper unicode q) " WHERE " then .and
      else .wherever) :: joinTokens .and (groups.map groupTokens)

def orderTokens (sorts : List SortOption) : List Token :=
  if sorts = [] then []
  else .word .orderBy :: joinTokens .comma (sorts.map fun sort =>
    [.order sort.column, .word (if sort.isASC then .asc else .desc)])

def fieldTokens (fields : List FieldsOption) : List Token :=
  joinTokens .comma (fields.flatMap fun option =>
    option.fields.map fun field => [.field option.resource field])

def limitTokens : Option Pagination → List Token
  | none => []
  | some pagination => [.word .limit, .placeholder pagination.limit,
      .word .offset, .placeholder pagination.offset]

end

theorem render_append (first second : List Token) :
    render (first ++ second) = render first ++ render second := by
  induction first with
  | nil => exact String.empty_append.symm
  | cons token tokens induction =>
    rw [cons_append, render, render, induction, String.append_assoc]

theorem render_join (separator : Word) (parts : List (List Token)) :
    render (joinTokens separator parts) = Go.join (parts.map render) separator.text := by
  induction parts with
  | nil => rfl
  | cons part parts induction =>
    cases parts with
    | nil => exact String.intercalate_singleton.symm
    | cons next parts =>
      rw [joinTokens, render_append, render, induction]
      · rw [Go.join, Go.join, map_cons, map_cons, map_cons,
          String.intercalate_cons_cons, Token.text, String.append_assoc]
      · exact cons_ne_nil _ _

theorem parameters_append (first second : List Token) :
    parameters (first ++ second) = parameters first ++ parameters second :=
  filterMap_append

theorem parameters_join (separator : Word) (parts : List (List Token)) :
    parameters (joinTokens separator parts) = parts.flatMap parameters := by
  induction parts with
  | nil => rfl
  | cons part parts induction =>
    cases parts with
    | nil => simp [joinTokens]
    | cons next parts =>
      have apart : parameters (.word separator :: joinTokens separator (next :: parts)) =
          parameters (joinTokens separator (next :: parts)) := rfl
      rw [joinTokens, parameters_append, apart, induction]
      · rfl
      · exact cons_ne_nil _ _

variable {unicode : Go.Unicode} {converter : SQLConverter}

theorem operatorWord_text (operator : String) :
    (operatorWord operator).text = " " ++ operatorCode operator ++ " " := by
  unfold operatorWord operatorCode
  split
  · rfl
  · rfl
  · rfl
  · rfl
  · split
    · rfl
    all_goals first | contradiction | rfl

section

variable (filter : FilterOption)

include filter

theorem render_comparison (column value : String) :
    render (comparisonTokens filter column value) =
      Condition.comparison filter.compareFunc column (operatorCode filter.operator) := by
  unfold comparisonTokens Condition.comparison
  split
  · simp [render, Token.text, operatorWord_text, String.append_assoc]
  · rw [← String.toList_inj]
    simp only [render, Token.text, operatorWord_text, String.toList_append]
    simp [Word.text]

theorem render_part (column value : String) :
    render (partTokens unicode converter filter column value) =
      (condition unicode filter column value).text converter := by
  unfold partTokens condition
  dsimp only
  split
  · rw [← String.toList_inj, render_append, render.eq_2, render_comparison]
    simp [render, Token.text, Word.text, Condition.text]
  · split
    · rw [← String.toList_inj]
      by_cases mysql : converter.dbDriverName = "mysql"
      all_goals simp [render, Token.text, Word.text, Condition.text, mysql]
    · exact render_comparison filter column value

theorem parameters_comparison (column value : String) :
    parameters (comparisonTokens filter column value) = [value] := by
  unfold comparisonTokens
  split
  · rfl
  · rfl

theorem parameters_part (column value : String) :
    parameters (partTokens unicode converter filter column value) =
      [(condition unicode filter column value).parameter] := by
  unfold partTokens condition
  dsimp only
  split
  · have inside : parameters (.word .opening :: comparisonTokens filter column value) = [value] :=
      parameters_comparison filter column value
    rw [parameters_append, inside]
    rfl
  · split
    · rfl
    · exact parameters_comparison filter column value

theorem filterTokens_render :
    (filterTokens unicode converter filter).map render =
      (orParts unicode filter).map (Condition.text converter) := by
  simp only [filterTokens, orParts, map_flatMap, map_map, Function.comp_def, render_part]

theorem filterTokens_parameters :
    (filterTokens unicode converter filter).flatMap parameters =
      (orParts unicode filter).map Condition.parameter := by
  simp only [filterTokens, orParts, flatMap_assoc, map_flatMap,
    flatMap_map, parameters_part, map_map, Function.comp_def, ← map_eq_flatMap]

theorem filterTokens_eq_nil_iff :
    filterTokens unicode converter filter = [] ↔
      orParts unicode filter = [] := by
  rw [← map_eq_nil_iff (f := render), filterTokens_render, map_eq_nil_iff]

end

def groupText : List String → String
  | [text] => text
  | texts => "(" ++ Go.join texts " OR " ++ ")"

theorem render_group (parts : List (List Token)) :
    render (groupTokens parts) = groupText (parts.map render) := by
  have several : render (.word .opening :: joinTokens .or parts ++
      [.word .closing]) = "(" ++ Go.join (parts.map render) " OR " ++ ")" := by
    rw [cons_append, render, render_append, render_join]
    simp [render, Token.text, Word.text, String.append_assoc]
  cases parts with
  | nil => exact several
  | cons first rest =>
    cases rest with
    | nil => rfl
    | cons second rest => exact several

theorem parameters_group (parts : List (List Token)) :
    parameters (groupTokens parts) = parts.flatMap parameters := by
  have several : parameters (.word .opening :: joinTokens .or parts ++
      [.word .closing]) = parts.flatMap parameters := by
    rw [parameters_append, ← parameters_join .or parts]
    exact append_nil _
  cases parts with
  | nil => exact several
  | cons first rest =>
    cases rest with
    | nil => simp [groupTokens]
    | cons second rest => exact several

def clauseTexts (unicode : Go.Unicode) (converter : SQLConverter)
    (filters : List FilterOption) : List (List String) :=
  (clause unicode filters).map fun parts =>
    parts.map (Condition.text converter)

def whereText (unicode : Go.Unicode) (texts : List (List String)) (q : String) : String :=
  if texts = [] then ""
  else
    (if Go.contains (Go.toUpper unicode q) " WHERE " then " AND "
      else " WHERE ") ++ Go.join (texts.map groupText) " AND "

theorem groups_eq (unicode : Go.Unicode) (converter : SQLConverter) (filters : List FilterOption) :
    ∃ contributing : List FilterOption,
      clause unicode filters = contributing.map (orParts unicode) ∧
      (filters.map (filterTokens unicode converter)).filter (fun parts => parts ≠ []) =
        contributing.map (filterTokens unicode converter) := by
  refine ⟨filters.filter fun filter => orParts unicode filter ≠ [], ?_, ?_⟩
  · rw [clause, filter_map]
    rfl
  · rw [filter_map]
    congr 1
    apply filter_congr
    intro filter _
    simp only [Function.comp_apply, ne_eq, filterTokens_eq_nil_iff]

theorem render_where (filters : List FilterOption) (q : String) :
    render (whereTokens unicode converter filters q) =
      whereText unicode (clauseTexts unicode converter filters) q := by
  obtain ⟨contributing, conditions, groups⟩ := groups_eq unicode converter filters
  have texts : clauseTexts unicode converter filters = contributing.map fun filter =>
        (filterTokens unicode converter filter).map render := by
    simp only [clauseTexts, conditions, map_map, Function.comp_def, filterTokens_render]
  rw [texts]
  simp only [whereTokens, whereText, groups, map_eq_nil_iff]
  split
  · rfl
  · rw [render, render_join]
    simp only [map_map, Function.comp_def, render_group]
    split
    all_goals rfl

theorem parameters_where (filters : List FilterOption) (q : String) :
    parameters (whereTokens unicode converter filters q) =
      (clause unicode filters).flatMap fun parts =>
        parts.map Condition.parameter := by
  obtain ⟨contributing, conditions, groups⟩ := groups_eq unicode converter filters
  simp only [whereTokens, groups, conditions, map_eq_nil_iff]
  split
  · rename_i none
    rw [none]
    rfl
  · refine (parameters_join .and _).trans ?_
    simp only [flatMap_map, parameters_group, filterTokens_parameters]

theorem addWhere_eq (filters : List FilterOption) (q : String) (params : List String) :
    addWhere unicode converter filters q params =
      (q ++ render (whereTokens unicode converter filters q),
        params ++ parameters (whereTokens unicode converter filters q)) := by
  have texts : ∀ group, (∀ parts, group parts = groupText (parts.map (Condition.text converter))) →
      (clause unicode filters).map group =
        (clauseTexts unicode converter filters).map groupText := by
    intro group same
    rw [clauseTexts, map_map]
    apply map_congr_left
    intro parts _
    exact same parts
  rw [render_where, parameters_where]
  simp only [addWhere, whereText]
  rw [texts _ ?_]
  · by_cases none : clauseTexts unicode converter filters = []
    · simp [none]
    · simp only [map_eq_nil_iff, none, if_false]
      rw [String.append_assoc]
  · intro parts
    cases parts with
    | nil => rfl
    | cons first rest =>
      cases rest with
      | nil | cons => rfl

theorem addOrderBy_eq (sorts : List SortOption) (q : String) :
    addOrderBy sorts q = q ++ render (orderTokens sorts) := by
  unfold addOrderBy orderTokens
  split
  · exact String.append_empty.symm
  · have parts : (sorts.map fun sort => [Token.order sort.column,
        .word (if sort.isASC then .asc else .desc)]).map render =
        sorts.map fun sort =>
          sort.column ++ if sort.isASC then " ASC" else " DESC" := by
      rw [map_map]
      apply map_congr_left
      intro sort _
      cases direction : sort.isASC with
      | false | true => simp [render, Token.text, Word.text, direction]
    rw [render, render_join, parts, String.append_assoc]
    rfl

theorem render_fields (fields : List FieldsOption) :
    render (fieldTokens fields) = Go.join (fields.flatMap fun option =>
      option.fields.map fun field => option.resource ++ "." ++ field) ", " := by
  rw [fieldTokens, render_join]
  congr 1
  simp [map_flatMap, render, Token.text, Function.comp_def]

theorem addLimitOffset_eq (pagination : Option Pagination) (q : String) (params : List String) :
    addLimitOffset pagination q params = (q ++ render (limitTokens pagination),
        params ++ parameters (limitTokens pagination)) := by
  cases pagination with
  | none => simp [addLimitOffset, limitTokens, render, parameters]
  | some pagination =>
    have text : render (limitTokens (some pagination)) = " LIMIT ? OFFSET ?" := rfl
    rw [text]
    rfl

inductive InsertedAtStar (names : List Token) (q : String) : String → Prop where
  | mk (before after : String) (found : q = before ++ "*" ++ after) (first : '*' ∉ before.toList) :
      InsertedAtStar names q (before ++ render names ++ after)

theorem replaceStar_cases (names : List Token) (q : String) :
    replaceStar (render names) q = q ∨
      InsertedAtStar names q (replaceStar (render names) q) := by
  unfold replaceStar
  split
  · rename_i before star after parts
    rw [span_eq_takeWhile_dropWhile, Prod.mk.injEq] at parts
    have whole : q.toList = before ++ star :: after := by
      rw [← takeWhile_append_dropWhile (p := (· ≠ '*')) (l := q.toList)]
      exact congrArg₂ (· ++ ·) parts.1 parts.2
    have isStar : star = '*' := by
      have head := head?_dropWhile_not (fun c => decide (c ≠ '*')) q.toList
      rw [parts.2] at head
      simpa using head
    subst isStar
    refine .inr (.mk _ _ ?_ ?_)
    · rw [← String.toList_inj, whole]
      simp
    · rw [String.toList_ofList, ← parts.1]
      intro member
      simpa using mem_takeWhile_imp member
  · exact .inl rfl

/-- What the options add to a statement besides the fields. -/
def addedTokens (unicode : Go.Unicode) (converter : SQLConverter)
    (options : ListOptions) (q : String) : List Token :=
  whereTokens unicode converter options.filters q ++ orderTokens options.sorts

theorem parameters_order (sorts : List SortOption) : parameters (orderTokens sorts) = [] := by
  unfold orderTokens
  split
  · rfl
  · refine (parameters_join .comma _).trans ?_
    simp [parameters, Token.parameter]

/-- Everything that `AppendOptionsToQuery` does: it adds tokens at the end and
the fields in place of a star, and binds the parameters of the placeholders. -/
theorem appendOptionsToQuery_eq (unicode : Go.Unicode)
    (converter : SQLConverter) (options : ListOptions) (q : String) (params : List String) :
    ∃ selected, (selected = q ++ render (addedTokens unicode converter options q) ∨
        InsertedAtStar (fieldTokens options.fields)
          (q ++ render (addedTokens unicode converter options q)) selected) ∧
      appendOptionsToQuery unicode converter options q params =
        (selected ++ render (limitTokens options.pagination),
          params ++ parameters (addedTokens unicode converter options q ++
            limitTokens options.pagination)) := by
  refine ⟨replaceStarSelect unicode options.fields
    (q ++ render (addedTokens unicode converter options q)), ?_, ?_⟩
  · unfold replaceStarSelect
    split
    · exact .inl rfl
    · rw [← render_fields]
      exact replaceStar_cases _ _
  · simp only [appendOptionsToQuery, addWhere_eq, addOrderBy_eq,
      addLimitOffset_eq, addedTokens, render_append, parameters_append,
      parameters_order, nil_append, append_assoc, String.append_assoc]

end ProxiPort.Query
