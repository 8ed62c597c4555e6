import ProxiPort.Query.Statement

/-!
# The text of a statement and the values of a request

Options that a listing has accepted contribute names of the listing and nothing
else to the text of a statement, and one parameter for each placeholder.  Values
of filters only become parameters: whether they are empty or have a star is all
that the text shows of them.
-/

namespace ProxiPort.Query

open List

variable {unicode : Go.Unicode} {converter : SQLConverter}

/-- What a listing supports.  The names are constants of the server, and none of
them has a question mark. -/
structure Listing where
  sorts : List String
  filters : List String
  fields : Option Values
  pagination : Option PaginationConfig
  plainSorts : ∀ name ∈ sorts, '?' ∉ name.toList
  plainFilters : ∀ name ∈ filters, '?' ∉ name.toList
  plainFields : ∀ supported ∈ fields, ∀ entry ∈ supported,
    '?' ∉ entry.1.toList ∧ ∀ name ∈ entry.2, '?' ∉ name.toList

def Listing.validate (listing : Listing) (unicode : Go.Unicode)
    (options : ListOptions) : Except (List APIError) ListOptions :=
  validateListOptions unicode options listing.sorts listing.filters
    listing.fields listing.pagination

/-- A name or function in a statement comes from the listing or from the
code. -/
def Token.Supported (listing : Listing) (functions : List String) : Token → Prop
  | .word _ | .placeholder _ => True
  | .function name => name ∈ functions
  | .column name => name ∈ listing.filters ∨
      ∃ operator, name ++ "[" ++ operator ++ "]" ∈ listing.filters
  | .order name => name ∈ listing.sorts
  | .field resource name => ∃ supported ∈ listing.fields,
      ∃ names, (resource, names) ∈ supported ∧ name ∈ names

variable {listing : Listing} {options checked : ListOptions}

structure Accepted (listing : Listing) (options checked : ListOptions) :
    Prop where
  sorts : ∀ sort ∈ checked.sorts, sort.column ∈ listing.sorts
  columns : ∀ filter ∈ checked.filters, ∀ column ∈ filter.column,
    (Token.column column).Supported listing []
  functions : ∀ filter ∈ checked.filters,
    ∃ original ∈ options.filters, filter.compareFunc = original.compareFunc
  fields : ∀ option ∈ checked.fields, ∀ field ∈ option.fields,
    (Token.field option.resource field).Supported listing []

variable {filter : FilterOption} {column : String}

theorem supported_of_isSupported (supported : filter.isSupported listing.filters = true)
    (member : column ∈ filter.column) : (Token.column column).Supported listing [] := by
  have here := all_eq_true.mp supported column member
  rw [Bool.or_eq_true, Bool.and_eq_true] at here
  rcases here with ⟨_, plain⟩ | ranged
  · exact .inl (contains_iff_mem.mp plain)
  · exact .inr ⟨filter.operator, contains_iff_mem.mp ranged⟩

variable {supportedFields : List String}

theorem isSupported_of_validate (accepted : (filter.validate supportedFields).2 = []) :
    (filter.validate supportedFields).1.isSupported supportedFields =
      true := by
  have checked : ∀ candidate : FilterOption, (if candidate.isSupported supportedFields then []
        else [badRequest ("unsupported filter field '" ++ candidate.text ++
          "'")]) = [] → candidate.isSupported supportedFields = true := by
    intro candidate none
    by_contra unsupported
    rw [if_neg unsupported] at none
    cases none
  by_cases wildcard : filter.column = ["*"]
  · by_cases nothing : (filter.setWildcardColumns supportedFields).column = []
    · simp [FilterOption.validate, wildcard, nothing] at accepted
    · simp only [FilterOption.validate, wildcard, nothing, if_true, if_false] at accepted ⊢
      exact checked _ accepted
  · simp only [FilterOption.validate, wildcard, if_false] at accepted ⊢
    exact checked _ accepted

theorem compareFunc_validate (filter : FilterOption) (supportedFields : List String) :
    (filter.validate supportedFields).1.compareFunc = filter.compareFunc := by
  unfold FilterOption.validate
  dsimp only
  split
  · split
    all_goals rfl
  · rfl

theorem supported_of_validateFieldsOptions {fields : List FieldsOption}
    {supported : Values} (given : listing.fields = some supported)
    (accepted : validateFieldsOptions unicode fields supported = []) :
    ∀ option ∈ fields, ∀ field ∈ option.fields,
      (Token.field option.resource field).Supported listing [] := by
  intro option member field inside
  have here := flatMap_eq_nil_iff.mp accepted option member
  split at here
  · cases here
  · rename_i names found
    have kept := filter_eq_nil_iff.mp (map_eq_nil_iff.mp here) field inside
    obtain ⟨front, back, parts, _⟩ := lookup_eq_some_iff.mp found
    refine ⟨supported, given, names, ?_, by simpa using kept⟩
    rw [parts]
    exact mem_append_right front mem_cons_self

theorem accepted_of_validate (validated : listing.validate unicode options = .ok checked) :
    Accepted listing options checked := by
  unfold Listing.validate validateListOptions at validated
  dsimp only at validated
  split at validated
  · rename_i none
    simp only [append_eq_nil_iff] at none
    obtain ⟨⟨⟨sortErrs, filterErrs⟩, fieldErrs⟩, _⟩ := none
    have passed := flatMap_eq_nil_iff.mp filterErrs
    cases validated
    constructor
    · intro sort member
      have kept := filter_eq_nil_iff.mp (map_eq_nil_iff.mp sortErrs) sort member
      simpa using kept
    · intro filter member column inside
      obtain ⟨original, given, rfl⟩ := mem_map.mp member
      exact supported_of_isSupported (isSupported_of_validate (passed original given)) inside
    · intro filter member
      obtain ⟨original, given, rfl⟩ := mem_map.mp member
      exact ⟨original, given, compareFunc_validate original listing.filters⟩
    · cases given : listing.fields with
      | none =>
        intro option member
        dsimp only at member
        cases member
      | some supported =>
        simp only [given] at fieldErrs ⊢
        exact supported_of_validateFieldsOptions given fieldErrs
  · cases validated

variable {token : Token}

theorem mem_joinTokens {separator : Word} {parts : List (List Token)}
    (member : token ∈ joinTokens separator parts) :
    token = .word separator ∨ ∃ part ∈ parts, token ∈ part := by
  induction parts with
  | nil => cases member
  | cons part parts induction =>
    cases parts with
    | nil => exact .inr ⟨part, mem_cons_self, member⟩
    | cons next parts =>
      rcases mem_append.mp member with inside | later
      · exact .inr ⟨part, mem_cons_self, inside⟩
      · rcases mem_cons.mp later with rfl | rest
        · exact .inl rfl
        · rcases induction rest with isWord | ⟨other, among, inside⟩
          · exact .inl isWord
          · exact .inr ⟨other, mem_cons_of_mem part among, inside⟩

/-- A word, a placeholder, or one of the texts that a filter brings along. -/
def Token.IsOf (filter : FilterOption) : Token → Prop
  | .word _ | .placeholder _ => True
  | .function name => name = filter.compareFunc
  | .column name => name ∈ filter.column
  | .order _ | .field _ _ => False

theorem isOf_part {value : String} (member : column ∈ filter.column) :
    ∀ token ∈ partTokens unicode converter filter column value, token.IsOf filter := by
  have compared : ∀ token ∈ comparisonTokens filter column value, token.IsOf filter := by
    unfold comparisonTokens
    split
    all_goals simp [Token.IsOf, member]
  unfold partTokens
  split
  · intro token inside
    rcases mem_append.mp inside with front | back
    · rcases mem_cons.mp front with rfl | within
      · trivial
      · exact compared token within
    · have fixed : ∀ token ∈ [Token.word .or, .column column,
          .word .isNull, .word .closing], token.IsOf filter := by
        simp [Token.IsOf, member]
      exact fixed token back
  · split
    · simp [Token.IsOf, member]
    · exact compared

theorem isOf_group :
    ∀ token ∈ groupTokens (filterTokens unicode converter filter),
      token.IsOf filter := by
  have parts : ∀ part ∈ filterTokens unicode converter filter,
      ∀ token ∈ part, token.IsOf filter := by
    intro part member
    obtain ⟨column, among, inside⟩ := mem_flatMap.mp member
    obtain ⟨value, _, rfl⟩ := mem_map.mp inside
    exact isOf_part among
  have joined : ∀ token ∈ joinTokens .or
      (filterTokens unicode converter filter), token.IsOf filter := by
    intro token member
    rcases mem_joinTokens member with rfl | ⟨part, among, inside⟩
    · trivial
    · exact parts part among token inside
  generalize filterTokens unicode converter filter = tokens at parts joined ⊢
  have several : ∀ token ∈ Token.word .opening :: joinTokens .or tokens ++
      [.word .closing], token.IsOf filter := by
    intro token member
    rcases mem_append.mp member with front | back
    · rcases mem_cons.mp front with rfl | inside
      · trivial
      · exact joined token inside
    · cases mem_singleton.mp back
      trivial
  cases tokens with
  | nil => exact several
  | cons first rest =>
    cases rest with
    | nil => exact parts first mem_cons_self
    | cons second rest => exact several

theorem isOf_where {filters : List FilterOption} {q : String}
    (member : token ∈ whereTokens unicode converter filters q) :
    (∃ word, token = .word word) ∨ ∃ filter ∈ filters, token.IsOf filter := by
  simp only [whereTokens] at member
  split at member
  · cases member
  · rcases mem_cons.mp member with rfl | rest
    · exact .inl ⟨_, rfl⟩
    · rcases mem_joinTokens rest with rfl | ⟨part, among, inside⟩
      · exact .inl ⟨_, rfl⟩
      · obtain ⟨tokens, kept, rfl⟩ := mem_map.mp among
        obtain ⟨filter, given, rfl⟩ := mem_map.mp (mem_of_mem_filter kept)
        exact .inr ⟨filter, given, isOf_group token inside⟩

variable {functions : List String}

section

variable (accepted : Accepted listing options checked)
include accepted

theorem supported_where
    (constants : ∀ filter ∈ options.filters, filter.compareFunc ∈ functions) {q : String} :
    ∀ token ∈ whereTokens unicode converter checked.filters q,
      token.Supported listing functions := by
  intro token member
  rcases isOf_where member with ⟨word, rfl⟩ | ⟨filter, given, isOf⟩
  · trivial
  · cases token with
    | word | placeholder => trivial
    | function name =>
      cases isOf
      obtain ⟨original, among, same⟩ := accepted.functions filter given
      rw [Token.Supported, same]
      exact constants original among
    | column name => exact accepted.columns filter given name isOf
    | order | field => exact isOf.elim

theorem supported_order :
    ∀ token ∈ orderTokens checked.sorts, token.Supported listing functions := by
  intro token member
  unfold orderTokens at member
  split at member
  · cases member
  · rcases mem_cons.mp member with rfl | rest
    · trivial
    · rcases mem_joinTokens rest with rfl | ⟨part, among, inside⟩
      · trivial
      · obtain ⟨sort, given, rfl⟩ := mem_map.mp among
        rcases mem_pair.mp inside with rfl | rfl
        · exact accepted.sorts sort given
        · trivial

theorem supported_fields :
    ∀ token ∈ fieldTokens checked.fields, token.Supported listing functions := by
  intro token member
  rcases mem_joinTokens member with rfl | ⟨part, among, inside⟩
  · trivial
  · obtain ⟨option, given, parts⟩ := mem_flatMap.mp among
    obtain ⟨field, within, rfl⟩ := mem_map.mp parts
    cases mem_singleton.mp inside
    exact accepted.fields option given field within

end

def placeholders (text : String) : Nat := text.toList.count '?'

theorem placeholders_append (first second : String) :
    placeholders (first ++ second) =
      placeholders first + placeholders second := by
  rw [placeholders, String.toList_append, count_append]
  rfl

theorem placeholders_text (supported : token.Supported listing functions)
    (plain : ∀ name ∈ functions, '?' ∉ name.toList) :
    placeholders token.text = token.parameter.toList.length := by
  have absent : ∀ name, '?' ∉ name.toList → placeholders name = 0 := fun name => count_eq_zero.mpr
  cases token with
  | word word =>
    cases word
    all_goals rfl
  | placeholder parameter =>
    have one : placeholders "?" = 1 := by decide
    exact one
  | function name => exact absent name (plain name supported)
  | order name => exact absent name (listing.plainSorts name supported)
  | column name =>
    refine absent name ?_
    rcases supported with member | ⟨operator, member⟩
    · exact listing.plainFilters name member
    · have whole := listing.plainFilters _ member
      simp only [String.toList_append, mem_append, not_or] at whole
      exact whole.1.1.1
  | field resource name =>
    obtain ⟨given, isGiven, names, among, inside⟩ := supported
    obtain ⟨plainResource, plainNames⟩ := listing.plainFields given isGiven _ among
    rw [Token.text, placeholders_append, placeholders_append,
      absent resource plainResource, absent name (plainNames name inside)]
    rfl

theorem placeholders_render {tokens : List Token}
    (supported : ∀ token ∈ tokens, token.Supported listing functions)
    (plain : ∀ name ∈ functions, '?' ∉ name.toList) :
    placeholders (render tokens) = (parameters tokens).length := by
  induction tokens with
  | nil => rfl
  | cons token tokens induction =>
    rw [render, placeholders_append, placeholders_text
      (supported token mem_cons_self) plain, induction fun other among =>
        supported other (mem_cons_of_mem token among)]
    cases token with
    | placeholder parameter => exact Nat.add_comm 1 _
    | word | function | column | order | field => exact Nat.zero_add _

theorem placeholders_inserted {names : List Token} {q selected : String}
    (inserted : InsertedAtStar names q selected) (none : placeholders (render names) = 0) :
    placeholders selected = placeholders q := by
  cases inserted with
  | mk before after found first =>
    have star : placeholders "*" = 0 := rfl
    rw [found]
    simp only [placeholders_append, none, star]

/-- Two values are both empty or not, and both have a star or not. -/
def SameKind (value other : String) : Prop :=
  (value = "" ↔ other = "") ∧
    (Go.contains value "*" = Go.contains other "*")

/-- Two filters differ only in their values, and these are of the same
kinds. -/
structure FilterOption.SameShape (filter other : FilterOption) : Prop where
  column : other.column = filter.column
  operator : other.operator = filter.operator
  valuesLogicalOperator : other.valuesLogicalOperator = filter.valuesLogicalOperator
  compareFunc : other.compareFunc = filter.compareFunc
  values : List.Forall₂ SameKind filter.values other.values

structure ListOptions.SameShape (options other : ListOptions) : Prop where
  sorts : other.sorts = options.sorts
  filters : List.Forall₂ FilterOption.SameShape options.filters other.filters
  fields : other.fields = options.fields
  pagination : other.pagination = options.pagination

variable {filter other : FilterOption}

theorem condition_text_eq {value another : String} (operator : other.operator = filter.operator)
    (compareFunc : other.compareFunc = filter.compareFunc)
    (same : SameKind value another) (column : String) :
    (condition unicode filter column value).text converter =
      (condition unicode other column another).text converter := by
  by_cases empty : value = ""
  · simp [condition, Condition.text, operator, compareFunc, empty, same.1.mp empty]
  · have given : another ≠ "" := fun blank => empty (same.1.mpr blank)
    by_cases search : Go.contains value "*" = true ∧ operatorCode filter.operator = "="
    · simp [condition, Condition.text, operator, given, empty, search, ← same.2]
    · have plain : ¬(Go.contains another "*" = true ∧ operatorCode filter.operator = "=") := by
        rw [← same.2]
        exact search
      simp only [condition, operator, compareFunc, given, empty, if_false,
        if_neg search, if_neg plain, Condition.text]

theorem map_eq_of_forall₂ {Value Image : Type} {first second : List Value}
    {related : Value → Value → Prop} {image image' : Value → Image}
    (pairs : List.Forall₂ related first second) (same : ∀ {value other}, related value other →
      image value = image' other) :
    first.map image = second.map image' := by
  induction pairs with
  | nil => rfl
  | cons head _ induction =>
    rw [map_cons, map_cons, same head, induction]

theorem orParts_text_eq (same : filter.SameShape other) :
    (orParts unicode filter).map (Condition.text converter) =
      (orParts unicode other).map (Condition.text converter) := by
  simp only [orParts, map_flatMap, map_map, same.column, Function.comp_def]
  congr 1
  funext column
  exact map_eq_of_forall₂ same.values fun kinds =>
    condition_text_eq same.operator same.compareFunc kinds column

theorem clauseTexts_eq {filters others : List FilterOption}
    (same : List.Forall₂ FilterOption.SameShape filters others) :
    clauseTexts unicode converter filters = clauseTexts unicode converter others := by
  have texts : ∀ given, clauseTexts unicode converter given =
        (given.map fun filter => (orParts unicode filter).map
          (Condition.text converter)).filter fun parts => parts ≠ [] := by
    intro given
    simp only [clauseTexts, clause, filter_map, map_map]
    congr 1
    apply filter_congr
    intro filter _
    simp
  rw [texts, texts, map_eq_of_forall₂ same fun pair => orParts_text_eq pair]

theorem validate_sameShape (same : filter.SameShape other) (supportedFields : List String) :
    (filter.validate supportedFields).1.SameShape (other.validate supportedFields).1 ∧
      (other.validate supportedFields).2 = (filter.validate supportedFields).2 := by
  obtain ⟨column, operator, values, logical, function⟩ := filter
  obtain ⟨column', operator', values', logical', function'⟩ := other
  obtain ⟨rfl, rfl, rfl, rfl, kinds⟩ := same
  simp only [FilterOption.validate]
  by_cases wildcard : column' = ["*"]
  · rw [if_pos wildcard, if_pos wildcard]
    have same : (FilterOption.setWildcardColumns ⟨column', operator', values', logical', function'⟩
          supportedFields).column =
        (FilterOption.setWildcardColumns ⟨column', operator', values, logical', function'⟩
          supportedFields).column := rfl
    by_cases nothing : (FilterOption.setWildcardColumns
        ⟨column', operator', values, logical', function'⟩ supportedFields).column = []
    · rw [if_pos nothing, if_pos (same.trans nothing)]
      exact ⟨⟨rfl, rfl, rfl, rfl, kinds⟩, rfl⟩
    · rw [if_neg nothing, if_neg fun blank => nothing (same.symm.trans blank)]
      exact ⟨⟨rfl, rfl, rfl, rfl, kinds⟩, rfl⟩
  · rw [if_neg wildcard, if_neg wildcard]
    exact ⟨⟨rfl, rfl, rfl, rfl, kinds⟩, rfl⟩

theorem validate_ok_of_sameShape {other : ListOptions} (same : options.SameShape other)
    (validated : listing.validate unicode options = .ok checked) :
    ∃ checked', listing.validate unicode other = .ok checked' ∧ checked.SameShape checked' := by
  have filterErrs : (validateFilterOptions other.filters listing.filters).2 =
      (validateFilterOptions options.filters listing.filters).2 := by
    simp only [validateFilterOptions, flatMap_def]
    rw [map_eq_of_forall₂ same.filters fun pair =>
      (validate_sameShape pair listing.filters).2.symm]
  have filters : List.Forall₂ FilterOption.SameShape
      (validateFilterOptions options.filters listing.filters).1
      (validateFilterOptions other.filters listing.filters).1 := by
    simp only [validateFilterOptions, List.forall₂_map_left_iff, List.forall₂_map_right_iff]
    exact same.filters.imp fun _ _ pair =>
      (validate_sameShape pair listing.filters).1
  unfold Listing.validate validateListOptions at validated ⊢
  dsimp only at validated ⊢
  rw [same.sorts, same.fields, same.pagination, filterErrs]
  split at validated
  · cases validated
    exact ⟨_, rfl, rfl, filters, rfl, rfl⟩
  · cases validated

/-- What `AppendOptionsToQuery` may do: the tokens it adds are words, constant
functions, names of the listing and placeholders; the parameters it adds are
those of the placeholders, in their order, and there is one for each question
mark. -/
structure Parametrized (listing : Listing) (functions : List String)
    (unicode : Go.Unicode) (converter : SQLConverter) (options : ListOptions)
    (q : String) (params : List String) : Prop where
  statement : ∃ selected, (selected = q ++ render (addedTokens unicode converter options q) ∨
      InsertedAtStar (fieldTokens options.fields)
        (q ++ render (addedTokens unicode converter options q)) selected) ∧
    appendOptionsToQuery unicode converter options q params =
      (selected ++ render (limitTokens options.pagination),
        params ++ parameters (addedTokens unicode converter options q ++
          limitTokens options.pagination))
  names : ∀ token ∈ fieldTokens options.fields ++ addedTokens unicode converter options q ++
      limitTokens options.pagination,
    token.Supported listing functions
  count : placeholders (appendOptionsToQuery unicode converter options q params).1 + params.length =
    placeholders q + (appendOptionsToQuery unicode converter options q params).2.length

theorem parameters_fields (fields : List FieldsOption) : parameters (fieldTokens fields) = [] := by
  rw [fieldTokens, parameters_join, flatMap_eq_nil_iff]
  intro part member
  obtain ⟨option, _, parts⟩ := mem_flatMap.mp member
  obtain ⟨field, _, rfl⟩ := mem_map.mp parts
  rfl

theorem supported_limit (pagination : Option Pagination) :
    ∀ token ∈ limitTokens pagination,
      token.Supported listing functions := by
  cases pagination with
  | none => exact forall_mem_nil _
  | some pagination => simp [limitTokens, Token.Supported]

/-- Accepted options, whose comparison functions are constants of the code, add
as many placeholders as parameters, in the same order, and no names but those of
the listing.  Options that differ from them only in filter values, with the same
ones empty and the same ones with a star, are accepted as well and give the same
statement. -/
theorem text_independent_of_values (unicode : Go.Unicode)
    (converter : SQLConverter) (listing : Listing) (functions : List String)
    (plain : ∀ name ∈ functions, '?' ∉ name.toList) (options checked : ListOptions)
    (constants : ∀ filter ∈ options.filters, filter.compareFunc ∈ functions)
    (validated : listing.validate unicode options = .ok checked)
    (q : String) (params : List String) :
    Parametrized listing functions unicode converter checked q params ∧
      ∀ other, options.SameShape other → ∃ checked', listing.validate unicode other = .ok checked' ∧
          (appendOptionsToQuery unicode converter checked' q params).1 =
            (appendOptionsToQuery unicode converter checked q params).1 := by
  have accepted := accepted_of_validate validated
  have fields : ∀ token ∈ fieldTokens checked.fields,
      token.Supported listing functions := supported_fields accepted
  have added : ∀ token ∈ addedTokens unicode converter checked q,
      token.Supported listing functions := by
    intro token member
    rcases mem_append.mp member with inWhere | inOrder
    · exact supported_where accepted constants token inWhere
    · exact supported_order accepted token inOrder
  obtain ⟨selected, shape, built⟩ := appendOptionsToQuery_eq unicode converter checked q params
  refine ⟨⟨⟨selected, shape, built⟩, ?_, ?_⟩, ?_⟩
  · intro token member
    rcases mem_append.mp member with front | inLimit
    · rcases mem_append.mp front with inFields | inAdded
      · exact fields token inFields
      · exact added token inAdded
    · exact supported_limit checked.pagination token inLimit
  · have base : placeholders selected = placeholders q +
        (parameters (addedTokens unicode converter checked q)).length := by
      rw [← placeholders_render added plain, ← placeholders_append]
      rcases shape with rfl | inserted
      · rfl
      · apply placeholders_inserted inserted
        rw [placeholders_render fields plain, parameters_fields]
        rfl
    have limits : ∀ token ∈ limitTokens checked.pagination, token.Supported listing functions :=
      supported_limit checked.pagination
    rw [built, placeholders_append, base, placeholders_render limits plain,
      parameters_append, length_append, length_append]
    omega
  · intro other same
    obtain ⟨checked', validated', alike⟩ := validate_ok_of_sameShape same validated
    refine ⟨checked', validated', ?_⟩
    simp only [appendOptionsToQuery, addWhere_eq, render_where,
      addLimitOffset_eq, alike.sorts, alike.fields, alike.pagination, clauseTexts_eq alike.filters]

def auditLogListing : Listing where
  sorts := auditLogSorts
  filters := auditLogFilters
  fields := none
  pagination := some ⟨100, 10⟩
  plainSorts := by decide
  plainFilters := by decide
  plainFields := by
    rintro supported ⟨⟩

def multiJobListing : Listing where
  sorts := multiJobSupportedSorts
  filters := multiJobSupportedFilters
  fields := none
  pagination := some ⟨1000, 100⟩
  plainSorts := by decide
  plainFilters := by decide
  plainFields := by
    rintro supported ⟨⟩

def jobListing : Listing where
  sorts := jobSupportedSorts
  filters := jobSupportedFilters
  fields := some jobSupportedFields
  pagination := some ⟨1000, 100⟩
  plainSorts := by decide
  plainFilters := by decide
  plainFields := by
    rintro supported ⟨⟩
    decide

def jobSearch : ListOptions where
  sorts := [⟨"status", false⟩]
  filters := [{ column := ["jid", "created_by"], values := ["A*", ""] },
    { column := ["started_at"], operator := "gt", values := ["2026-01-01"] }]
  fields := [⟨"jobs", ["jid", "status"]⟩]
  pagination := some ⟨"", "0", 0, 0⟩

theorem text_independent_of_values_jobSearch :
    ∃ checked, jobListing.validate .ascii jobSearch = .ok checked ∧
      Parametrized jobListing [""] .ascii ⟨"sqlite3"⟩ checked "SELECT * FROM jobs" [] := by
  obtain ⟨checked, validated⟩ : ∃ checked, jobListing.validate .ascii jobSearch = .ok checked := by
    exact ⟨_, rfl⟩
  exact ⟨checked, validated, (text_independent_of_values .ascii ⟨"sqlite3"⟩
    jobListing [""] (by decide) jobSearch checked (by decide) validated "SELECT * FROM jobs" []).1⟩

end ProxiPort.Query
