import ProxiPort.Go.Unicode
import ProxiPort.Users.User
import Mathlib.Data.List.Sort

/-!
# List options

`share/query`: how the query string of a listing request is read into filters,
sorts, fields and a page, and how these are checked against what the listing
supports.  Query values are a list of keys with their values, in the order in
which the code happens to iterate over them.
-/

namespace ProxiPort.Query

abbrev Values := List (String × List String)

def Values.get (values : Values) (key : String) : List String := (values.lookup key).getD []

structure SortOption where
  column : String
  isASC : Bool
  deriving DecidableEq, Repr

inductive LogicalOperator where
  | or
  | and
  deriving DecidableEq, Repr

structure FilterOption where
  column : List String
  operator : String := ""
  values : List String
  valuesLogicalOperator : Option LogicalOperator := none
  compareFunc : String := ""
  deriving DecidableEq, Repr

structure FieldsOption where
  resource : String
  fields : List String
  deriving DecidableEq, Repr

structure Pagination where
  limit : String
  offset : String
  validatedLimit : Int
  validatedOffset : Int
  deriving DecidableEq, Repr

structure PaginationConfig where
  maxLimit : Int
  defaultLimit : Int

structure ListOptions where
  sorts : List SortOption
  filters : List FilterOption
  fields : List FieldsOption
  pagination : Option Pagination
  deriving DecidableEq, Repr

/-- The class `\w` of a regular expression. -/
def isWord (character : Char) : Bool := character.isAlphanum || character = '_'

/-- The class and a closing bracket after it, and the text after that. -/
def bracketed (allowed : Char → Bool) (text : List Char) : Option (List Char × List Char) :=
  match text.span allowed with
  | ([], _) => none
  | (name, ']' :: rest) => some (name, rest)
  | _ => none

/-- `filterRegex`: the columns and the operator of a filter key. -/
def matchFilterKey (key : String) : Option (String × String) :=
  match "filter[".toList.isPrefixOf key.toList with
  | false => none
  | true =>
    match bracketed (fun character => isWord character ||
        character = '|' || character = '*') (key.toList.drop 7) with
    | none => none
    | some (columns, rest) =>
      match rest with
      | '[' :: rest =>
        match bracketed isWord rest with
        | some (operator, _) =>
          some (String.ofList columns, String.ofList operator)
        | none => some (String.ofList columns, "")
      | _ => some (String.ofList columns, "")

def matchFieldsKey (key : String) : Option String :=
  match "fields[".toList.isPrefixOf key.toList with
  | false => none
  | true =>
    (bracketed isWord (key.toList.drop 7)).map fun found =>
      String.ofList found.1

/-- The text before the last closing parenthesis of the first line. -/
def beforeLastParenthesis (text : List Char) : List Char :=
  ((text.takeWhile (· ≠ '\n')).reverse.dropWhile (· ≠ ')')).tail.reverse

/-- `valuesLogicalOpsblock`. -/
def matchLogicalOperator (value : String) : Option (LogicalOperator × String) :=
  let block := fun (operator : LogicalOperator) (start : String) =>
    match start.toList.isPrefixOf value.toList,
        beforeLastParenthesis (value.toList.drop start.length) with
    | true, inside@(_ :: _) => some (operator, String.ofList inside)
    | _, _ => none
  (block .and "and(").or (block .or "or(")

def getFilterValues (values : List String) : List String × Option LogicalOperator :=
  values.foldl (fun (found, operator) value =>
    let value := Go.trimSpace value
    let (operator, value) :=
      match matchLogicalOperator value with
      | some (operator, inside) => (some operator, inside)
      | none => (operator, value)
    (found ++ (Go.split value ',').map Go.trimSpace, operator)) ([], none)

def getOrValues (values : List String) : List String :=
  values.flatMap fun value => Go.split (Go.trimSpace value) ','

def parseSortOptions (values : Values) : List SortOption :=
  (values.get "sort").filterMap fun sort =>
    let sort := Go.trimSpace sort
    if sort = "" then none
    else if Go.hasPrefix sort "-" then
      some ⟨String.ofList (sort.toList.dropWhile (· = '-')), false⟩
    else some ⟨sort, true⟩

def parseFilterOptions (values : Values) : List FilterOption :=
  values.filterMap fun (filterKey, filterValues) =>
    if Go.hasPrefix filterKey "filter" = false ∨ filterValues = [] then none
    else
      match getFilterValues filterValues with
      | ([], _) => none
      | (operands, logicalOperator) =>
        match matchFilterKey filterKey with
        | none => none
        | some (filterColumn, filterOperator) =>
          let filterColumn := Go.trimSpace filterColumn
          if filterColumn = "" then none
          else some
            { column := Go.split filterColumn '|'
              operator := Go.trimSpace filterOperator
              values := operands
              valuesLogicalOperator := logicalOperator }

def parseFieldsOptions (values : Values) : List FieldsOption :=
  values.filterMap fun (fieldsKey, fieldsValues) =>
    if Go.hasPrefix fieldsKey "fields" = false ∨ fieldsValues = [] then none
    else
      match matchFieldsKey fieldsKey with
      | none => none
      | some fieldsResource =>
        let fieldsResource := Go.trimSpace fieldsResource
        if fieldsResource = "" then none
        else some ⟨fieldsResource, getOrValues fieldsValues⟩

def parsePagination (values : Values) : Pagination :=
  { limit := (values.get "page[limit]").headD ""
    offset := (values.get "page[offset]").headD "0"
    validatedLimit := 0
    validatedOffset := 0 }

/-- `NewOptions`; the defaults stand in for what the query leaves out. -/
def newOptions (query sortsDefault filtersDefault fieldsDefault : Values) :
    ListOptions :=
  let orDefault {Kind : Type} (parse : Values → List Kind) (default : Values) : List Kind :=
    match parse query with
    | [] => parse default
    | found => found
  { sorts := orDefault parseSortOptions sortsDefault
    filters := orDefault parseFilterOptions filtersDefault
    fields := orDefault parseFieldsOptions fieldsDefault
    pagination := some (parsePagination query) }

def getListOptions (query : Values) : ListOptions := newOptions query [] [] []

def badRequest (message : String) : APIError := ⟨message, "", 400⟩

namespace FilterOption

def text (filter : FilterOption) : String :=
  "filter[" ++ Go.join filter.column "|" ++ "]" ++
    if filter.operator = "" then "" else "[" ++ filter.operator ++ "]"

def isSupported (filter : FilterOption) (supportedFields : List String) :
    Bool :=
  filter.column.all fun column =>
    (filter.operator = "" && supportedFields.contains column) ||
      supportedFields.contains (column ++ "[" ++ filter.operator ++ "]")

def setWildcardColumns (filter : FilterOption) (supportedFields : List String) : FilterOption :=
  { filter with column := (supportedFields.filter fun field =>
      !Go.contains field "[").insertionSort (· ≤ ·) }

/-- One round of `ValidateFilterOptions`. -/
def validate (filter : FilterOption) (supportedFields : List String) :
    FilterOption × List APIError :=
  let check := fun checked : FilterOption =>
    (checked,
      if checked.isSupported supportedFields then []
      else [badRequest ("unsupported filter field '" ++ checked.text ++ "'")])
  if filter.column = ["*"] then
    let expanded := filter.setWildcardColumns supportedFields
    if expanded.column = [] then
      (expanded, [badRequest "unsupported filter field 'filter[*]'"])
    else check expanded
  else check filter

end FilterOption

def validateSortOptions (sorts : List SortOption) (supportedFields : List String) : List APIError :=
  (sorts.filter fun sort => !supportedFields.contains sort.column).map
    fun sort => badRequest ("unsupported sort field '" ++ sort.column ++ "'")

def validateFilterOptions (filters : List FilterOption)
    (supportedFields : List String) : List FilterOption × List APIError :=
  ((filters.map fun filter => (filter.validate supportedFields).1),
    filters.flatMap fun filter => (filter.validate supportedFields).2)

section

variable (unicode : Go.Unicode)

def validateFieldsOptions (fieldOptions : List FieldsOption)
    (supportedFields : Values) : List APIError :=
  fieldOptions.flatMap fun option =>
    match supportedFields.lookup option.resource with
    | none => [badRequest ("unsupported resource in fields: " ++ Go.quote unicode option.resource)]
    | some supported =>
      (option.fields.filter fun field => !supported.contains field).map
        fun field => badRequest ("unsupported field " ++
          Go.quote unicode field ++ " for resource " ++
          Go.quote unicode option.resource)

def atoiError (text : String) : String :=
  let digits :=
    match text.toList with
    | '-' :: digits | '+' :: digits => digits
    | digits => digits
  "strconv.Atoi: parsing " ++ Go.quote unicode text ++
    if (Go.digitsValue digits).isSome then ": value out of range"
    else ": invalid syntax"

def limitErrors (config : PaginationConfig) (text : String) : List APIError :=
  match Go.atoi text with
  | none => [⟨"pagination limit must be a number", atoiError unicode text, 400⟩]
  | some limit =>
    (if config.maxLimit < limit then
      [badRequest ("pagination limit too big (" ++ text ++
        ") maximum is " ++ toString config.maxLimit)] else []) ++
    if limit ≤ 0 then [badRequest "pagination limit must be positive"]
    else []

def offsetErrors (text : String) : List APIError :=
  match Go.atoi text with
  | none => [⟨"pagination offset must be a number", atoiError unicode text, 400⟩]
  | some offset =>
    if offset < 0 then [badRequest "pagination offset must not be negative"]
    else []

/-- `ValidatePagination`; a limit that was not given is the default. -/
def validatePagination (pagination : Pagination)
    (config : PaginationConfig) : Pagination × List APIError :=
  let limit :=
    if pagination.limit = "" then toString config.defaultLimit
    else pagination.limit
  ({ pagination with
      limit := limit
      validatedLimit := (Go.atoi limit).getD 0
      validatedOffset := (Go.atoi pagination.offset).getD 0 },
    limitErrors unicode config limit ++ offsetErrors unicode pagination.offset)

/-- `ValidateListOptions`: the options as they are used from then on, or all
errors. -/
def validateListOptions (options : ListOptions) (supportedSorts supportedFilters : List String)
    (supportedFields : Option Values) (paginationConfig : Option PaginationConfig) :
    Except (List APIError) ListOptions :=
  let sortErrs := validateSortOptions options.sorts supportedSorts
  let (filters, filterErrs) := validateFilterOptions options.filters supportedFilters
  let (fields, fieldErrs) :=
    match supportedFields with
    | some supported =>
      (options.fields, validateFieldsOptions unicode options.fields supported)
    | none => ([], [])
  let (pagination, paginationErrs) :=
    match paginationConfig, options.pagination with
    | some config, some pagination =>
      let (checked, errs) := validatePagination unicode pagination config
      (some checked, errs)
    | some _, none => (none, [])
    | none, _ => (none, [])
  match sortErrs ++ filterErrs ++ fieldErrs ++ paginationErrs with
  | [] => .ok
      { sorts := options.sorts
        filters := filters
        fields := fields
        pagination := pagination }
  | errs => .error errs

end

theorem filters_of_validateListOptions {unicode : Go.Unicode} {options checked : ListOptions}
    {supportedSorts supportedFilters : List String} {supportedFields : Option Values}
    {paginationConfig : Option PaginationConfig}
    (validated : validateListOptions unicode options supportedSorts
      supportedFilters supportedFields paginationConfig = .ok checked) :
    checked.filters = options.filters.map fun filter =>
      (filter.validate supportedFilters).1 := by
  unfold validateListOptions at validated
  dsimp only at validated
  split at validated
  · cases validated
    rfl
  · cases validated

end ProxiPort.Query
