import ProxiPort.Foundation.Marks
import ProxiPort.Go.Regexp
import ProxiPort.Go.Time
import ProxiPort.Query.Options

/-!
# Filters in memory

`share/query/matches_filter.go`.  A value is given by its fields, each with the
texts it is matched by: one for a plain field, one for every element of an
array and for every entry of a map.  What `time.Parse` accepts is a parameter,
but for texts with a star, which neither layout allows.
-/

namespace ProxiPort.Query

/-- `time.Parse` with the layouts `time.RFC3339` and `2006-01-02`. -/
structure Dates where
  rfc3339 : String → Option Time
  date : String → Option Time
  rfc3339_star : ∀ text, '*' ∈ text.toList → rfc3339 text = none
  date_star : ∀ text, '*' ∈ text.toList → date text = none

structure Matcher where
  dates : Dates
  regexp : Go.Regexp.Engine

abbrev Fields := List (String × List String)

def day : Int := 24 * 60 * minute

def Dates.filterDate (dates : Dates) (filterValue : String) : Option Time :=
  match dates.rfc3339 filterValue with
  | some time => some time
  | none => dates.date filterValue

/-- `MatchIfDate`; there is no answer where it returns an error. -/
def matchIfDate (dates : Dates) (dateValue filterValue operator : String) : Option Bool :=
  match dates.filterDate filterValue with
  | none => none
  | some filterDate =>
    match dates.rfc3339 dateValue with
    | none => none
    | some date =>
      if operator = "gt" then some (filterDate < date)
      else if operator = "lt" ∧ date < filterDate then some true
      else if operator = "eq" then
        if date < filterDate then some false
        else some (!decide (filterDate + (day - 1) < date))
      else some false

/-- The expression that a value with wildcards becomes. -/
def wildcardExpression (filterValue : String) : String :=
  "(?i)^" ++ Go.replaceAll filterValue '*' ".*?" ++ "$"

def matchesValue (matcher : Matcher) (operator text filterValue : String) :
    Bool :=
  match matchIfDate matcher.dates text filterValue operator with
  | some answer => answer
  | none =>
    if Go.contains filterValue "*" then
      match matcher.regexp.compile (wildcardExpression filterValue) with
      | none => Go.equalFold matcher.regexp.folding filterValue text
      | some matchString => matchString text
    else Go.equalFold matcher.regexp.folding filterValue text

section

variable (matcher : Matcher) (filter : FilterOption)

/-- The innermost loop; a value stays matched. -/
def matchValues (text : String) (matched : List String) : List String :=
  filter.values.foldl (fun matched filterValue =>
    if filterValue ∈ matched then matched
    else if matchesValue matcher filter.operator text filterValue then
      filterValue :: matched
    else matched) matched

def matchColumns (fields : Fields) : List String → List String → Except String (List String)
  | [], matched => .ok matched
  | column :: columns, matched =>
    match fields.lookup column with
    | none => .error ("unsupported filter column: " ++ column)
    | some texts => matchColumns fields columns (texts.foldl
        (fun matched text => matchValues matcher filter text matched) matched)

def matchesFilter (fields : Fields) : Except String Bool :=
  match matchColumns matcher filter fields filter.column [] with
  | .error error => .error error
  | .ok matched =>
    match filter.valuesLogicalOperator with
    | some .and => .ok (matched.length = filter.values.length)
    | _ => .ok (0 < matched.length)

end

def matchesFilters (matcher : Matcher) (fields : Fields) : List FilterOption → Except String Bool
  | [] => .ok true
  | filter :: filters =>
    match matchesFilter matcher filter fields with
    | .error error => .error error
    | .ok false => .ok false
    | .ok true => matchesFilters matcher fields filters

section

variable {matcher : Matcher} {filter : FilterOption}

def Matched (matcher : Matcher) (filter : FilterOption) (texts : List String)
    (matched : List String) : Prop :=
  matched.Nodup ∧ ∀ filterValue, filterValue ∈ matched ↔
    filterValue ∈ filter.values ∧ ∃ text ∈ texts,
      matchesValue matcher filter.operator text filterValue = true

theorem Matched.nil : Matched matcher filter [] [] := Marks.Marked.nil

variable {texts matched : List String}

theorem Matched.foldl (sound : Matched matcher filter texts matched) (others : List String) :
    Matched matcher filter (texts ++ others) (others.foldl (fun matched text =>
        matchValues matcher filter text matched) matched) :=
  Marks.Marked.foldl sound others

theorem matchColumns_spec (fields : Fields) (columns : List String)
    (sound : Matched matcher filter texts matched) :
    (∃ column ∈ columns, fields.lookup column = none ∧
      matchColumns matcher filter fields columns matched =
        .error ("unsupported filter column: " ++ column)) ∨
    (∀ column ∈ columns, fields.lookup column ≠ none) ∧
      ∃ after, matchColumns matcher filter fields columns matched = .ok after ∧
        Matched matcher filter (texts ++ columns.flatMap fun column =>
          (fields.lookup column).getD []) after := by
  induction columns generalizing texts matched with
  | nil => exact .inr ⟨by simp, matched, rfl, by simpa using sound⟩
  | cons column columns induction =>
    cases found : fields.lookup column with
    | none =>
      exact .inl ⟨column, by simp, found, by simp [matchColumns, found]⟩
    | some others =>
      rcases induction (sound.foldl others) with
        ⟨missing, inside, absent, failed⟩ | ⟨present, after, done, later⟩
      · refine .inl ⟨missing, List.mem_cons_of_mem _ inside, absent, ?_⟩
        simpa [matchColumns, found] using failed
      · refine .inr ⟨?_, after, ?_, ?_⟩
        · intro other member
          rcases List.mem_cons.mp member with rfl | inside
          · simp [found]
          · exact present other inside
        · simpa [matchColumns, found] using done
        · simpa [found] using later

end

end ProxiPort.Query
