import ProxiPort.Query.Comparison

/-!
# Filters in memory and in SQL

The schedule list splits its filters: some go into the WHERE clause, the others
to `MatchesFilters`.  Here both are given the same filters with the default
operator and a row of ASCII texts.  They agree where the texts and values are
compared alike, where no filter is empty and where AND could as well be OR.
-/

namespace ProxiPort.Query

open List

structure EqualityFilter where
  column : List String
  values : List String
  valuesLogicalOperator : Option LogicalOperator := none
  deriving DecidableEq, Repr

def EqualityFilter.option (filter : EqualityFilter) : FilterOption :=
  { column := filter.column
    values := filter.values
    valuesLogicalOperator := filter.valuesLogicalOperator }

def EqualityFilter.Enough (filter : EqualityFilter) (count : Nat) : Prop :=
  filter.valuesLogicalOperator = some .and ∧ count = filter.values.length ∨
    filter.valuesLogicalOperator ≠ some .and ∧ 0 < count

abbrev TextRow := List (String × String)

namespace TextRow

def fields (row : TextRow) : Fields := row.map fun entry => (entry.1, [entry.2])

def columns (row : TextRow) : Row := row.map fun entry => (entry.1, some entry.2)

def AcceptedInMemory (matcher : Matcher) (row : TextRow) (filters : List EqualityFilter) : Prop :=
  matchesFilters matcher row.fields (filters.map EqualityFilter.option) = .ok true

end TextRow

def Condition.column : Condition → String
  | .compare _ column _ _ | .compareOrNull _ column _ _ | .like column _ =>
    column

/-- The row satisfies the WHERE clause; a statement with a column that the row
does not have is an error. -/
def TextRow.AcceptedInSQL (engine : Engine) (unicode : Go.Unicode)
    (row : TextRow) (filters : List EqualityFilter) : Prop :=
  (∀ parts ∈ clause unicode (filters.map EqualityFilter.option),
    ∀ part ∈ parts, row.lookup part.column ≠ none) ∧
  satisfies engine (clause unicode (filters.map EqualityFilter.option)) row.columns = true

section

variable (engine : Engine) (unicode : Go.Unicode) (matcher : Matcher)
  (row : TextRow)

def EqualityFilter.Finds (filter : EqualityFilter) (value : String) : Prop :=
  ∃ column ∈ filter.column, (condition unicode filter.option column value).holds engine
      row.columns = true

def EqualityFilter.Known (filter : EqualityFilter) : Prop :=
  ∀ column ∈ filter.column, row.lookup column ≠ none

def EqualityFilter.Compared (filter : EqualityFilter) : Prop :=
  ∀ column ∈ filter.column, ∀ text, row.lookup column = some text →
    ∀ value ∈ filter.values, ComparedAlike matcher text value

structure EqualityFilter.Counted (filter : EqualityFilter) : Prop where
  present : filter.column ≠ [] ∧ filter.values ≠ [] ∨
    filter.valuesLogicalOperator = some .and ∧ filter.values = []
  unanimous : filter.valuesLogicalOperator = some .and →
    (∀ value ∈ filter.values, ¬ filter.Finds engine unicode row value) ∨
    filter.values.Nodup ∧ ∀ value ∈ filter.values, filter.Finds engine unicode row value

structure EqualityFilter.SameMeaning (filter : EqualityFilter) : Prop where
  known : filter.Known row
  compared : filter.Compared matcher row
  counted : filter.Counted engine unicode row

def TextRow.Named (filters : List EqualityFilter) : Prop :=
  ∀ filter ∈ filters, filter.values ≠ [] → filter.Known row

/-- The matcher and the database decide alike about the row. -/
def TextRow.Agrees (filters : List EqualityFilter) : Prop :=
  row.AcceptedInMemory matcher filters ↔
    row.AcceptedInSQL engine unicode filters

/-- Texts and values for which SQL is specified. -/
structure TextRow.AllAscii (filters : List EqualityFilter) : Prop where
  texts : ∀ entry ∈ row, Ascii entry.2
  values : ∀ filter ∈ filters, ∀ value ∈ filter.values, Ascii value

end

section

variable {engine : Engine} {unicode : Go.Unicode} {matcher : Matcher}
  {row : TextRow} {filter : EqualityFilter} {filters : List EqualityFilter}

theorem TextRow.lookup_fields (column : String) :
    row.fields.lookup column = (row.lookup column).map ([·]) := by
  unfold TextRow.fields
  induction row with
  | nil => rfl
  | cons entry row induction =>
    rw [map_cons, lookup_cons, lookup_cons, induction]
    split <;> rfl

theorem TextRow.value_columns (column : String) : row.columns.value column = row.lookup column := by
  unfold TextRow.columns Row.value
  induction row with
  | nil => rfl
  | cons entry row induction =>
    rw [map_cons, lookup_cons, lookup_cons]
    split
    · rfl
    · exact induction

variable {options : List FilterOption}

theorem matchesFilters_eq_true_iff {fields : Fields} :
    matchesFilters matcher fields options = .ok true ↔
      ∀ option ∈ options, matchesFilter matcher option fields = .ok true := by
  induction options with
  | nil => simp [matchesFilters]
  | cons option options induction =>
    rw [forall_mem_cons, ← induction, matchesFilters]
    cases verdict : matchesFilter matcher option fields with
    | error error => simp
    | ok accepted => cases accepted <;> simp

theorem satisfies_clause_iff {columns : Row} :
    satisfies engine (clause unicode options) columns = true ↔
      ∀ option ∈ options, orParts unicode option = [] ∨
        ∃ column ∈ option.column, ∃ value ∈ option.values,
          (condition unicode option column value).holds engine columns =
            true := by
  simp only [satisfies, clause, all_eq_true, mem_filter, mem_map, decide_eq_true_eq, any_eq_true]
  constructor
  · intro all option member
    by_cases absent : orParts unicode option = []
    · exact .inl absent
    · obtain ⟨part, inside, holds⟩ := all _ ⟨⟨option, member, rfl⟩, absent⟩
      obtain ⟨column, named, given⟩ := mem_flatMap.mp inside
      obtain ⟨value, sought, rfl⟩ := mem_map.mp given
      exact .inr ⟨column, named, value, sought, holds⟩
  · rintro all parts ⟨⟨option, member, rfl⟩, contributes⟩
    rcases all option member with absent | ⟨column, named, value, sought, holds⟩
    · exact absurd absent contributes
    · exact ⟨_, mem_flatMap.mpr ⟨column, named, mem_map_of_mem sought⟩, holds⟩

variable {option : FilterOption}

theorem orParts_eq_nil_iff :
    orParts unicode option = [] ↔ option.column = [] ∨ option.values = [] := by
  unfold orParts
  rw [flatMap_eq_nil_iff]
  cases option.column with
  | nil => simp
  | cons column columns => simp +contextual

theorem column_condition {column value : String} :
    (condition unicode option column value).column = column := by
  unfold condition
  dsimp only
  split
  · rfl
  · split <;> rfl

theorem TextRow.named_iff :
    row.Named filters ↔
      ∀ parts ∈ clause unicode (filters.map EqualityFilter.option),
        ∀ part ∈ parts, row.lookup part.column ≠ none := by
  constructor
  · intro named parts member part inside
    obtain ⟨member, -⟩ := mem_filter.mp member
    obtain ⟨option, imposed, rfl⟩ := mem_map.mp member
    obtain ⟨filter, given, rfl⟩ := mem_map.mp imposed
    obtain ⟨column, mentioned, searched⟩ := mem_flatMap.mp inside
    obtain ⟨value, sought, rfl⟩ := mem_map.mp searched
    rw [column_condition]
    exact named filter given (ne_nil_of_mem sought) column mentioned
  · intro known filter given valued column mentioned
    obtain ⟨value, sought⟩ := exists_mem_of_ne_nil _ valued
    have inside : condition unicode filter.option column value ∈ orParts unicode filter.option :=
      mem_flatMap.mpr ⟨column, mentioned, mem_map_of_mem sought⟩
    have contributes : orParts unicode filter.option ∈
        clause unicode (filters.map EqualityFilter.option) :=
      mem_filter.mpr ⟨mem_map_of_mem (mem_map_of_mem given), by simpa using ne_nil_of_mem inside⟩
    have present := known _ contributes _ inside
    rwa [column_condition] at present

theorem matchesFilter_text (matcher : Matcher) (known : filter.Known row) :
    ∃ matched : List String, matched.Nodup ∧ (∀ value, value ∈ matched ↔ value ∈ filter.values ∧
        ∃ column ∈ filter.column, ∃ text, row.lookup column = some text ∧
          matchesValue matcher "" text value = true) ∧
      (matchesFilter matcher filter.option row.fields = .ok true ↔
        filter.Enough matched.length) := by
  have start : Matched matcher filter.option [] [] := Matched.nil
  rcases matchColumns_spec row.fields filter.column start with
    ⟨column, mentioned, missing, -⟩ | ⟨-, matched, done, distinct, found⟩
  · rw [TextRow.lookup_fields, Option.map_eq_none_iff] at missing
    exact absurd missing (known column mentioned)
  · have decided : matchColumns matcher filter.option row.fields
        filter.option.column [] = .ok matched := done
    refine ⟨matched, distinct, ?_, ?_⟩
    · intro value
      rw [found]
      refine and_congr_right fun _ => ?_
      simp only [nil_append, mem_flatMap, TextRow.lookup_fields]
      constructor
      · rintro ⟨text, ⟨column, mentioned, inside⟩, matches'⟩
        cases stored : row.lookup column with
        | none => simp [stored] at inside
        | some other =>
          simp only [stored, Option.map_some, Option.getD_some, mem_singleton] at inside
          exact ⟨column, mentioned, other, stored, inside ▸ matches'⟩
      · rintro ⟨column, mentioned, text, stored, matches'⟩
        exact ⟨text, ⟨column, mentioned, by simp [stored]⟩, matches'⟩
    · rw [matchesFilter, decided]
      by_cases both : filter.valuesLogicalOperator = some .and
      · simp [EqualityFilter.option, EqualityFilter.Enough, both]
      · dsimp only
        split
        · rename_i conjunction
          exact absurd conjunction both
        · simp [EqualityFilter.Enough, both]

theorem EqualityFilter.Compared.finds_iff
    (compared : filter.Compared matcher row) (known : filter.Known row)
    (texts : ∀ entry ∈ row, Ascii entry.2) {value : String}
    (sought : value ∈ filter.values) (ascii : Ascii value) :
    filter.Finds engine unicode row value ↔
      ∃ column ∈ filter.column, ∃ text, row.lookup column = some text ∧
        matchesValue matcher "" text value = true := by
  refine exists_congr fun column => and_congr_right fun mentioned => ?_
  obtain ⟨text, stored⟩ := Option.ne_none_iff_exists'.mp (known column mentioned)
  obtain ⟨before, after, split, -⟩ := lookup_eq_some_iff.mp stored
  have agree := matchesValue_eq_holds engine unicode ((TextRow.value_columns column).trans stored)
    (compared column mentioned text stored value sought) ascii
    (texts (column, text) (split ▸ mem_append_cons_self))
  constructor
  · intro holds
    exact ⟨text, stored, agree.trans holds⟩
  · rintro ⟨other, found, matched⟩
    rw [stored, Option.some.injEq] at found
    subst found
    exact agree.symm.trans matched

theorem counted_iff {matched : List String} (distinct : matched.Nodup)
    (matched_iff : ∀ value, value ∈ matched ↔
      value ∈ filter.values ∧ filter.Finds engine unicode row value) :
    (filter.Enough matched.length ↔ orParts unicode filter.option = [] ∨
        ∃ value ∈ filter.values, filter.Finds engine unicode row value) ↔
    filter.Counted engine unicode row := by
  have some_matched := Marks.length_pos_iff matched_iff
  have all_matched := Marks.length_eq_iff matched_iff distinct
  have empty : orParts unicode filter.option = [] ↔
      filter.column = [] ∨ filter.values = [] := orParts_eq_nil_iff
  have unfound (absent : filter.column = [] ∨ filter.values = []) : matched.length = 0 := by
    rw [length_eq_zero_iff, eq_nil_iff_forall_not_mem]
    intro value member
    obtain ⟨sought, column, mentioned, -⟩ := (matched_iff value).mp member
    rcases absent with absent | absent
    · simp [absent] at mentioned
    · simp [absent] at sought
  constructor
  · intro agrees
    constructor
    · by_contra missing
      rw [not_or, not_and_or, not_not, not_not] at missing
      rcases agrees.mpr (.inl (empty.mpr missing.1)) with
        ⟨both, counted⟩ | ⟨-, counted⟩
      · rw [unfound missing.1] at counted
        exact missing.2 ⟨both, length_eq_zero_iff.mp counted.symm⟩
      · rw [unfound missing.1] at counted
        exact absurd counted (Nat.lt_irrefl 0)
    · intro both
      by_cases found : ∃ value ∈ filter.values, filter.Finds engine unicode row value
      · right
        rcases agrees.mpr (.inr found) with ⟨-, counted⟩ | ⟨either, -⟩
        · exact all_matched.mp counted
        · exact absurd both either
      · left
        intro value sought finds
        exact found ⟨value, sought, finds⟩
  · intro counted
    by_cases both : filter.valuesLogicalOperator = some .and
    · rw [EqualityFilter.Enough, or_iff_left (fun wrong => wrong.1 both), and_iff_right both]
      by_cases valued : filter.values = []
      · exact iff_of_true (by rw [unfound (.inr valued), valued]; rfl)
          (.inl (empty.mpr (.inr valued)))
      · have contributes : orParts unicode filter.option ≠ [] := by
          rw [ne_eq, empty, not_or]
          exact counted.present.resolve_right fun none => valued none.2
        rw [or_iff_right contributes]
        rcases counted.unanimous both with lacking | ⟨once, finds⟩
        · refine iff_of_false ?_ fun ⟨value, sought, finds⟩ =>
            lacking value sought finds
          intro counted
          have some_value := length_pos_iff.mpr valued
          obtain ⟨value, sought, finds⟩ := some_matched.mp (counted ▸ some_value)
          exact lacking value sought finds
        · obtain ⟨value, sought⟩ := exists_mem_of_ne_nil _ valued
          exact iff_of_true (all_matched.mpr ⟨once, finds⟩) ⟨value, sought, finds value sought⟩
    · have present : filter.column ≠ [] ∧ filter.values ≠ [] :=
        counted.present.resolve_right fun none => both none.1
      have contributes : orParts unicode filter.option ≠ [] := by
        rwa [ne_eq, empty, not_or]
      rw [EqualityFilter.Enough, or_iff_right fun wrong => both wrong.1,
        and_iff_right both, or_iff_right contributes]
      exact some_matched

theorem EqualityFilter.Compared.matchesFilter_iff
    (compared : filter.Compared matcher row) (known : filter.Known row)
    (texts : ∀ entry ∈ row, Ascii entry.2) (values : ∀ value ∈ filter.values, Ascii value) :
    (matchesFilter matcher filter.option row.fields = .ok true ↔
      orParts unicode filter.option = [] ∨
        ∃ value ∈ filter.values, filter.Finds engine unicode row value) ↔
    filter.Counted engine unicode row := by
  obtain ⟨matched, distinct, found, decided⟩ := matchesFilter_text matcher known
  rw [decided]
  apply counted_iff distinct
  intro value
  rw [found]
  refine and_congr_right fun sought => ?_
  exact (compared.finds_iff known texts sought (values value sought)).symm

theorem TextRow.acceptedInMemory_iff :
    row.AcceptedInMemory matcher filters ↔ ∀ filter ∈ filters,
      matchesFilter matcher filter.option row.fields = .ok true := by
  rw [AcceptedInMemory, matchesFilters_eq_true_iff, forall_mem_map]

theorem TextRow.acceptedInSQL_iff :
    row.AcceptedInSQL engine unicode filters ↔ row.Named filters ∧
      ∀ filter ∈ filters, orParts unicode filter.option = [] ∨
        ∃ value ∈ filter.values, filter.Finds engine unicode row value := by
  rw [AcceptedInSQL, ← named_iff, satisfies_clause_iff, forall_mem_map]
  refine and_congr_right fun _ => ?_
  refine forall_congr' fun filter => forall_congr' fun _ => ?_
  refine or_congr Iff.rfl ?_
  simp only [EqualityFilter.Finds]
  grind [EqualityFilter.option]

theorem known_of_matchesFilter
    (accepted : matchesFilter matcher filter.option row.fields = .ok true) : filter.Known row := by
  have start : Matched matcher filter.option [] [] := Matched.nil
  rcases matchColumns_spec row.fields filter.option.column start with
    ⟨column, -, -, failed⟩ | ⟨known, -⟩
  · rw [matchesFilter, failed] at accepted
    cases accepted
  · intro column mentioned missing
    apply known column mentioned
    rw [TextRow.lookup_fields, missing, Option.map_none]

theorem TextRow.agrees_of_sameMeaning (ascii : row.AllAscii filters)
    (same : row.Named filters → ∀ filter ∈ filters, filter.SameMeaning engine unicode matcher row) :
    row.Agrees engine unicode matcher filters := by
  rw [Agrees, acceptedInMemory_iff, acceptedInSQL_iff]
  by_cases named : row.Named filters
  · rw [and_iff_right named]
    refine forall_congr' fun filter => forall_congr' fun member => ?_
    obtain ⟨known, compared, counted⟩ := same named filter member
    exact (compared.matchesFilter_iff known ascii.texts (ascii.values filter member)).mpr counted
  · refine iff_of_false ?_ fun accepted => named accepted.1
    intro accepted
    apply named
    intro filter member _
    exact known_of_matchesFilter (accepted filter member)

theorem TextRow.agrees_singleton_iff (ascii : row.AllAscii [filter])
    (known : filter.Known row) (compared : filter.Compared matcher row) :
    row.Agrees engine unicode matcher [filter] ↔ filter.Counted engine unicode row := by
  have named : row.Named [filter] := by
    intro other member _
    rwa [mem_singleton.mp member]
  rw [Agrees, acceptedInMemory_iff, acceptedInSQL_iff, and_iff_right named,
    forall_mem_singleton, forall_mem_singleton]
  exact compared.matchesFilter_iff known ascii.texts (ascii.values filter mem_cons_self)

theorem TextRow.agrees_comparison_iff {column text value : String}
    (stored : row.lookup column = some text) (plain : '*' ∉ value.toList) :
    row.Agrees engine unicode matcher [{ column := [column], values := [value] }] ↔
      ComparedAlike matcher text value := by
  have known : EqualityFilter.Known row
      { column := [column], values := [value] } := by
    intro other member
    rw [mem_singleton.mp member, stored]
    exact Option.some_ne_none text
  have named : row.Named [{ column := [column], values := [value] }] := by
    intro other member _
    rwa [mem_singleton.mp member]
  obtain ⟨matched, -, found, decided⟩ := matchesFilter_text matcher known
  have inMemory : EqualityFilter.Enough
      { column := [column], values := [value] } matched.length ↔
        matchesValue matcher "" text value = true := by
    simp [EqualityFilter.Enough, length_pos_iff_exists_mem, found, stored]
  have inSQL : (orParts unicode (EqualityFilter.option
        { column := [column], values := [value] }) = [] ∨
      ∃ sought ∈ [value], EqualityFilter.Finds engine unicode row
        { column := [column], values := [value] } sought) ↔
        value = text := by
    rw [orParts_eq_nil_iff]
    simp only [EqualityFilter.option, EqualityFilter.Finds,
      mem_singleton, exists_eq_left, cons_ne_nil, or_self, false_or]
    exact holds_plain ((value_columns column).trans stored) plain
  rw [Agrees, acceptedInMemory_iff, acceptedInSQL_iff, and_iff_right named,
    forall_mem_singleton, forall_mem_singleton, decided, inMemory, inSQL]
  exact matchesValue_eq_iff plain

end

theorem fold_plain (character : Char) (_ : character.toNat < 128) :
    Char.toLower character = character.toLower :=
  rfl

def plainMatcher : Matcher where
  dates :=
    { rfc3339 := fun _ => none
      date := fun _ => none
      rfc3339_star := fun _ _ => rfl
      date_star := fun _ _ => rfl }
  regexp :=
    { folding :=
        { fold := Char.toLower
          fold_ascii := fold_plain }
      other := fun _ => none }

def textEngine : Engine where
  compare := fun _ _ _ _ => false
  precedes := fun _ _ _ => true

def scheduleRow : TextRow := [("name", "Nightly backup"), ("type", "command")]

def scheduleFilters : List EqualityFilter :=
  [{ column := ["name", "type"], values := ["night*", "script"] },
    { column := ["type"], values := ["command"],
      valuesLogicalOperator := some .and }]

theorem scheduleRow_compared {text value : String}
    (listed : text = "Nightly backup" ∨ text = "command")
    (sought : value = "night*" ∨ value = "script" ∨ value = "command") :
    ComparedAlike plainMatcher text value := by
  constructor
  · exact fun _ => rfl
  · rcases listed with rfl | rfl <;> rcases sought with rfl | rfl | rfl <;>
      decide +kernel
  · intro star
    constructor
    · apply exists_readAlike
      rcases sought with rfl | rfl | rfl <;> simp [Go.Regexp.isMeta]
    · rcases listed with rfl | rfl <;> decide +kernel

end ProxiPort.Query
