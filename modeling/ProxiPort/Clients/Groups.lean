import ProxiPort.Foundation.Glob
import ProxiPort.Foundation.Marks
import ProxiPort.Go.Filepath
import ProxiPort.Go.Unicode

/-!
# Client groups

The conditions of the client groups of `server/cgroups/group.go`: parameters
with wildcards, and tags with an operator.
-/

namespace ProxiPort.Clients

open Go List

/-- `cgroups.ClientParams`.  A pointer that is nil is `none`. -/
structure ClientParams where
  clientID : Option (List String)
  name : Option (List String)
  os : Option (List String)
  osArch : Option (List String)
  osFamily : Option (List String)
  osKernel : Option (List String)
  hostname : Option (List String)
  ipv4 : Option (List String)
  ipv6 : Option (List String)
  tag : Option (List UInt8)
  version : Option (List String)
  address : Option (List String)
  clientAuthID : Option (List String)
  connectionState : Option (List String)
  deriving DecidableEq

/-- `cgroups.ClientGroup`, as far as access depends on it. -/
structure ClientGroup where
  params : Option ClientParams
  allowedUserGroups : List String

/-- What the conditions take from the standard library: the Unicode tables, and
`json.Unmarshal` into a `map[string][]string` and into a `[]string`, which
refuses an empty text. -/
structure Texts where
  unicode : Unicode
  unmarshalMap : List UInt8 → Option (List (String × List String))
  unmarshalList : List UInt8 → Option (List String)
  unmarshalMap_nil : unmarshalMap [] = none
  unmarshalList_nil : unmarshalList [] = none

variable (texts : Texts)

def matchesParam (param value : String) : Bool :=
  let str := (toLower texts.unicode param).toList
  let value := (toLower texts.unicode value).toList
  if str.contains '*' then
    let parts := splitCharacters '*' str
    (parts.headD []).isPrefixOf value && (parts.getLastD []).isSuffixOf value &&
      (Glob.cutAll parts value).isSome
  else str = value

def matchesOneOf (params : Option (List String)) (values : List String) :
    Bool :=
  match params with
  | none => true
  | some params => params = [] && values = [] ||
      params.any fun param => values.any (matchesParam texts param)

def parseTag (tag : List UInt8) : Option (String × List String) :=
  match texts.unmarshalMap tag with
  | some [(operator, operands)] =>
    if (toLower texts.unicode operator = "and" ∨
        toLower texts.unicode operator = "or") ∧ operands ≠ [] then
      some (operator, operands)
    else none
  | _ =>
    match texts.unmarshalList tag with
    | none | some [] => none
    | some listPattern => some ("or", listPattern)

/-- The operands that match one of the values: the keys of the map that the loops
of `MatchesRawTags` fill. -/
def assignedOperands (operands values : List String) : List String :=
  values.foldl (fun assigned value =>
    operands.foldl (fun assigned operand =>
      if operand ∈ assigned then assigned
      else if matchesParam texts operand value then operand :: assigned
      else assigned) assigned) []

def matchesRawTags (tag : Option (List UInt8)) (values : List String) : Bool :=
  match tag with
  | none => true
  | some tag => tag = [] && values = [] ||
      match parseTag texts tag with
      | none => false
      | some (operator, operands) =>
        let assigned := assignedOperands texts operands values
        match operator with
        | "and" => assigned.length = operands.length
        | "or" => 0 < assigned.length
        | _ => false

/-- The text is the pattern with some text in place of each star. -/
def IsGlob : List Char → List Char → Prop
  | [], text => text = []
  | character :: pattern, text =>
    if character = '*' then
      ∃ filler rest, text = filler ++ rest ∧ IsGlob pattern rest
    else ∃ rest, text = character :: rest ∧ IsGlob pattern rest

theorem isGlob_self (pattern : List Char) : IsGlob pattern pattern := by
  induction pattern with
  | nil => rfl
  | cons character pattern induction =>
    rw [IsGlob]
    split
    · exact ⟨[character], pattern, rfl, induction⟩
    · exact ⟨pattern, rfl, induction⟩

theorem isGlob_iff_spaced {pattern text : List Char} :
    IsGlob pattern text ↔ Glob.Spaced (splitCharacters '*' pattern) text := by
  induction pattern generalizing text with
  | nil => rfl
  | cons character pattern induction =>
    obtain ⟨first, others, parts⟩ := exists_cons_of_ne_nil (splitCharacters_ne_nil '*' pattern)
    simp only [IsGlob, splitCharacters, induction, parts]
    split
    · simp [Glob.Spaced]
    · cases others with
      | nil => simp [Glob.Spaced]
      | cons second others =>
        simp only [Glob.Spaced]
        constructor
        · rintro ⟨_, rfl, gap, rest, rfl, spaced⟩
          exact ⟨gap, rest, rfl, spaced⟩
        · rintro ⟨gap, rest, rfl, spaced⟩
          exact ⟨_, rfl, gap, rest, rfl, spaced⟩

variable {texts}

theorem matchesParam_iff {param value : String} :
    matchesParam texts param value = true ↔
      IsGlob (toLower texts.unicode param).toList (toLower texts.unicode value).toList := by
  rw [isGlob_iff_spaced]
  unfold matchesParam
  generalize (toLower texts.unicode param).toList = str
  generalize (toLower texts.unicode value).toList = value
  by_cases star : '*' ∈ str
  · obtain ⟨first, rest, rfl, absent⟩ := eq_append_cons_of_mem star
    simp only [elem_eq_mem, star, decide_true, if_true, splitCharacters_append absent,
      Glob.spaced_iff (splitCharacters_ne_nil '*' rest)]
    simp [and_assoc]
  · rw [splitCharacters_of_not_mem star]
    simp [Glob.Spaced, star, eq_comm]

/-- A parameter matches the texts that it becomes when its stars are filled in,
upper and lower case aside; a list of parameters matches as one of them does. -/
theorem matches_is_glob (texts : Texts) :
    (∀ param value, matchesParam texts param value = true ↔
      IsGlob (toLower texts.unicode param).toList (toLower texts.unicode value).toList) ∧
    ∀ first params values, matchesOneOf texts (some (first :: params)) values = true ↔
        ∃ param ∈ first :: params, ∃ value ∈ values, matchesParam texts param value = true := by
  refine ⟨fun param value => matchesParam_iff, fun first params values => ?_⟩
  simp [matchesOneOf]

/-- What an operator says of the operands: with `and`, in any spelling, all of
them match one of the tags, otherwise one of them does. -/
def TagsMean (texts : Texts) (operator : String) (operands values : List String) :
    Prop :=
  if toLower texts.unicode operator = "and" then
    ∀ operand ∈ operands, ∃ value ∈ values, matchesParam texts operand value
  else ∃ operand ∈ operands, ∃ value ∈ values, matchesParam texts operand value

variable {tag : List UInt8} {operator : String} {operands : List String}

theorem parseTag_spec (accepted : parseTag texts tag = some (operator, operands)) :
    tag ≠ [] ∧ operands ≠ [] := by
  unfold parseTag at accepted
  constructor
  · rintro rfl
    simp [texts.unmarshalMap_nil, texts.unmarshalList_nil] at accepted
  · rintro rfl
    split at accepted
    · grind
    · split at accepted <;> grind

theorem toLower_operators (unicode : Unicode) :
    toLower unicode "and" = "and" ∧ toLower unicode "or" = "or" := by
  have ascii {character : Char} (small : character.toNat < 128) :=
    unicode.toLower_ascii character small
  simp [toLower, ascii]

/-- The condition holds as it means, if the operator is spelled in lower case
and no operand of an `and` is repeated; it never holds otherwise. -/
theorem matchesRawTags_iff (accepted : parseTag texts tag = some (operator, operands))
    (values : List String) :
    matchesRawTags texts (some tag) values = true ↔
      (operator = "or" ∨ operator = "and" ∧ operands.Nodup) ∧
        TagsMean texts operator operands values := by
  have assigned : Marks.Marked
      (fun value operand => matchesParam texts operand value) operands values
      (assignedOperands texts operands values) := Marks.Marked.nil.foldl values
  obtain ⟨lowerAnd, lowerOr⟩ := toLower_operators texts.unicode
  simp only [matchesRawTags, (parseTag_spec accepted).1, accepted,
    decide_false, Bool.false_and, Bool.false_or, TagsMean]
  split
  · simpa [lowerAnd] using Marks.length_eq_iff assigned.2 assigned.1
  · simpa [lowerOr] using Marks.length_pos_iff assigned.2
  · rename_i notAnd notOr
    refine iff_of_false Bool.false_ne_true ?_
    rintro ⟨same | ⟨same, -⟩, -⟩
    · exact notOr same
    · exact notAnd same

/-- A tag condition that is accepted decides about all lists of tags as it says
exactly when its operator is spelled in lower case and an `and` repeats no
operand; where that fails, it refuses the lists that meet it. -/
theorem tag_condition_iff (texts : Texts) (tag : List UInt8) (operator : String)
    (operands : List String) (accepted : parseTag texts tag = some (operator, operands)) :
    (∀ values, ((matchesRawTags texts (some tag) values = true ↔
        TagsMean texts operator operands values) ↔
      (operator = "or" ∨ operator = "and" ∧ operands.Nodup) ∨
        ¬TagsMean texts operator operands values)) ∧
    ((∀ values, matchesRawTags texts (some tag) values = true ↔
        TagsMean texts operator operands values) ↔
      operator = "or" ∨ operator = "and" ∧ operands.Nodup) := by
  have meant : TagsMean texts operator operands operands := by
    have matched (operand : String) : matchesParam texts operand operand :=
      matchesParam_iff.mpr (isGlob_self _)
    obtain ⟨operand, member⟩ := exists_mem_of_ne_nil _ (parseTag_spec accepted).2
    unfold TagsMean
    split
    · exact fun operand member => ⟨operand, member, matched operand⟩
    · exact ⟨operand, member, operand, member, matched operand⟩
  simp only [matchesRawTags_iff accepted]
  refine ⟨fun values => ?_, fun agrees => ?_, fun written values => ?_⟩
  · rw [and_iff_right_iff_imp, imp_iff_or_not]
  · exact ((agrees operands).mpr meant).1
  · exact and_iff_right written

def spelledTexts : Texts where
  unicode := .ascii
  unmarshalMap := fun tag =>
    if tag = [1] then some [("AND", ["db"])]
    else if tag = [2] then some [("and", ["db", "db"])]
    else none
  unmarshalList := fun _ => none
  unmarshalMap_nil := rfl
  unmarshalList_nil := rfl

theorem tag_condition_refused :
    parseTag spelledTexts [1] = some ("AND", ["db"]) ∧
    parseTag spelledTexts [2] = some ("and", ["db", "db"]) ∧
    matchesRawTags spelledTexts (some [1]) ["db"] = false ∧
    matchesRawTags spelledTexts (some [2]) ["db"] = false ∧
    TagsMean spelledTexts "AND" ["db"] ["db"] ∧
    TagsMean spelledTexts "and" ["db", "db"] ["db"] := by
  have same : matchesParam spelledTexts "db" "db" = true := by decide
  refine ⟨by decide, by decide, by decide, by decide, ?_, ?_⟩
  all_goals simp [TagsMean, same]

theorem tag_condition_iff_spelled :
    parseTag spelledTexts [1] = some ("AND", ["db"]) ∧
    ¬∀ values, matchesRawTags spelledTexts (some [1]) values = true ↔
      TagsMean spelledTexts "AND" ["db"] values := by
  have accepted : parseTag spelledTexts [1] = some ("AND", ["db"]) := by decide
  refine ⟨accepted, fun agrees => ?_⟩
  have written := (tag_condition_iff _ _ _ _ accepted).2.mp agrees
  simp at written

end ProxiPort.Clients
