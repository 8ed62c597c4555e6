import ProxiPort.Query.Listings
import ProxiPort.Users.Service

/-!
# What a restricted listing returns

The value the server imposes on a listing goes through the same conversion as
the filters of a request, so a star in it is a wildcard.
-/

namespace ProxiPort.Query

open List

/-- The value has no star, or it ends in an odd number of backslashes. -/
def TakenLiterally (value : String) : Prop :=
  '*' ∉ value.toList ∨
    (value.toList.reverse.takeWhile (· = '\\')).length % 2 = 1

instance (value : String) : Decidable (TakenLiterally value) :=
  inferInstanceAs (Decidable ('*' ∉ value.toList ∨
    (value.toList.reverse.takeWhile (· = '\\')).length % 2 = 1))

variable {server : Server} {engine : Engine} {unicode : Go.Unicode}
  {column value : String} {row : Row}

theorem condition_imposed (given : value ≠ "") :
    condition unicode (imposedFilter column value) column value =
      if '*' ∈ value.toList then .like column (likePattern unicode value)
      else .compare "" column "=" value := by
  have equality : operatorCode "" = "=" := rfl
  by_cases star : '*' ∈ value.toList
  · simp [condition, given, equality, contains_star, star, imposedFilter]
  · have plain : Go.contains value "*" = false :=
      eq_false_of_ne_true fun found => star ((contains_star value).mp found)
    simp [condition, given, equality, plain, star, imposedFilter]

theorem tokens_likePattern_eq_none_iff (unicode : Go.Unicode) (value : String) :
    Like.tokens '\\' (likePattern unicode value).toList = none ↔
      (value.toList.reverse.takeWhile (· = '\\')).length % 2 = 1 := by
  rw [Like.tokens_eq_none_iff, unfinished_likePattern, Like.unfinished_iff]

theorem value_of_holds (given : value ≠ "") (literal : TakenLiterally value)
    (holds : (condition unicode (imposedFilter column value) column
      value).holds engine row = true) :
    row.value column = some value := by
  rw [condition_imposed given] at holds
  split at holds
  · rename_i star
    have unfinished : Like.tokens '\\' (likePattern unicode value).toList =
        none :=
      (tokens_likePattern_eq_none_iff unicode value).mpr
        (literal.resolve_left fun absent => absent star)
    simp only [Condition.holds, Like.like, unfinished, Option.any_none, Option.any_eq_true] at holds
    obtain ⟨text, -, impossible⟩ := holds
    cases impossible
  · simpa [Condition.holds, compares] using holds

theorem toLower_toLower (character : Char) : character.toLower.toLower = character.toLower := by
  unfold Char.toLower
  grind [UInt32.toNat_add]

theorem exists_other_holds (given : value ≠ "") (searched : ¬ TakenLiterally value) :
    ∃ text, text ≠ value ∧ ∀ row, row.value column = some text →
      (condition unicode (imposedFilter column value) column value).holds engine row = true := by
  rw [TakenLiterally, not_or, not_not] at searched
  obtain ⟨star, finished⟩ := searched
  rw [← tokens_likePattern_eq_none_iff unicode] at finished
  obtain ⟨parts, split⟩ := Option.ne_none_iff_exists'.mp finished
  -- stars become percent signs, so a sample of the pattern has none
  refine ⟨String.ofList (Like.sample parts), ?_, ?_⟩
  · rintro rfl
    rw [String.toList_ofList] at star
    exact star_not_mem_likePattern _ (Like.mem_of_mem_sample split star)
  · intro row found
    rw [condition_imposed given, if_pos star]
    simp only [Condition.holds, found, Option.any_some, Like.like, split, String.toList_ofList]
    exact Like.accepts_sample toLower_toLower parts

theorem mem_impose (options : ListOptions) (column value : String) :
    imposedFilter column value ∈ (options.impose column value).filters :=
  mem_append_right _ mem_cons_self

theorem sortedBy_filters (options : ListOptions) (sorts : List SortOption) :
    (options.sortedBy sorts).filters = options.filters := by
  unfold ListOptions.sortedBy
  split <;> rfl

def firstPage (limit : String) (count : Int) : Option Pagination := some ⟨limit, "0", count, 0⟩

theorem data_imposed {sorts : List SortOption} {fields : List FieldsOption}
    {limit : String} {count : Int} (read : Go.atoi limit = some count) (positive : 0 < count)
    (holds : (condition server.unicode (imposedFilter column value) column
      value).holds server.engine row = true) :
    (server.payload ⟨sorts, [imposedFilter column value], fields, firstPage limit count⟩
      [row]).data = [row] := by
  have only : clause server.unicode [imposedFilter column value] =
      [[condition server.unicode (imposedFilter column value) column value]] := rfl
  have passes : satisfies server.engine
      (clause server.unicode [imposedFilter column value]) row = true := by
    simp [only, satisfies, holds]
  have zero : Go.atoi "0" = some 0 := by decide
  have some_rows : ¬ count < 0 := by omega
  have fits : [row].length ≤ count.toNat := by
    rw [length_singleton]
    omega
  simp only [Server.payload, answer, filter_cons, passes, if_true,
    filter_nil, page, firstPage, read, zero, Option.getD_some,
    Int.toNat_zero, drop_zero, if_neg some_rows,
    insertionSort_cons, insertionSort_nil, List.orderedInsert]
  exact take_of_length_le fits

theorem mem_of_mapM_ok {Element Result Error : Type}
    {change : Element → Except Error Result} {elements : List Element}
    {results : List Result} (mapped : elements.mapM change = .ok results)
    {element : Element} (member : element ∈ elements) {result : Result}
    (changed : change element = .ok result) : result ∈ results := by
  induction elements generalizing results with
  | nil => simp at member
  | cons first rest induction =>
    rw [mapM_cons] at mapped
    cases head : change first with
    | error err =>
      rw [head] at mapped
      cases mapped
    | ok firstResult =>
      cases tail : rest.mapM change with
      | error err =>
        rw [head, tail] at mapped
        cases mapped
      | ok restResults =>
        rw [head, tail] at mapped
        cases mapped
        rcases mem_cons.mp member with rfl | inside
        · rw [head] at changed
          cases changed
          exact mem_cons_self
        · exact mem_cons_of_mem _ (induction tail inside)

variable {user : User}

theorem mem_listOptionsFor {query : Values} {options : ListOptions}
    (ordinary : user.isAdmin = false) (accepted : listOptionsFor server query user = .ok options) :
    imposedFilter "username" user.username ∈ options.filters := by
  unfold listOptionsFor at accepted
  simp only [ordinary, true_and] at accepted
  split at accepted
  · cases accepted
  · split at accepted
    · cases accepted
    · rename_i checked validated
      split at accepted
      · cases accepted
      · rename_i filters normalized
        cases accepted
        have kept : imposedFilter "username" user.username ∈ checked.filters := by
          rw [filters_of_validateListOptions validated]
          exact mem_map.mpr ⟨_, mem_impose _ _ _, rfl⟩
        exact mem_of_mapM_ok normalized kept rfl

theorem auditLogList_of_empty_query (rows : List Row)
    (enabled : server.enableAuditLog = true) (ordinary : user.isAdmin = false) :
    auditLogList server rows [] user = .ok (server.payload
      ⟨[], [imposedFilter "username" user.username], [], firstPage "10" 10⟩
      rows) := by
  unfold auditLogList listOptionsFor
  rw [enabled, ordinary]
  rfl

theorem handleGetMultiClientCommands_of_empty_query (rows : List Row)
    (ordinary : user.isAdmin = false) :
    handleGetMultiClientCommands server rows [] user = .ok (server.payload
      ⟨[⟨"DATETIME(started_at)", false⟩, ⟨"jid", true⟩],
        [imposedFilter "created_by" user.username], [],
        firstPage "100" 100⟩ rows) := by
  unfold handleGetMultiClientCommands
  rw [ordinary]
  rfl

theorem handleGetCommands_of_empty_query {clientID : String}
    (rows : List Row) (given : clientID ≠ "") :
    handleGetCommands server rows [] clientID = .ok (server.payload
      ⟨[⟨"DATETIME(finished_at)", false⟩, ⟨"jid", true⟩], [imposedFilter "client_id" clientID],
        parseFieldsOptions jobListDefaultFields,
        firstPage "100" 100⟩ rows) := by
  unfold handleGetCommands
  rw [if_neg given]
  rfl

theorem exists_foreign_row (given : value ≠ "") (searched : ¬ TakenLiterally value) :
    ∃ row, row.value column ≠ some value ∧
      (condition server.unicode (imposedFilter column value) column
        value).holds server.engine row = true := by
  obtain ⟨text, different, passes⟩ := exists_other_holds given searched
  have stored : Row.value [(column, some text)] column = some text := by
    simp [Row.value]
  refine ⟨[(column, some text)], ?_, passes _ stored⟩
  rw [stored]
  simpa using different

/-- A listing that always imposes the value, and that imposes nothing else on
an empty query, is exact for the values that are taken literally. -/
theorem exact_iff_takenLiterally
    {list : List Row → Values → Except Refusal Payload} (given : value ≠ "")
    (imposes : ∀ rows query payload, list rows query = .ok payload → ∃ options,
        imposedFilter column value ∈ options.filters ∧ payload = server.payload options rows)
    (bare : ∃ sorts fields limit count, Go.atoi limit = some count ∧
      0 < count ∧ ∀ rows, list rows [] = .ok (server.payload
        ⟨sorts, [imposedFilter column value], fields, firstPage limit count⟩ rows)) :
    (∀ rows query payload, list rows query = .ok payload →
      ∀ row ∈ payload.data, row.value column = some value) ↔
      TakenLiterally value := by
  constructor
  · intro exact
    obtain ⟨sorts, fields, limit, count, read, positive, listed⟩ := bare
    by_contra searched
    obtain ⟨row, foreign, passes⟩ := @exists_foreign_row server column value given searched
    apply foreign
    apply exact [row] [] _ (listed [row])
    rw [data_imposed read positive passes]
    exact mem_singleton_self row
  · intro literal rows query payload listed row member
    obtain ⟨options, imposed, rfl⟩ := imposes rows query payload listed
    obtain ⟨part, only, holds⟩ := holds_of_mem_answer member imposed nofun
    rw [mem_singleton.mp only] at holds
    exact value_of_holds given literal holds

section

variable {user : User} {clientID : String}

theorem auditLogList_imposes (ordinary : user.isAdmin = false)
    (rows : List Row) (query : Values) (payload : Payload)
    (listed : auditLogList server rows query user = .ok payload) :
    ∃ options, imposedFilter "username" user.username ∈ options.filters ∧
        payload = server.payload options rows := by
  unfold auditLogList at listed
  split at listed
  · cases listed
  · split at listed
    · cases listed
    · rename_i options accepted
      cases listed
      exact ⟨options, mem_listOptionsFor ordinary accepted, rfl⟩

theorem handleGetMultiClientCommands_imposes
    (ordinary : user.isAdmin = false) (rows : List Row) (query : Values) (payload : Payload)
    (listed : handleGetMultiClientCommands server rows query user = .ok payload) :
    ∃ options, imposedFilter "created_by" user.username ∈ options.filters ∧
        payload = server.payload options rows := by
  unfold handleGetMultiClientCommands at listed
  split at listed
  · cases listed
  · rw [ordinary] at listed
    cases listed
    refine ⟨_, ?_, rfl⟩
    rw [sortedBy_filters]
    exact mem_impose _ _ _

theorem handleGetCommands_imposes (rows : List Row) (query : Values) (payload : Payload)
    (listed : handleGetCommands server rows query clientID = .ok payload) :
    ∃ options, imposedFilter "client_id" clientID ∈ options.filters ∧
        payload = server.payload options rows := by
  unfold handleGetCommands at listed
  split at listed
  · cases listed
  · split at listed
    · cases listed
    · cases listed
      refine ⟨_, ?_, rfl⟩
      rw [sortedBy_filters]
      exact mem_impose _ _ _

theorem auditLogList_exact_iff (present : user.username ≠ "") (ordinary : user.isAdmin = false) :
    (∀ rows query payload, auditLogList server rows query user = .ok payload →
      ∀ row ∈ payload.data, row.value "username" = some user.username) ↔
      (server.enableAuditLog = true → TakenLiterally user.username) := by
  by_cases enabled : server.enableAuditLog = true
  · have ten : Go.atoi "10" = some 10 := by decide
    rw [exact_iff_takenLiterally present (auditLogList_imposes ordinary)
      ⟨_, _, _, _, ten, by decide, fun rows =>
        auditLogList_of_empty_query rows enabled ordinary⟩]
    exact ⟨fun literal _ => literal, fun literal => literal enabled⟩
  · have off : server.enableAuditLog = false := eq_false_of_ne_true enabled
    constructor
    · intro _ on
      exact absurd on enabled
    · intro _ rows query payload listed
      unfold auditLogList at listed
      rw [if_pos off] at listed
      cases listed

theorem handleGetMultiClientCommands_exact_iff
    (present : user.username ≠ "") (ordinary : user.isAdmin = false) :
    (∀ rows query payload, handleGetMultiClientCommands server rows query user = .ok payload →
      ∀ row ∈ payload.data, row.value "created_by" = some user.username) ↔
      TakenLiterally user.username := by
  have hundred : Go.atoi "100" = some 100 := by decide
  apply exact_iff_takenLiterally present (handleGetMultiClientCommands_imposes ordinary)
  exact ⟨_, _, _, _, hundred, by decide, fun rows =>
    handleGetMultiClientCommands_of_empty_query rows ordinary⟩

theorem handleGetCommands_exact_iff :
    (∀ rows query payload,
      handleGetCommands server rows query clientID = .ok payload →
      ∀ row ∈ payload.data, row.value "client_id" = some clientID) ↔
      TakenLiterally clientID := by
  by_cases given : clientID = ""
  · subst given
    -- Without a client id the handler refuses every request.
    have literal : TakenLiterally "" := by decide
    refine ⟨fun _ => literal, ?_⟩
    intro _ rows query payload listed
    unfold handleGetCommands at listed
    cases listed
  · have hundred : Go.atoi "100" = some 100 := by decide
    apply exact_iff_takenLiterally given handleGetCommands_imposes
    exact ⟨_, _, _, _, hundred, by decide, fun rows =>
      handleGetCommands_of_empty_query rows given⟩

end

/-- For every user name the user service accepts and every client id, a
restricted listing returns only rows of its own value, whatever is stored and
whatever is asked for, if and only if the value is taken literally (or the
audit log is off and returns nothing). -/
theorem restrictions_exact_iff {server : Server} {service : APIService}
    {created user : User} (accepted : service.validate created "" = [])
    (named : user.username = created.username)
    (ordinary : user.isAdmin = false) {clientID : String} :
    ((∀ rows query payload, auditLogList server rows query user = .ok payload →
      ∀ row ∈ payload.data, row.value "username" = some user.username) ↔
      (server.enableAuditLog = true → TakenLiterally user.username)) ∧
    ((∀ rows query payload, handleGetMultiClientCommands server rows query user = .ok payload →
      ∀ row ∈ payload.data, row.value "created_by" = some user.username) ↔
      TakenLiterally user.username) ∧
    ((∀ rows query payload, handleGetCommands server rows query clientID = .ok payload →
      ∀ row ∈ payload.data, row.value "client_id" = some clientID) ↔
      TakenLiterally clientID) := by
  have present : user.username ≠ "" := by
    rw [named]
    exact APIService.username_ne_of_validate accepted
  exact ⟨auditLogList_exact_iff present ordinary,
    handleGetMultiClientCommands_exact_iff present ordinary, handleGetCommands_exact_iff⟩

def plainServer : Server :=
  { unicode := .ascii
    engine := ⟨fun _ _ _ _ => false, fun _ _ _ => true⟩
    enableAuditLog := true
    utcTimestamp := fun _ => none }

def ordinaryUser (username : String) : User :=
  { username := username
    password := "correct horse"
    passwordExpired := none
    groups := some ["operators"]
    twoFASendTo := ""
    totP := "" }

theorem restrictions_exact_iff_ada :
    (∀ rows query payload,
      auditLogList plainServer rows query (ordinaryUser "ada") = .ok payload →
      ∀ row ∈ payload.data, row.value "username" = some "ada") ∧
    ¬ ∀ rows query payload, handleGetCommands plainServer rows query "srv*" = .ok payload →
      ∀ row ∈ payload.data, row.value "client_id" = some "srv*" := by
  have exactness := @restrictions_exact_iff plainServer .plain
    (ordinaryUser "ada") (ordinaryUser "ada") (by decide) rfl (by decide) "srv*"
  refine ⟨exactness.1.mpr fun _ => by decide, ?_⟩
  rw [exactness.2.2]
  decide

/-- The user service accepts the name `a*`, and the listings of that user show
what alice has done; the jobs of the client `srv*` are those of `srv1`. -/
theorem restriction_matches_others :
    APIService.plain.validate (ordinaryUser "a*") "" = [] ∧
    (ordinaryUser "a*").isAdmin = false ∧
    auditLogList plainServer [[("username", some "alice")]] [] (ordinaryUser "a*") =
      .ok ⟨[[("username", some "alice")]], 1⟩ ∧
    handleGetMultiClientCommands plainServer
        [[("created_by", some "alice")]] [] (ordinaryUser "a*") =
      .ok ⟨[[("created_by", some "alice")]], 1⟩ ∧
    handleGetCommands plainServer [[("client_id", some "srv1")]] [] "srv*" =
      .ok ⟨[[("client_id", some "srv1")]], 1⟩ := by
  refine ⟨by decide, by decide, by rfl, by rfl, by rfl⟩

end ProxiPort.Query
