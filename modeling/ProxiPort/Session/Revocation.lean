import ProxiPort.Session.Origins

/-!
# Deleted sessions stay deleted

A request that has read a session writes it back into the cache whether or not
the session still exists, so a deletion between the two is undone.  A deletion
is final in runs in which the cache is written only with sessions that are
still in the table and that no deletion on its way to the table is about to
remove, and in which an update never hits the row of another session.
-/

namespace ProxiPort.Session

open Concurrency List Keyed

/-- A deletion that has already passed the cache will remove the session's
row. -/
def Thread.overtakes (value : Tracked) : Thread → Bool
  | .uncache username _ _ target | .unstore username _ target =>
    decide (username = value.session.username) && target.covers value.session.sessionID
  | _ => false

/-- Sessions are written back only while they exist. -/
def WritesLive (config : Config Store Thread) : Thread → Choice → Prop
  | .update value _, _ =>
    ∀ row ∈ config.shared.rows, row.session.sessionID = value.session.sessionID →
      row.origin = value.origin
  | .cacheSet value _, _ =>
    (∃ row ∈ config.shared.rows, row.origin = value.origin) ∧
      ∀ thread ∈ config.threads, thread.overtakes value = false
  | _, _ => True

instance (config : Config Store Thread) (thread : Thread)
    (choice : Choice) : Decidable (WritesLive config thread choice) := by
  unfold WritesLive
  split <;> infer_instance

namespace Store

def Rowless (store : Store) (origin : Nat) : Prop := ∀ row ∈ store.rows, row.origin ≠ origin

structure Gone (store : Store) (origin : Nat) : Prop where
  inserted : origin < store.created.length
  rowless : store.Rowless origin
  hidden : ∀ item ∈ store.cache, item.live store.clock = true → item.object.origin ≠ origin

theorem Gone.not_visible {store : Store} {value : Tracked}
    (gone : store.Gone value.origin) : ¬ store.Visible value := by
  rintro (stored | ⟨item, cached, live, rfl⟩)
  · exact gone.rowless value stored rfl
  · exact gone.hidden item cached live rfl

end Store

def Thread.Clears (store : Store) : Thread → Prop
  | .deleteCached sessionID removed =>
    ∀ origin ∈ removed, store.Rowless origin ∧ ∃ inserted, store.created[origin]? = some inserted ∧
        inserted.sessionID = sessionID
  | .uncache username keys removed target =>
    (∀ origin ∈ removed, store.Gone origin) ∧ ∀ item ∈ store.cache, item.live store.clock = true →
        item.object.session.username = username →
        target.covers item.key = true → item.key ∈ keys
  | .unstore username removed target =>
    (∀ origin ∈ removed, store.Gone origin) ∧ ∀ item ∈ store.cache, item.live store.clock = true →
        item.object.session.username = username →
        target.covers item.key = false
  | _ => True

def DeletionsFinal (history : List Output) : Prop := history.Pairwise fun earlier later =>
    ∀ origin, earlier = .deleted origin → later ≠ .lookedUp origin

structure Revoked (history : List Output) (config : Config Store Thread) :
    Prop where
  registered : Registered config
  clears : ∀ thread ∈ config.threads, thread.Clears config.shared
  gone : ∀ origin, .deleted origin ∈ history → config.shared.Gone origin
  final : DeletionsFinal history

theorem initial_revoked (clock : Time) : Revoked [] (initial clock) := by
  refine ⟨initial_registered clock, ?_, ?_, List.Pairwise.nil⟩ <;>
    simp [initial]

/-- The store may lose rows and cached items, and it may add insertions and
sessions it still has. -/
structure Store.Settles (store next : Store) : Prop where
  grows : store.Grows next
  rowless : ∀ {origin}, origin < store.created.length → store.Rowless origin → next.Rowless origin
  hidden : ∀ {origin}, store.Gone origin → ∀ item ∈ next.cache, item.live next.clock = true →
      item.object.origin ≠ origin

variable {store next : Store}

theorem Store.Grows.length_le (grows : store.Grows next) :
    store.created.length ≤ next.created.length := by
  apply Nat.le_of_not_lt
  intro shorter
  have found := List.getElem?_eq_getElem shorter
  have later := (List.getElem?_eq_some_iff.mp (grows _ _ found)).1
  exact Nat.lt_irrefl _ later

theorem Store.Settles.gone (settles : store.Settles next) {origin : Nat}
    (gone : store.Gone origin) : next.Gone origin :=
  ⟨Nat.lt_of_lt_of_le gone.inserted settles.grows.length_le,
    settles.rowless gone.inserted gone.rowless, settles.hidden gone⟩

variable {config : Config Store Thread} {shown : List Output} {thread : Thread}
  {after : Thread} {choice : Choice}

theorem Stepped.settles {next : Store} (live : WritesLive config thread choice)
    (stepped : Stepped config.shared thread next after shown) : config.shared.Settles next := by
  have grows := stepped.grows
  cases stepped with
  | added =>
    refine ⟨grows, ?_, fun gone => gone.hidden⟩
    intro origin inserted rowless
    exact forall_mem_concat rowless (Nat.ne_of_gt inserted)
  | updated =>
    refine ⟨grows, ?_, fun gone => gone.hidden⟩
    intro origin _ rowless row found
    obtain ⟨before, old, rfl⟩ := mem_map.mp found
    split
    · rename_i same
      rw [← live before old same]
      exact rowless before old
    · exact rowless before old
  | cached =>
    refine ⟨grows, fun _ rowless => rowless, ?_⟩
    intro origin gone item found showing
    rcases mem_put.mp found with rfl | ⟨old, -⟩
    · obtain ⟨row, stored, same⟩ := live.1
      rw [← same]
      exact gone.rowless row stored
    · exact gone.hidden item old showing
  | deletedRow | unstored | expired =>
    refine ⟨grows, ?_, fun gone => gone.hidden⟩
    intro origin _ rowless row found
    exact rowless row (mem_of_mem_filter found)
  | deletedCached | uncachedOne | uncached =>
    refine ⟨grows, fun _ rowless => rowless, ?_⟩
    intro origin gone item found
    exact gone.hidden item (mem_remove.mp found).1
  | _ => exact ⟨grows, fun _ rowless => rowless, fun gone => gone.hidden⟩

theorem Stepped.item_after (stepped : Stepped store thread next after shown)
    {item : Item} (found : item ∈ next.cache) (showing : item.live next.clock = true) :
    (item ∈ store.cache ∧ item.live store.clock = true) ∨
      ∃ after, thread = .cacheSet item.object after := by
  cases stepped with
  | cached =>
    rcases mem_put.mp found with rfl | ⟨old, -⟩
    · exact .inr ⟨_, rfl⟩
    · exact .inl ⟨old, showing⟩
  | deletedCached | uncachedOne | uncached =>
    exact .inl ⟨(mem_remove.mp found).1, showing⟩
  | _ => exact .inl ⟨found, showing⟩

theorem Stepped.clears_other {next : Store} {other : Thread}
    (live : WritesLive config thread choice)
    (stepped : Stepped config.shared thread next after shown)
    (member : other ∈ config.threads) (clears : other.Clears config.shared) :
    other.Clears next := by
  have settles := stepped.settles live
  cases other with
  | deleteCached sessionID removed =>
    intro origin found
    obtain ⟨rowless, inserted, stored, same⟩ := clears origin found
    have bound : origin < config.shared.created.length := (List.getElem?_eq_some_iff.mp stored).1
    exact ⟨settles.rowless bound rowless, inserted, settles.grows _ _ stored, same⟩
  | uncache username keys removed target =>
    refine ⟨fun origin found => settles.gone (clears.1 origin found), ?_⟩
    intro item found showing named covered
    rcases stepped.item_after found showing with
      ⟨old, shownBefore⟩ | ⟨_, rfl⟩
    · exact clears.2 item old shownBefore named covered
    -- no session is cached that a deletion in flight has passed
    · have overtaken := live.2 _ member
      simp only [Thread.overtakes, named, decide_true, Bool.true_and] at overtaken
      simp [Item.key, overtaken] at covered
  | unstore username removed target =>
    refine ⟨fun origin found => settles.gone (clears.1 origin found), ?_⟩
    intro item found showing named
    rcases stepped.item_after found showing with
      ⟨old, shownBefore⟩ | ⟨_, rfl⟩
    · exact clears.2 item old shownBefore named
    · have overtaken := live.2 _ member
      simpa [Thread.overtakes, Item.key, named] using overtaken
  | _ => trivial

section Deletions

variable {config : Config Store Thread}

variable {origin : Nat} {sessionID : Int}

theorem Registered.gone_uncache (registered : Registered config)
    (rowless : config.shared.Rowless origin)
    (inserted : ∃ session, config.shared.created[origin]? = some session ∧
      session.sessionID = sessionID) :
    (config.shared.uncache sessionID).Gone origin := by
  obtain ⟨session, stored, same⟩ := inserted
  refine ⟨(List.getElem?_eq_some_iff.mp stored).1, rowless, ?_⟩
  intro item found _ rfl
  obtain ⟨cached, other⟩ := mem_remove.mp found
  obtain ⟨known, knownStored, knownID, -⟩ := registered.cache item cached
  rw [stored] at knownStored
  cases knownStored
  exact other (knownID.symm.trans same)

theorem Registered.gone_orphans (registered : Registered config)
    (orphaned : origin ∈ config.shared.orphans sessionID) :
    (config.shared.uncache sessionID).Gone origin := by
  simp only [Store.orphans, mem_map, mem_filter, Bool.and_eq_true,
    decide_eq_true_eq, all_eq_true] at orphaned
  obtain ⟨item, ⟨cached, named, rowless⟩, rfl⟩ := orphaned
  obtain ⟨inserted, stored, same, -⟩ := registered.cache item cached
  exact registered.gone_uncache rowless ⟨inserted, stored, same.trans named⟩

theorem Registered.rowless_deleteRows (registered : Registered config) {condition : Tracked → Bool}
    (respects : ∀ left right, left.SameSession right → condition left = condition right)
    {row : Tracked} (stored : row ∈ config.shared.rows) (matching : condition row = true) :
    (config.shared.deleteRows condition).Rowless row.origin := by
  intro other found same
  obtain ⟨kept, excluded⟩ := mem_filter.mp found
  have sameSession := (registered.rows other kept).sameSession (registered.rows row stored) same
  rw [respects other row sameSession, matching] at excluded
  simp at excluded

variable {store : Store}

theorem clears_uncacheNext {username : String} {keys : List Int}
    {removed : List Nat} {target : Target} (gone : ∀ origin ∈ removed, store.Gone origin)
    (listed : ∀ item ∈ store.cache, item.live store.clock = true →
      item.object.session.username = username →
      target.covers item.key = true → item.key ∈ keys) :
    (Thread.uncacheNext username keys removed target).Clears store := by
  unfold Thread.uncacheNext
  split
  · rename_i empty
    refine ⟨gone, ?_⟩
    intro item found showing named
    apply eq_false_of_ne_true
    intro covered
    have member := listed item found showing named covered
    rw [empty] at member
    exact absurd member not_mem_nil
  · exact ⟨gone, listed⟩

variable {thread after : Thread} {shown : List Output} {next : Store}
  {choice : Choice}

theorem Stepped.clears_own (registered : Registered config) (clears : thread.Clears config.shared)
    (live : WritesLive config thread choice)
    (stepped : Stepped config.shared thread next after shown) : after.Clears next := by
  have settles := stepped.settles live
  cases stepped with
  | @read _ _ claims found _ _ _ leaves _ =>
    rcases leaves with rfl | ⟨value, -, rfl⟩
    · trivial
    · unfold Thread.save
      split <;> trivial
  | @cached value after => cases after <;> trivial
  | @deletedRow sessionID =>
    intro origin found
    obtain ⟨row, member, rfl⟩ := mem_map.mp found
    obtain ⟨stored, named⟩ := mem_filter.mp member
    refine ⟨registered.rowless_deleteRows ?_ stored named, ?_⟩
    · intro left right same
      rw [same.sessionID]
    · obtain ⟨inserted, created, same, -⟩ := registered.rows row stored
      exact ⟨inserted, created, same.trans (of_decide_eq_true named)⟩
  | @uncachedOne username sessionID =>
    refine ⟨fun origin => registered.gone_orphans, ?_⟩
    intro item found _ _
    have other := (mem_remove.mp found).2
    simpa [Target.covers] using Ne.symm other
  | listedItems =>
    apply clears_uncacheNext
    · simp
    · intro item found showing named _
      refine mem_map.mpr ⟨item, mem_filter.mpr ⟨?_, ?_⟩, rfl⟩
      · exact mem_filter.mpr ⟨found, showing⟩
      · simpa using named
  | @uncached username keys removed target index sessionID picked =>
    apply clears_uncacheNext
    · intro origin found
      rcases mem_append.mp found with before | orphaned
      · exact settles.gone (clears.1 origin before)
      · exact registered.gone_orphans orphaned
    · intro item found showing named covered
      obtain ⟨cached, other⟩ := mem_remove.mp found
      have listed := clears.2 item cached showing named covered
      obtain ⟨position, at_position⟩ := List.mem_iff_getElem?.mp listed
      refine List.mem_eraseIdx_iff_getElem?.mpr ⟨position, ?_, at_position⟩
      rintro rfl
      rw [picked] at at_position
      cases at_position
      exact other rfl
  | _ => trivial

theorem Stepped.deleted_gone (registered : Registered config) (clears : thread.Clears config.shared)
    (live : WritesLive config thread choice)
    (stepped : Stepped config.shared thread next after shown) (deleted : .deleted origin ∈ shown) :
    next.Gone origin := by
  have settles := stepped.settles live
  cases stepped with
  | read _ _ _ outputs =>
    rcases outputs with rfl | rfl <;> simp at deleted
  | @deletedCached sessionID removed =>
    obtain ⟨_, member, same⟩ := mem_map.mp deleted
    cases same
    rcases mem_union_iff.mp member with before | orphaned
    · obtain ⟨rowless, inserted⟩ := clears origin before
      exact registered.gone_uncache rowless inserted
    · exact registered.gone_orphans orphaned
  | @unstored username removed target =>
    obtain ⟨_, member, same⟩ := mem_map.mp deleted
    cases same
    rcases mem_append.mp member with before | removedNow
    · exact settles.gone (clears.1 origin before)
    · obtain ⟨row, found, rfl⟩ := mem_map.mp removedNow
      obtain ⟨stored, matching⟩ := mem_filter.mp found
      have known := registered.rows row stored
      refine ⟨known.lt, registered.rowless_deleteRows ?_ stored matching, ?_⟩
      · intro left right same
        rw [same.sessionID, same.username]
      · -- the cache was cleared of the row's session before
        intro item cached showing same
        have sameSession := (registered.cache item cached).sameSession known same
        simp only [Bool.and_eq_true, decide_eq_true_eq] at matching
        have uncovered := clears.2 item cached showing (sameSession.username.trans matching.1)
        rw [Item.key, sameSession.sessionID, matching.2] at uncovered
        simp at uncovered
  | _ => simp at deleted

theorem Stepped.lookedUp_visible (stepped : Stepped store thread next after shown)
    (looked : .lookedUp origin ∈ shown) : ¬ store.Gone origin := by
  cases stepped with
  | @read _ _ claims found _ _ got _ outputs =>
    obtain ⟨visible, -⟩ := Store.get_visible got
    have same : origin = found.origin := by
      rcases outputs with rfl | rfl <;> simpa using looked
    subst same
    exact fun gone => gone.not_visible (.inr visible)
  | listed visible =>
    obtain ⟨value, member, same⟩ := mem_map.mp looked
    cases same
    exact fun gone => gone.not_visible (visible value member)
  | _ => simp at looked

theorem Stepped.shown_final (stepped : Stepped store thread next after shown) :
    DeletionsFinal shown := by
  have separate : (∀ origin, .deleted origin ∉ shown) ∨ ∀ origin, .lookedUp origin ∉ shown := by
    cases stepped with
    | read _ _ _ outputs =>
      left
      rcases outputs with rfl | rfl <;> simp
    | _ => simp
  apply List.Pairwise.imp_of_mem _ (pairwise_of_forall fun _ _ => trivial)
  rintro earlier later earlierMember laterMember - origin rfl rfl
  rcases separate with none | none
  · exact none origin earlierMember
  · exact none origin laterMember

end Deletions

theorem Store.Hides.gone (hides : store.Hides next) {origin : Nat}
    (gone : store.Gone origin) : next.Gone origin := by
  refine ⟨?_, ?_, ?_⟩
  · rw [hides.created]
    exact gone.inserted
  · rw [Store.Rowless, hides.rows]
    exact gone.rowless
  · intro item found showing
    exact gone.hidden item (hides.cache item found) (hides.live showing)

theorem Store.Hides.clears (hides : store.Hides next) (clears : thread.Clears store) :
    thread.Clears next := by
  cases thread with
  | deleteCached sessionID removed =>
    intro origin found
    rw [Store.Rowless, hides.rows, hides.created]
    exact clears origin found
  | uncache | unstore =>
    refine ⟨fun origin found => hides.gone (clears.1 origin found), ?_⟩
    intro item found showing
    exact clears.2 item (hides.cache item found) (hides.live showing)
  | _ => trivial

theorem step_revoked {config next : Config Store Thread}
    {move : Move Call Choice Event} {history shown : List Output} (revoked : Revoked history config)
    (admitted : OnAdvance WritesLive config move)
    (stepped : program.system.step config move = some (next, shown)) :
    Revoked (history ++ shown) next := by
  have registered := step_registered revoked.registered stepped
  cases Program.step_cases stepped with
  | spawn call =>
    rw [append_nil]
    refine ⟨registered, ?_, revoked.gone, revoked.final⟩
    refine forall_mem_concat revoked.clears ?_
    cases call <;> simp only [program, Thread.enter]
    all_goals try split
    all_goals trivial
  | @advance _ _ thread store after shown found ran =>
    have effect : Stepped config.shared thread store after shown := atomic_stepped ran
    have member : thread ∈ config.threads := List.mem_of_getElem? found
    have live := admitted.condition found
    have clears := revoked.clears thread member
    refine ⟨registered, ?_, ?_, ?_⟩
    · exact forall_mem_set (fun other old =>
        effect.clears_other live old (revoked.clears other old))
        (effect.clears_own revoked.registered clears live)
    · intro origin deleted
      rcases mem_append.mp deleted with before | now
      · exact (effect.settles live).gone (revoked.gone origin before)
      · exact effect.deleted_gone revoked.registered clears live now
    · refine pairwise_append.mpr ⟨revoked.final, effect.shown_final, ?_⟩
      rintro _ before later looked origin rfl rfl
      exact effect.lookedUp_visible looked (revoked.gone origin before)
  | environment ran =>
    obtain ⟨rfl, hides⟩ := environment_hides ran
    rw [append_nil]
    refine ⟨registered, ?_, ?_, revoked.final⟩
    · intro thread member
      exact hides.clears (revoked.clears thread member)
    · intro origin deleted
      exact hides.gone (revoked.gone origin deleted)

theorem run_revoked {clock : Time} {history : List Output}
    (run : Run program.system (OnAdvance WritesLive) (initial clock) history config) :
    Revoked history config :=
  run.invariant Revoked (initial_revoked clock) step_revoked

/-- In a run in which sessions are written back only while they exist, no
look-up returns a session after its deletion has returned. -/
theorem deleted_not_lookedUp {clock : Time} {earlier later : List Output}
    {config : Config Store Thread} (run : Run program.system (OnAdvance WritesLive) (initial clock)
      (earlier ++ later) config)
    {origin : Nat} (deleted : .deleted origin ∈ earlier) :
    .lookedUp origin ∉ later := by
  intro looked
  have final := (pairwise_append.mp (run_revoked run).final).2.2
  exact final _ deleted _ looked origin rfl rfl

theorem deleted_not_lookedUp_logout :
    ∃ config,
      Run program.system (OnAdvance WritesLive) (initial 0)
        ([Output.deleted 0] ++ [Output.lookedUp 1]) config ∧
      .lookedUp 0 ∉ [Output.lookedUp 1] := by
  obtain ⟨config, history, run, outcome⟩ :=
    Run.exists_ofExecute program.system (OnAdvance WritesLive) (initial 0)
      (List.flatten [logsIn 0 "ada", logsIn 1 "ada",
        [.spawn (.delete 1), .advance 2 (.sql (.ok ())), .advance 2 .proceed,
          .spawn (.get 1), .advance 3 .proceed, .spawn (.getAllByUser "ada"), .advance 4 .proceed]])
      (fun outcome => decide (outcome.2 = [.deleted 0, .lookedUp 1]))
      (by decide +kernel) (by decide +kernel)
  have shown : history = [Output.deleted 0] ++ [Output.lookedUp 1] := of_decide_eq_true outcome
  subst shown
  exact ⟨config, run, deleted_not_lookedUp run (by decide)⟩

/-- A request that has read the session before its deletion puts it back into
the cache, where the next request is authenticated on it. -/
theorem deleted_lookedUp :
    ∃ config history,
      Run program.system Unrestricted (initial 0) history config ∧
      history = [Output.lookedUp 0, .deleted 0] ++ [Output.lookedUp 0, .accepted 0 0] :=
  Run.exists_reaching_unrestricted (List.flatten [logsIn 0 "ada",
      [.spawn (.updateTokenAccess 0 0 "curl" "::1"), .advance 1 .proceed,
        .spawn (.delete 1), .advance 2 (.sql (.ok ())), .advance 2 .proceed,
        .advance 1 (.sql (.ok ())), .advance 1 .proceed,
        .spawn (.checkBearerToken 0 "/api/v1/me" "GET"), .advance 3 .proceed]])
    (by decide +kernel)

end ProxiPort.Session
