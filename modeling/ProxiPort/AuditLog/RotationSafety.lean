import ProxiPort.AuditLog.Rotation

/-!
# Rotations that fail

No entry that was saved gets lost and no rotated file is replaced, whichever
steps of the calls fail; and as long as no rotation begins without a provider,
no call panics and a rotation in which every step works leaves a provider that
works.
-/

namespace ProxiPort.AuditLog

open Concurrency List Keyed

def IsAudit (name : String) : Prop := name = sqliteFilename ∨ isRotated name = true

theorem isRotated_rotatedName (now : Time) : isRotated (rotatedName now) = true := by
  simp only [isRotated, rotatedName, String.toList_append, append_assoc]
  rw [Bool.and_eq_true]
  constructor
  · rw [List.isPrefixOf_iff_prefix]
    exact prefix_append _ _
  · rw [List.isSuffixOf_iff_suffix]
    have start : "auditlog.".length = "auditlog.".toList.length := rfl
    rw [start, drop_left]
    simp only [← append_assoc]
    exact suffix_append _ _

theorem rotatedName_ne (now : Time) : rotatedName now ≠ sqliteFilename := by
  intro same
  have matched := isRotated_rotatedName now
  rw [same] at matched
  exact absurd matched (by decide)

/-- The entry is in the live database or in a rotated one. -/
def Stored (directory : Directory) (row : Entry) : Prop :=
  ∃ name file, directory.get name = some file ∧ IsAudit name ∧ row ∈ file.rows

/-- Retention removed a database with the entry. -/
def Pruned (events : List Event) (row : Entry) : Prop :=
  ∃ file, .pruned file ∈ events ∧ row ∈ file.rows

/-- No entry gets lost between two states of the directory. -/
def Keeps (before after : Directory) (events : List Event) : Prop :=
  ∀ row, Stored before row → Stored after row ∨ Pruned events row

variable {settings : Settings} {directory after : Directory}
  {events : List Event} {row : Entry}

theorem Pruned.mono {more : List Event} (inside : events ⊆ more)
    (pruned : Pruned events row) : Pruned more row := by
  obtain ⟨file, member, known⟩ := pruned
  exact ⟨file, inside member, known⟩

namespace Keeps

theorem refl (directory : Directory) (events : List Event) : Keeps directory directory events :=
  fun _ stored => .inl stored

theorem trans {middle : Directory} {later : List Event} (first : Keeps directory middle events)
    (second : Keeps middle after later) : Keeps directory after (events ++ later) := by
  intro row stored
  rcases first row stored with kept | pruned
  · rcases second row kept with kept | pruned
    · exact .inl kept
    · exact .inr (pruned.mono (subset_append_right _ _))
  · exact .inr (pruned.mono (subset_append_left _ _))

end Keeps

theorem get_withLive (directory : Directory) (rows : List Entry) :
    (directory.withLive rows).get sqliteFilename = some ⟨sqliteFilename, rows⟩ :=
  Table.get_put_self

theorem Stored.withLive {rows : List Entry} (more : directory.live ⊆ rows)
    (stored : Stored directory row) : Stored (directory.withLive rows) row := by
  obtain ⟨name, file, found, audit, member⟩ := stored
  by_cases live : name = sqliteFilename
  · have known : row ∈ directory.live := by
      rw [Directory.live, ← live, found]
      exact member
    exact ⟨sqliteFilename, _, get_withLive directory rows, .inl rfl, more known⟩
  · refine ⟨name, file, ?_, audit, member⟩
    rw [Directory.withLive, Table.get_put_of_ne live]
    exact found

theorem openLive_cases (settings : Settings) (opening : Opening) (directory : Directory) :
    (openLive settings opening directory).2 = directory ∧
        (∃ err, (openLive settings opening directory).1 = .error err) ∨
      (openLive settings opening directory).2 = directory.withLive directory.live := by
  simp only [openLive]
  split
  · exact .inr rfl
  · split
    · exact .inr rfl
    · exact .inl ⟨rfl, _, rfl⟩

theorem openLive_keeps (settings : Settings) (opening : Opening)
    (directory : Directory) (events : List Event) :
    Keeps directory (openLive settings opening directory).2 events := by
  intro row stored
  left
  rcases openLive_cases settings opening directory with ⟨same, _⟩ | made
  · rw [same]
    exact stored
  · rw [made]
    exact stored.withLive (List.Subset.refl _)

theorem reopen_directory (settings : Settings) (opening : Opening) (directory : Directory) :
    (reopen settings opening directory).directory = (openLive settings opening directory).2 := by
  simp only [reopen]
  split
  · rename_i opened
    rw [opened]
  · rename_i opened
    rw [opened]

theorem reopen_keeps (settings : Settings) (opening : Opening)
    (directory : Directory) (events : List Event) :
    Keeps directory (reopen settings opening directory).directory events := by
  rw [reopen_directory]
  exact openLive_keeps settings opening directory events

variable {failure : Option String} {replaced : Option File}

theorem rename_ok {source target : String} (renamed : rename failure source target directory =
      .ok (after, replaced)) :
    replaced = directory.get target ∧ ∃ file, directory.get source = some file ∧
        after = (directory.remove source).put ⟨target, file.rows⟩ := by
  simp only [rename] at renamed
  split at renamed
  · cases renamed
  · split at renamed
    · cases renamed
    · rename_i file found
      cases renamed
      exact ⟨rfl, file, found, rfl⟩

theorem rename_keeps {source target : String} (audit : IsAudit target)
    (renamed : rename failure source target directory = .ok (after, replaced))
    (empty : ∀ file, directory.get target = some file → file.rows = [])
    (events : List Event) : Keeps directory after events := by
  obtain ⟨_, moved, found, rfl⟩ := rename_ok renamed
  intro row stored
  left
  obtain ⟨name, file, here, known, member⟩ := stored
  by_cases fromSource : name = source
  · rw [fromSource, found] at here
    cases here
    exact ⟨target, ⟨target, moved.rows⟩, Table.get_put_self, audit, member⟩
  · have other : name ≠ target := by
      intro same
      rw [same] at here
      rw [empty file here] at member
      cases member
    refine ⟨name, file, ?_, known, member⟩
    rw [Table.get_put_of_ne other, Table.get_remove_of_ne fromSource]
    exact here

theorem removeFiles_spec (failure : Nat → Option String) (names : List String)
    (index : Nat) (directory : Directory) :
    ∃ (count : Nat) (files : List File), count ≤ names.length ∧
      (removeFiles failure index names directory).2 = files.map .pruned ∧
      (∀ name ∈ names.take count, ∃ file ∈ files, directory.get name = some file) ∧
      (∀ name, (removeFiles failure index names directory).1.get name =
        if name ∈ names.take count then none else directory.get name) ∧
      ((∀ i, failure i = none) → names.Nodup → (∀ name ∈ names, directory.get name ≠ none) →
        count = names.length) := by
  induction names generalizing index directory with
  | nil => exact ⟨0, [], by simp [removeFiles]⟩
  | cons first names induction =>
    simp only [removeFiles]
    split
    · rename_i file _ found
      obtain ⟨count, files, few, events, removed, rest, all⟩ :=
        induction (index + 1) (directory.remove first)
      refine ⟨count + 1, file :: files, Nat.succ_le_succ few, congrArg _ events, ?_, ?_, ?_⟩
      · rw [take_succ_cons]
        refine forall_mem_cons.mpr ⟨⟨file, mem_cons_self, found⟩, fun name member => ?_⟩
        obtain ⟨other, known, there⟩ := removed name member
        have apart : name ≠ first := by
          rintro rfl
          cases Table.get_remove_self.symm.trans there
        exact ⟨other, mem_cons_of_mem _ known, (Table.get_remove_of_ne apart).symm.trans there⟩
      · intro name
        rw [take_succ_cons, rest]
        by_cases same : name = first
        · simp [same, Table.get_remove_self]
        · simp [same, Table.get_remove_of_ne same]
      · intro clear distinct present
        obtain ⟨fresh, distinct⟩ := nodup_cons.mp distinct
        refine congrArg _ (all clear distinct fun name member => ?_)
        rw [Table.get_remove_of_ne (ne_of_mem_of_not_mem member fresh)]
        exact present name (mem_cons_of_mem _ member)
    · rename_i stops
      refine ⟨0, [], Nat.zero_le _, rfl, by simp, by simp, fun clear _ present => ?_⟩
      obtain ⟨file, found⟩ := Option.ne_none_iff_exists'.mp (present first mem_cons_self)
      exact absurd found (stops file (clear index))

/-- The rotated databases, in the order of their names. -/
def Directory.rotated (directory : Directory) : List String :=
  ((directory.entries.map File.name).filter isRotated).insertionSort (· ≤ ·)

theorem Directory.mem_rotated {name : String} (member : name ∈ directory.rotated) :
    isRotated name = true ∧ directory.get name ≠ none := by
  rw [rotated, mem_insertionSort, mem_filter] at member
  obtain ⟨file, known, rfl⟩ := mem_map.mp member.1
  refine ⟨member.2, ?_⟩
  rw [Table.get_eq_some_iff.mpr ⟨known, rfl⟩]
  exact Option.some_ne_none file

theorem Directory.rotated_nodup (directory : Directory) : directory.rotated.Nodup :=
  (perm_insertionSort _ _).nodup_iff.mpr (directory.distinct.filter _)

theorem pruneRotated_spec (settings : Settings) (faults : RotateFaults) (directory : Directory) :
    ∃ (count : Nat) (files : List File),
      (pruneRotated settings faults directory).2 = files.map .pruned ∧
      (∀ name ∈ directory.rotated.take count, ∃ file ∈ files, directory.get name = some file) ∧
      (∀ name, (pruneRotated settings faults directory).1.get name =
        if name ∈ directory.rotated.take count then none else directory.get name) ∧
      (0 < settings.retention → faults.glob = none → (∀ i, faults.remove i = none) →
        count = directory.rotated.length - settings.retention.toNat) := by
  have pruned : pruneRotated settings faults directory =
      if settings.retention ≤ 0 ∨ faults.glob.isSome ∨
          directory.rotated.length ≤ settings.retention then (directory, [])
      else removeFiles faults.remove 0
        (directory.rotated.take (directory.rotated.length - settings.retention.toNat)) directory := by
    simp only [pruneRotated, Directory.rotated, length_insertionSort]
  rw [pruned]
  split
  · rename_i stays
    refine ⟨0, [], rfl, by simp, by simp, fun positive clear _ => ?_⟩
    simp only [clear, Option.isSome_none, Bool.false_eq_true, false_or] at stays
    omega
  · obtain ⟨count, files, few, events, removed, rest, all⟩ := removeFiles_spec faults.remove
      (directory.rotated.take (directory.rotated.length - settings.retention.toNat)) 0 directory
    rw [length_take] at few all
    rw [take_take, min_eq_left (by omega)] at removed rest
    refine ⟨count, files, events, removed, rest, fun _ _ works => ?_⟩
    rw [all works (directory.rotated_nodup.sublist (take_sublist _ _))
      fun name member => (Directory.mem_rotated (mem_of_mem_take member)).2]
    omega

theorem pruneRotated_keeps (settings : Settings) (faults : RotateFaults) (directory : Directory) :
    Keeps directory (pruneRotated settings faults directory).1
      (pruneRotated settings faults directory).2 := by
  obtain ⟨count, files, events, removed, rest, _⟩ := pruneRotated_spec settings faults directory
  rintro row ⟨name, file, here, known, member⟩
  by_cases gone : name ∈ directory.rotated.take count
  · obtain ⟨other, listed, found⟩ := removed name gone
    cases here.symm.trans found
    exact .inr ⟨file, events ▸ mem_map_of_mem listed, member⟩
  · refine .inl ⟨name, file, ?_, known, member⟩
    rw [rest, if_neg gone, here]

theorem pruneRotated_live (settings : Settings) (faults : RotateFaults) (directory : Directory) :
    (pruneRotated settings faults directory).1.get sqliteFilename =
      directory.get sqliteFilename := by
  obtain ⟨count, _, _, _, rest, _⟩ := pruneRotated_spec settings faults directory
  rw [rest, if_neg]
  intro member
  exact absurd (Directory.mem_rotated (mem_of_mem_take member)).1 (by decide)

theorem openRotated_keeps (settings : Settings) {rotatedFn : String}
    (faults : RotateFaults) (moved : directory.get sqliteFilename = none) :
    Keeps directory (openRotated settings rotatedFn faults directory).1.directory
      (openRotated settings rotatedFn faults directory).2 := by
  have noRows : directory.live = [] := by
    rw [Directory.live, moved]
    rfl
  have opened := openLive_keeps settings faults.opening directory
  -- The file that a failed attempt has left is empty.
  have fresh : ∀ file, (openLive settings faults.opening directory).2.get sqliteFilename =
        some file → file.rows = [] := by
    intro file found
    rcases openLive_cases settings faults.opening directory with
      ⟨same, _⟩ | made
    · rw [same, moved] at found
      cases found
    · rw [made, get_withLive, noRows] at found
      cases found
      rfl
  simp only [openRotated]
  split
  · rename_i provider next result
    rw [result] at opened
    exact (opened []).trans (pruneRotated_keeps settings faults next)
  · rename_i err next result
    rw [result] at opened fresh
    split
    · exact (opened []).trans (reopen_keeps settings _ _ _)
    · rename_i restored replaced renamed
      exact (opened []).trans ((rename_keeps (.inl rfl) renamed fresh []).trans
        (reopen_keeps settings _ _ _))

theorem rotateClosed_keeps (settings : Settings) (now : Time)
    (faults : RotateFaults) (directory : Directory) :
    Keeps directory (rotateClosed settings (rotatedName now) faults directory).1.directory
      (rotateClosed settings (rotatedName now) faults directory).2 := by
  simp only [rotateClosed]
  split
  · exact reopen_keeps settings _ _ _
  · exact reopen_keeps settings _ _ _
  · rename_i missing
    split
    · exact reopen_keeps settings _ _ _
    · rename_i next replaced renamed
      have kept := rename_keeps (.inr (isRotated_rotatedName now)) renamed
        (by rw [missing]; simp) [.renamed (rotatedName now) replaced]
      obtain ⟨_, moved, _, rfl⟩ := rename_ok renamed
      have gone : ((directory.remove sqliteFilename).put
          ⟨rotatedName now, moved.rows⟩).get sqliteFilename = none := by
        refine (Table.get_put_of_ne ?_).trans Table.get_remove_self
        exact (rotatedName_ne now).symm
      exact kept.trans (openRotated_keeps settings faults gone)

theorem SQLiteProvider.save_rows {hmac : Hmac} {provider next : SQLiteProvider}
    {result : Option String} {entry row : Entry} {table rows : List Entry}
    (saving : provider.save hmac failure entry table = (result, next, row, rows)) :
    result = none ∧ rows = table ++ [row] ∨ result ≠ none ∧ rows = table := by
  simp only [SQLiteProvider.save] at saving
  split at saving
  · cases saving
    exact .inr ⟨Option.some_ne_none _, rfl⟩
  · rename_i inserted
    cases saving
    rcases insert_cases failure _ table with ⟨err, failed⟩ | ⟨_, done⟩
    · rw [failed] at inserted
      cases inserted
    · rw [done] at inserted
      cases inserted
      exact .inl ⟨rfl, rfl⟩

theorem save_keeps (settings : Settings) (entry : Entry)
    (failure : Option String) (rotation : RotationProvider) :
    Keeps rotation.directory (save settings entry failure rotation).1.directory
      (save settings entry failure rotation).2 ∧
    ∀ row, .saved row ∈ (save settings entry failure rotation).2 →
      Stored (save settings entry failure rotation).1.directory row := by
  simp only [save]
  split
  · exact ⟨.refl _ _, by simp⟩
  · exact ⟨.refl _ _, by simp⟩
  · split
    · exact ⟨.refl _ _, by simp⟩
    · rename_i next row rows saving
      rcases SQLiteProvider.save_rows saving with ⟨_, rfl⟩ | ⟨failed, _⟩
      · refine ⟨fun other stored => .inl (stored.withLive (subset_append_left _ _)), ?_⟩
        intro other shown
        cases mem_singleton.mp shown
        exact ⟨sqliteFilename, _, get_withLive _ _, .inl rfl,
          mem_append_right _ (mem_singleton_self _)⟩
      · exact (failed rfl).elim

/-- What a rotation may show: no panic, and no rotated file that is
replaced. -/
def Event.OfRotation : Event → Prop
  | .saved _ => False
  | .renamed target replaced => target ≠ sqliteFilename → replaced = none
  | .pruned _ => True
  | .failed _ => True
  | .panicked => False

theorem openRotated_ofRotation (settings : Settings) (rotatedFn : String)
    (faults : RotateFaults) (directory : Directory) :
    ∀ event ∈ (openRotated settings rotatedFn faults directory).2, event.OfRotation := by
  simp only [openRotated]
  split
  · obtain ⟨_, files, events, _⟩ := pruneRotated_spec settings faults _
    rw [events]
    exact forall_mem_map.mpr fun _ _ => trivial
  · split
    · exact forall_mem_singleton.mpr trivial
    · exact forall_mem_cons.mpr ⟨fun other => (other rfl).elim, forall_mem_singleton.mpr trivial⟩

theorem rotateClosed_ofRotation (settings : Settings) (rotatedFn : String)
    (faults : RotateFaults) (directory : Directory) :
    ∀ event ∈ (rotateClosed settings rotatedFn faults directory).2, event.OfRotation := by
  simp only [rotateClosed]
  split
  · exact forall_mem_singleton.mpr trivial
  · exact forall_mem_singleton.mpr trivial
  · rename_i missing
    split
    · exact forall_mem_singleton.mpr trivial
    · rename_i renamed
      refine forall_mem_cons.mpr ⟨fun _ => (rename_ok renamed).1.trans missing, ?_⟩
      exact openRotated_ofRotation settings rotatedFn faults _

def Opening.Clear (opening : Opening) : Prop :=
  opening.faults.database = none ∧ opening.faults.head = none

structure RotateFaults.Clear (faults : RotateFaults) : Prop where
  close : faults.close = none
  lstat : faults.lstat = none
  rename : faults.rename = none
  opening : faults.opening.Clear
  restore : faults.restore = none
  reopening : faults.reopening.Clear
  glob : faults.glob = none
  remove : ∀ index, faults.remove index = none

def Working (rotation : RotationProvider) : Prop :=
  (∃ provider, rotation.sqlite = some ⟨provider, false⟩) ∧
    rotation.directory.get sqliteFilename ≠ none

variable {opening : Opening}

theorem openLive_clear (clear : opening.Clear) (settings : Settings) (directory : Directory) :
    ∃ provider, openLive settings opening directory =
      (.ok provider, directory.withLive directory.live) := by
  obtain ⟨provider, opened⟩ : ∃ provider,
      newSQLiteProvider settings.hmacKey opening.faults directory.live = .ok provider := by
    simp only [newSQLiteProvider, loadChainHead, clear.1, clear.2]
    split
    · exact ⟨_, rfl⟩
    · split
      all_goals exact ⟨_, rfl⟩
  refine ⟨provider, ?_⟩
  simp only [openLive, opened]

theorem reopen_working (clear : opening.Clear) (settings : Settings) (directory : Directory) :
    Working (reopen settings opening directory) := by
  obtain ⟨provider, opened⟩ := openLive_clear clear settings directory
  simp only [reopen, opened]
  refine ⟨⟨provider, rfl⟩, ?_⟩
  rw [get_withLive]
  exact Option.some_ne_none _

variable {faults : RotateFaults}

/-- Whatever state the files are in, a rotation in which every step works
leaves a provider that works. -/
theorem rotateClosed_working (clear : faults.Clear) (settings : Settings)
    (rotatedFn : String) (directory : Directory) :
    Working (rotateClosed settings rotatedFn faults directory).1 := by
  simp only [rotateClosed]
  split
  · exact reopen_working clear.reopening settings _
  · exact reopen_working clear.reopening settings _
  · split
    · exact reopen_working clear.reopening settings _
    · rename_i next _ _
      obtain ⟨provider, opened⟩ := openLive_clear clear.opening settings next
      simp only [openRotated, opened]
      refine ⟨⟨provider, rfl⟩, ?_⟩
      rw [pruneRotated_live, get_withLive]
      exact Option.some_ne_none _

variable {rotation : RotationProvider}

theorem rotate_working (clear : faults.Clear) (settings : Settings) (now : Time)
    (present : rotation.sqlite ≠ none) : Working (rotate settings now faults rotation).1 := by
  simp only [rotate]
  split
  · rename_i missing
    exact (present missing).elim
  · rw [clear.close, ite_self]
    exact rotateClosed_working clear settings _ _

theorem rotate_keeps (settings : Settings) (now : Time)
    (faults : RotateFaults) (rotation : RotationProvider) :
    Keeps rotation.directory (rotate settings now faults rotation).1.directory
      (rotate settings now faults rotation).2 := by
  simp only [rotate]
  split
  · exact .refl _ _
  · split
    · exact .refl _ _
    · exact rotateClosed_keeps settings now faults _

theorem rotate_ofRotation (settings : Settings) (now : Time)
    (faults : RotateFaults) (present : rotation.sqlite ≠ none) :
    ∀ event ∈ (rotate settings now faults rotation).2, event.OfRotation := by
  simp only [rotate]
  split
  · rename_i missing
    exact (present missing).elim
  · split
    · exact forall_mem_singleton.mpr trivial
    · exact rotateClosed_ofRotation settings _ faults _

def RotatesProvider (rotation : RotationProvider) : Call → Prop
  | .rotate _ _ => rotation.sqlite ≠ none
  | .save _ _ => True
  | .list _ _ => True
  | .count _ _ => True
  | .verify _ _ => True

instance decidableRotatesProvider (rotation : RotationProvider) :
    (input : Call) → Decidable (RotatesProvider rotation input)
  | .rotate _ _ => inferInstanceAs (Decidable (¬ rotation.sqlite = none))
  | .save _ _ => .isTrue trivial
  | .list _ _ => .isTrue trivial
  | .count _ _ => .isTrue trivial
  | .verify _ _ => .isTrue trivial

structure Survived (start : Directory) (history : List Event)
    (directory : Directory) : Prop where
  kept : ∀ row, Stored start row ∨ .saved row ∈ history → Stored directory row ∨ Pruned history row
  notReplaced : ∀ target replaced, .renamed target replaced ∈ history →
    target ≠ sqliteFilename → replaced = none
  noPanic : .panicked ∉ history

variable {start : Directory}

theorem Survived.step {history shown : List Event} {rotation next : RotationProvider}
    (survived : Survived start history rotation.directory)
    (keeps : Keeps rotation.directory next.directory shown)
    (saved : ∀ row, .saved row ∈ shown → Stored next.directory row)
    (others : ∀ event ∈ shown, (∃ row, event = .saved row) ∨ event.OfRotation) :
    Survived start (history ++ shown) next.directory := by
  constructor
  · intro row known
    have before : Stored start row ∨ .saved row ∈ history ∨ .saved row ∈ shown := by
      simpa using known
    rw [← or_assoc] at before
    rcases before with earlier | now
    · rcases survived.kept row earlier with stored | pruned
      · rcases keeps row stored with stored | pruned
        · exact .inl stored
        · exact .inr (pruned.mono (subset_append_right _ _))
      · exact .inr (pruned.mono (subset_append_left _ _))
    · exact .inl (saved row now)
  · intro target replaced member
    rcases mem_append.mp member with earlier | now
    · exact survived.notReplaced target replaced earlier
    · rcases others _ now with ⟨row, wrong⟩ | allowed
      · cases wrong
      · exact allowed
  · intro member
    rcases mem_append.mp member with earlier | now
    · exact survived.noPanic earlier
    · rcases others _ now with ⟨row, wrong⟩ | allowed
      · cases wrong
      · exact allowed

theorem reported_ofRotation {Answer : Type} (result : Except String Answer) :
    ∀ event ∈ reported result, event.OfRotation := by
  cases result with
  | error err => exact forall_mem_singleton.mpr trivial
  | ok answer => exact forall_mem_nil _

theorem not_saved_of_ofRotation
    (allowed : ∀ event ∈ events, event.OfRotation) : .saved row ∉ events :=
  fun member => allowed _ member

theorem save_shows (settings : Settings) (entry : Entry)
    (failure : Option String) (rotation : RotationProvider) :
    ∀ event ∈ (save settings entry failure rotation).2,
      (∃ row, event = .saved row) ∨ event.OfRotation := by
  simp only [save]
  split
  · exact forall_mem_singleton.mpr (.inr trivial)
  · exact forall_mem_singleton.mpr (.inr trivial)
  · split
    · exact forall_mem_singleton.mpr (.inr trivial)
    · exact forall_mem_singleton.mpr (.inl ⟨_, rfl⟩)

theorem call_survived {history : List Event} {input : Call}
    (survived : Survived start history rotation.directory)
    (admitted : RotatesProvider rotation input) :
    Survived start (history ++ (call settings rotation input).2)
      (call settings rotation input).1.directory := by
  have reads : ∀ {Answer : Type} (result : Except String Answer),
      Survived start (history ++ reported result) rotation.directory := by
    intro Answer result
    have shown := reported_ofRotation result
    exact survived.step (.refl _ _) (fun _ member => (not_saved_of_ofRotation shown member).elim)
      (fun event member => .inr (shown event member))
  cases input with
  | rotate now faults =>
    have shown := rotate_ofRotation settings now faults admitted
    exact survived.step (rotate_keeps settings now faults rotation)
      (fun _ member => (not_saved_of_ofRotation shown member).elim)
      (fun event member => .inr (shown event member))
  | save entry failure =>
    obtain ⟨keeps, saved⟩ := save_keeps settings entry failure rotation
    exact survived.step keeps saved (save_shows settings entry failure rotation)
  | list | count | verify => exact reads _

def sampleSettings : Settings := ⟨fun _ _ => .replicate _ 0, [], 1⟩

def startedRotation : RotationProvider :=
  ⟨Table.empty.put ⟨sqliteFilename, []⟩, some ⟨⟨[], 0, .empty⟩, false⟩⟩

def noRotateFaults : RotateFaults :=
  ⟨none, none, none, ⟨⟨none, none⟩, false⟩, none, ⟨⟨none, none⟩, false⟩, none, fun _ => none⟩

def sampleEntry : Entry :=
  ⟨⟨0, .empty, .empty, .empty, .empty, .empty, .empty, .empty, .empty, .empty⟩, .unset⟩

def openFails : RotateFaults :=
  { noRotateFaults with
    opening := ⟨⟨some "migration failed", none⟩, true⟩ }

def threeRotations : List Call :=
  [.save sampleEntry none, .rotate 0 noRotateFaults, .save sampleEntry none,
    .rotate second openFails, .save sampleEntry none, .rotate (2 * second) noRotateFaults]

def Event.isPruned : Event → Bool
  | .pruned _ => true
  | _ => false

def prunedOne (outcome : RotationProvider × List Event) : Bool :=
  outcome.2.any Event.isPruned &&
    outcome.1.directory.entries.length = 2

def renameAndReopenFail : RotateFaults :=
  { noRotateFaults with
    rename := some "permission denied"
    reopening := ⟨⟨some "unable to open database file", none⟩, false⟩ }

def Event.isPanic : Event → Bool
  | .panicked => true
  | _ => false

def panicsForGood (outcome : RotationProvider × List Event) : Bool :=
  outcome.2.any Event.isPanic && outcome.1.sqlite.isNone

end ProxiPort.AuditLog
