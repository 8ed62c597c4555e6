import ProxiPort.Jobs.Store

/-!
# The clean-up of jobs

`CleanupJobsMultiJobs` of `server/api/jobs/cleanup.go`: three statements, each
of which looks for the jobs beyond the newest ones again.
-/

namespace ProxiPort.Jobs.Database

open List

variable (database : Database) (maxJobs : Nat)

def newestFirst : List JobRow := database.jobs.entries.mergeSort (·.startedAt ≥ ·.startedAt)

def beyond : List JobRow := database.newestFirst.drop maxJobs

def beyondMultiJobs : List String := (database.beyond maxJobs).filterMap JobRow.multiJobID

def deleteMultiJobs : Database :=
  { database with
    multiJobs := database.multiJobs.filter fun multiJob =>
      multiJob.jid ∉ database.beyondMultiJobs maxJobs }

def deleteMultiJobsJobs : Database :=
  { database with
    jobs := database.jobs.filter fun row =>
      ∀ parent ∈ row.multiJobID, parent ∉ database.beyondMultiJobs maxJobs }

def deleteJobs : Database :=
  { database with
    jobs := database.jobs.filter fun row =>
      row.jid ∈ (database.beyond maxJobs).map JobRow.jid → row.multiJobID ≠ none }

def cleanupJobsMultiJobs : Database :=
  let database := database.deleteMultiJobs maxJobs
  let database := database.deleteMultiJobsJobs maxJobs
  database.deleteJobs maxJobs

variable {database maxJobs}

theorem newestFirst_perm : database.newestFirst.Perm database.jobs.entries := mergeSort_perm _ _

theorem newestFirst_pairwise : database.newestFirst.Pairwise (·.startedAt ≥ ·.startedAt) := by
  refine (pairwise_mergeSort ?_ ?_ _).imp of_decide_eq_true
  · intro row other third newer older
    simp only [decide_eq_true_eq] at newer older ⊢
    exact older.trans newer
  · intro row other
    simpa using le_total other.startedAt row.startedAt

theorem countP_newest_le :
    database.jobs.entries.countP (· ∉ database.beyond maxJobs) ≤ maxJobs := by
  have none : (database.beyond maxJobs).countP (· ∉ database.beyond maxJobs) = 0 :=
    countP_eq_zero.mpr fun row old => by simpa using old
  rw [← newestFirst_perm.countP_eq, ← take_append_drop maxJobs database.newestFirst,
    countP_append, ← beyond, none]
  exact countP_le_length.trans (length_take_le _ _)

theorem beyond_subset {fewer : Database} (keeps : JobRow → Bool)
    (distinct : (database.jobs.entries.map JobRow.startedAt).Nodup)
    (rest : fewer.jobs.entries = database.jobs.entries.filter keeps) :
    fewer.beyond maxJobs ⊆ database.beyond maxJobs := by
  have same : fewer.newestFirst = database.newestFirst.filter keeps := by
    refine List.Perm.eq_of_pairwise ?_ newestFirst_pairwise
      (newestFirst_pairwise.sublist filter_sublist)
      (newestFirst_perm.trans (rest ▸ (newestFirst_perm.filter keeps).symm))
    intro row other left right newer older
    refine inj_on_of_nodup_map distinct ?_ (newestFirst_perm.mem_iff.mp (mem_of_mem_filter right))
      (le_antisymm older newer)
    exact mem_of_mem_filter (rest ▸ newestFirst_perm.mem_iff.mp left)
  rw [beyond, same]
  exact (filter_sublist.drop maxJobs).subset

/-- At most the newest jobs are left.  A multi-client job is kept or removed
with all of its jobs, and a job is removed only if it is beyond the newest or
belongs to a multi-client job with one that is. -/
structure CleanedUp (before after : Database) (maxJobs : Nat) : Prop where
  few : after.jobs.entries.length ≤ maxJobs
  whole : ∀ parent, (∀ multiJob ∈ before.multiJobs, multiJob.jid = parent →
      multiJob ∈ after.multiJobs) ∧
    (∀ row ∈ before.jobs.entries, row.multiJobID = some parent → row ∈ after.jobs.entries) ∨
    (∀ multiJob ∈ after.multiJobs, multiJob.jid ≠ parent) ∧
    ∀ row ∈ after.jobs.entries, row.multiJobID ≠ some parent
  justified : ∀ row ∈ before.jobs.entries, row ∉ after.jobs.entries →
    row ∈ before.beyond maxJobs ∨ ∃ other ∈ before.beyond maxJobs,
      ∃ parent, row.multiJobID = some parent ∧ other.multiJobID = some parent

theorem cleanup_keeps_newest (database : Database) (maxJobs : Nat)
    (distinct : (database.jobs.entries.map JobRow.startedAt).Nodup) :
    CleanedUp database (database.cleanupJobsMultiJobs maxJobs) maxJobs := by
  let second := (database.deleteMultiJobs maxJobs).deleteMultiJobsJobs maxJobs
  have isBeyond : second.beyond maxJobs ⊆ database.beyond maxJobs := beyond_subset _ distinct rfl
  have inSecond {row : JobRow} : row ∈ second.jobs.entries ↔
      row ∈ database.jobs.entries ∧ ∀ parent ∈ row.multiJobID,
        parent ∉ database.beyondMultiJobs maxJobs :=
    mem_filter.trans (and_congr_right' decide_eq_true_iff)
  have inAfter {row : JobRow} : row ∈ (database.cleanupJobsMultiJobs maxJobs).jobs.entries ↔
        row ∈ second.jobs.entries ∧ (row.jid ∈ (second.beyond maxJobs).map JobRow.jid →
            row.multiJobID ≠ none) :=
    mem_filter.trans (and_congr_right' decide_eq_true_iff)
  constructor
  · have few : second.jobs.entries.countP (· ∉ second.beyond maxJobs) ≤
        maxJobs := countP_newest_le
    refine le_trans (le_of_eq countP_eq_length_filter.symm) (le_trans ?_ few)
    apply countP_mono_left
    intro row kept stays
    rw [decide_eq_true_iff] at stays ⊢
    intro old
    -- a job of a multi-client job would be gone by now
    have lonely : row.multiJobID = none := by
      rw [Option.eq_none_iff_forall_not_mem]
      intro parent own
      exact (inSecond.mp kept).2 parent own (mem_filterMap.mpr ⟨row, isBeyond old, own⟩)
    exact stays (mem_map_of_mem old) lonely
  · intro parent
    by_cases gone : parent ∈ database.beyondMultiJobs maxJobs
    · refine .inr ⟨?_, ?_⟩
      · rintro multiJob member rfl
        simpa [gone] using (mem_filter.mp member).2
      · intro row member own
        exact (inSecond.mp (inAfter.mp member).1).2 parent own gone
    · refine .inl ⟨?_, ?_⟩
      · rintro multiJob member rfl
        exact mem_filter.mpr ⟨member, by simpa using gone⟩
      · intro row member own
        refine inAfter.mpr ⟨inSecond.mpr ⟨member, ?_⟩, by simp [own]⟩
        simpa [own] using gone
  · intro row member removed
    by_cases kept : row ∈ second.jobs.entries
    · have same : row.jid ∈ (second.beyond maxJobs).map JobRow.jid := by
        by_contra other
        exact removed (inAfter.mpr ⟨kept, fun found => absurd found other⟩)
      obtain ⟨other, old, sameID⟩ := mem_map.mp same
      have isRow := inj_on_of_nodup_map second.jobs.distinct
        (newestFirst_perm.mem_iff.mp (mem_of_mem_drop old)) kept sameID
      exact .inl (isBeyond (isRow ▸ old))
    · have found : ∃ parent ∈ row.multiJobID, parent ∈ database.beyondMultiJobs maxJobs := by
        by_contra none
        simp only [not_exists, not_and] at none
        exact kept (inSecond.mpr ⟨member, none⟩)
      obtain ⟨parent, own, listed⟩ := found
      obtain ⟨other, old, sameParent⟩ := mem_filterMap.mp listed
      exact .inr ⟨other, old, parent, own, sameParent⟩

def plainRow (jid : String) (startedAt : Time) (multiJobID : Option String) :
    JobRow :=
  ⟨jid, "successful", startedAt, none, "user", "a", multiJobID, none⟩

def threeJobs : Database where
  jobs := ((Keyed.Table.empty.put (plainRow "a" 1 (some "run"))).put
    (plainRow "b" 2 (some "run"))).put (plainRow "c" 3 none)
  multiJobs := [⟨"run", none⟩]

theorem cleanup_keeps_newest_threeJobs : CleanedUp threeJobs (threeJobs.cleanupJobsMultiJobs 2) 2 :=
  cleanup_keeps_newest threeJobs 2 (by decide)

end ProxiPort.Jobs.Database
