import Mathlib.Data.List.Dedup
import Mathlib.Data.List.Perm.Subperm
import ProxiPort.Go.Time

/-!
# The retention of measurements

`DeleteMeasurementsOlderThan` of `server/monitoring/service.go` deletes old
measurements in rounds.  A round selects a limited number of timestamps, and
counts rows.
-/

namespace ProxiPort.Monitoring

open List

def maxDeletedEntries : Nat := 5000

variable {Measurement : Type} (timestamp : Measurement → Time)

/-- The timestamps that the subquery of `DeleteMeasurementsBefore` selects. -/
def oldest (compare : Time) (rows : List Measurement) : List Time :=
  let old := (rows.map timestamp).filter (· < compare)
  (old.dedup.mergeSort (· ≤ ·)).take maxDeletedEntries

def deleteMeasurementsBefore (compare : Time) (rows : List Measurement) : List Measurement × Nat :=
  let selected := oldest timestamp compare rows
  (rows.filter (timestamp · ∉ selected), rows.countP (timestamp · ∈ selected))

variable {timestamp} {compare : Time} {rows : List Measurement}

theorem of_mem_oldest {time : Time} (member : time ∈ oldest timestamp compare rows) :
    time < compare ∧ ∃ row ∈ rows, timestamp row = time := by
  have found := mem_mergeSort.mp (mem_of_mem_take member)
  simpa [and_comm] using found

/-- A round that deletes fewer rows than it may select timestamps has selected
all of the old ones. -/
theorem mem_oldest_iff (few : (deleteMeasurementsBefore timestamp compare rows).2 <
      maxDeletedEntries) {row : Measurement} (member : row ∈ rows) :
    timestamp row ∈ oldest timestamp compare rows ↔ timestamp row < compare := by
  refine ⟨fun selected => (of_mem_oldest selected).1, fun old => ?_⟩
  have distinct : (oldest timestamp compare rows).Nodup := by
    apply (take_sublist _ _).nodup
    exact (mergeSort_perm _ _).nodup_iff.mpr (nodup_dedup _)
  have subset : oldest timestamp compare rows ⊆ (rows.filter
      (timestamp · ∈ oldest timestamp compare rows)).map timestamp := by
    intro time selected
    obtain ⟨_, row, stored, rfl⟩ := of_mem_oldest selected
    exact mem_map_of_mem (mem_filter.mpr ⟨stored, decide_eq_true selected⟩)
  have bound := (subperm_of_subset distinct subset).length_le
  rw [length_map, ← countP_eq_length_filter] at bound
  have short := Nat.lt_of_le_of_lt bound few
  rw [oldest, take_of_length_le]
  · simpa using ⟨⟨row, member, rfl⟩, old⟩
  · rw [oldest, length_take] at short
    omega

def drain (timestamp : Measurement → Time) (compare : Time) (total : Nat)
    (rows : List Measurement) : List Measurement × Nat :=
  let round := deleteMeasurementsBefore timestamp compare rows
  if round.2 < maxDeletedEntries then (round.1, total + round.2)
  else drain timestamp compare (total + round.2) round.1
termination_by rows.length
decreasing_by
  rename_i many
  have some : 0 < round.2 := Nat.lt_of_lt_of_le (by decide) (Nat.not_lt.mp many)
  obtain ⟨row, member, selected⟩ := countP_pos_iff.mp some
  exact length_filter_lt_length_iff_exists.mpr ⟨row, member, by simpa using selected⟩

def deleteMeasurementsOlderThan (timestamp : Measurement → Time) (now : Time)
    (period : Int) (rows : List Measurement) : List Measurement × Nat :=
  drain timestamp (now - period) 0 rows

theorem drain_eq (total : Nat) :
    drain timestamp compare total rows =
    (rows.filter (compare ≤ timestamp ·), total + rows.countP (timestamp · < compare)) := by
  fun_induction drain timestamp compare total rows with
  | case1 total rows round few =>
    have same {row : Measurement} (member : row ∈ rows) := mem_oldest_iff few member
    congr 1
    · apply filter_congr
      intro row member
      simp [same member]
    · congr 1
      apply countP_congr
      intro row member
      simp [same member]
  | case2 total rows round many induction =>
    have old : ∀ row, timestamp row ∈ oldest timestamp compare rows →
        timestamp row < compare := fun row member => (of_mem_oldest member).1
    rw [induction, countP_eq_countP_filter_add rows _ (timestamp · ∈ oldest timestamp compare rows)]
    simp only [round, deleteMeasurementsBefore, filter_filter,
      countP_filter, decide_not, Nat.add_assoc]
    congr 1
    · apply filter_congr
      intro row _
      simpa using fun newer selected =>
        absurd (old row selected) (Int.not_lt.mpr newer)
    · congr 2
      apply countP_congr
      intro row _
      simpa using old row

/-- The old measurements are deleted and counted, and no others. -/
theorem retention_drains_backlog (timestamp : Measurement → Time) (now : Time)
    (period : Int) (rows : List Measurement) :
    deleteMeasurementsOlderThan timestamp now period rows =
      (rows.filter (now - period ≤ timestamp ·), rows.countP (timestamp · < now - period)) := by
  rw [deleteMeasurementsOlderThan, drain_eq, Nat.zero_add]

end ProxiPort.Monitoring
