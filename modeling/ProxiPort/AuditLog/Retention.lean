import ProxiPort.AuditLog.RotationSafety
import ProxiPort.Go.Calendar

/-!
# What retention keeps

The names of rotated files, in either of their two forms, are in the order of the
instants they stand for, and pruning removes files in the order of their names.
-/

namespace ProxiPort.AuditLog

open List Keyed

/-- What a rotated file is named after: an instant, or in the older form its date. -/
inductive Stamp where
  | date (time : Time)
  | instant (time : Time)

namespace Stamp

def name : Stamp → String
  | .date time => "auditlog." ++ triple 4 time.date ++ ".db"
  | .instant time => rotatedName time

def time : Stamp → Time
  | .date time | .instant time => time

def InRange (stamp : Stamp) : Prop := 0 ≤ stamp.time.date.1 ∧ stamp.time.date.1 ≤ 9999

/-- The second that a file counts as.  A date is the start of its day. -/
def second : Stamp → Int
  | .date time => 86400 * time.day
  | .instant time => time.unix

/-- Of a date and an instant in the same second the date is older. -/
def Older : Stamp → Stamp → Prop
  | .date time, .instant other => 86400 * time.day ≤ other.unix
  | first, other => first.second < other.second

def tail : Stamp → String
  | .date _ => ".db"
  | .instant time => "T" ++ triple 2 time.clock ++ "Z.db"

theorem name_eq (stamp : Stamp) :
    stamp.name = "auditlog." ++ (triple 4 stamp.time.date ++ stamp.tail) := by
  cases stamp with
  | date time => simp [name, Stamp.time, tail, String.append_assoc]
  | instant time => simp [name, rotatedName, Stamp.time, tail, triple, String.append_assoc]

variable {first other : Stamp}

theorem day_le (older : first.Older other) : first.time.day ≤ other.time.day := by
  have bounds := first.time.seconds_eq
  have others := other.time.seconds_eq
  cases first <;> cases other <;> simp only [Older, second, time] at * <;> omega

theorem tail_lt (older : first.Older other) (day : first.time.day = other.time.day) :
    first.tail.toList < other.tail.toList := by
  have bounds := first.time.seconds_eq
  cases first with
  | date time =>
    cases other with
    | date => simp only [Older, second, Stamp.time] at older day; omega
    | instant => simp [tail, cons_lt_cons_iff]
  | instant time =>
    cases other with
    | date => simp only [Older, second, Stamp.time] at *; omega
    | instant other =>
      simp only [tail, String.toList_append, append_assoc]
      apply append_left_lt
      exact triple_append_lt time.clock_fit other.clock_fit (Time.clock_lt day older)

theorem lt_of_toList_lt {first other : String} (less : first.toList < other.toList) :
    first < other := less

theorem name_lt (firstRange : first.InRange) (otherRange : other.InRange)
    (older : first.Older other) : first.name < other.name := by
  apply lt_of_toList_lt
  simp only [name_eq, String.toList_append]
  apply append_left_lt
  by_cases day : first.time.day = other.time.day
  · have date : first.time.date = other.time.date := by
      simp only [Time.date, ← Time.day.eq_def, day]
    rw [date]
    exact append_left_lt (tail_lt older day)
  · exact triple_append_lt (Time.date_fit firstRange.1 firstRange.2)
      (Time.date_fit otherRange.1 otherRange.2) (Time.date_lt ((day_le older).lt_of_ne day))

theorem older_or (first other : Stamp) :
    first.Older other ∨ other.Older first ∨ first.name = other.name := by
  cases first with
  | date time =>
    cases other with
    | date other =>
      rcases lt_trichotomy (86400 * time.day) (86400 * other.day) with less | same | less
      · exact .inl less
      · have day : time.day = other.day := by omega
        exact .inr (.inr (by simp only [name, Time.date, ← Time.day.eq_def, day]))
      · exact .inr (.inl less)
    | instant other => exact (le_or_gt _ _).imp_right .inl
  | instant time =>
    cases other with
    | date other => exact (lt_or_ge _ _).imp_right .inl
    | instant other =>
      rcases lt_trichotomy time.unix other.unix with less | same | less
      · exact .inl less
      · exact .inr (.inr (by simp only [name, rotatedName, Time.date, Time.clock, same]))
      · exact .inr (.inl less)

end Stamp

/-- Rotated files are removed from the oldest on, and if nothing fails as many as
are to be kept are left; nothing else is touched. -/
theorem retention_keeps_newest (settings : Settings) (faults : RotateFaults)
    (positive : 0 < settings.retention) (clear : faults.glob = none) (directory : Directory) :
    ∃ removed kept, directory.rotated = removed ++ kept ∧ sqliteFilename ∉ removed ∧
      (∀ name, (pruneRotated settings faults directory).1.get name =
        if name ∈ removed then none else directory.get name) ∧
      (∀ first other : Stamp, first.InRange → other.InRange →
        first.name ∈ removed → other.name ∈ kept → first.Older other) ∧
      ((∀ i, faults.remove i = none) →
        (kept.length : Int) = min settings.retention directory.rotated.length) := by
  obtain ⟨count, _, _, _, rest, all⟩ := pruneRotated_spec settings faults directory
  refine ⟨directory.rotated.take count, directory.rotated.drop count, (take_append_drop _ _).symm,
    fun live => ?_, rest, ?_, fun works => ?_⟩
  · exact absurd (Directory.mem_rotated (mem_of_mem_take live)).1 (by decide)
  · intro first other firstRange otherRange isRemoved isKept
    have sorted : directory.rotated.Pairwise (· ≤ ·) := pairwise_insertionSort _ _
    have distinct := directory.rotated_nodup
    rw [← take_append_drop count directory.rotated] at sorted distinct
    have before := (pairwise_append.mp sorted).2.2 _ isRemoved _ isKept
    rcases first.older_or other with older | newer | equal
    · exact older
    · exact absurd (Stamp.name_lt otherRange firstRange newer) before
    · exact absurd (equal ▸ isKept) (disjoint_left.mp (disjoint_of_nodup_append distinct) isRemoved)
  · rw [length_drop, all positive clear works]
    omega

def twoRotated : Directory :=
  (Table.empty.put ⟨"auditlog.1970-01-01.db", []⟩).put ⟨rotatedName (86400 * second), []⟩

theorem retention_keeps_newest_twoRotated :
    (pruneRotated sampleSettings noRotateFaults twoRotated).1.entries.map File.name =
      ["auditlog.1970-01-02T00-00-00Z.db"] ∧
    ∃ removed kept, twoRotated.rotated = removed ++ kept ∧ (kept.length : Int) = 1 := by
  refine ⟨by decide +kernel, ?_⟩
  obtain ⟨removed, kept, all, _, _, _, enough⟩ :=
    retention_keeps_newest sampleSettings noRotateFaults (by decide) rfl twoRotated
  refine ⟨removed, kept, all, ?_⟩
  rw [enough fun _ => rfl]
  decide +kernel

end ProxiPort.AuditLog
