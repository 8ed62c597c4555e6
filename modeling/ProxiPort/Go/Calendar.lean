import Mathlib.Data.Nat.Cast.Order.Basic
import Mathlib.Tactic.NormNum.Basic
import ProxiPort.Go.Time

/-!
# Dates in texts

Dates follow one another as instants do, and texts of numbers with leading zeros
as the numbers do.
-/

namespace ProxiPort

open List

theorem append_lt_append {first second rest more : List Char} (same : first.length = second.length)
    (less : first < second) : first ++ rest < second ++ more := by
  induction first generalizing second with
  | nil => cases second <;> simp_all
  | cons character first induction =>
    cases second with
    | nil => cases same
    | cons other second =>
      rw [cons_lt_cons_iff] at less
      rw [cons_append, cons_append, cons_lt_cons_iff]
      exact less.imp_right fun later => ⟨later.1, induction (Nat.succ.inj same) later.2⟩

def padded (width value : Nat) : List Char :=
  replicate (width - (Nat.toDigits 10 value).length) '0' ++ Nat.toDigits 10 value

theorem length_padded {width value : Nat} (fits : value < 10 ^ (width + 1)) :
    (padded (width + 1) value).length = width + 1 := by
  have short := (Nat.length_toDigits_le_iff (by decide : 1 < 10) (Nat.succ_pos width)).mpr fits
  rw [padded, length_append, length_replicate]
  omega

theorem padded_succ (width value : Nat) :
    padded (width + 2) value = padded (width + 1) (value / 10) ++ [Nat.digitChar (value % 10)] := by
  rw [padded, Nat.toDigits_eq_if (by decide)]
  split
  · rename_i small
    rw [Nat.div_eq_of_lt small, Nat.mod_eq_of_lt small, padded, Nat.toDigits_zero]
    simp [replicate_succ']
  · rw [padded, length_append, length_singleton, append_assoc]
    congr 2
    omega

theorem digitChar_lt {digit larger : Nat} (less : digit < larger) (fits : larger < 10) :
    Nat.digitChar digit < Nat.digitChar larger := by
  change (Nat.digitChar digit).toNat < (Nat.digitChar larger).toNat
  rw [Nat.toNat_digitChar_of_lt_ten fits, Nat.toNat_digitChar_of_lt_ten (less.trans fits)]
  omega

theorem padded_lt {width value other : Nat} (less : value < other)
    (fits : other < 10 ^ (width + 1)) : padded (width + 1) value < padded (width + 1) other := by
  induction width generalizing value other with
  | zero =>
    rw [Nat.zero_add, Nat.pow_one] at fits
    rw [padded, padded, Nat.toDigits_of_lt_base (less.trans fits), Nat.toDigits_of_lt_base fits]
    exact cons_lt_cons_iff.mpr (.inl (digitChar_lt less fits))
  | succ width induction =>
    rw [padded_succ, padded_succ]
    by_cases quotient : value / 10 = other / 10
    · rw [quotient]
      apply append_left_lt
      exact cons_lt_cons_iff.mpr (.inl (digitChar_lt (by omega) (by omega)))
    · have small : other / 10 < 10 ^ (width + 1) := by
        rw [Nat.pow_succ] at fits
        omega
      apply append_lt_append _ (induction (by omega) small)
      rw [length_padded, length_padded small]
      omega

theorem toList_digits (width value : Nat) :
    (Time.digits width value).toList = padded width value := by
  simp [Time.digits, padded, Nat.toList_repr]

/-- The fields of a date or of a clock fit their widths. -/
def Fit (width : Nat) (fields : Int × Int × Int) : Prop :=
  (0 ≤ fields.1 ∧ fields.1 < 10 ^ width) ∧ (0 ≤ fields.2.1 ∧ fields.2.1 < 10 ^ 2) ∧
    0 ≤ fields.2.2 ∧ fields.2.2 < 10 ^ 2

def triple (width : Nat) (fields : Int × Int × Int) : String :=
  Time.digits width fields.1 ++ "-" ++ Time.digits 2 fields.2.1 ++ "-" ++ Time.digits 2 fields.2.2

def Precedes (fields other : Int × Int × Int) : Prop :=
  fields.1 < other.1 ∨ fields.1 = other.1 ∧ (fields.2.1 < other.2.1 ∨
    fields.2.1 = other.2.1 ∧ fields.2.2 < other.2.2)

theorem length_digits (width : Nat) {value : Int} (fits : 0 ≤ value ∧ value < 10 ^ (width + 1)) :
    (Time.digits (width + 1) value).toList.length = width + 1 := by
  obtain ⟨value, rfl⟩ := Int.eq_ofNat_of_zero_le fits.1
  rw [toList_digits, length_padded (by exact_mod_cast fits.2)]

theorem digits_lt {width : Nat} {value other : Int} (positive : 0 ≤ value) (less : value < other)
    (fits : other < 10 ^ (width + 1)) :
    (Time.digits (width + 1) value).toList < (Time.digits (width + 1) other).toList := by
  obtain ⟨value, rfl⟩ := Int.eq_ofNat_of_zero_le positive
  obtain ⟨other, rfl⟩ := Int.eq_ofNat_of_zero_le (positive.trans less.le)
  rw [toList_digits, toList_digits]
  exact padded_lt (by exact_mod_cast less) (by exact_mod_cast fits)

theorem length_triple {width : Nat} {fields : Int × Int × Int} (fit : Fit (width + 1) fields) :
    (triple (width + 1) fields).toList.length = width + 7 := by
  simp [triple, length_digits _ fit.1, length_digits 1 fit.2.1, length_digits 1 fit.2.2]

theorem triple_append_lt {width : Nat} {fields other : Int × Int × Int} {rest more : List Char}
    (fit : Fit (width + 1) fields) (otherFit : Fit (width + 1) other)
    (precedes : Precedes fields other) :
    (triple (width + 1) fields).toList ++ rest < (triple (width + 1) other).toList ++ more := by
  apply append_lt_append (by rw [length_triple fit, length_triple otherFit])
  simp only [triple, String.toList_append, append_assoc]
  rcases precedes with first | ⟨same, second | ⟨also, third⟩⟩
  · apply append_lt_append _ (digits_lt fit.1.1 first otherFit.1.2)
    rw [length_digits _ fit.1, length_digits _ otherFit.1]
  · rw [same]
    apply append_left_lt
    apply append_left_lt
    apply append_lt_append _ (digits_lt fit.2.1.1 second otherFit.2.1.2)
    rw [length_digits 1 fit.2.1, length_digits 1 otherFit.2.1]
  · rw [same, also]
    repeat apply append_left_lt
    exact digits_lt fit.2.2.1 third otherFit.2.2.2

def yearOfEra (day : Int) : Int := (day - day / 1460 + day / 36524 - day / 146096) / 365

def dayOfYear (day : Int) : Int :=
  day - (365 * yearOfEra day + yearOfEra day / 4 - yearOfEra day / 100)

theorem yearOfEra_bounds {day : Int} (first : 0 ≤ day) (last : day ≤ 146096) :
    0 ≤ yearOfEra day ∧ yearOfEra day ≤ 399 ∧ 0 ≤ dayOfYear day ∧ dayOfYear day ≤ 366 := by
  rw [dayOfYear, yearOfEra]
  generalize year : (day - day / 1460 + day / 36524 - day / 146096) / 365 = yearOfEra
  have leap : yearOfEra / 4 ≤ day / 1460 := by omega
  have century : day / 36524 - day / 146096 ≤ yearOfEra / 100 := by omega
  omega

theorem yearOfEra_mono {day later : Int} (first : 0 ≤ day) (order : day ≤ later)
    (last : later ≤ 146096) : yearOfEra day ≤ yearOfEra later := by
  have leap : later / 1460 - day / 1460 ≤ later - day := by omega
  have century : day / 36524 - day / 146096 ≤ later / 36524 - later / 146096 := by omega
  apply Int.ediv_le_ediv (by decide)
  omega

namespace Time

def day (time : Time) : Int := Int.fdiv time.unix 86400

/-- The year that begins in March, and the day of it. -/
def marchDate (time : Time) : Int × Int :=
  let days := time.day + 719468
  let dayOfEra := days - days / 146097 * 146097
  (yearOfEra dayOfEra + days / 146097 * 400, dayOfYear dayOfEra)

theorem marchDate_bounds (time : Time) : 0 ≤ time.marchDate.2 ∧ time.marchDate.2 ≤ 366 :=
  (yearOfEra_bounds (by omega) (by omega)).2.2

theorem marchDate_lt {time other : Time} (earlier : time.day < other.day) :
    time.marchDate.1 < other.marchDate.1 ∨
      time.marchDate.1 = other.marchDate.1 ∧ time.marchDate.2 < other.marchDate.2 := by
  have order : time.day + 719468 < other.day + 719468 := by omega
  simp only [marchDate]
  generalize time.day + 719468 = days, other.day + 719468 = later at order
  generalize era : days / 146097 = first, eras : later / 146097 = second
  have bounds : 0 ≤ days - first * 146097 ∧ days - first * 146097 ≤ 146096 ∧
      0 ≤ later - second * 146097 ∧ later - second * 146097 ≤ 146096 := by omega
  generalize day : days - first * 146097 = start, days' : later - second * 146097 = last at bounds
  have year := yearOfEra_bounds bounds.1 bounds.2.1
  have next := yearOfEra_bounds bounds.2.2.1 bounds.2.2.2
  by_cases same : first = second
  · have mono := yearOfEra_mono bounds.1 (by omega) bounds.2.2.2
    simp only [dayOfYear]
    generalize yearOfEra start = year, yearOfEra last = other at mono
    omega
  · omega

theorem date_eq (time : Time) :
    12 * time.date.1 + time.date.2.1 =
      12 * time.marchDate.1 + (5 * time.marchDate.2 + 2) / 153 + 3 ∧
    time.date.2.2 = time.marchDate.2 - (153 * ((5 * time.marchDate.2 + 2) / 153) + 2) / 5 + 1 ∧
    1 ≤ time.date.2.1 ∧ time.date.2.1 ≤ 12 := by
  have bounds := time.marchDate_bounds
  have date : time.date =
      let shifted := (5 * time.marchDate.2 + 2) / 153
      let month := if shifted < 10 then shifted + 3 else shifted - 9
      (time.marchDate.1 + if month ≤ 2 then 1 else 0, month,
        time.marchDate.2 - (153 * shifted + 2) / 5 + 1) := by
    simp only [Time.date, Int.fdiv_eq_ediv_of_nonneg _ (by decide : (0 : Int) ≤ 146097)]
    rfl
  rw [date]
  generalize time.marchDate = date at bounds
  grind

theorem date_fit {time : Time} (first : 0 ≤ time.date.1) (last : time.date.1 ≤ 9999) :
    Fit 4 time.date := by
  have date := time.date_eq
  have bounds := time.marchDate_bounds
  simp only [Fit]
  omega

theorem date_lt {time other : Time} (earlier : time.day < other.day) :
    Precedes time.date other.date := by
  have order := marchDate_lt earlier
  have bounds := time.marchDate_bounds
  have later := other.marchDate_bounds
  have first := time.date_eq
  have second := other.date_eq
  simp only [Precedes]
  omega

theorem seconds_eq (time : Time) :
    Int.fmod time.unix 86400 = time.unix - 86400 * time.day ∧
      0 ≤ time.unix - 86400 * time.day ∧ time.unix - 86400 * time.day < 86400 := by
  rw [day, Int.fdiv_eq_ediv_of_nonneg _ (by decide), Int.fmod_eq_emod_of_nonneg _ (by decide)]
  omega

theorem clock_fit (time : Time) : Fit 2 time.clock := by
  have seconds := time.seconds_eq
  simp only [Fit, clock]
  omega

theorem clock_lt {time other : Time} (day : time.day = other.day)
    (less : time.unix < other.unix) : Precedes time.clock other.clock := by
  have first := time.seconds_eq
  have second := other.seconds_eq
  simp only [Precedes, clock]
  omega

end Time

end ProxiPort
