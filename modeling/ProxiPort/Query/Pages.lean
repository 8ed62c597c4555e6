import ProxiPort.Query.Options

/-!
# Pages

`GetStartEnd` of `share/query/pagination.go` on a 64-bit machine, where the sum
of an offset and a limit can wrap around.
-/

namespace ProxiPort.Query

open List

def Pagination.getStartEnd (p : Pagination) (totalCount : Int) : Int × Int :=
  let totalCount := if totalCount < 0 then 0 else totalCount
  let start := if p.validatedOffset < 0 then 0 else p.validatedOffset
  let start := if start > totalCount then totalCount else start
  let stop := (start + p.validatedLimit).bmod (2 ^ 64)
  (start, if stop < start ∨ stop > totalCount then totalCount else stop)

def Pagination.slice {Item : Type} (p : Pagination) (items : List Item) : List Item :=
  let (start, stop) := p.getStartEnd items.length
  (items.drop start.toNat).take (stop.toNat - start.toNat)

variable {p : Pagination} {total : Int}

theorem Pagination.getStartEnd_bounds (p : Pagination) (total : Int) :
    0 ≤ (p.getStartEnd total).1 ∧
      (p.getStartEnd total).1 ≤ (p.getStartEnd total).2 ∧
      (p.getStartEnd total).2 ≤ max total 0 := by
  simp only [getStartEnd]
  split_ifs <;> omega

structure Pagination.Checked (p : Pagination) : Prop where
  limit : 0 < p.validatedLimit ∧ p.validatedLimit < 2 ^ 63
  offset : 0 ≤ p.validatedOffset

theorem checked_of_validatePagination {unicode : Go.Unicode} {config : PaginationConfig}
    (accepted : (validatePagination unicode p config).2 = []) :
    (validatePagination unicode p config).1.Checked := by
  obtain ⟨limits, offsets⟩ := append_eq_nil_iff.mp accepted
  constructor
  · simp only [limitErrors] at limits
    split at limits
    · cases limits
    · rename_i limit read
      have range := (Option.filter_eq_some_iff.mp read).2
      rw [Bool.and_eq_true, decide_eq_true_eq, decide_eq_true_eq] at range
      simp_all [validatePagination]
  · simp only [offsetErrors] at offsets
    split at offsets
    · cases offsets
    · simp_all [validatePagination]

theorem Pagination.Checked.getStartEnd_eq (checked : p.Checked)
    (fits : total < 2 ^ 63) : p.getStartEnd total = (min p.validatedOffset (max total 0),
        min (p.validatedOffset + p.validatedLimit) (max total 0)) := by
  obtain ⟨⟨positive, small⟩, offset⟩ := checked
  simp only [getStartEnd, Int.bmod]
  ext <;> simp <;> split_ifs <;> omega

theorem Pagination.Checked.slice_eq {Item : Type} {items : List Item}
    (checked : p.Checked) (fits : items.length < 2 ^ 63) :
    p.slice items = (items.drop p.validatedOffset.toNat).take p.validatedLimit.toNat := by
  obtain ⟨limit, offset⟩ := checked
  rw [slice, Checked.getStartEnd_eq ⟨limit, offset⟩ (by omega)]
  dsimp only
  by_cases inside : p.validatedOffset ≤ items.length
  · have start : min p.validatedOffset (max items.length 0) = p.validatedOffset := by omega
    rw [start, take_eq_take_iff, length_drop]
    omega
  · rw [drop_of_length_le (by omega), drop_of_length_le (by omega), take_nil, take_nil]

/-- Whatever a pagination holds, it is cut to a valid range.  One that is
accepted gives the range in exact arithmetic, and the pages of its limit are
the list, one after the other. -/
theorem pages_tile {unicode : Go.Unicode} {config : PaginationConfig}
    (accepted : (validatePagination unicode p config).2 = []) :
    (∀ (any : Pagination) total, 0 ≤ (any.getStartEnd total).1 ∧
      (any.getStartEnd total).1 ≤ (any.getStartEnd total).2 ∧
      (any.getStartEnd total).2 ≤ max total 0) ∧
    ∀ checked, (validatePagination unicode p config).1 = checked →
      (∀ total < 2 ^ 63, checked.getStartEnd total = (min checked.validatedOffset (max total 0),
          min (checked.validatedOffset + checked.validatedLimit) (max total 0))) ∧
      ∀ {Item : Type} (items : List Item), items.length < 2 ^ 63 → ∀ count,
        ((List.range count).flatMap fun page =>
          { checked with
            validatedOffset := page * checked.validatedLimit }.slice items) =
        items.take (count * checked.validatedLimit.toNat) := by
  refine ⟨Pagination.getStartEnd_bounds, ?_⟩
  intro checked same
  have sound := checked_of_validatePagination accepted
  rw [same] at sound
  refine ⟨fun total fits => sound.getStartEnd_eq fits, ?_⟩
  intro Item items fits count
  induction count with
  | zero => simp
  | succ count induction =>
    have next : { checked with
        validatedOffset := count * checked.validatedLimit }.Checked :=
      ⟨sound.limit, Int.mul_nonneg (Int.natCast_nonneg _) sound.limit.1.le⟩
    rw [range_succ, flatMap_append, induction, flatMap_singleton,
      next.slice_eq fits, Nat.add_mul, Nat.one_mul, take_add]
    simp [Int.toNat_mul, sound.limit.1.le]

theorem pages_tile_twoPages : ((List.range 2).flatMap fun page =>
      (⟨"2", "0", 2, page * 2⟩ : Pagination).slice ["a", "b", "c"]) =
      ["a", "b", "c"] :=
  ((pages_tile (by decide : (validatePagination .ascii ⟨"2", "0", 0, 0⟩
    ⟨10, 5⟩).2 = [])).2 _ rfl).2 _ (by decide) 2

end ProxiPort.Query
