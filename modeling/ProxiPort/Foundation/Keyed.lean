import Mathlib.Data.List.Nodup

/-!
# Lists of keyed entries

A finite map kept as a list of entries that know their own key.  Putting an
entry replaces every entry with the same key.
-/

namespace Keyed

open List

variable {Entry Key : Type} [DecidableEq Key]

def put (key : Entry → Key) (entry : Entry) (entries : List Entry) : List Entry :=
  entry :: entries.filter fun other => key other ≠ key entry

def remove (key : Entry → Key) (name : Key) (entries : List Entry) : List Entry :=
  entries.filter fun entry => key entry ≠ name

def lookup (key : Entry → Key) (name : Key) (entries : List Entry) : Option Entry :=
  entries.find? fun entry => key entry = name

variable {key : Entry → Key} {name : Key} {entry other : Entry}
  {entries : List Entry}

@[simp] theorem mem_put :
    other ∈ put key entry entries ↔
      other = entry ∨ other ∈ entries ∧ key other ≠ key entry := by
  simp [put]

@[simp] theorem mem_remove :
    entry ∈ remove key name entries ↔ entry ∈ entries ∧ key entry ≠ name := by
  simp [remove]

theorem mem_of_lookup (found : lookup key name entries = some entry) :
    entry ∈ entries ∧ key entry = name := by
  refine ⟨mem_of_find?_eq_some found, ?_⟩
  have matched := find?_some found
  simpa using matched

theorem lookup_eq_none_iff :
    lookup key name entries = none ↔ ∀ entry ∈ entries, key entry ≠ name := by
  simp [lookup]

theorem lookup_put_self : lookup key (key entry) (put key entry entries) = some entry := by
  simp [lookup, put]

theorem lookup_remove_self : lookup key name (remove key name entries) = none := by
  simp [lookup, remove]

theorem lookup_put_of_ne (different : name ≠ key entry) :
    lookup key name (put key entry entries) = lookup key name entries := by
  simp only [lookup, put, find?_cons, Ne.symm different, decide_false]
  rw [find?_filter]
  congr 1
  funext other
  by_cases same : key other = name
  · simp [same, different]
  · simp [same]

theorem lookup_remove_of_ne {other : Key} (different : name ≠ other) :
    lookup key name (remove key other entries) = lookup key name entries := by
  simp only [lookup, remove, find?_filter]
  congr 1
  funext entry
  by_cases same : key entry = name
  · simp [same, different]
  · simp [same]

theorem lookup_eq_some_iff (distinct : (entries.map key).Nodup) :
    lookup key name entries = some entry ↔ entry ∈ entries ∧ key entry = name := by
  constructor
  · exact mem_of_lookup
  · rintro ⟨member, rfl⟩
    cases found : lookup key (key entry) entries with
    | none => exact absurd rfl (lookup_eq_none_iff.mp found entry member)
    | some other =>
      obtain ⟨known, same⟩ := mem_of_lookup found
      rw [inj_on_of_nodup_map distinct known member same]

theorem lookup_filter (distinct : (entries.map key).Nodup) (test : Entry → Bool) :
    lookup key name (entries.filter test) = (lookup key name entries).filter test := by
  induction entries with
  | nil => rfl
  | cons first rest induction =>
    obtain ⟨fresh, others⟩ := nodup_cons.mp distinct
    by_cases same : key first = name
    · have absent : lookup key name (rest.filter test) = none := by
        apply lookup_eq_none_iff.mpr
        intro entry member again
        apply fresh
        rw [same, ← again]
        exact mem_map_of_mem (mem_of_mem_filter member)
      have found : lookup key name (first :: rest) = some first := by
        simp [lookup, same]
      rw [found, filter_cons]
      by_cases passes : test first = true
      · rw [if_pos passes, Option.filter_some_pos passes]
        simp [lookup, same]
      · rw [if_neg passes, absent, Option.filter_some_neg (eq_false_of_ne_true passes)]
    · have skipped : lookup key name (first :: rest) = lookup key name rest := by
        simp [lookup, same]
      rw [skipped, ← induction others, filter_cons]
      split
      · simp [lookup, same]
      · rfl

/-- Entries no two of which have the same key. -/
structure Table (key : Entry → Key) where
  entries : List Entry
  distinct : (entries.map key).Nodup

namespace Table

variable {table : Table key}

def get (table : Table key) (name : Key) : Option Entry := lookup key name table.entries

def put (table : Table key) (entry : Entry) : Table key where
  entries := Keyed.put key entry table.entries
  distinct := by
    simp only [Keyed.put, map_cons, nodup_cons]
    refine ⟨?_, table.distinct.sublist (List.Sublist.map _ filter_sublist)⟩
    intro member
    obtain ⟨other, kept, same⟩ := mem_map.mp member
    have different := (mem_filter.mp kept).2
    simp [same] at different

def empty : Table key where
  entries := []
  distinct := nodup_nil

def remove (table : Table key) (name : Key) : Table key where
  entries := Keyed.remove key name table.entries
  distinct := table.distinct.sublist (List.Sublist.map _ filter_sublist)

def filter (table : Table key) (test : Entry → Bool) : Table key where
  entries := table.entries.filter test
  distinct := table.distinct.sublist (List.Sublist.map _ filter_sublist)

theorem get_eq_some_iff : table.get name = some entry ↔ entry ∈ table.entries ∧ key entry = name :=
  lookup_eq_some_iff table.distinct

@[simp] theorem get_put_self : (table.put entry).get (key entry) = some entry := lookup_put_self

theorem get_put_of_ne (different : name ≠ key entry) :
    (table.put entry).get name = table.get name :=
  lookup_put_of_ne different

theorem get_put_cases (found : (table.put entry).get name = some other) :
    name = key entry ∧ other = entry ∨ name ≠ key entry ∧ table.get name = some other := by
  by_cases same : name = key entry
  · subst same
    cases get_put_self.symm.trans found
    exact .inl ⟨rfl, rfl⟩
  · exact .inr ⟨same, (get_put_of_ne same).symm.trans found⟩

@[simp] theorem get_empty : (empty : Table key).get name = none :=
  rfl

@[simp] theorem get_remove_self : (table.remove name).get name = none := lookup_remove_self

theorem get_remove_of_ne {other : Key} (different : name ≠ other) :
    (table.remove other).get name = table.get name :=
  lookup_remove_of_ne different

theorem remove_of_get_eq_none (absent : table.get name = none) : table.remove name = table := by
  have kept : Keyed.remove key name table.entries = table.entries :=
    filter_eq_self.mpr fun entry member => by
      simpa using lookup_eq_none_iff.mp absent entry member
  cases table
  simp only [remove, mk.injEq]
  exact kept

theorem get_of_get_remove {other : Key} (left : (table.remove other).get name = some entry) :
    table.get name = some entry := by
  by_cases same : name = other
  · rw [same, get_remove_self] at left
    cases left
  · rwa [get_remove_of_ne same] at left

end Table

end Keyed
