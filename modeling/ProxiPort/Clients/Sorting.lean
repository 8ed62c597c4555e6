import Mathlib.Data.String.Basic
import ProxiPort.Go.Unicode

/-!
# Sorting clients

The functions of `server/clients/sort.go`.  To sort in descending order they
negate the comparison, which then holds between a client and itself.
-/

namespace ProxiPort.Clients.Sorting

open List

structure CalculatedClient where
  id : String
  name : String
  os : String
  hostname : String
  version : String
deriving DecidableEq

inductive SortFunc
  | sortByID | sortByName | sortByOS | sortByHostname | sortByVersion

section

variable (unicode : Go.Unicode) (sortFunc : SortFunc) (desc : Bool) (ai aj : CalculatedClient)

def sortByID : Bool :=
  let less := decide (Go.toLower unicode ai.id < Go.toLower unicode aj.id)
  if desc then !less else less

def sortByField (field : CalculatedClient → String) : Bool :=
  let aiField := Go.toLower unicode (field ai)
  let ajField := Go.toLower unicode (field aj)
  let less := decide (aiField < ajField ∨
    aiField = ajField ∧ Go.toLower unicode ai.id < Go.toLower unicode aj.id)
  if desc then !less else less

def SortFunc.less : Bool :=
  match sortFunc with
  | .sortByID => Sorting.sortByID unicode desc ai aj
  | .sortByName => sortByField unicode desc ai aj (·.name)
  | .sortByOS => sortByField unicode desc ai aj (·.os)
  | .sortByHostname => sortByField unicode desc ai aj (·.hostname)
  | .sortByVersion => sortByField unicode desc ai aj (·.version)

end

section

variable (less : CalculatedClient → CalculatedClient → Bool)
  (clients result : List CalculatedClient)

structure Strict : Prop where
  irrefl : ∀ client ∈ clients, less client client = false
  trans : ∀ first ∈ clients, ∀ second ∈ clients, ∀ third ∈ clients,
    less first second = true → less second third = true → less first third = true

/-- What `sort.Slice` may leave: nothing stands behind what it is less than. -/
structure Sorted : Prop where
  perm : result.Perm clients
  ordered : result.Pairwise fun first second => less second first = false

variable (unicode : Go.Unicode) (sortFunc : SortFunc)

structure Canonical : Prop where
  strict : ∀ desc, Strict (sortFunc.less unicode desc) clients
  unique : ∀ {desc other first second}, other.Perm clients →
    Sorted (sortFunc.less unicode desc) clients first →
    Sorted (sortFunc.less unicode desc) other second → first = second
  reversed : ∀ {ascending descending}, Sorted (sortFunc.less unicode false) clients ascending →
    Sorted (sortFunc.less unicode true) clients descending → descending = ascending.reverse

theorem canonical_iff : Canonical clients unicode sortFunc ↔ clients = [] := by
  constructor
  · intro canonical
    refine eq_nil_iff_forall_not_mem.mpr ?_
    intro client member
    have reflexive := (canonical.strict true).irrefl client member
    cases sortFunc
    all_goals simp [SortFunc.less, sortByID, sortByField] at reflexive
  · rintro rfl
    refine ⟨fun _ => ⟨forall_mem_nil _, forall_mem_nil _⟩, ?_, ?_⟩
    · intro desc other first second same sorted again
      rw [sorted.perm.eq_nil, (again.perm.trans same).eq_nil]
    · intro ascending descending sorted again
      rw [sorted.perm.eq_nil, again.perm.eq_nil, reverse_nil]

end

def named (id : String) : CalculatedClient := ⟨id, "", "", "", ""⟩

/-- Two clients whose ids differ in case stay in the order in which they come. -/
theorem twins_not_canonical :
    (named "A").id ≠ (named "a").id ∧
      ¬ Canonical [named "A", named "a"] .ascii .sortByID := by
  refine ⟨by decide, ?_⟩
  intro canonical
  have stays : Sorted (SortFunc.sortByID.less .ascii false) [named "A", named "a"]
      [named "A", named "a"] := ⟨.rfl, by decide⟩
  exact absurd (canonical.unique .rfl stays ⟨.swap _ _ _, by decide⟩) (by decide)

end ProxiPort.Clients.Sorting
