import ProxiPort.Go.Match
import ProxiPort.Go.Unicode

/-!
# Measured partitions

`Results` of `client/monitoring/fs/watcher.go`, as far as it decides which
partitions it asks the usage of.  What the globs say of a mount point is kept
under its name in lower case.
-/

namespace ProxiPort.Monitoring

open List

structure Partition where
  mountpoint : String
  fstype : String

structure FileSystemWatcher where
  unicode : Go.Unicode
  separator : Char
  escapes : Bool
  typeInclude : List String
  pathExclude : List String
  pathExcludeRecurse : Bool

abbrev Cache := String → Option Bool

namespace FileSystemWatcher

variable (watcher : FileSystemWatcher) (partition : Partition)

def lower (text : String) : String := Go.toLower watcher.unicode text

def typeAllowed : Bool :=
  (watcher.typeInclude.map watcher.lower).contains (watcher.lower partition.fstype)

def globExcluded (mountpoint : String) : Bool := watcher.pathExclude.any fun glob =>
  Go.Match.matchPath watcher.separator watcher.escapes glob mountpoint = some true

/-- The test of `PathExcludeRecurse`, for what counts as being below a path. -/
def recurses (below : String → String → Bool) : Bool :=
  watcher.pathExcludeRecurse && watcher.pathExclude.any (below partition.mountpoint)

def visit : StateM Cache Bool := fun cache =>
  if !watcher.typeAllowed partition then (false, cache)
  else if watcher.recurses partition Go.hasPrefix then (false, cache)
  else
    let partitionMountPoint := watcher.lower partition.mountpoint
    match cache partitionMountPoint with
    | some pathExcluded => (!pathExcluded, cache)
    | none =>
      let pathExcluded := watcher.globExcluded partition.mountpoint
      (!pathExcluded, Function.update cache partitionMountPoint (some pathExcluded))

def results (partitions : List Partition) : StateM Cache (List Bool) :=
  partitions.mapM watcher.visit

def successive (calls : List (List Partition)) : List Bool :=
  (watcher.results calls.flatten fun _ => none).1

def below (mountpoint path : String) : Bool :=
  let elements := fun text => (Go.split text watcher.separator).filter (· ≠ "")
  (elements path).isPrefixOf (elements mountpoint)

def wanted : Bool :=
  watcher.typeAllowed partition && !watcher.globExcluded partition.mountpoint &&
    !watcher.recurses partition watcher.below

/-- Mount points differ in more than case, and where one starts with an excluded
path, it lies below one. -/
structure Plain (partitions : List Partition) : Prop where
  distinct : ∀ first ∈ partitions, ∀ second ∈ partitions,
    watcher.lower first.mountpoint = watcher.lower second.mountpoint →
    first.mountpoint = second.mountpoint
  whole : ∀ partition ∈ partitions,
    watcher.recurses partition Go.hasPrefix = watcher.recurses partition watcher.below

/-- The cache has what the globs say of each partition. -/
def Remembers (partitions : List Partition) (cache : Cache) : Prop :=
  ∀ partition ∈ partitions, ∀ excluded ∈ cache (watcher.lower partition.mountpoint),
    excluded = watcher.globExcluded partition.mountpoint

variable {watcher partition} {partitions : List Partition} (plain : watcher.Plain partitions)
include plain

theorem visit_spec (member : partition ∈ partitions) {cache : Cache}
    (remembers : watcher.Remembers partitions cache) :
    (watcher.visit partition cache).1 = watcher.wanted partition ∧
      watcher.Remembers partitions (watcher.visit partition cache).2 := by
  rw [visit, plain.whole partition member, wanted]
  cases watcher.typeAllowed partition with
  | false => exact ⟨rfl, remembers⟩
  | true =>
    cases watcher.recurses partition watcher.below with
    | true => exact ⟨(Bool.and_false _).symm, remembers⟩
    | false =>
      cases kept : cache (watcher.lower partition.mountpoint) with
      | some excluded =>
        rw [← remembers partition member excluded kept]
        simp [kept, remembers]
      | none =>
        simp only [kept, Bool.not_true, Bool.false_eq_true, if_false, Bool.true_and,
          Bool.not_false, Bool.and_true, true_and]
        intro other known excluded found
        by_cases same : watcher.lower other.mountpoint = watcher.lower partition.mountpoint
        · rw [same, Function.update_self] at found
          rw [plain.distinct other known partition member same]
          exact (Option.some.inj found).symm
        · rw [Function.update_of_ne same] at found
          exact remembers other known excluded found

theorem results_spec {called : List Partition} (known : called ⊆ partitions) {cache : Cache}
    (remembers : watcher.Remembers partitions cache) :
    (watcher.results called cache).1 = called.map watcher.wanted := by
  induction called generalizing cache with
  | nil => rfl
  | cons partition called induction =>
    obtain ⟨member, rest⟩ := cons_subset.mp known
    obtain ⟨first, next⟩ := visit_spec plain member remembers
    rw [results, mapM_cons, map_cons, ← first, ← induction rest next]
    rfl

omit plain

theorem exclusion_independent {calls : List (List Partition)}
    (plain : watcher.Plain calls.flatten) :
    watcher.successive calls = calls.flatten.map watcher.wanted := by
  refine results_spec plain (List.Subset.refl _) ?_
  intro partition _ excluded kept
  cases kept

def unix (pathExclude : List String) (pathExcludeRecurse : Bool) : FileSystemWatcher :=
  ⟨.ascii, '/', true, ["ext4"], pathExclude, pathExcludeRecurse⟩

theorem exclusion_independent_data :
    (unix ["/data"] true).successive [[⟨"/data/a", "ext4"⟩, ⟨"/home", "ext4"⟩]] = [false, true] :=
  exclusion_independent ⟨by decide, by decide⟩

/-- A name that goes on, and one that another has decided about. -/
theorem exclusion_of_others :
    (unix ["/data"] true).successive [[⟨"/database", "ext4"⟩]] = [false] ∧
      (unix ["/data"] true).wanted ⟨"/database", "ext4"⟩ = true ∧
      (unix ["/A"] false).successive [[⟨"/A", "ext4"⟩], [⟨"/a", "ext4"⟩]] = [false, false] ∧
      (unix ["/A"] false).wanted ⟨"/a", "ext4"⟩ = true := by
  decide +kernel

end FileSystemWatcher

end ProxiPort.Monitoring
