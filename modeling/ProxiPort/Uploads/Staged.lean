import ProxiPort.Foundation.Keyed
import ProxiPort.Foundation.Threads
import ProxiPort.Go.Path

/-!
# Staged uploads and the files agents may read

`server/staged_uploads.go` counts, for every client and every path, how often
the client is being asked to collect the file.  `server/client_listener_sftp.go`
answers the SFTP requests of agents out of these counts.  The registry is a map
of maps whose entries come and go; whatever the order of calls, an entry is
there exactly as long as a grant for it has not been taken back.
-/

namespace ProxiPort.Uploads

open List Keyed

structure StagedPath where
  path : String
  count : Int

structure Owner where
  clientID : String
  paths : Table StagedPath.path

structure Registry where
  byOwner : Table Owner.clientID

namespace Registry

def pathsOf (registry : Registry) (clientID : String) : Table StagedPath.path :=
  match registry.byOwner.get clientID with
  | none => .empty
  | some owner => owner.paths

end Registry

/-- The value of the inner map at a path; zero if there is none. -/
def countAt (paths : Table StagedPath.path) (path : String) : Int :=
  match paths.get path with
  | none => 0
  | some staged => staged.count

/-- The inner map after `paths[path]--` and the deletion that can follow. -/
def releasedPaths (paths : Table StagedPath.path) (path : String) : Table StagedPath.path :=
  let count := countAt paths path - 1
  let changed := paths.put ⟨path, count⟩
  if count ≤ 0 then changed.remove path else changed

namespace Registry

def allow (registry : Registry) (clientID path : String) : Registry :=
  let paths := registry.pathsOf clientID
  ⟨registry.byOwner.put ⟨clientID, paths.put ⟨path, countAt paths path + 1⟩⟩⟩

def release (registry : Registry) (clientID path : String) : Registry :=
  match registry.byOwner.get clientID with
  | none => registry
  | some owner =>
    let paths := releasedPaths owner.paths path
    if paths.entries.isEmpty then ⟨registry.byOwner.remove clientID⟩
    else ⟨registry.byOwner.put ⟨clientID, paths⟩⟩

def isStaged (registry : Registry) (path : String) : Bool :=
  path ≠ "" && registry.byOwner.entries.any fun owner =>
    (owner.paths.get path).isSome

def isAllowed (registry : Registry) (clientID path : String) : Bool :=
  match registry.byOwner.get clientID with
  | none => false
  | some owner => (owner.paths.get path).isSome

end Registry

def errNotEntitled : String := "permission denied"

structure File where
  isRegular : Bool
  content : List UInt8
  deriving DecidableEq, Repr

/-- `stagedUploadFS`, over the files of the server. -/
structure StagedUploadFS where
  clientID : String
  registry : Registry
  files : String → Option File

inductive Request where
  | fileread (path : String)
  | filewrite (path : String)
  | filecmd (method path : String)
  | filelist (method path : String)
  deriving DecidableEq, Repr

inductive Answer where
  | content (bytes : List UInt8)
  | info (size : Nat)
  deriving DecidableEq, Repr

namespace StagedUploadFS

def resolve (fs : StagedUploadFS) (requested : String) : Except String String :=
  let path := Go.Path.clean requested
  if requested = "" then .error errNotEntitled
  else if !Go.Path.isAbs path then .error errNotEntitled
  else if !fs.registry.isAllowed fs.clientID path then .error errNotEntitled
  else .ok path

/-- What a handler does before it looks at the file. -/
def resolveRequest (fs : StagedUploadFS) : Request → Except String String
  | .fileread path => fs.resolve path
  | .filewrite _ => .error errNotEntitled
  | .filecmd _ _ => .error errNotEntitled
  | .filelist method path =>
    if method ≠ "Stat" ∧ method ≠ "Lstat" then .error errNotEntitled
    else fs.resolve path

def answer (request : Request) (file : File) : Answer :=
  match request with
  | .filelist _ _ => .info file.content.length
  | _ => .content file.content

def serve (fs : StagedUploadFS) (request : Request) : Except String Answer :=
  match fs.resolveRequest request with
  | .error err => .error err
  | .ok path =>
    match fs.files path with
    | none => .error errNotEntitled
    | some file =>
      if file.isRegular then .ok (answer request file)
      else .error errNotEntitled

end StagedUploadFS

/-- A call of `Allow` that has taken effect, and whether the function it
returned was called. -/
structure Grant where
  clientID : String
  path : String
  released : Bool
  deriving DecidableEq, Repr

/-- The registry and the functions that `Allow` has returned; the ones that do
nothing are `none`. -/
structure State where
  registry : Registry
  grants : List (Option Grant)

inductive Op where
  | allow (clientID path : String)
  | release (index : Nat)
  | request (clientID : String) (request : Request)
  deriving DecidableEq, Repr

namespace State

def initial : State := ⟨⟨.empty⟩, []⟩

def step (state : State) : Op → State
  | .allow clientID path =>
    if clientID = "" ∨ path = "" then
      { state with grants := state.grants ++ [none] }
    else
      ⟨state.registry.allow clientID path, state.grants ++ [some ⟨clientID, path, false⟩]⟩
  | .release index =>
    match state.grants[index]? with
    | some (some grant) =>
      -- the body runs in a `sync.Once`
      if grant.released then state
      else
        ⟨state.registry.release grant.clientID grant.path,
          state.grants.set index (some { grant with released := true })⟩
    | _ => state
  | .request _ _ => state

def after (ops : List Op) : State := ops.foldl step initial

def allowed (state : State) (clientID path : String) : Nat := state.grants.countP fun grant =>
    grant.any fun grant => grant.clientID = clientID && grant.path = path

def released (state : State) (clientID path : String) : Nat := state.grants.countP fun grant =>
    grant.any fun grant => grant.clientID = clientID && grant.path = path && grant.released

def Granted (state : State) (clientID path : String) : Prop :=
  state.released clientID path < state.allowed clientID path

end State

def Registry.count (registry : Registry) (clientID path : String) : Int :=
  countAt (registry.pathsOf clientID) path

def Registry.Positive (registry : Registry) : Prop :=
  ∀ clientID path staged,
    (registry.pathsOf clientID).get path = some staged → 0 < staged.count

variable {registry : Registry} {clientID path : String}

theorem pathsOf_put_self (owner : Owner) :
    Registry.pathsOf ⟨registry.byOwner.put owner⟩ owner.clientID = owner.paths := by
  rw [Registry.pathsOf, Table.get_put_self]

variable {other : String}

theorem pathsOf_put_of_ne {owner : Owner} (different : other ≠ owner.clientID) :
    Registry.pathsOf ⟨registry.byOwner.put owner⟩ other = registry.pathsOf other := by
  simp only [Registry.pathsOf, Table.get_put_of_ne different]

theorem pathsOf_remove_self :
    Registry.pathsOf ⟨registry.byOwner.remove clientID⟩ clientID =
      .empty := by
  rw [Registry.pathsOf, Table.get_remove_self]

/-- Both critical sections replace the map of one client. -/
structure Replaced (registry after : Registry) (clientID : String)
    (paths : Table StagedPath.path) : Prop where
  own : ∀ path, (after.pathsOf clientID).get path = paths.get path
  others : ∀ other, other ≠ clientID → after.pathsOf other = registry.pathsOf other

theorem allow_replaced (registry : Registry) (clientID path : String) :
    Replaced registry (registry.allow clientID path) clientID ((registry.pathsOf clientID).put
        ⟨path, registry.count clientID path + 1⟩) where
  own := fun _ => by
    rw [Registry.allow, pathsOf_put_self ⟨clientID, _⟩]
    rfl
  others := fun _ different => pathsOf_put_of_ne different

variable {paths : Table StagedPath.path}

theorem get_releasedPaths_of_ne (different : other ≠ path) :
    (releasedPaths paths path).get other = paths.get other := by
  have unchanged : (paths.put ⟨path, countAt paths path - 1⟩).get other = paths.get other :=
    Table.get_put_of_ne different
  simp only [releasedPaths]
  split
  · rw [Table.get_remove_of_ne different, unchanged]
  · exact unchanged

theorem get_releasedPaths_self (paths : Table StagedPath.path) (path : String) :
    (releasedPaths paths path).get path =
      if countAt paths path - 1 ≤ 0 then none
      else some ⟨path, countAt paths path - 1⟩ := by
  simp only [releasedPaths]
  split
  · exact Table.get_remove_self
  · exact Table.get_put_self

theorem get_of_isEmpty (isEmpty : paths.entries.isEmpty = true) (path : String) :
    paths.get path = none := by
  rw [Table.get, isEmpty_iff.mp isEmpty]
  rfl

theorem release_replaced (registry : Registry) (clientID path : String) :
    Replaced registry (registry.release clientID path) clientID
      (releasedPaths (registry.pathsOf clientID) path) := by
  cases found : registry.byOwner.get clientID with
  | none =>
    have nothing : registry.pathsOf clientID = .empty := by
      rw [Registry.pathsOf, found]
    rw [Registry.release, found]
    refine ⟨?_, fun _ _ => rfl⟩
    intro other
    rw [nothing]
    by_cases same : other = path
    · subst same
      exact (get_releasedPaths_self .empty other).symm
    · exact (get_releasedPaths_of_ne same).symm
  | some owner =>
    have paths : registry.pathsOf clientID = owner.paths := by
      rw [Registry.pathsOf, found]
    simp only [paths, Registry.release, found]
    split
    · rename_i last
      refine ⟨?_, fun _ different => by
        simp only [Registry.pathsOf, Table.get_remove_of_ne different]⟩
      intro other
      rw [get_of_isEmpty last other, pathsOf_remove_self, Table.get_empty]
    · refine ⟨?_, fun _ different => pathsOf_put_of_ne different⟩
      intro other
      rw [pathsOf_put_self ⟨clientID, _⟩]

variable {after : Registry}

theorem Replaced.count (replaced : Replaced registry after clientID paths) (other path : String) :
    after.count other path =
      if other = clientID then countAt paths path
      else registry.count other path := by
  split
  · rename_i same
    subst same
    rw [Registry.count, countAt, replaced.own path]
    rfl
  · rename_i different
    rw [Registry.count, replaced.others other different]
    rfl

theorem Replaced.positive (replaced : Replaced registry after clientID paths)
    (positive : registry.Positive) (own : ∀ path staged, paths.get path = some staged →
      0 < staged.count) : after.Positive := by
  intro other path staged found
  by_cases same : other = clientID
  · subst same
    rw [replaced.own path] at found
    exact own path staged found
  · rw [replaced.others other same] at found
    exact positive other path staged found

theorem Registry.Positive.count_nonneg (positive : registry.Positive)
    (clientID path : String) : 0 ≤ registry.count clientID path := by
  rw [Registry.count, countAt]
  split
  · exact Int.le_refl 0
  · rename_i staged found
    exact Int.le_of_lt (positive clientID path staged found)

theorem Registry.Positive.get_iff (positive : registry.Positive) (clientID path : String) :
    ((registry.pathsOf clientID).get path).isSome = true ↔ 0 < registry.count clientID path := by
  rw [Registry.count, countAt]
  cases found : (registry.pathsOf clientID).get path with
  | none => simp
  | some staged => simp [positive clientID path staged found]

theorem countAt_put (paths : Table StagedPath.path) (staged : StagedPath) (other : String) :
    countAt (paths.put staged) other =
      if other = staged.path then staged.count else countAt paths other := by
  split
  · rename_i same
    rw [same, countAt, Table.get_put_self]
  · rename_i different
    simp only [countAt, Table.get_put_of_ne different]

theorem countAt_releasedPaths (paths : Table StagedPath.path) (path other : String) :
    countAt (releasedPaths paths path) other =
      if other = path then max 0 (countAt paths path - 1)
      else countAt paths other := by
  split
  · rename_i same
    rw [same, countAt, get_releasedPaths_self]
    split
    · rename_i absent
      split at absent
      · omega
      · cases absent
    · rename_i staged present
      split at present
      · cases present
      · cases present
        simp only
        omega
  · rename_i different
    simp only [countAt, get_releasedPaths_of_ne different]

structure Counts (state : State) : Prop where
  positive : state.registry.Positive
  counts : ∀ clientID path, state.registry.count clientID path +
    state.released clientID path = state.allowed clientID path
  named : ∀ grant, some grant ∈ state.grants → grant.clientID ≠ "" ∧ grant.path ≠ ""

theorem initial_counts : Counts State.initial where
  positive := fun _ _ _ found => nomatch found
  counts := fun _ _ => rfl
  named := fun _ member => nomatch member

theorem released_le_allowed (state : State) (clientID path : String) :
    state.released clientID path ≤ state.allowed clientID path := by
  apply countP_mono_left
  intro grant _ released
  simp only [Option.any_eq_true, Bool.and_eq_true] at released ⊢
  obtain ⟨known, isKnown, same, _⟩ := released
  exact ⟨known, isKnown, same⟩

variable {state : State}

theorem allow_counts (counts : Counts state) (clientID path : String) :
    Counts (state.step (.allow clientID path)) := by
  simp only [State.step]
  split
  · refine ⟨counts.positive, ?_, ?_⟩
    · intro other otherPath
      have before := counts.counts other otherPath
      simpa [State.released, State.allowed, countP_append] using before
    · intro grant member
      apply counts.named grant
      simpa using member
  · rename_i present
    rw [not_or] at present
    have replaced := allow_replaced state.registry clientID path
    refine ⟨?_, ?_, ?_⟩
    · refine replaced.positive counts.positive ?_
      intro other staged found
      rcases Table.get_put_cases found with ⟨_, rfl⟩ | ⟨_, old⟩
      · exact Int.lt_add_one_of_le (counts.positive.count_nonneg clientID path)
      · exact counts.positive clientID other staged old
    · intro other otherPath
      have before := counts.counts other otherPath
      have more : State.allowed ⟨state.registry.allow clientID path,
          state.grants ++ [some ⟨clientID, path, false⟩]⟩ other otherPath =
          state.allowed other otherPath +
            if clientID = other ∧ path = otherPath then 1 else 0 := by
        simp [State.allowed, countP_append, countP_singleton]
      have same : State.released ⟨state.registry.allow clientID path,
          state.grants ++ [some ⟨clientID, path, false⟩]⟩ other otherPath =
          state.released other otherPath := by
        simp [State.released, countP_append]
      rw [more, same, replaced.count, countAt_put]
      by_cases own : clientID = other
      · subst own
        by_cases here : path = otherPath
        · subst here
          simp only [and_self, if_true]
          omega
        · simp only [here, and_false, Ne.symm here, if_true, if_false]
          exact before
      · simp only [own, false_and, Ne.symm own, if_false]
        exact before
    · intro grant member
      rcases mem_append.mp member with old | new
      · exact counts.named grant old
      · cases mem_singleton.mp new
        exact present

theorem release_counts (counts : Counts state) (index : Nat) :
    Counts (state.step (.release index)) := by
  simp only [State.step]
  split
  · rename_i grant found
    split
    · exact counts
    · rename_i held
      have replaced := release_replaced state.registry grant.clientID grant.path
      have released : ∀ clientID path,
          State.released ⟨state.registry.release grant.clientID grant.path,
            state.grants.set index (some { grant with released := true })⟩ clientID path =
          state.released clientID path +
            if grant.clientID = clientID ∧ grant.path = path then 1
            else 0 := by
        intro clientID path
        have count := Concurrency.Program.countP_set found
          (some { grant with released := true }) fun grant =>
            grant.any fun grant => grant.clientID = clientID && grant.path = path && grant.released
        simpa [State.released, held] using count
      have allowed : ∀ clientID path,
          State.allowed ⟨state.registry.release grant.clientID grant.path,
            state.grants.set index (some { grant with released := true })⟩
            clientID path = state.allowed clientID path := by
        intro clientID path
        have count := Concurrency.Program.countP_set found
          (some { grant with released := true }) fun grant =>
            grant.any fun grant => grant.clientID = clientID && grant.path = path
        exact Nat.add_right_cancel count
      refine ⟨?_, ?_, ?_⟩
      · refine replaced.positive counts.positive ?_
        intro path staged present
        by_cases same : path = grant.path
        · subst same
          rw [get_releasedPaths_self] at present
          split at present
          · cases present
          · rename_i positive
            cases present
            exact Int.not_le.mp positive
        · rw [get_releasedPaths_of_ne same] at present
          exact counts.positive _ _ _ present
      · intro clientID path
        have before := counts.counts clientID path
        have bound := released_le_allowed ⟨state.registry.release grant.clientID grant.path,
            state.grants.set index (some { grant with released := true })⟩
          clientID path
        rw [released, allowed] at bound
        rw [released, allowed, replaced.count, countAt_releasedPaths]
        by_cases own : grant.clientID = clientID
        · subst own
          by_cases here : grant.path = path
          · subst here
            simp only [and_self, if_true] at bound ⊢
            have same : countAt (state.registry.pathsOf grant.clientID)
              grant.path = state.registry.count grant.clientID grant.path :=
              rfl
            omega
          · simp only [here, and_false, Ne.symm here, if_true, if_false]
            exact before
        · simp only [own, false_and, Ne.symm own, if_false]
          exact before
      · intro other member
        rcases mem_or_eq_of_mem_set member with old | new
        · exact counts.named other old
        · cases new
          exact counts.named grant (List.mem_of_getElem? found)
  · exact counts

theorem step_counts (counts : Counts state) (op : Op) : Counts (state.step op) := by
  cases op with
  | allow clientID path => exact allow_counts counts clientID path
  | release index => exact release_counts counts index
  | request clientID request => exact counts

theorem after_counts (ops : List Op) : Counts (State.after ops) := by
  have general : ∀ state, Counts state → Counts (ops.foldl State.step state) := by
    induction ops with
    | nil => exact fun _ counts => counts
    | cons op ops induction =>
      intro state counts
      exact induction _ (step_counts counts op)
  exact general _ initial_counts

theorem Counts.isAllowed_iff (counts : Counts state) (clientID path : String) :
    state.registry.isAllowed clientID path = true ↔ state.Granted clientID path := by
  have granted : state.Granted clientID path ↔ 0 < state.registry.count clientID path := by
    have same := counts.counts clientID path
    rw [State.Granted]
    omega
  rw [granted, ← counts.positive.get_iff, Registry.isAllowed, Registry.pathsOf]
  cases state.registry.byOwner.get clientID with
  | none => simp
  | some owner => rfl

theorem Counts.isStaged_iff (counts : Counts state) (path : String) :
    state.registry.isStaged path = true ↔ ∃ clientID, state.Granted clientID path := by
  simp only [Registry.isStaged, Bool.and_eq_true, decide_eq_true_eq, any_eq_true]
  constructor
  · rintro ⟨_, owner, member, present⟩
    refine ⟨owner.clientID, (counts.isAllowed_iff _ _).mp ?_⟩
    have found := Table.get_eq_some_iff.mpr ⟨member, rfl⟩
    rw [Registry.isAllowed, found]
    exact present
  · rintro ⟨clientID, granted⟩
    have allowed := (counts.isAllowed_iff _ _).mpr granted
    refine ⟨?_, ?_⟩
    · -- a call of `Allow` for it took effect
      obtain ⟨entry, member, matched⟩ := countP_pos_iff.mp
        (Nat.lt_of_le_of_lt (Nat.zero_le _) granted)
      simp only [Option.any_eq_true, Bool.and_eq_true, decide_eq_true_eq] at matched
      obtain ⟨grant, rfl, _, same⟩ := matched
      rw [← same]
      exact (counts.named grant member).2
    · rw [Registry.isAllowed] at allowed
      split at allowed
      · cases allowed
      · rename_i owner found
        exact ⟨owner, (Table.get_eq_some_iff.mp found).1, allowed⟩

theorem resolve_iff (fs : StagedUploadFS) (requested path : String) :
    fs.resolve requested = .ok path ↔ path = Go.Path.clean requested ∧ Go.Path.isAbs path = true ∧
        fs.registry.isAllowed fs.clientID path = true := by
  have emptyPath : Go.Path.isAbs (Go.Path.clean "") = false := by
    decide +kernel
  simp only [StagedUploadFS.resolve]
  split
  · rename_i blank
    refine iff_of_false (fun refused => nomatch refused) ?_
    rintro ⟨rfl, absolute, _⟩
    rw [blank, emptyPath] at absolute
    cases absolute
  · split
    · rename_i relative
      refine iff_of_false (fun refused => nomatch refused) ?_
      rintro ⟨rfl, absolute, _⟩
      simp [absolute] at relative
    · rename_i absolute
      split
      · rename_i other
        refine iff_of_false (fun refused => nomatch refused) ?_
        rintro ⟨rfl, _, allowed⟩
        simp [allowed] at other
      · rename_i allowed
        simp only [Bool.not_eq_true', Bool.not_eq_false] at absolute allowed
        constructor
        · intro resolved
          cases resolved
          exact ⟨rfl, absolute, allowed⟩
        · rintro ⟨rfl, _, _⟩
          rfl

variable {fs : StagedUploadFS}

theorem resolve_error {requested err : String}
    (refused : fs.resolve requested = .error err) : err = errNotEntitled := by
  simp only [StagedUploadFS.resolve] at refused
  split at refused
  · exact (Except.error.inj refused).symm
  · split at refused
    · exact (Except.error.inj refused).symm
    · split at refused
      · exact (Except.error.inj refused).symm
      · cases refused

def Request.reads : Request → Option String
  | .fileread path => some path
  | .filelist method path =>
    if method = "Stat" ∨ method = "Lstat" then some path else none
  | .filewrite _ | .filecmd _ _ => none

theorem resolveRequest_iff (fs : StagedUploadFS) (request : Request) (path : String) :
    fs.resolveRequest request = .ok path ↔ ∃ requested, request.reads = some requested ∧
        fs.resolve requested = .ok path := by
  cases request with
  | fileread | filewrite => simp [StagedUploadFS.resolveRequest, Request.reads]
  | filecmd method requested =>
    simp [StagedUploadFS.resolveRequest, Request.reads]
  | filelist method requested =>
    simp only [StagedUploadFS.resolveRequest, Request.reads]
    by_cases answered : method = "Stat" ∨ method = "Lstat"
    · have notRefused : ¬ (method ≠ "Stat" ∧ method ≠ "Lstat") := by
        rintro ⟨notStat, notLstat⟩
        exact answered.elim notStat notLstat
      simp [answered, notRefused]
    · rw [not_or] at answered
      simp [answered]

theorem serve_of_unresolved {request : Request}
    (unresolved : ∀ path, fs.resolveRequest request ≠ .ok path) :
    fs.serve request = .error errNotEntitled := by
  have refused : fs.resolveRequest request = .error errNotEntitled := by
    cases resolved : fs.resolveRequest request with
    | ok path => exact absurd resolved (unresolved path)
    | error err =>
      congr 1
      cases request with
      | fileread requested => exact resolve_error resolved
      | filewrite | filecmd => exact (Except.error.inj resolved).symm
      | filelist method requested =>
        simp only [StagedUploadFS.resolveRequest] at resolved
        split at resolved
        · exact (Except.error.inj resolved).symm
        · exact resolve_error resolved
  rw [StagedUploadFS.serve, refused]

end ProxiPort.Uploads
