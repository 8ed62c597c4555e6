import ProxiPort.Uploads.Destination

/-!
# Protected destinations

What the list of protected patterns is for: no push may write a file that lies,
with all symlinks resolved, in a listed subtree, or that matches a listed
pattern itself or with its directory, however the pattern is written.  The
check compares subtrees as they should be, apart from the subtree of the root;
but it takes other patterns as they are written, with their trailing slashes,
doubled separators and case.
-/

namespace ProxiPort.Destination

open Go List

section

variable {system : System} (layout : Layout system)

/-- The real path of something that exists, or a name below the real path of
its directory. -/
inductive Resolves : String → String → Prop where
  | found {path real : String} : layout.evalSymlinks path = some real → Resolves path real
  | missing {path real : String} : layout.evalSymlinks path = none →
      system.filepath.dir path ≠ path →
      Resolves (system.filepath.dir path) real →
      Resolves path (system.filepath.join real (system.filepath.base path))

/-- Where nothing exists, a path is its own real path. -/
def RealPath (path real : String) : Prop :=
  Resolves layout path real ∨
    (∀ other, ¬ Resolves layout path other) ∧ real = path

end

section

variable {system : System} {layout : Layout system}

theorem Resolves.clean {path real : String} (resolves : Resolves layout path real)
    (cleaned : system.filepath.clean path = path) : system.filepath.clean real = real := by
  induction resolves with
  | found exists' => exact layout.real _ _ exists'
  | missing _ below _ _ => exact system.filepath.clean_join _ _ cleaned below

theorem resolveFrom_spec (layout : Layout system) (cleaned rest : String)
    {current : String} {fuel : Nat} (enough : system.filepath.height current < fuel)
    (clean : system.filepath.clean current = current) :
    (∀ real, Resolves layout current real → resolveFrom system layout cleaned fuel current rest =
        if rest = "" then real else system.filepath.join real rest) ∧
    ((∀ real, ¬ Resolves layout current real) →
      resolveFrom system layout cleaned fuel current rest = cleaned) := by
  induction fuel generalizing current rest with
  | zero => exact absurd enough (Nat.not_lt_zero _)
  | succ fuel induction =>
    rw [resolveFrom]
    cases found : layout.evalSymlinks current with
    | some resolved =>
      refine ⟨?_, fun nowhere => absurd (.found found) (nowhere resolved)⟩
      intro real resolves
      cases resolves with
      | found same =>
        rw [found, Option.some.injEq] at same
        rw [same]
      | missing absent _ _ =>
        rw [found] at absent
        cases absent
    | none =>
      dsimp only
      by_cases top : system.filepath.dir current = current
      · rw [if_pos top]
        refine ⟨?_, fun _ => rfl⟩
        intro real resolves
        cases resolves with
        | found same =>
          rw [found] at same
          cases same
        | missing _ below _ => exact absurd top below
      · rw [if_neg top]
        have lower : system.filepath.height (system.filepath.dir current) < fuel := by
          have higher := (system.filepath.dir_height current).resolve_left top
          omega
        obtain ⟨resolved, unresolved⟩ := induction
          (system.filepath.join (system.filepath.base current) rest)
          lower (system.filepath.clean_dir current)
        constructor
        · intro real resolves
          cases resolves with
          | found same =>
            rw [found] at same
            cases same
          | missing _ _ above =>
            rw [resolved _ above, if_neg (system.filepath.join_ne_empty _ _ clean top)]
            exact system.filepath.join_join _ _ _ clean top
        · intro nowhere
          apply unresolved
          intro real above
          exact nowhere _ (.missing found top above)

theorem realPath_iff {path real : String} :
    RealPath layout (system.filepath.clean path) real ↔
      real = resolveForMatch system layout path := by
  obtain ⟨resolved, unresolved⟩ := resolveFrom_spec layout (system.filepath.clean path) ""
    (Nat.lt_succ_self (system.filepath.height (system.filepath.clean path)))
    (system.filepath.clean_clean path)
  rw [resolveForMatch, RealPath]
  by_cases somewhere : ∃ other, Resolves layout (system.filepath.clean path) other
  · obtain ⟨other, resolves⟩ := somewhere
    have unique (real : String) (also : Resolves layout (system.filepath.clean path) real) :
        real = other := by
      have first := resolved _ resolves
      have second := resolved _ also
      rw [if_pos rfl] at first second
      exact second.symm.trans first
    rw [resolved _ resolves, if_pos rfl]
    constructor
    · rintro (also | ⟨nowhere, -⟩)
      · exact unique real also
      · exact absurd resolves (nowhere other)
    · rintro rfl
      exact .inl resolves
  · have nowhere : ∀ other, ¬ Resolves layout (system.filepath.clean path) other :=
      fun other resolves => somewhere ⟨other, resolves⟩
    rw [unresolved nowhere]
    constructor
    · rintro (resolves | ⟨-, same⟩)
      · exact absurd resolves (nowhere real)
      · exact same
    · intro same
      exact .inr ⟨nowhere, same⟩

theorem clean_resolveForMatch (path : String) :
    system.filepath.clean (resolveForMatch system layout path) =
      resolveForMatch system layout path := by
  rcases realPath_iff.mpr (rfl : resolveForMatch system layout path = _) with
    resolves | ⟨-, same⟩
  · exact resolves.clean (system.filepath.clean_clean path)
  · rw [same, system.filepath.clean_clean]

end

section

variable (system : System)

/-- A path that matches the root, or a path below one. -/
inductive Inside (root : String) : String → Prop where
  | here {path : String} : system.filepath.matchPath root path = some true → Inside root path
  | under {path : String} : Inside root (system.filepath.dir path) → Inside root path

variable {system}

theorem Inside.matches_top {root path : String} (inside : Inside system root path)
    (top : system.filepath.dir path = path) : system.filepath.matchPath root path = some true := by
  induction inside with
  | here matched => exact matched
  | under _ induction =>
    rw [top] at induction
    exact induction top

theorem isWithin_iff {root current : String} {fuel : Nat}
    (enough : system.filepath.height current < fuel) :
    isWithin system root fuel current = true ↔ Inside system root current := by
  induction fuel generalizing current with
  | zero => exact absurd enough (Nat.not_lt_zero _)
  | succ fuel induction =>
    rw [isWithin]
    by_cases matched : system.filepath.matchPath root current = some true
    · rw [if_pos matched]
      exact iff_of_true rfl (.here matched)
    · rw [if_neg matched]
      by_cases top : system.filepath.dir current = current
      · rw [if_pos top]
        exact iff_of_false (by decide) fun inside =>
          matched (inside.matches_top top)
      · have lower : system.filepath.height (system.filepath.dir current) < fuel := by
          have higher := (system.filepath.dir_height current).resolve_left top
          omega
        rw [if_neg top, induction lower]
        constructor
        · exact .under
        · intro inside
          cases inside with
          | here here => exact absurd here matched
          | under above => exact above

theorem pathIsWithin_iff {target root : String} :
    pathIsWithin system target root = true ↔
      Inside system (fold system root) (fold system target) :=
  isWithin_iff (Nat.lt_succ_self _)

end

section

variable (system : System) (layout : Layout system)

/-- Symlinks lead elsewhere from what stands before the wildcards of a
pattern. -/
def LeadsTo (pattern real : String) : Prop :=
  (literalPrefix system pattern).1 ≠ "" ∧
    RealPath layout (system.filepath.clean (literalPrefix system pattern).1) real ∧
    real ≠ system.filepath.clean (literalPrefix system pattern).1

def followed (pattern path : String) : String :=
  if (literalPrefix system pattern).2 = "" then path
  else path ++ String.singleton system.filepath.separator ++ (literalPrefix system pattern).2

/-- The ways to write a pattern: cleaned, and with the path that symlinks lead
to, in which no character is a wildcard. -/
def Form (pattern form : String) : Prop :=
  form = system.filepath.clean pattern ∨
    ∃ real, LeadsTo system layout pattern real ∧ form = system.filepath.clean
        (followed system pattern (system.filepath.quote real))

/-- The directory of a subtree; that of the pattern `/**` is the root. -/
def directory (subtree : String) : String :=
  if subtree = "" then String.singleton system.filepath.separator
  else subtree

/-- A path matches a pattern, in any case where the system ignores it. -/
def Matches (form path : String) : Prop :=
  system.filepath.matchPath (fold system form) (fold system path) = some true

instance (form path : String) : Decidable (Matches system form path) :=
  inferInstanceAs (Decidable (_ = _))

/-- The file lies in the listed subtree, or it or its directory matches the
listed pattern. -/
def Covers (listed target : String) : Prop :=
  match cutSubtree listed with
  | some subtree => ∃ form, Form system layout (directory system subtree) form ∧
      Inside system (fold system form) (fold system target)
  | none => ∃ form, Form system layout listed form ∧
      (Matches system form (system.filepath.dir target) ∨ Matches system form target)

/-- Where symlinks lead elsewhere, the path they lead to has no wildcard
characters, and the pattern is clean with this path in it. -/
def ResolvedClean (pattern : String) : Prop :=
  ∀ real, LeadsTo system layout pattern real →
    system.filepath.quote real = real ∧
    system.filepath.clean (followed system pattern real) = followed system pattern real

/-- The pattern takes effect as it is written: a subtree is not that of the
root; another pattern is clean and in the case of the file where it matches
it. -/
def TakesEffect (listed target : String) : Prop :=
  match cutSubtree listed with
  | some subtree => subtree ≠ "" ∧ ResolvedClean system layout subtree
  | none => system.filepath.clean listed = listed ∧ ResolvedClean system layout listed ∧
      (system.caseInsensitiveFS = true → ∀ form ∈ [listed, canonicalPattern system layout listed],
          ∀ path ∈ [system.filepath.dir target, target], Matches system form path →
              system.filepath.matchPath form path = some true)

/-- The real path of the file that a push would write. -/
def Target (destinationPath target : String) : Prop :=
  RealPath layout (system.filepath.clean
    (stripExtendedLengthPrefix destinationPath)) target

/-- A push of a protected file is rejected. -/
def NoAlias (globPatterns : List String) (destinationPath : String) : Prop :=
  (∃ target, Target system layout destinationPath target ∧
    ∃ listed ∈ globPatterns, Covers system layout listed target) →
  validateDestinationPath system layout globPatterns destinationPath ≠ .ok ()

end

section

variable {system : System} {layout : Layout system}

theorem mem_distinctPaths {paths : List String} {path : String} :
    path ∈ distinctPaths paths ↔ path ∈ paths ∧ path ≠ "" := by
  have general (out : List String) : path ∈ paths.foldl (fun out path =>
      if path = "" then out
      else if path ∈ out then out
      else out ++ [path]) out ↔ path ∈ out ∨ path ∈ paths ∧ path ≠ "" := by
    induction paths generalizing out with
    | nil => simp
    | cons first paths induction =>
      rw [foldl_cons, induction, mem_cons]
      split
      · grind
      · split <;> grind
  rw [distinctPaths, general]
  simp

theorem canonicalPattern_def (pattern : String) :
    canonicalPattern system layout pattern =
      if (literalPrefix system pattern).1 = "" then pattern
      else if resolveForMatch system layout (literalPrefix system pattern).1 =
          system.filepath.clean (literalPrefix system pattern).1 then pattern
      else followed system pattern (resolveForMatch system layout
        (literalPrefix system pattern).1) :=
  rfl

variable {pattern : String}

theorem canonicalPattern_eq {real : String} (leads : LeadsTo system layout pattern real) :
    canonicalPattern system layout pattern = followed system pattern real := by
  obtain ⟨present, isReal, elsewhere⟩ := leads
  rw [realPath_iff] at isReal
  rw [isReal] at elsewhere
  rw [canonicalPattern_def, if_neg present, if_neg elsewhere, isReal]

theorem canonicalPattern_stays (stays : ∀ real, ¬ LeadsTo system layout pattern real) :
    canonicalPattern system layout pattern = pattern := by
  rw [canonicalPattern_def]
  by_cases blank : (literalPrefix system pattern).1 = ""
  · rw [if_pos blank]
  · rw [if_neg blank, if_pos]
    by_contra elsewhere
    exact stays _ ⟨blank, realPath_iff.mpr rfl, elsewhere⟩

theorem ResolvedClean.form {form : String} (resolved : ResolvedClean system layout pattern)
    (isForm : Form system layout pattern form) :
    form = system.filepath.clean pattern ∨ form = canonicalPattern system layout pattern := by
  rcases isForm with cleaned | ⟨real, leads, written⟩
  · exact .inl cleaned
  · obtain ⟨quoted, clean⟩ := resolved real leads
    rw [quoted, clean] at written
    exact .inr (written.trans (canonicalPattern_eq leads).symm)

theorem Form.ne_empty {form : String} (isForm : Form system layout pattern form) : form ≠ "" := by
  rcases isForm with rfl | ⟨real, -, rfl⟩
  all_goals exact system.filepath.clean_ne_empty _

variable {destinationPath : String}

theorem mem_spellings {target : String} (isTarget : Target system layout destinationPath target) :
    target ∈ spellings system layout destinationPath := by
  rw [realPath_iff.mp isTarget, spellings, mem_distinctPaths]
  refine ⟨by simp, ?_⟩
  rw [← clean_resolveForMatch]
  exact system.filepath.clean_ne_empty _

theorem rejectsDestination_ne_none_iff {listed destination : String} :
    rejectsDestination system listed pattern destination ≠ none ↔ system.filepath.matchPath pattern
          (system.filepath.dir destination) = some true ∨
        system.filepath.matchPath pattern destination = some true := by
  rw [rejectsDestination]
  cases directory : system.filepath.matchPath pattern (system.filepath.dir destination) with
  | none =>
    -- the pattern is malformed for the file as well
    simp [system.filepath.matchPath_error pattern _ destination directory]
  | some answer =>
    cases answer with
    | true => simp
    | false =>
      cases system.filepath.matchPath pattern destination with
      | none => simp
      | some answer => cases answer <;> simp

variable {destinations : List String}

theorem rejectsPlain_ne_none_iff {listed : String} :
    rejectsPlain system layout destinations listed ≠ none ↔
      ∃ pattern ∈ [listed, canonicalPattern system layout listed],
        pattern ≠ "" ∧ ∃ destination ∈ destinations, system.filepath.matchPath pattern
              (system.filepath.dir destination) = some true ∨
            system.filepath.matchPath pattern destination = some true := by
  simp only [rejectsPlain, ne_eq, findSome?_eq_none_iff,
    mem_distinctPaths, not_forall, exists_prop, and_assoc]
  refine exists_congr fun pattern => and_congr_right fun _ =>
    and_congr_right fun _ => ?_
  refine exists_congr fun destination => and_congr_right fun _ => ?_
  exact rejectsDestination_ne_none_iff

theorem rejectsSubtree_ne_none_iff {subtree : String} :
    rejectsSubtree system layout destinations subtree ≠ none ↔
      ∃ root ∈ [system.filepath.clean subtree, canonicalPattern system layout subtree],
        root ≠ "" ∧ ∃ destination ∈ destinations,
          Inside system (fold system root) (fold system destination) := by
  simp only [rejectsSubtree, ne_eq, findSome?_eq_none_iff,
    mem_distinctPaths, not_forall, exists_prop, and_assoc]
  refine exists_congr fun root => and_congr_right fun _ =>
    and_congr_right fun _ => ?_
  refine exists_congr fun destination => and_congr_right fun _ => ?_
  rw [← pathIsWithin_iff]
  split
  · rename_i within
    simp [within]
  · rename_i without
    simp [without]

variable {globPatterns : List String}

theorem validate_ne_ok_iff :
    validateDestinationPath system layout globPatterns destinationPath ≠
        .ok () ↔
      isAbsoluteDestination destinationPath = false ∨
        ∃ listed ∈ globPatterns, rejectsPattern system layout
          (spellings system layout destinationPath) listed ≠ none := by
  rw [validateDestinationPath]
  by_cases relative : isAbsoluteDestination destinationPath = false
  · simp [relative]
  · rw [if_neg relative, or_iff_right relative]
    cases found : globPatterns.findSome? (rejectsPattern system layout
        (spellings system layout destinationPath)) with
    | none =>
      rw [findSome?_eq_none_iff] at found
      simpa using found
    | some rejection =>
      obtain ⟨listed, member, rejects⟩ := exists_of_findSome?_eq_some found
      refine iff_of_true (by simp) ⟨listed, member, ?_⟩
      rw [rejects]
      exact Option.some_ne_none _

theorem rejectsPattern_ne_none {target listed : String}
    (isTarget : Target system layout destinationPath target)
    (covers : Covers system layout listed target)
    (effect : TakesEffect system layout listed target) :
    rejectsPattern system layout (spellings system layout destinationPath) listed ≠ none := by
  have spelled := mem_spellings isTarget
  unfold Covers at covers
  unfold TakesEffect at effect
  rw [rejectsPattern]
  cases suffix : cutSubtree listed with
  | some subtree =>
    rw [suffix] at covers effect
    obtain ⟨form, isForm, inside⟩ := covers
    obtain ⟨present, resolved⟩ := effect
    rw [directory, if_neg present] at isForm
    have tried : form ∈ [system.filepath.clean subtree,
        canonicalPattern system layout subtree] := by
      simpa using resolved.form isForm
    exact rejectsSubtree_ne_none_iff.mpr ⟨form, tried, isForm.ne_empty, target, spelled, inside⟩
  | none =>
    rw [suffix] at covers effect
    obtain ⟨form, isForm, matched⟩ := covers
    obtain ⟨clean, resolved, sameCase⟩ := effect
    have tried : form ∈ [listed, canonicalPattern system layout listed] := by
      simpa [clean] using resolved.form isForm
    have exactly {path : String} (compared : path ∈ [system.filepath.dir target, target])
        (folded : Matches system form path) :
        system.filepath.matchPath form path = some true := by
      cases folds : system.caseInsensitiveFS with
      | true => exact sameCase folds form tried path compared folded
      | false => simpa [Matches, fold, folds] using folded
    refine rejectsPlain_ne_none_iff.mpr
      ⟨form, tried, isForm.ne_empty, target, spelled, matched.imp ?_ ?_⟩
    · exact exactly mem_cons_self
    · exact exactly (mem_cons_of_mem _ mem_cons_self)

theorem noAlias_of_takesEffect (effect : isAbsoluteDestination destinationPath = true →
      ∀ target, Target system layout destinationPath target →
      (∃ listed ∈ globPatterns, Covers system layout listed target) →
      ∃ listed ∈ globPatterns, Covers system layout listed target ∧
        TakesEffect system layout listed target) :
    NoAlias system layout globPatterns destinationPath := by
  rintro ⟨target, isTarget, covered⟩
  rw [validate_ne_ok_iff]
  cases absolute : isAbsoluteDestination destinationPath with
  | false => exact .inl rfl
  | true =>
    obtain ⟨listed, member, covers, takes⟩ := effect absolute target isTarget covered
    exact .inr ⟨listed, member, rejectsPattern_ne_none isTarget covers takes⟩

end

section

variable {system : System} {layout : Layout system}

/-- A pattern is taken literally, also cleaned and with symlinks resolved. -/
structure Literal (layout : Layout system) (pattern : String) : Prop where
  unmarked : hasWildcard pattern = false
  plain : system.filepath.quote pattern = pattern
  cleaned : system.filepath.quote (system.filepath.clean pattern) = system.filepath.clean pattern
  resolved : system.filepath.quote (canonicalPattern system layout pattern) =
    canonicalPattern system layout pattern

variable {pattern : String}

section

variable (unmarked : hasWildcard pattern = false)
include unmarked

theorem cutSubtree_unmarked : cutSubtree pattern = none := by
  rw [cutSubtree, if_neg]
  intro suffix
  have star : '*' ∈ pattern.toList := (isSuffixOf_iff_suffix.mp suffix).subset (by decide)
  rw [hasWildcard, any_eq_false] at unmarked
  exact unmarked '*' star (by decide)

theorem literalPrefix_unmarked : literalPrefix system pattern = (pattern, "") := by
  rw [hasWildcard, any_eq_false] at unmarked
  have nothing : (split pattern system.filepath.separator).dropWhile
      (fun element => !hasWildcard element) = [] := by
    rw [dropWhile_eq_nil_iff]
    intro element member
    obtain ⟨part, inside, rfl⟩ := mem_map.mp member
    rw [Bool.not_eq_true', hasWildcard, any_eq_false, String.toList_ofList]
    intro character deeper
    exact unmarked character (Path.mem_of_mem_splitCharacters inside deeper)
  rw [literalPrefix]
  simp only [nothing]

theorem followed_unmarked (path : String) : followed system pattern path = path := by
  rw [followed, literalPrefix_unmarked unmarked]
  exact if_pos rfl

end

theorem matchPath_literal (plain : system.filepath.quote pattern = pattern) (path : String) :
    system.filepath.matchPath pattern path = some true ↔ path = pattern := by
  have exactly := system.filepath.matchPath_quote pattern path
  rw [plain] at exactly
  rw [exactly, Option.some.injEq, decide_eq_true_eq]

/-- The file or its directory is at a path. -/
def At (system : System) (file path : String) : Prop :=
  system.filepath.dir file = path ∨ file = path

theorem matches_literal {form : String} (sensitive : system.caseInsensitiveFS = false)
    (plain : system.filepath.quote form = form) (file : String) :
    Matches system form (system.filepath.dir file) ∨
        Matches system form file ↔ At system file form := by
  have same (path : String) : Matches system form path ↔ path = form := by
    simp [Matches, fold, sensitive, matchPath_literal plain]
  rw [same, same, At]

/-- A literal pattern protects what is at the cleaned pattern, and at the path
that symlinks lead to from there. -/
theorem covers_literal_iff (sensitive : system.caseInsensitiveFS = false)
    (literal : Literal layout pattern) (file : String) :
    Covers system layout pattern file ↔ At system file (system.filepath.clean pattern) ∨
        (∃ real, LeadsTo system layout pattern real) ∧
          At system file (canonicalPattern system layout pattern) := by
  have second {real : String} (leads : LeadsTo system layout pattern real) : system.filepath.clean
          (followed system pattern (system.filepath.quote real)) =
        canonicalPattern system layout pattern := by
    have canonical := canonicalPattern_eq leads
    have plain := literal.resolved
    rw [followed_unmarked literal.unmarked] at canonical ⊢
    rw [canonical] at plain ⊢
    rw [plain, realPath_iff.mp leads.2.1]
    exact clean_resolveForMatch _
  unfold Covers
  rw [cutSubtree_unmarked literal.unmarked]
  constructor
  · rintro ⟨form, rfl | ⟨real, leads, rfl⟩, matched⟩
    · exact .inl ((matches_literal sensitive literal.cleaned file).mp matched)
    · rw [second leads] at matched
      exact .inr ⟨⟨real, leads⟩, (matches_literal sensitive literal.resolved file).mp matched⟩
  · rintro (here | ⟨⟨real, leads⟩, here⟩)
    · exact ⟨_, .inl rfl, (matches_literal sensitive literal.cleaned file).mpr here⟩
    · exact ⟨_, .inr ⟨real, leads, (second leads).symm⟩,
        (matches_literal sensitive literal.resolved file).mpr here⟩

theorem rejectsPattern_literal_iff {pattern file : String} {destinations : List String}
    (spelled : ∀ destination, destination ∈ destinations ↔ destination = file)
    (clean : system.filepath.clean file = file) (literal : Literal layout pattern) :
    rejectsPattern system layout destinations pattern ≠ none ↔ At system file pattern ∨
        At system file (canonicalPattern system layout pattern) := by
  have nonempty {path : String} (here : At system file path) : path ≠ "" := by
    rcases here with rfl | rfl
    · exact system.filepath.clean_dir file ▸ system.filepath.clean_ne_empty _
    · exact clean ▸ system.filepath.clean_ne_empty _
  have matched {form : String} (plain : system.filepath.quote form = form) :
      (system.filepath.matchPath form (system.filepath.dir file) = some true ∨
        system.filepath.matchPath form file = some true) ↔
      At system file form :=
    or_congr (matchPath_literal plain _) (matchPath_literal plain _)
  rw [rejectsPattern, cutSubtree_unmarked literal.unmarked]
  dsimp only
  rw [rejectsPlain_ne_none_iff]
  simp only [spelled, exists_eq_left, mem_cons, not_mem_nil,
    or_false, exists_eq_or_imp, matched literal.plain, matched literal.resolved]
  exact or_congr (and_iff_right_of_imp nonempty) (and_iff_right_of_imp nonempty)

/-- One literal pattern protects a file at its real path only if it is clean, or
does not concern the file, or is clean once symlinks have led to the file. -/
theorem noAlias_literal_iff {pattern destinationPath : String}
    (sensitive : system.caseInsensitiveFS = false)
    (absolute : isAbsoluteDestination destinationPath = true)
    (given : stripExtendedLengthPrefix destinationPath = destinationPath)
    (own : Target system layout destinationPath destinationPath)
    (literal : Literal layout pattern) :
    NoAlias system layout [pattern] destinationPath ↔ system.filepath.clean pattern = pattern ∨
      ¬ At system destinationPath (system.filepath.clean pattern) ∨
      canonicalPattern system layout pattern ≠ pattern ∧ At system destinationPath
          (canonicalPattern system layout pattern) := by
  have real : destinationPath = resolveForMatch system layout
      destinationPath := by
    have same := realPath_iff.mp own
    rwa [given] at same
  have clean : system.filepath.clean destinationPath = destinationPath := by
    rw [real]
    exact clean_resolveForMatch _
  have spelled (destination : String) : destination ∈ spellings system layout destinationPath ↔
        destination = destinationPath := by
    have nonempty : destinationPath ≠ "" := clean ▸ system.filepath.clean_ne_empty _
    rw [spellings, mem_distinctPaths, given, clean, ← real]
    simp only [mem_cons, not_mem_nil, or_false, or_self]
    exact and_iff_left_of_imp fun same => same ▸ nonempty
  have target (other : String) : Target system layout destinationPath other ↔
        other = destinationPath := by
    rw [Target, realPath_iff, given, ← real]
  have writtenClean {path : String} (here : At system destinationPath path) :
      system.filepath.clean path = path := by
    rcases here with rfl | rfl
    · exact system.filepath.clean_dir _
    · exact clean
  rw [NoAlias, validate_ne_ok_iff]
  simp only [target, exists_eq_left, mem_singleton, absolute, Bool.true_eq_false, false_or,
    covers_literal_iff sensitive literal, rejectsPattern_literal_iff spelled clean literal]
  by_cases leads : ∃ real, LeadsTo system layout pattern real
  · rw [and_iff_right leads]
    constructor
    · intro safe
      by_cases here : At system destinationPath (system.filepath.clean pattern)
      · rcases safe (.inl here) with written | elsewhere
        · exact .inl (writtenClean written)
        · by_cases same : canonicalPattern system layout pattern = pattern
          · exact .inl (writtenClean (same ▸ elsewhere))
          · exact .inr (.inr ⟨same, elsewhere⟩)
      · exact .inr (.inl here)
    · rintro (cleaned | away | ⟨-, elsewhere⟩) covered
      · rwa [cleaned] at covered
      · exact .inr (covered.resolve_left away)
      · exact .inr elsewhere
  · have stays := canonicalPattern_stays fun real here => leads ⟨real, here⟩
    rw [stays, or_self, or_iff_left fun covered => leads covered.1]
    constructor
    · intro safe
      by_cases here : At system destinationPath (system.filepath.clean pattern)
      · exact .inl (writtenClean (safe here))
      · exact .inr (.inl here)
    · rintro (cleaned | away | ⟨other, -⟩) covered
      · rwa [cleaned] at covered
      · exact absurd covered away
      · exact absurd rfl other

end

def linux : System where
  filepath := .unix
  unicode := .ascii
  caseInsensitiveFS := false

def darwin : System where
  filepath := .unix
  unicode := .ascii
  caseInsensitiveFS := true

def layoutOf (system : System) (paths : List (String × String))
    (real : ∀ entry ∈ paths, system.filepath.clean entry.2 = entry.2) : Layout system where
  evalSymlinks := fun path => paths.lookup path
  real := by
    intro path resolved found
    obtain ⟨before, after, split, -⟩ := lookup_eq_some_iff.mp found
    exact real (path, resolved) (split ▸ mem_append_cons_self)

def macLayout : Layout darwin :=
  layoutOf darwin [("/", "/"), ("/private/etc", "/private/etc"),
    ("/etc", "/private/etc")] (by decide +kernel)

theorem sudoers_target :
    Target darwin macLayout "/private/etc/sudoers.d/operator"
      "/private/etc/sudoers.d/operator" :=
  realPath_iff.mpr (by decide +kernel)

theorem sudoers_leadsTo {real : String} :
    LeadsTo darwin macLayout "/etc/sudoers.d" real ↔
      real = "/private/etc/sudoers.d" := by
  have start : literalPrefix darwin "/etc/sudoers.d" = ("/etc/sudoers.d", "") := by
    decide +kernel
  have resolved : resolveForMatch darwin macLayout "/etc/sudoers.d" = "/private/etc/sudoers.d" := by
    decide +kernel
  have cleaned : darwin.filepath.clean "/etc/sudoers.d" = "/etc/sudoers.d" := by
    decide +kernel
  rw [LeadsTo, start, realPath_iff, resolved, cleaned]
  constructor
  · exact fun leads => leads.2.1
  · rintro rfl
    exact ⟨by decide, rfl, by decide⟩

def bareLinux : Layout linux := layoutOf linux [("/", "/")] (by decide +kernel)

def bareDarwin : Layout darwin := layoutOf darwin [("/", "/")] (by decide +kernel)

end ProxiPort.Destination
