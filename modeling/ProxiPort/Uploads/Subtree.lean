import ProxiPort.Uploads.Protection

/-!
# The subtree test

`pathIsWithinFold` goes up from a path to the root and compares every ancestor
with a pattern.  A pattern without wildcards is compared as it is written, so it
is found only if it is a clean absolute path itself.
-/

namespace ProxiPort.Destination

open Go List Path

variable {system : System} {kept : List String} {target root : String}

theorem inside_render (unix : system.filepath = .unix) (named : ∀ name ∈ kept, IsName name) :
    Inside system root (render true kept) ↔
      ∃ upper, upper <:+ kept ∧ system.filepath.matchPath root (render true upper) = some true := by
  induction kept with
  | nil =>
    have top : system.filepath.dir (render true []) = render true [] := by
      rw [unix]
      decide +kernel
    simp only [suffix_nil, exists_eq_left]
    exact ⟨fun inside => inside.matches_top top, .here⟩
  | cons name kept induction =>
    have up : system.filepath.dir (render true (name :: kept)) = render true kept := by
      simp only [unix, Filepath.unix, dir_render named]
    have step : Inside system root (render true (name :: kept)) ↔
        system.filepath.matchPath root (render true (name :: kept)) = some true ∨
          Inside system root (render true kept) := by
      rw [← up]
      constructor
      · rintro (matched | above)
        · exact .inl matched
        · exact .inr above
      · rintro (matched | above)
        · exact .here matched
        · exact .under above
    simp only [step, induction (forall_mem_cons.mp named).2, suffix_cons_iff, or_and_right, exists_or,
      exists_eq_left]

theorem exists_names_fold (system : System) (absolute : isAbs target = true)
    (cleaned : clean target = target) :
    ∃ kept, fold system target = render true kept ∧ ∀ name ∈ kept, IsName name := by
  have named := isName_elements absolute
  rw [← cleaned, ← render_elements absolute, fold]
  generalize elements target = kept at named
  split
  · rw [toLower_render named]
    exact ⟨_, rfl, forall_mem_map.mpr fun name member => (named name member).toLower _⟩
  · exact ⟨_, rfl, named⟩

theorem isPlain_fold (plain : ∀ character ∈ root.toList, Match.isPlain character = true) :
    ∀ character ∈ (fold system root).toList, Match.isPlain character = true := by
  rw [fold]
  split
  · simpa (disch := decide) [toLower, Match.isPlain_iff, toLower_eq_iff] using plain
  · exact plain

theorem pathIsWithin_literal (unix : system.filepath = .unix) (absolute : isAbs target = true)
    (cleaned : clean target = target)
    (plain : ∀ character ∈ root.toList, Match.isPlain character = true) :
    pathIsWithin system target root = true ↔
      clean (fold system root) = fold system root ∧ isAbs (fold system root) = true ∧
      (elements (fold system root)).reverse <+: (elements (fold system target)).reverse := by
  obtain ⟨kept, folded, named⟩ := exists_names_fold system absolute cleaned
  have matched (path : String) : system.filepath.matchPath (fold system root) path = some true ↔
      path = fold system root := by
    simp [unix, Filepath.unix, Match.matchPath_plain _ (isPlain_fold plain)]
  rw [pathIsWithin_iff, reverse_prefix, folded, inside_render unix named,
    (Normal.of_names named).elements_render]
  simp only [matched]
  constructor
  · rintro ⟨upper, suffix, same⟩
    have normal := Normal.of_names fun name member => named name (suffix.subset member)
    rw [← same, normal.elements_render]
    exact ⟨normal.clean_render, normal.read_render.1, suffix⟩
  · rintro ⟨cleaned, rooted, suffix⟩
    exact ⟨_, suffix, (render_elements rooted).trans cleaned⟩

theorem exists_top (filepath : Filepath) (path : String) :
    ∃ steps, filepath.dir (filepath.dir^[steps] path) = filepath.dir^[steps] path := by
  induction height : filepath.height path using Nat.strong_induction_on generalizing path with
  | _ _ induction =>
    rcases filepath.dir_height path with top | lower
    · exact ⟨0, top⟩
    · rw [height] at lower
      obtain ⟨steps, top⟩ := induction _ lower _ rfl
      exact ⟨steps + 1, top⟩

/-- The walk ends, and it finds out whether the target or one of its ancestors
matches the pattern.  A pattern without wildcards is found where it is a clean
absolute path whose elements are the first ones of the target. -/
theorem subtree_test (system : System) (target root : String) :
    (∃ steps, system.filepath.dir (system.filepath.dir^[steps] (fold system target)) =
      system.filepath.dir^[steps] (fold system target)) ∧
    (pathIsWithin system target root = true ↔
      Inside system (fold system root) (fold system target)) ∧
    (system.filepath = .unix → isAbs target = true → clean target = target →
      (∀ character ∈ root.toList, Match.isPlain character = true) →
      (pathIsWithin system target root = true ↔
        clean (fold system root) = fold system root ∧ isAbs (fold system root) = true ∧
        (elements (fold system root)).reverse <+: (elements (fold system target)).reverse)) :=
  ⟨exists_top _ _, pathIsWithin_iff, pathIsWithin_literal⟩

theorem subtree_test_darwin : pathIsWithin darwin "/etc/x" "/ETC" = true :=
  ((subtree_test _ _ _).2.2 rfl (by decide +kernel) (by decide +kernel)
    (by simp [Match.isPlain_iff])).mpr (by decide +kernel)

/-- Nothing is found below a directory that is written with a trailing slash. -/
theorem subtree_missed : pathIsWithin linux "/etc/passwd" "/etc/" = false ∧
    (split "/etc/" '/').filter (· ≠ "") = ["etc"] ∧
    (split "/etc/passwd" '/').filter (· ≠ "") = ["etc", "passwd"] := by
  decide +kernel

end ProxiPort.Destination
