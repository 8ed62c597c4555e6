import ProxiPort.Go.Strings

/-!
# Slash-separated paths

`path.Clean` and, on Unix, `IsAbs`, `Base` and `Join` of `path/filepath`.
-/

namespace ProxiPort.Go.Path

open List

/-- One element after the elements kept so far, the last of which comes
first. -/
def keep (rooted : Bool) (kept : List String) (element : String) : List String :=
  if element = "" ∨ element = "." then kept
  else if element = ".." then
    match kept with
    | [] => if rooted then [] else [".."]
    | last :: before =>
      if last = ".." then ".." :: last :: before else before
  else element :: kept

/-- `path.Clean`: the shortest path name equivalent to a path by purely
lexical processing. -/
def clean (path : String) : String :=
  let rooted := hasPrefix path "/"
  let elements := (split path '/').foldl (keep rooted) []
  let cleaned := (if rooted then "/" else "") ++ join elements.reverse "/"
  if cleaned = "" then "." else cleaned

def isAbs (path : String) : Bool := hasPrefix path "/"

/-- `filepath.Base` on Unix: the last element, without trailing slashes. -/
def base (path : String) : String :=
  if path = "" then "."
  else (((split path '/').filter (· ≠ "")).getLast?).getD "/"

/-- `filepath.Join` of two elements on Unix; empty ones are ignored. -/
def joinPath (first second : String) : String :=
  if first = "" ∧ second = "" then ""
  else if first = "" then clean second
  else if second = "" then clean first
  else clean (first ++ "/" ++ second)

/-- What is known of the elements that are kept: none of them disappears in
`clean`, and once they have been joined they are kept again. -/
structure Normal (rooted : Bool) (kept : List String) : Prop where
  named : ∀ element ∈ kept, element ≠ "" ∧ element ≠ "." ∧ '/' ∉ element.toList
  stable : kept.reverse.foldl (keep rooted) [] = kept

theorem Normal.nil (rooted : Bool) : Normal rooted [] := ⟨forall_mem_nil _, rfl⟩

variable {rooted : Bool} {kept : List String} {element : String}

theorem keep_of_name (present : element ≠ "") (notDot : element ≠ ".") (notDots : element ≠ "..") :
    keep rooted kept element = element :: kept := by
  rw [keep.eq_def, if_neg (not_or.mpr ⟨present, notDot⟩), if_neg notDots]

theorem foldl_keep_cons (rooted : Bool) (last : String) (before : List String) :
    (last :: before).reverse.foldl (keep rooted) [] =
      keep rooted (before.reverse.foldl (keep rooted) []) last := by
  rw [reverse_cons, foldl_append]
  rfl

theorem Normal.before {last : String} {before : List String}
    (normal : Normal rooted (last :: before)) (notDots : last ≠ "..") : Normal rooted before := by
  obtain ⟨named, later⟩ := forall_mem_cons.mp normal.named
  refine ⟨later, ?_⟩
  have stable := normal.stable
  rw [foldl_keep_cons, keep_of_name named.1 named.2.1 notDots] at stable
  exact (List.cons.inj stable).2

theorem Normal.keep (normal : Normal rooted kept) (whole : '/' ∉ element.toList) :
    Normal rooted (keep rooted kept element) := by
  by_cases skipped : element = "" ∨ element = "."
  · rw [Path.keep.eq_def, if_pos skipped]
    exact normal
  have present := not_or.mp skipped
  -- An element that is put in front of the others is put there again.
  have pushed : Path.keep rooted kept element = element :: kept →
      Normal rooted (Path.keep rooted kept element) := by
    intro result
    rw [result]
    refine ⟨forall_mem_cons.mpr ⟨⟨present.1, present.2, whole⟩, normal.named⟩, ?_⟩
    rw [foldl_keep_cons, normal.stable, result]
  by_cases dots : element = ".."
  · cases kept with
    | nil =>
      cases rooted with
      | true =>
        rw [Path.keep, if_neg skipped, if_pos dots]
        exact .nil true
      | false =>
        apply pushed
        rw [Path.keep, if_neg skipped, if_pos dots, dots]
        rfl
    | cons last before =>
      by_cases up : last = ".."
      · apply pushed
        rw [Path.keep, if_neg skipped, if_pos dots, dots]
        exact if_pos up
      · have popped : Path.keep rooted (last :: before) element = before := by
          rw [Path.keep, if_neg skipped, if_pos dots]
          exact if_neg up
        rw [popped]
        exact normal.before up
  · exact pushed (keep_of_name present.1 present.2 dots)

theorem Normal.foldl {kept elements : List String} (normal : Normal rooted kept)
    (whole : ∀ element ∈ elements, '/' ∉ element.toList) :
    Normal rooted (elements.foldl (Path.keep rooted) kept) := by
  induction elements generalizing kept with
  | nil => exact normal
  | cons element rest induction =>
    obtain ⟨here, later⟩ := forall_mem_cons.mp whole
    exact induction (normal.keep here) later

/-- What `clean` makes of the elements that it keeps. -/
def render (rooted : Bool) (kept : List String) : String :=
  let cleaned := (if rooted then "/" else "") ++ join kept.reverse "/"
  if cleaned = "" then "." else cleaned

theorem clean_eq_render (path : String) :
    clean path = render (hasPrefix path "/")
      ((split path '/').foldl (keep (hasPrefix path "/")) []) :=
  rfl

theorem toList_join_cons (first : String) (rest : List String) :
    ∃ characters, (join (first :: rest) "/").toList =
      first.toList ++ characters := by
  by_cases last : rest = []
  · refine ⟨[], ?_⟩
    rw [last, join, String.intercalate_singleton, append_nil]
  · refine ⟨"/".toList ++ (String.intercalate "/" rest).toList, ?_⟩
    rw [join, String.intercalate_cons_of_ne_nil last, String.toList_append,
      String.toList_append, append_assoc]

theorem render_rooted (nonempty : kept ≠ []) :
    render true kept = join ("" :: kept.reverse) "/" ∧
      hasPrefix (render true kept) "/" = true := by
  have more : kept.reverse ≠ [] := by simpa using nonempty
  have present : "/" ++ join kept.reverse "/" ≠ "" := by
    intro blank
    have characters := congrArg String.toList blank
    simp at characters
  have rendered : render true kept = "/" ++ join kept.reverse "/" := by
    rw [render]
    exact if_neg present
  refine ⟨?_, ?_⟩
  · rw [rendered, join, join, String.intercalate_cons_of_ne_nil more, String.empty_append]
  · rw [rendered, hasPrefix]
    simp

theorem Normal.render_relative (normal : Normal rooted kept) (nonempty : kept ≠ []) :
    render false kept = join kept.reverse "/" ∧ hasPrefix (render false kept) "/" = false := by
  cases elements : kept.reverse with
  | nil => exact (nonempty (reverse_eq_nil_iff.mp elements)).elim
  | cons first rest =>
    have member : first ∈ kept := by
      rw [← mem_reverse, elements]
      exact mem_cons_self
    obtain ⟨present, _, whole⟩ := normal.named first member
    obtain ⟨characters, joined⟩ := toList_join_cons first rest
    have rendered : render false kept = join (first :: rest) "/" := by
      rw [render, elements]
      simp only [Bool.false_eq_true, if_false, String.empty_append]
      refine if_neg fun blank => present ?_
      rw [blank] at joined
      exact String.toList_eq_nil_iff.mp (append_eq_nil_iff.mp joined.symm).1
    refine ⟨rendered, ?_⟩
    rw [rendered, hasPrefix, joined]
    cases letters : first.toList with
    | nil => exact (present (String.toList_eq_nil_iff.mp letters)).elim
    | cons letter others =>
      rw [letters] at whole
      have different : '/' ≠ letter := fun same =>
        whole (same ▸ mem_cons_self)
      simp [List.isPrefixOf, different]

theorem Normal.read_render (normal : Normal rooted kept) :
    hasPrefix (render rooted kept) "/" = rooted ∧
      (split (render rooted kept) '/').foldl (Path.keep rooted) [] = kept := by
  by_cases nothing : kept = []
  · subst nothing
    cases rooted with
    | true | false => decide +kernel
  have whole : ∀ element ∈ kept.reverse, '/' ∉ element.toList :=
    fun element member => (normal.named element (mem_reverse.mp member)).2.2
  have more : kept.reverse ≠ [] := by simpa using nothing
  have stable := normal.stable
  cases rooted with
  | true =>
    obtain ⟨rendered, isRooted⟩ := render_rooted nothing
    have parts : split (render true kept) '/' = "" :: kept.reverse := by
      rw [rendered]
      exact split_join (cons_ne_nil _ _) (forall_mem_cons.mpr ⟨by simp, whole⟩)
    rw [parts]
    exact ⟨isRooted, stable⟩
  | false =>
    obtain ⟨rendered, isRelative⟩ := normal.render_relative nothing
    have parts : split (render false kept) '/' = kept.reverse := by
      rw [rendered]
      exact split_join more whole
    rw [parts]
    exact ⟨isRelative, stable⟩

theorem Normal.clean_render (normal : Normal rooted kept) :
    clean (render rooted kept) =
      render rooted kept := by
  obtain ⟨root, elements⟩ := normal.read_render
  rw [clean_eq_render, root, elements]

theorem clean_clean (path : String) : clean (clean path) = clean path := by
  rw [clean_eq_render path]
  exact Normal.clean_render ((Normal.nil _).foldl fun element member => not_mem_of_split member)

theorem clean_joinPath {second : String} (present : second ≠ "") (first : String) :
    clean (joinPath first second) = joinPath first second := by
  rw [joinPath, if_neg fun blank => present blank.2]
  by_cases relative : first = ""
  · rw [if_pos relative, clean_clean]
  · rw [if_neg relative, if_neg present, clean_clean]

example : clean "/a//b/./../c/" = "/a/c" := by decide +kernel

end ProxiPort.Go.Path
