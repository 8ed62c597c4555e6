import ProxiPort.Go.Match
import ProxiPort.Go.Path
import ProxiPort.Go.Unicode

/-!
# File paths of different systems

`path/filepath`, as far as it depends on the system: a `Filepath` has the
functions of one system and what is known of them.  Those of Unix are defined.
-/

namespace ProxiPort.Go

open List

namespace Path

def dir (path : String) : String :=
  clean (String.ofList
    (path.toList.reverse.dropWhile (· ≠ '/')).reverse)

example : dir "/a/b" = "/a" := by decide +kernel

theorem mem_of_mem_splitCharacters {separator character : Char} {text part : List Char}
    (member : part ∈ splitCharacters separator text)
    (inside : character ∈ part) : character ∈ text := by
  induction text generalizing part with
  | nil =>
    rw [mem_singleton.mp member] at inside
    exact inside
  | cons first rest induction =>
    rw [splitCharacters] at member
    cases parts : splitCharacters separator rest with
    | nil => exact absurd parts (splitCharacters_ne_nil _ _)
    | cons next others =>
      rw [parts] at member induction
      split at member
      · rcases mem_cons.mp member with rfl | later
        · cases inside
        · exact mem_cons_of_mem _ (induction later inside)
      · rcases mem_cons.mp member with rfl | later
        · rcases mem_cons.mp inside with rfl | deeper
          · exact mem_cons_self
          · exact mem_cons_of_mem _ (induction mem_cons_self deeper)
        · exact mem_cons_of_mem _ (induction (mem_cons_of_mem _ later) inside)

theorem splitCharacters_concat (separator : Char) (first rest : List Char) :
    splitCharacters separator (first ++ separator :: rest) =
      splitCharacters separator first ++ splitCharacters separator rest := by
  induction first with
  | nil => simp [splitCharacters]
  | cons character first induction =>
    rw [cons_append, splitCharacters, splitCharacters, induction]
    by_cases same : character = separator
    · simp [same]
    · rw [if_neg same, if_neg same]
      cases parts : splitCharacters separator first with
      | nil => exact absurd parts (splitCharacters_ne_nil _ _)
      | cons part others => rfl

theorem split_slash (first rest : String) :
    split (first ++ "/" ++ rest) '/' = split first '/' ++ split rest '/' := by
  have characters : (first ++ "/" ++ rest).toList =
      first.toList ++ '/' :: rest.toList := by simp
  rw [split, characters, splitCharacters_concat, map_append]
  rfl

variable {first : String}

theorem hasPrefix_append (present : first ≠ "") (rest : String) :
    hasPrefix (first ++ rest) "/" = hasPrefix first "/" := by
  cases characters : first.toList with
  | nil => exact absurd (String.toList_eq_nil_iff.mp characters) present
  | cons character others =>
    simp [hasPrefix, characters, List.isPrefixOf]

/-- The elements that `clean` keeps of a path. -/
def elements (path : String) : List String := (split path '/').foldl (keep (hasPrefix path "/")) []

theorem normal_elements (path : String) : Normal (hasPrefix path "/") (elements path) :=
  (Normal.nil _).foldl fun _ member => not_mem_of_split member

theorem clean_slash (present : first ≠ "") (rest : String) :
    clean (first ++ "/" ++ rest) = render (hasPrefix first "/")
      ((split rest '/').foldl (keep (hasPrefix first "/")) (elements first)) := by
  rw [clean_eq_render, split_slash, foldl_append, String.append_assoc,
    hasPrefix_append present, elements]

theorem clean_ne_empty (path : String) : clean path ≠ "" := by
  have chosen (cleaned : String) : (if cleaned = "" then "." else cleaned) ≠ "" := by
    split
    · decide
    · assumption
  exact chosen _

theorem clean_clean_slash (present : first ≠ "") (rest : String) :
    clean (clean first ++ "/" ++ rest) = clean (first ++ "/" ++ rest) := by
  obtain ⟨root, kept⟩ := (normal_elements first).read_render
  have rendered : clean first = render (hasPrefix first "/") (elements first) := rfl
  rw [← rendered] at root kept
  have same : elements (clean first) = elements first := by
    rw [elements, root, kept]
  rw [clean_slash (clean_ne_empty first), clean_slash present, root, same]

theorem keep_dots {rooted : Bool} {last : String} {before : List String}
    (name : last ≠ "..") : keep rooted (last :: before) ".." = before := by
  rw [keep, if_neg (by decide), if_pos rfl]
  exact if_neg name

/-- Elements are kept the same when they are cleaned by themselves first. -/
theorem foldl_keep_cleaned (rooted : Bool) {names : List String}
    (whole : ∀ name ∈ names, '/' ∉ name.toList) (kept : List String) :
    (names.foldl (keep false) []).reverse.foldl (keep rooted) kept =
      names.foldl (keep rooted) kept := by
  induction names using List.reverseRecOn with
  | nil => rfl
  | append_singleton names name induction =>
    have others : ∀ other ∈ names, '/' ∉ other.toList :=
      fun other member => whole other (mem_append_left _ member)
    have normal : Normal false (names.foldl (keep false) []) := (Normal.nil false).foldl others
    rw [foldl_append, foldl_append, ← induction others]
    generalize names.foldl (keep false) [] = before at normal
    simp only [foldl_cons, foldl_nil]
    -- what is put in front of the others is kept once more
    have pushed (front : keep false before name = name :: before) :
        (keep false before name).reverse.foldl (keep rooted) kept =
          keep rooted (before.reverse.foldl (keep rooted) kept) name := by
      rw [front, reverse_cons, foldl_append]
      rfl
    by_cases skipped : name = "" ∨ name = "."
    · rw [keep.eq_def, if_pos skipped, keep.eq_def, if_pos skipped]
    have present := not_or.mp skipped
    by_cases dots : name = ".."
    · subst dots
      cases before with
      | nil => exact pushed rfl
      | cons last before =>
        by_cases up : last = ".."
        · apply pushed
          rw [up]
          rfl
        · have named := normal.named last mem_cons_self
          rw [keep_dots up, reverse_cons, foldl_append, foldl_cons, foldl_nil,
            keep_of_name named.1 named.2.1 up, keep_dots up]
    · exact pushed (keep_of_name present.1 present.2 dots)

theorem clean_slash_clean {rest : String} (present : first ≠ "")
    (relative : hasPrefix rest "/" = false) :
    clean (first ++ "/" ++ clean rest) = clean (first ++ "/" ++ rest) := by
  rw [clean_slash present, clean_slash present]
  refine congrArg (render (hasPrefix first "/")) ?_
  have whole : ∀ name ∈ split rest '/', '/' ∉ name.toList := fun _ member => not_mem_of_split member
  rw [← foldl_keep_cleaned _ whole]
  have normal := normal_elements rest
  have rendered : clean rest = render (hasPrefix rest "/") (elements rest) := rfl
  rw [relative] at normal rendered
  have same : (split rest '/').foldl (keep false) [] = elements rest := by
    rw [elements, relative]
  rw [rendered, same]
  by_cases nothing : elements rest = []
  · rw [nothing]
    rfl
  · have parts : split (join (elements rest).reverse "/") '/' = (elements rest).reverse :=
      split_join (by simpa using nothing) fun element member =>
        (normal.named element (mem_reverse.mp member)).2.2
    rw [(normal.render_relative nothing).1, parts]

theorem joinPath_joinPath {name : String} (present : name ≠ "")
    (relative : hasPrefix name "/" = false) (first rest : String) :
    joinPath first (joinPath name rest) =
      if rest = "" then joinPath first name
      else joinPath (joinPath first name) rest := by
  by_cases last : rest = ""
  · rw [if_pos last, joinPath, joinPath, joinPath]
    by_cases start : first = ""
    · simp [last, start, present, clean_ne_empty, clean_clean]
    · simp [last, start, present, clean_ne_empty, clean_slash_clean start relative]
  · have inner : joinPath name rest = clean (name ++ "/" ++ rest) := by
      simp [joinPath, last, present]
    rw [if_neg last, inner]
    by_cases start : first = ""
    · have named : joinPath first name = clean name := by
        simp [joinPath, start, present]
      rw [named]
      simp [joinPath, start, last, clean_ne_empty, clean_clean, clean_clean_slash present]
    · have named : joinPath first name = clean (first ++ "/" ++ name) := by
        simp [joinPath, start, present]
      have joined : first ++ "/" ++ name ≠ "" := by
        intro blank
        simpa using congrArg String.toList blank
      have unrooted : hasPrefix (name ++ "/" ++ rest) "/" = false := by
        rw [String.append_assoc, hasPrefix_append present, relative]
      rw [named, joinPath, joinPath]
      simp only [start, last, clean_ne_empty, and_self, if_false]
      rw [clean_slash_clean start unrooted, clean_clean_slash joined,
        String.append_assoc, String.append_assoc, String.append_assoc,
        String.append_assoc, String.append_assoc]

theorem length_join {parts : List String} (nonempty : parts ≠ []) :
    (join parts "/").length + 1 =
      (parts.map fun part => part.length + 1).sum := by
  induction parts with
  | nil => exact absurd rfl nonempty
  | cons first rest induction =>
    by_cases last : rest = []
    · simp [last, join]
    · rw [join, String.intercalate_cons_of_ne_nil last, ← join,
        map_cons, sum_cons, ← induction last, String.length_append, String.length_append]
      have slash : "/".length = 1 := by decide
      omega

theorem sublist_keep {rooted : Bool} {kept names : List String}
    (sublist : kept.reverse.Sublist names) (name : String) :
    (keep rooted kept name).reverse.Sublist (names ++ [name]) := by
  have pushed : (name :: kept).reverse.Sublist (names ++ [name]) := by
    rw [reverse_cons]
    exact sublist.append (List.Sublist.refl _)
  have skipped : kept.reverse.Sublist (names ++ [name]) := sublist.trans (sublist_append_left _ _)
  rw [keep.eq_def]
  split
  · exact skipped
  · split
    · rename_i dots
      subst dots
      cases kept with
      | nil =>
        cases rooted with
        | true => exact skipped
        | false => exact pushed
      | cons last before =>
        dsimp only
        split
        · exact pushed
        · have shorter : before.reverse.Sublist (last :: before).reverse := by
            rw [reverse_cons]
            exact sublist_append_left _ _
          exact shorter.trans skipped
    · exact pushed

theorem sublist_foldl_keep (rooted : Bool) (names : List String) :
    (names.foldl (keep rooted) []).reverse.Sublist names := by
  induction names using List.reverseRecOn with
  | nil => exact List.Sublist.refl _
  | append_singleton names name induction =>
    rw [foldl_append]
    exact sublist_keep induction name

theorem length_join_le {kept names : List String} (sublist : kept.Sublist names) :
    (join kept "/").length ≤ (join names "/").length := by
  by_cases nonempty : kept = []
  · rw [nonempty]
    exact Nat.zero_le _
  have more : names ≠ [] := by
    rintro rfl
    exact nonempty (sublist_nil.mp sublist)
  have sum : (kept.map fun part => part.length + 1).sum ≤
      (names.map fun part => part.length + 1).sum :=
    (sublist.map _).sum_le_sum fun _ _ => Nat.zero_le _
  rw [← length_join nonempty, ← length_join more] at sum
  omega

theorem join_split (text : String) (separator : Char) :
    join (split text separator) (String.singleton separator) = text := by
  have characters (text : List Char) : join ((splitCharacters separator text).map String.ofList)
        (String.singleton separator) = String.ofList text := by
    induction text with
    | nil => rfl
    | cons character rest induction =>
      rw [splitCharacters]
      cases parts : splitCharacters separator rest with
      | nil => exact absurd parts (splitCharacters_ne_nil _ _)
      | cons first others =>
        rw [parts] at induction
        by_cases same : character = separator
        · rw [if_pos same, map_cons, join, String.intercalate_cons_of_ne_nil (by simp), ← join,
            induction, ← String.toList_inj]
          simp [same]
        · rw [if_neg same, ← String.toList_inj]
          have later := congrArg String.toList induction
          cases others with
          | nil => simpa [join] using later
          | cons second others =>
            simp only [map_cons, join, String.intercalate_cons_of_ne_nil (cons_ne_nil _ _),
              String.toList_append, String.toList_ofList, cons_append] at later ⊢
            rw [later]
  rw [split, characters, String.ofList_toList]

theorem length_render_le (rooted : Bool) (kept : List String) :
    (render rooted kept).length ≤ max 1
      ((if rooted then 1 else 0) + (join kept.reverse "/").length) := by
  have chosen (cleaned : String) : (if cleaned = "" then "." else cleaned).length ≤
        max 1 cleaned.length := by
    split
    · exact Nat.le_max_left _ _
    · exact Nat.le_max_right _ _
  refine (chosen _).trans (le_of_eq ?_)
  rw [String.length_append]
  cases rooted <;> rfl

variable {path : String}

theorem length_clean_le (present : path ≠ "") : (clean path).length ≤ path.length := by
  have nonempty : path.length ≠ 0 := by
    rwa [ne_eq, String.length_eq_zero_iff]
  have joined (rooted : Bool) (rest : String) :
      (join ((split rest '/').foldl (keep rooted) []).reverse "/").length ≤ rest.length := by
    have shorter := length_join_le (sublist_foldl_keep rooted (split rest '/'))
    rwa [show "/" = String.singleton '/' from rfl, join_split] at shorter
  rw [clean_eq_render]
  apply (length_render_le _ _).trans
  cases rooted : hasPrefix path "/" with
  | false =>
    have shorter := joined false path
    simp only [Bool.false_eq_true, if_false]
    omega
  | true =>
    -- the element before the root is empty
    obtain ⟨characters, same⟩ := isPrefixOf_iff_prefix.mp rooted
    have start : path = "" ++ "/" ++ String.ofList characters := by
      rw [← String.toList_inj, ← same]
      simp
    have shorter := joined true (String.ofList characters)
    have length : path.length = 1 + (String.ofList characters).length := by
      rw [start, String.length_append, String.length_append]
      rfl
    rw [start, split_slash, foldl_append, if_pos rfl]
    have first : (split "" '/').foldl (keep true) [] = [] := rfl
    rw [first, ← start, length]
    omega

theorem dir_of_not_mem (absent : '/' ∉ path.toList) : dir path = "." := by
  have nothing : path.toList.reverse.dropWhile (· ≠ '/') = [] := by
    rw [dropWhile_eq_nil_iff]
    intro character member
    rw [mem_reverse] at member
    have other : character ≠ '/' := fun same => absent (same ▸ member)
    simpa using other
  rw [dir, nothing]
  rfl

theorem dir_slash {after : String} (absent : '/' ∉ after.toList)
    (before : String) : dir (before ++ "/" ++ after) =
      if before = "" then "/" else clean before := by
  have kept : (before ++ "/" ++ after).toList.reverse.dropWhile (· ≠ '/') =
      '/' :: before.toList.reverse := by
    have characters : (before ++ "/" ++ after).toList.reverse =
        after.toList.reverse ++ '/' :: before.toList.reverse := by simp
    rw [characters, dropWhile_append_of_pos, dropWhile_cons_of_neg]
    · simp
    · intro character member
      rw [mem_reverse] at member
      have other : character ≠ '/' := fun same => absent (same ▸ member)
      simpa using other
  have written : String.ofList ('/' :: before.toList.reverse).reverse = before ++ "/" ++ "" := by
    rw [← String.toList_inj]
    simp
  rw [dir, kept, written]
  split
  · rename_i root
    rw [root]
    decide +kernel
  · rename_i present
    rw [clean_slash present]
    rfl

theorem exists_slash (member : '/' ∈ path.toList) :
    ∃ before after, path = before ++ "/" ++ after ∧ '/' ∉ after.toList := by
  obtain ⟨first, rest, split, absent⟩ := eq_append_cons_of_mem (mem_reverse.mpr member)
  refine ⟨String.ofList rest.reverse, String.ofList first.reverse, ?_, ?_⟩
  · rw [← String.toList_inj, ← reverse_inj, split]
    simp
  · simpa using absent

theorem dir_shorter (path : String) :
    dir path = "." ∨ dir path = "/" ∨
      (dir path).length < path.length := by
  by_cases member : '/' ∈ path.toList
  · obtain ⟨before, after, rfl, absent⟩ := exists_slash member
    rw [dir_slash absent]
    split
    · exact .inr (.inl rfl)
    · rename_i present
      have shorter := length_clean_le present
      refine .inr (.inr ?_)
      rw [String.length_append, String.length_append]
      have slash : "/".length = 1 := by decide
      omega
  · exact .inl (dir_of_not_mem member)

theorem base_name (cleaned : clean path = path) (below : dir path ≠ path) :
    base path ≠ "" ∧ hasPrefix (base path) "/" = false := by
  rw [base]
  split
  · decide
  · cases last : ((split path '/').filter (· ≠ "")).getLast? with
    | some name =>
      have member := mem_of_getLast? last
      obtain ⟨inside, present⟩ := mem_filter.mp member
      have whole := not_mem_of_split inside
      rw [Option.getD_some]
      refine ⟨by simpa using present, ?_⟩
      cases characters : name.toList with
      | nil => simp [hasPrefix, characters]
      | cons first rest =>
        have other : '/' ≠ first := by
          intro same
          rw [characters, same] at whole
          exact whole mem_cons_self
        simp [hasPrefix, characters, List.isPrefixOf, other]
    | none =>
      -- all elements are empty, so this is the root
      rw [getLast?_eq_none_iff, filter_eq_nil_iff] at last
      have nothing : elements path = [] := by
        rw [eq_nil_iff_forall_not_mem]
        intro name member
        have inside := (sublist_foldl_keep _ _).subset (mem_reverse.mpr member)
        have blank : name = "" := by simpa using last name inside
        exact ((normal_elements path).named name member).1 blank
      have rendered : clean path = render (hasPrefix path "/") [] := by
        rw [← nothing]
        rfl
      rw [cleaned] at rendered
      cases rooted : hasPrefix path "/" with
      | true =>
        rw [rooted] at rendered
        refine absurd ?_ below
        rw [rendered]
        decide +kernel
      | false =>
        rw [rooted] at rendered
        rw [rendered] at last
        exact absurd last (by decide +kernel)

/-- An element that `clean` keeps wherever it is. -/
def IsName (name : String) : Prop := name ≠ "" ∧ name ≠ "." ∧ name ≠ ".." ∧ '/' ∉ name.toList

variable {kept : List String} {name : String}

theorem isName_keep (named : ∀ name ∈ kept, IsName name) (whole : '/' ∉ name.toList) :
    ∀ other ∈ keep true kept name, IsName other := by
  rw [keep.eq_def]
  split
  · exact named
  · rename_i present
    obtain ⟨present, dot⟩ := not_or.mp present
    split
    · cases kept with
      | nil => exact forall_mem_nil _
      | cons last before =>
        obtain ⟨last, before⟩ := forall_mem_cons.mp named
        dsimp only
        rwa [if_neg last.2.2.1]
    · rename_i dots
      exact forall_mem_cons.mpr ⟨⟨present, dot, dots, whole⟩, named⟩

theorem isName_elements {path : String} (absolute : isAbs path = true) :
    ∀ name ∈ elements path, IsName name := by
  rw [elements, show hasPrefix path "/" = true from absolute]
  refine foldlRecOn (motive := fun kept => ∀ name ∈ kept, IsName name) _ _ (forall_mem_nil _) ?_
  exact fun _ named _ member => isName_keep named (not_mem_of_split member)

theorem render_elements {path : String} (absolute : isAbs path = true) :
    render true (elements path) = clean path :=
  (congrArg (render · (elements path)) absolute).symm

theorem Normal.of_names (named : ∀ name ∈ kept, IsName name) : Normal true kept := by
  induction kept with
  | nil => exact .nil true
  | cons name kept induction =>
    obtain ⟨⟨present, dot, dots, whole⟩, others⟩ := forall_mem_cons.mp named
    have normal := (induction others).keep whole
    rwa [keep_of_name present dot dots] at normal

theorem Normal.elements_render {rooted : Bool} (normal : Normal rooted kept) :
    elements (render rooted kept) = kept := by
  rw [elements, normal.read_render.1, normal.read_render.2]

theorem split_render (named : ∀ name ∈ kept, IsName name) (nonempty : kept ≠ []) :
    split (render true kept) '/' = "" :: kept.reverse := by
  rw [(render_rooted nonempty).1]
  refine split_join (cons_ne_nil _ _) (forall_mem_cons.mpr ⟨by simp, ?_⟩)
  exact fun name member => (named name (mem_reverse.mp member)).2.2.2

theorem dir_render (named : ∀ other ∈ name :: kept, IsName other) :
    dir (render true (name :: kept)) = render true kept := by
  obtain ⟨⟨_, _, _, whole⟩, others⟩ := forall_mem_cons.mp named
  have written : render true (name :: kept) =
      (if kept = [] then "" else render true kept) ++ "/" ++ name := by
    rw [(render_rooted (cons_ne_nil _ _)).1, ← join_split (_ ++ "/" ++ name) '/', split_slash,
      split_of_not_mem whole, reverse_cons]
    split
    · rename_i nothing
      rw [nothing]
      rfl
    · rename_i nonempty
      rw [split_render others nonempty]
      rfl
  have cleaned := (Normal.of_names others).clean_render
  rw [written, dir_slash whole]
  by_cases nothing : kept = []
  · rw [nothing]
    rfl
  · rw [if_neg nothing, cleaned, if_neg]
    rw [← cleaned]
    exact clean_ne_empty _

theorem split_toLower (unicode : Unicode) (text : String) :
    split (toLower unicode text) '/' = (split text '/').map (toLower unicode) := by
  have slash {character} : unicode.toLower character = '/' ↔ character = '/' :=
    toLower_eq_iff (by decide)
  have general (text : List Char) : splitCharacters '/' (text.map unicode.toLower) =
      (splitCharacters '/' text).map (·.map unicode.toLower) := by
    induction text with
    | nil => rfl
    | cons character text induction =>
      rw [map_cons, splitCharacters, splitCharacters, induction]
      cases splitCharacters '/' text <;> grind
  simp [split, toLower, general, Function.comp_def]

theorem IsName.toLower (named : IsName name) (unicode : Unicode) :
    IsName (toLower unicode name) := by
  simp only [IsName, Go.toLower, ne_eq, ← String.toList_inj, String.toList_ofList] at named ⊢
  simpa (disch := decide) [toLower_eq_iff, map_eq_cons_iff] using named

theorem toLower_render (named : ∀ name ∈ kept, IsName name) (unicode : Unicode) :
    toLower unicode (render true kept) = render true (kept.map (toLower unicode)) := by
  by_cases nothing : kept = []
  · have slash : unicode.toLower '/' = '/' := (toLower_eq_iff (by decide)).mpr rfl
    rw [nothing, map_nil, show render true [] = "/" by decide +kernel, toLower]
    simp [slash]
  · have parts := split_toLower unicode (render true kept)
    rw [split_render named nothing, map_cons, map_reverse] at parts
    rw [← join_split (toLower _ _) '/', parts, (render_rooted (by simpa using nothing)).1]
    rfl

end Path

/-- The functions of `path/filepath` on one system, with the pattern that a path
is quoted as.  `height` bounds how often one can go up from a path. -/
structure Filepath where
  separator : Char
  clean : String → String
  dir : String → String
  base : String → String
  join : String → String → String
  matchPath : String → String → Option Bool
  quote : String → String
  height : String → Nat
  clean_ne_empty : ∀ path, clean path ≠ ""
  clean_clean : ∀ path, clean (clean path) = clean path
  clean_dir : ∀ path, clean (dir path) = dir path
  dir_height : ∀ path, dir path = path ∨ height (dir path) < height path
  clean_join : ∀ path first, clean path = path → dir path ≠ path →
    clean (join first (base path)) = join first (base path)
  join_ne_empty : ∀ path rest, clean path = path → dir path ≠ path → join (base path) rest ≠ ""
  join_join : ∀ path first rest, clean path = path → dir path ≠ path →
    join first (join (base path) rest) =
      if rest = "" then join first (base path)
      else join (join first (base path)) rest
  matchPath_error : ∀ pattern name other,
    matchPath pattern name = none → matchPath pattern other = none
  matchPath_quote : ∀ path other, matchPath (quote path) other = some (decide (other = path))

def Filepath.unix : Filepath where
  separator := '/'
  clean := Path.clean
  dir := Path.dir
  base := Path.base
  join := Path.joinPath
  matchPath := Match.matchPath '/' true
  quote := Match.quote
  height := fun path => if path = "." ∨ path = "/" then 0 else path.length + 1
  clean_ne_empty := Path.clean_ne_empty
  clean_clean := Path.clean_clean
  clean_dir := fun _ => Path.clean_clean _
  dir_height := by
    intro path
    by_cases top : path = "." ∨ path = "/"
    · left
      rcases top with rfl | rfl <;> decide +kernel
    · right
      rw [if_neg top]
      split
      · exact Nat.succ_pos _
      · rename_i lower
        rcases Path.dir_shorter path with up | up | shorter
        · exact absurd (.inl up) lower
        · exact absurd (.inr up) lower
        · exact Nat.succ_lt_succ shorter
  clean_join := by
    intro path first cleaned below
    exact Path.clean_joinPath (Path.base_name cleaned below).1 first
  join_ne_empty := by
    intro path rest cleaned below
    have name := (Path.base_name cleaned below).1
    rw [Path.joinPath, if_neg fun blank => name blank.1, if_neg name]
    split
    all_goals exact Path.clean_ne_empty _
  join_join := by
    intro path first rest cleaned below
    obtain ⟨name, relative⟩ := Path.base_name cleaned below
    exact Path.joinPath_joinPath name relative first rest
  matchPath_error := by
    intro pattern name other failed
    rw [Match.matchPath, Option.map_eq_none_iff] at failed ⊢
    exact failed
  matchPath_quote := Match.matchPath_quote '/'

end ProxiPort.Go
