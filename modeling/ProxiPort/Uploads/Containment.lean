import ProxiPort.Uploads.Protection

/-!
# Where a push is staged

`client/upload.go`: the agent stages a pushed file in its upload directory, under
the last element of a path that the server sends.  An element that is no name
leads to the directory itself, or to the one above it.  The texts of errors are
left out.
-/

namespace ProxiPort.Destination

open Go List Path

structure UploadedFile where
  sourceFilePath : String
  destinationPath : String
  destinationFileMode : Nat
  destinationFileOwner : String
  destinationFileGroup : String

def maxPushedFileMode : Nat := 0o777

def UploadedFile.validate (file : UploadedFile) : Bool :=
  file.sourceFilePath ≠ "" && file.destinationPath ≠ "" &&
    isAbsoluteDestination file.destinationPath && file.destinationFileMode ≤ maxPushedFileMode

/-- `getUploadedFile`, on a request that was decoded. -/
def getUploadedFile (system : System) (layout : Layout system) (protectedDirs : List String)
    (file : UploadedFile) : Bool :=
  file.validate && (validateDestinationPath system layout protectedDirs file.destinationPath).isOk

inductive Operation where
  | create
  | remove
  | changeMode
  | changeOwner
  deriving DecidableEq

/-- A call that changes what is at a path, whether it fails or not. -/
structure Change where
  operation : Operation
  path : String
  deriving DecidableEq

/-- What is answered to the calls of a push; `none` and `false` are failures. -/
structure Answers where
  createDirIfNotExists : Bool
  exist : Option Bool
  remove : Bool
  openSource : Bool
  createFile : Bool
  md5HashMatch : Option Bool
  changeMode : Bool
  currentUserAndGroup : Option (String × String)
  changeOwner : Bool
  moveFileToDestination : Bool

def stagedPath (uploadDir remoteFilePath : String) : String :=
  joinPath uploadDir (base remoteFilePath)

section

variable (answers : Answers)

/-- Whether `copyFileToTempLocation` succeeds, and what it does to the path. -/
def copyFileToTempLocation (uploadDir remoteFilePath : String) : Bool × List Change :=
  let tempFilePath := stagedPath uploadDir remoteFilePath
  if trimSpace uploadDir = "" || !answers.createDirIfNotExists then (false, [])
  else
    match answers.exist with
    | none => (false, [])
    | some tempFileExists =>
      let removed := if tempFileExists then [⟨.remove, tempFilePath⟩] else []
      if tempFileExists && !answers.remove || !answers.openSource then (false, removed)
      else if answers.createFile && answers.md5HashMatch = some true then
        (true, removed ++ [⟨.create, tempFilePath⟩])
      else (false, removed ++ [⟨.create, tempFilePath⟩, ⟨.remove, tempFilePath⟩])

def chmodFile (path : String) (mode : Nat) : Bool × List Change :=
  if mode = 0 then (true, [])
  else if maxPushedFileMode < mode then (false, [])
  else (answers.changeMode, [⟨.changeMode, path⟩])

def ownerOrGroupMatchesCurrentUser (owner group user currentGroup : String) : Bool :=
  owner ≠ "" ∧ user = owner ∧ group = "" ∨ owner = "" ∧ group ≠ "" ∧ currentGroup = group ∨
    user = owner ∧ currentGroup = group

def chownFile (path owner group : String) : Bool × List Change :=
  if owner = "" ∧ group = "" then (true, [])
  else
    match answers.currentUserAndGroup with
    | none => (false, [])
    | some (user, currentGroup) =>
      if ownerOrGroupMatchesCurrentUser owner group user currentGroup then (true, [])
      else (answers.changeOwner, [⟨.changeOwner, path⟩])

/-- What `handleWritingFile` does to the staged file, until it is moved or
removed. -/
def handleWritingFile (uploadDir : String) (file : UploadedFile) : List Change :=
  let tempFilePath := stagedPath uploadDir file.sourceFilePath
  let (copied, changes) := copyFileToTempLocation answers uploadDir file.sourceFilePath
  if !copied then changes
  else
    let (chmoded, mode) := chmodFile answers tempFilePath file.destinationFileMode
    let (chowned, owner) :=
      if chmoded then
        chownFile answers tempFilePath file.destinationFileOwner file.destinationFileGroup
      else (false, [])
    changes ++ mode ++ owner ++
      if chowned && answers.moveFileToDestination then [] else [⟨.remove, tempFilePath⟩]

end

/-- A name in the directory. -/
def DirectChild (directory path : String) : Prop :=
  ∃ name, IsName name ∧ path = joinPath directory name

def Contained (uploadDir : String) (file : UploadedFile) : Prop :=
  ∀ answers, ∀ change ∈ handleWritingFile answers uploadDir file, DirectChild uploadDir change.path

variable {answers : Answers} {change : Change} {uploadDir path : String} {file : UploadedFile}

theorem mem_copyFileToTempLocation
    (member : change ∈ (copyFileToTempLocation answers uploadDir path).2) :
    change.path = stagedPath uploadDir path := by
  grind [copyFileToTempLocation]

theorem mem_chmodFile {mode : Nat} (member : change ∈ (chmodFile answers path mode).2) :
    change.path = path := by
  grind [chmodFile]

theorem mem_chownFile {owner group : String}
    (member : change ∈ (chownFile answers path owner group).2) : change.path = path := by
  grind [chownFile]

theorem handleWritingFile_blank (blank : trimSpace uploadDir = "") :
    handleWritingFile answers uploadDir file = [] := by
  simp [handleWritingFile, copyFileToTempLocation, blank]

theorem mem_handleWritingFile (member : change ∈ handleWritingFile answers uploadDir file) :
    change.path = stagedPath uploadDir file.sourceFilePath := by
  simp only [handleWritingFile] at member
  split at member
  · exact mem_copyFileToTempLocation member
  · simp only [mem_append] at member
    rcases member with ((copied | mode) | owner) | removed
    · exact mem_copyFileToTempLocation copied
    · exact mem_chmodFile mode
    · split at owner
      · exact mem_chownFile owner
      · cases owner
    · grind

theorem isName_base (named : base path ∉ [".", "..", "/"]) : IsName (base path) := by
  simp only [mem_cons, not_mem_nil, or_false, not_or] at named
  obtain ⟨dot, dots, slash⟩ := named
  rw [base] at dot dots slash ⊢
  split at dot
  · exact absurd rfl dot
  · rename_i present
    rw [if_neg present] at dots slash ⊢
    cases last : ((split path '/').filter (· ≠ "")).getLast? with
    | none =>
      rw [last] at slash
      exact absurd rfl slash
    | some name =>
      rw [last] at dot dots
      obtain ⟨inside, nonempty⟩ := mem_filter.mp (mem_of_getLast? last)
      exact ⟨by simpa using nonempty, dot, dots, not_mem_of_split inside⟩

theorem elements_joinPath {element : String} (present : uploadDir ≠ "") (other : element ≠ "") :
    elements (joinPath uploadDir element) =
      (split element '/').foldl (keep (hasPrefix uploadDir "/")) (elements uploadDir) := by
  rw [joinPath, if_neg (fun blank => present blank.1), if_neg present, if_neg other,
    clean_slash present]
  exact ((normal_elements uploadDir).foldl fun _ member => not_mem_of_split member).elements_render

theorem not_directChild {element : String} (present : uploadDir ≠ "")
    (unnamed : element ∈ [".", "..", "/"]) : ¬ DirectChild uploadDir (joinPath uploadDir element) := by
  rintro ⟨name, ⟨nonempty, dot, dots, whole⟩, same⟩
  have elements := congrArg elements same
  rw [elements_joinPath present nonempty, split_of_not_mem whole, foldl_cons, foldl_nil,
    keep_of_name nonempty dot dots, elements_joinPath present (by grind)] at elements
  simp only [mem_cons, not_mem_nil, or_false] at unnamed
  rcases unnamed with rfl | rfl | rfl
  · exact cons_ne_self _ _ elements.symm
  · change keep _ _ ".." = _ at elements
    have lengths := congrArg length elements
    cases kept : Path.elements uploadDir with
    | nil | cons =>
      rw [kept] at elements lengths
      grind [keep]
  · exact cons_ne_self _ _ elements.symm

/-- What is staged is a direct child of the upload directory exactly when the
source path ends in a name; in a directory without a name nothing is staged. -/
theorem staging_contained_iff :
    Contained uploadDir file ↔
      trimSpace uploadDir = "" ∨ base file.sourceFilePath ∉ [".", "..", "/"] := by
  constructor
  · intro contained
    by_contra escapes
    obtain ⟨blank, unnamed⟩ := not_or.mp escapes
    have present : uploadDir ≠ "" := by
      rintro rfl
      exact blank (by decide +kernel)
    refine not_directChild present (not_not.mp unnamed) (contained
      ⟨true, some true, false, true, true, none, true, none, true, true⟩
      ⟨.remove, stagedPath uploadDir file.sourceFilePath⟩ ?_)
    simp [handleWritingFile, copyFileToTempLocation, blank]
  · rintro (blank | named) answers change member
    · rw [handleWritingFile_blank blank] at member
      cases member
    · exact ⟨_, isName_base named, mem_handleWritingFile member⟩

def rootSource : UploadedFile := ⟨"/", "/tmp/x", 0, "", ""⟩

/-- The source path `/` is accepted, and an empty upload directory is removed. -/
theorem upload_directory_removed : getUploadedFile linux bareLinux [] rootSource = true ∧
    (⟨.remove, "/var/uploads"⟩ ∈ handleWritingFile
      ⟨true, some true, true, false, true, none, true, none, true, true⟩ "/var/uploads" rootSource) ∧
    ¬ DirectChild "/var/uploads" "/var/uploads" := by
  have escapes : ¬ DirectChild "/var/uploads" (joinPath "/var/uploads" "/") :=
    not_directChild (by decide) (by decide)
  exact ⟨by decide +kernel, by decide +kernel, escapes⟩

end ProxiPort.Destination
