import ProxiPort.Go.Filepath

/-!
# The destination of a push

`share/models/files.go`: the agent refuses a push whose destination matches one
of its protected patterns.  The functions of `path/filepath` are those of the
agent's system; what `EvalSymlinks` answers is the symlink layout.  Errors that
are only logged are left out.
-/

namespace ProxiPort.Destination

open Go

structure System where
  filepath : Filepath
  unicode : Unicode
  caseInsensitiveFS : Bool

/-- What `filepath.EvalSymlinks` returns for the paths that exist; its result is
clean. -/
structure Layout (system : System) where
  evalSymlinks : String → Option String
  real : ∀ path resolved, evalSymlinks path = some resolved →
    system.filepath.clean resolved = resolved

/-- `IsAbsoluteDestination`, on any system. -/
def isAbsoluteDestination (path : String) : Bool :=
  if hasPrefix path "/" then true
  else if hasPrefix path "\\\\" then true
  else
    match path.toList with
    | drive :: ':' :: slash :: _ =>
      (slash = '\\' || slash = '/') && drive.isAlpha
    | _ => false

def stripExtendedLengthPrefix (path : String) : String :=
  if hasPrefix path "\\\\?\\UNC\\" then
    "\\\\" ++ String.ofList (path.toList.drop 8)
  else if hasPrefix path "\\\\?\\" then String.ofList (path.toList.drop 4)
  else path

def distinctPaths (paths : List String) : List String := paths.foldl (fun out path =>
    if path = "" then out
    else if path ∈ out then out
    else out ++ [path]) []

section

variable (system : System) (layout : Layout system)

/-- The loop of `resolveForMatch`, which goes up from a path until something
exists. -/
def resolveFrom (cleaned : String) : Nat → String → String → String
  | 0, _, _ => cleaned
  | fuel + 1, current, rest =>
    match layout.evalSymlinks current with
    | some resolved =>
      if rest = "" then resolved else system.filepath.join resolved rest
    | none =>
      let parent := system.filepath.dir current
      if parent = current then cleaned
      else resolveFrom cleaned fuel parent
        (system.filepath.join (system.filepath.base current) rest)

def resolveForMatch (path : String) : String :=
  let cleaned := system.filepath.clean path
  resolveFrom system layout cleaned (system.filepath.height cleaned + 1) cleaned ""

def hasWildcard (element : String) : Bool :=
  element.toList.any fun character => "*?[".toList.contains character

def literalPrefix (pattern : String) : String × String :=
  let separator := String.singleton system.filepath.separator
  let elements := split pattern system.filepath.separator
  match elements.dropWhile fun element => !hasWildcard element with
  | [] => (pattern, "")
  | rest => (join (elements.takeWhile fun element => !hasWildcard element)
      separator, join rest separator)

def canonicalPattern (pattern : String) : String :=
  let (start, rest) := literalPrefix system pattern
  if start = "" then pattern
  else
    let resolved := resolveForMatch system layout start
    if resolved = system.filepath.clean start then pattern
    else if rest = "" then resolved
    else resolved ++ String.singleton system.filepath.separator ++ rest

def isWithin (root : String) : Nat → String → Bool
  | 0, _ => false
  | fuel + 1, current =>
    if system.filepath.matchPath root current = some true then true
    else
      let parent := system.filepath.dir current
      if parent = current then false else isWithin root fuel parent

def fold (path : String) : String :=
  if system.caseInsensitiveFS then toLower system.unicode path else path

def pathIsWithin (target root : String) : Bool :=
  isWithin system (fold system root)
    (system.filepath.height (fold system target) + 1) (fold system target)

def cutSubtree (pattern : String) : Option String :=
  if "/**".toList.isSuffixOf pattern.toList then
    some (String.ofList (pattern.toList.take (pattern.toList.length - 3)))
  else none

def rejectsSubtree (destinations : List String) (subtree : String) : Option String :=
  (distinctPaths [system.filepath.clean subtree,
    canonicalPattern system layout subtree]).findSome? fun root =>
      destinations.findSome? fun destination =>
        if pathIsWithin system destination root then
          some ("target path " ++ destination ++ " is inside protected directory " ++ subtree ++
            ", therefore the file push request is rejected")
        else none

def matchedMessage (path pattern : String) : String :=
  "target path " ++ path ++ " matches protected pattern " ++ pattern ++
    ", therefore the file push request is rejected"

/-- The directory is matched first; a malformed pattern is skipped. -/
def rejectsDestination (listed pattern destination : String) : Option String :=
  let destinationDir := system.filepath.dir destination
  match system.filepath.matchPath pattern destinationDir with
  | none => none
  | some true => some (matchedMessage destinationDir listed)
  | some false =>
    match system.filepath.matchPath pattern destination with
    | some true => some (matchedMessage destination listed)
    | _ => none

def rejectsPlain (destinations : List String) (listed : String) : Option String :=
  (distinctPaths [listed, canonicalPattern system layout listed]).findSome?
    fun pattern => destinations.findSome? (rejectsDestination system listed pattern)

def rejectsPattern (destinations : List String) (listed : String) : Option String :=
  match cutSubtree listed with
  | some subtree => rejectsSubtree system layout destinations subtree
  | none => rejectsPlain system layout destinations listed

def spellings (destinationPath : String) : List String :=
  let given := stripExtendedLengthPrefix destinationPath
  distinctPaths [system.filepath.clean destinationPath,
    system.filepath.clean given, resolveForMatch system layout given]

def validateDestinationPath (globPatterns : List String)
    (destinationPath : String) : Except String Unit :=
  if isAbsoluteDestination destinationPath = false then
    .error ("target path " ++ destinationPath ++
      " is not absolute, therefore the file push request is rejected")
  else
    match globPatterns.findSome? (rejectsPattern system layout
        (spellings system layout destinationPath)) with
    | some rejection => .error rejection
    | none => .ok ()

end

end ProxiPort.Destination
