import Mathlib.Data.List.Basic
import Mathlib.Logic.Function.Basic

/-!
# Files behind names

The part of package `os` that the code uses on regular files.  A name leads to a
file and an open handle keeps to the file it was opened on, also when another
handle truncates that file or the name is removed.  Files are numbered and no
number is used twice; two names do not lead to one file.
-/

namespace ProxiPort.Go

structure Files where
  names : String → Option Nat
  contents : Nat → List UInt8
  /-- The number of the next file. -/
  next : Nat
  used : ∀ {path file}, names path = some file → file < next
  single : ∀ {path other file}, names path = some file → names other = some file → path = other

namespace Files

def none : Files where
  names := fun _ => .none
  contents := fun _ => []
  next := 0
  used := fun found => by cases found
  single := fun found => by cases found

def setContent (files : Files) (file : Nat) (content : List UInt8) : Files :=
  { files with contents := Function.update files.contents file content }

def create (files : Files) (path : String) : Files × Nat :=
  match files.names path with
  | some file => (files.setContent file [], file)
  | .none =>
    ({ names := Function.update files.names path (some files.next)
       contents := Function.update files.contents files.next []
       next := files.next + 1
       used := by
        intro other file found
        by_cases same : other = path
        · subst same
          rw [Function.update_self] at found
          cases found
          exact Nat.lt_succ_self _
        · rw [Function.update_of_ne same] at found
          exact Nat.lt_succ_of_lt (files.used found)
       single := by
        intro first second file foundFirst foundSecond
        have absurd : ∀ other, other ≠ path →
            Function.update files.names path (some files.next) other = some files.next → False := by
          intro other different found
          rw [Function.update_of_ne different] at found
          exact Nat.lt_irrefl _ (files.used found)
        by_cases isFirst : first = path
        · by_cases isSecond : second = path
          · rw [isFirst, isSecond]
          · rw [isFirst, Function.update_self] at foundFirst
            cases foundFirst
            exact (absurd second isSecond foundSecond).elim
        · by_cases isSecond : second = path
          · rw [isSecond, Function.update_self] at foundSecond
            cases foundSecond
            exact (absurd first isFirst foundFirst).elim
          · rw [Function.update_of_ne isFirst] at foundFirst
            rw [Function.update_of_ne isSecond] at foundSecond
            exact files.single foundFirst foundSecond },
      files.next)

def remove (files : Files) (path : String) : Files where
  names := Function.update files.names path .none
  contents := files.contents
  next := files.next
  used := by
    intro other file found
    by_cases same : other = path
    · subst same
      rw [Function.update_self] at found
      cases found
    · rw [Function.update_of_ne same] at found
      exact files.used found
  single := by
    intro first second file foundFirst foundSecond
    by_cases isFirst : first = path
    · subst isFirst
      rw [Function.update_self] at foundFirst
      cases foundFirst
    · by_cases isSecond : second = path
      · subst isSecond
        rw [Function.update_self] at foundSecond
        cases foundSecond
      · rw [Function.update_of_ne isFirst] at foundFirst
        rw [Function.update_of_ne isSecond] at foundSecond
        exact files.single foundFirst foundSecond

def writeAt (files : Files) (file offset : Nat) (bytes : List UInt8) : Files :=
  let content := files.contents file
  files.setContent file (content.take offset ++
    List.replicate (offset - content.length) 0 ++ bytes ++
    content.drop (offset + bytes.length))

def readAt (files : Files) (file offset count : Nat) : List UInt8 :=
  ((files.contents file).drop offset).take count

structure SameAt (files after : Files) (path : String) : Prop where
  name : after.names path = files.names path
  content : ∀ {file}, files.names path = some file → after.contents file = files.contents file

theorem SameAt.refl (files : Files) (path : String) : SameAt files files path := ⟨rfl, fun _ => rfl⟩

variable {files : Files} {path other : String} {file : Nat}

theorem setContent_sameAt (named : files.names path = some file)
    (content : List UInt8) (different : other ≠ path) :
    SameAt files (files.setContent file content) other := by
  refine ⟨rfl, ?_⟩
  intro otherFile found
  apply Function.update_of_ne
  intro same
  subst same
  exact different (files.single found named)

theorem create_sameAt (different : other ≠ path) : SameAt files (files.create path).1 other := by
  rw [create]
  split
  · rename_i file named
    exact setContent_sameAt named [] different
  · refine ⟨Function.update_of_ne different _ _, ?_⟩
    intro file found
    exact Function.update_of_ne (Nat.ne_of_lt (files.used found)) _ _

theorem remove_sameAt (different : other ≠ path) : SameAt files (files.remove path) other :=
  ⟨Function.update_of_ne different _ _, fun _ => rfl⟩

theorem create_named : (files.create path).1.names path = some (files.create path).2 := by
  rw [create]
  split
  · rename_i file named
    exact named
  · exact Function.update_self _ _ _

theorem create_empty : (files.create path).1.contents (files.create path).2 = [] := by
  rw [create]
  split
  all_goals exact Function.update_self _ _ _

theorem contents_writeAt_end {content : List UInt8}
    (holds : files.contents file = content) (bytes : List UInt8) :
    (files.writeAt file content.length bytes).contents file = content ++ bytes := by
  simp [writeAt, setContent, holds]

end Files

end ProxiPort.Go
