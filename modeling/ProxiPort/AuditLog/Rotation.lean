import Mathlib.Data.List.Sort
import ProxiPort.AuditLog.Provider
import ProxiPort.Foundation.Keyed
import ProxiPort.Go.Strings

/-!
# Rotation of the audit log

`server/auditlog/rotation.go`: the live database is renamed to a file with an
instant in its name and a new one is opened.  `rotate` holds `mtx` for writing
and the other calls hold it for reading, so a call is one step.  Every access to
the file system and to the database inside a call can fail.
-/

namespace ProxiPort.AuditLog

open Concurrency

structure File where
  name : String
  rows : List Entry

abbrev Directory := Keyed.Table File.name

def sqliteFilename : String := "auditlog.db"

/-- `rotatedName`: the format is `rotatedFilename`. -/
def rotatedName (now : Time) : String :=
  let (year, month, day) := now.date
  let (hour, minute, second) := now.clock
  "auditlog." ++ (Time.digits 4 year ++ "-" ++ Time.digits 2 month ++ "-" ++
      Time.digits 2 day ++ "T" ++ Time.digits 2 hour ++ "-" ++
      Time.digits 2 minute ++ "-" ++ Time.digits 2 second ++ "Z") ++ ".db"

def isRotated (name : String) : Bool :=
  "auditlog.".toList.isPrefixOf name.toList &&
    ".db".toList.isSuffixOf (name.toList.drop "auditlog.".length)

/-- `os.Rename`: the directory afterwards, and the file that was replaced. -/
def rename (failure : Option String) (source target : String)
    (directory : Directory) : Except String (Directory × Option File) :=
  match failure with
  | some err => .error err
  | none =>
    match directory.get source with
    | none => .error "no such file or directory"
    | some file =>
      .ok ((directory.remove source).put ⟨target, file.rows⟩, directory.get target)

/-- How an attempt to open the live database goes; one that fails may have made
the file. -/
structure Opening where
  faults : OpenFaults
  creates : Bool

structure Handle where
  provider : SQLiteProvider
  closed : Bool

structure RotationProvider where
  directory : Directory
  sqlite : Option Handle

inductive Event where
  | saved (row : Entry)
  | renamed (target : String) (replaced : Option File)
  | pruned (file : File)
  | failed (err : String)
  | panicked

structure Settings where
  hmac : Hmac
  hmacKey : List UInt8
  retention : Int

def Directory.live (directory : Directory) : List Entry :=
  ((directory.get sqliteFilename).map File.rows).getD []

def Directory.withLive (directory : Directory) (rows : List Entry) :
    Directory :=
  directory.put ⟨sqliteFilename, rows⟩

section Calls

variable (settings : Settings)

def openLive (opening : Opening) (directory : Directory) :
    Except String SQLiteProvider × Directory :=
  match newSQLiteProvider settings.hmacKey opening.faults directory.live with
  | .ok provider => (.ok provider, directory.withLive directory.live)
  | .error err =>
    (.error err,
      if opening.creates then directory.withLive directory.live
      else directory)

def reopen (opening : Opening) (directory : Directory) : RotationProvider :=
  match openLive settings opening directory with
  | (.error _, directory) => ⟨directory, none⟩
  | (.ok provider, directory) => ⟨directory, some ⟨provider, false⟩⟩

structure RotateFaults where
  close : Option String
  lstat : Option String
  rename : Option String
  opening : Opening
  restore : Option String
  reopening : Opening
  glob : Option String
  remove : Nat → Option String

def removeFiles (failure : Nat → Option String) :
    Nat → List String → Directory → Directory × List Event
  | _, [], directory => (directory, [])
  | index, name :: names, directory =>
    match failure index, directory.get name with
    | none, some file =>
      let (directory, events) := removeFiles failure (index + 1) names (directory.remove name)
      (directory, .pruned file :: events)
    | _, _ => (directory, [])

def pruneRotated (faults : RotateFaults) (directory : Directory) : Directory × List Event :=
  let names := (directory.entries.map File.name).filter isRotated
  if settings.retention ≤ 0 ∨ faults.glob.isSome ∨
      names.length ≤ settings.retention then (directory, [])
  else
    removeFiles faults.remove 0 ((names.insertionSort (· ≤ ·)).take
        (names.length - settings.retention.toNat)) directory

/-- `rotate` once the live database has been renamed. -/
def openRotated (rotatedFn : String) (faults : RotateFaults)
    (directory : Directory) : RotationProvider × List Event :=
  match openLive settings faults.opening directory with
  | (.ok provider, directory) =>
    let (directory, events) := pruneRotated settings faults directory
    (⟨directory, some ⟨provider, false⟩⟩, events)
  | (.error err, directory) =>
    match rename faults.restore rotatedFn sqliteFilename directory with
    | .error _ =>
      (reopen settings faults.reopening directory, [.failed err])
    | .ok (directory, replaced) =>
      (reopen settings faults.reopening directory, [.renamed sqliteFilename replaced, .failed err])

/-- `rotate` once the live database has been closed. -/
def rotateClosed (rotatedFn : String) (faults : RotateFaults)
    (directory : Directory) : RotationProvider × List Event :=
  match faults.lstat, directory.get rotatedFn with
  | some err, _ =>
    (reopen settings faults.reopening directory, [.failed err])
  | none, some _ =>
    (reopen settings faults.reopening directory,
      [.failed ("refusing to rotate over the existing " ++ rotatedFn)])
  | none, none =>
    match rename faults.rename sqliteFilename rotatedFn directory with
    | .error err =>
      (reopen settings faults.reopening directory, [.failed err])
    | .ok (directory, replaced) =>
      let (rotation, events) := openRotated settings rotatedFn faults directory
      (rotation, .renamed rotatedFn replaced :: events)

/-- `rotate`.  `Close` reads the field `db` through the provider; a `sql.DB` is
closed even if closing it fails, and closing it again does nothing. -/
def rotate (now : Time) (faults : RotateFaults) (rotation : RotationProvider) :
    RotationProvider × List Event :=
  match rotation.sqlite with
  | none => (rotation, [.panicked])
  | some handle =>
    match if handle.closed then none else faults.close with
    | some err =>
      ({ rotation with sqlite := some { handle with closed := true } }, [.failed err])
    | none => rotateClosed settings (rotatedName now) faults rotation.directory

def errAuditLogUnavailable : String :=
  "audit log is unavailable: rotation failed to reopen the database"

def errDatabaseClosed : String := "sql: database is closed"

def save (entry : Entry) (failure : Option String)
    (rotation : RotationProvider) : RotationProvider × List Event :=
  match rotation.sqlite with
  | none => (rotation, [.failed errAuditLogUnavailable])
  | some ⟨_, true⟩ => (rotation, [.failed errDatabaseClosed])
  | some ⟨provider, false⟩ =>
    match provider.save settings.hmac failure entry rotation.directory.live with
    | (some err, provider, _, _) =>
      (⟨rotation.directory, some ⟨provider, false⟩⟩, [.failed err])
    | (none, provider, row, rows) =>
      (⟨rotation.directory.withLive rows, some ⟨provider, false⟩⟩, [.saved row])

def query {Answer : Type} (answer : List Entry → Answer)
    (failure : Option String) (rotation : RotationProvider) : Except String Answer :=
  match rotation.sqlite with
  | none => .error errAuditLogUnavailable
  | some handle =>
    if handle.closed then .error errDatabaseClosed
    else
      match failure with
      | some err => .error err
      | none => .ok (answer rotation.directory.live)

def list (select : List Entry → List Entry) := query select

def count (select : List Entry → List Entry) := query fun rows => (select rows).length

def verifyLive (order : List Entry → List Entry) (failure : Option String)
    (rotation : RotationProvider) : Except String ChainVerification :=
  match rotation.sqlite with
  | none => .error errAuditLogUnavailable
  | some _ =>
    if settings.hmacKey = [] then .ok (verify settings.hmac [] [])
    else
      (query (fun rows => verify settings.hmac settings.hmacKey (order rows))
        failure rotation).mapError fun err => "read auditlog for verification: " ++ err

end Calls

inductive Call where
  | rotate (now : Time) (faults : RotateFaults)
  | save (entry : Entry) (failure : Option String)
  | list (select : List Entry → List Entry) (failure : Option String)
  | count (select : List Entry → List Entry) (failure : Option String)
  | verify (order : List Entry → List Entry) (failure : Option String)

def reported {Answer : Type} : Except String Answer → List Event
  | .error err => [.failed err]
  | .ok _ => []

def call (settings : Settings) (rotation : RotationProvider) : Call → RotationProvider × List Event
  | .rotate now faults => rotate settings now faults rotation
  | .save entry failure => save settings entry failure rotation
  | .list select failure => (rotation, reported (list select failure rotation))
  | .count select failure =>
    (rotation, reported (count select failure rotation))
  | .verify order failure =>
    (rotation, reported (verifyLive settings order failure rotation))

def rotationCalls (settings : Settings) : System RotationProvider Call Event :=
  ⟨fun rotation input => some (call settings rotation input)⟩

end ProxiPort.AuditLog
