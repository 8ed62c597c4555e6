import ProxiPort.Foundation.Threads
import ProxiPort.Foundation.Keyed
import ProxiPort.Go.Base64
import ProxiPort.Go.Time
import ProxiPort.Users.User
import Mathlib.Logic.Function.Basic

/-!
# The schedule manager

`server/api/jobs/schedule`: a schedule is a row of a table and an entry of the
cron library.  `Create`, `Update` and `Delete` change both, without a lock
around the two.  Their bodies are cut here at every database call and at every
call of the cron implementation, whose own mutex makes `Add` and `Remove`
atomic.  The library's parser is a parameter.
-/

namespace ProxiPort.Schedules

open Concurrency List

/-- The details of a schedule, one column of its row, without the tags. -/
structure Details where
  clientIDs : List String
  groupIDs : List String
  command : String
  script : String
  interpreter : String
  cwd : String
  isSudo : Bool
  timeoutSec : Int
  executeConcurrently : Bool
  abortOnError : Option Bool
  overlaps : Bool
  deriving DecidableEq, Repr

structure Schedule where
  id : String
  createdAt : Time
  createdBy : String
  name : String
  schedule : String
  type : String
  details : Details
  deriving DecidableEq, Repr

def typeCommand : String := "command"

def typeScript : String := "script"

/-- The parts of the checks that are not the repository's: the error of the
cron parser for an expression, if it has one, and the text of the error for a
script that is not base64. -/
structure Parsers where
  cronError : String → Option String
  decodeError : String → String

/-- An entry of the library: it starts the schedule it was added for. -/
structure Entry where
  entryID : Nat
  id : String
  schedule : String
  deriving DecidableEq, Repr

/-- `cron.Cron`: entry ids are given out once, from one on. -/
structure Cron where
  entries : List Entry
  nextID : Nat
  distinct : (entries.map Entry.entryID).Nodup
  issued : ∀ entry ∈ entries, 0 < entry.entryID ∧ entry.entryID ≤ nextID

namespace Cron

def new : Cron where
  entries := []
  nextID := 0
  distinct := nodup_nil
  issued := forall_mem_nil _

def schedule (cron : Cron) (id schedule : String) : Cron where
  entries := cron.entries ++ [⟨cron.nextID + 1, id, schedule⟩]
  nextID := cron.nextID + 1
  distinct := by
    rw [map_append, nodup_append]
    refine ⟨cron.distinct, nodup_singleton _, ?_⟩
    rintro number known _ new rfl
    obtain ⟨entry, member, rfl⟩ := mem_map.mp known
    have bound := (cron.issued entry member).2
    have same : entry.entryID = cron.nextID + 1 := mem_singleton.mp new
    omega
  issued := by
    refine forall_mem_concat ?_ ⟨Nat.succ_pos _, Nat.le_refl _⟩
    intro entry old
    have bound := cron.issued entry old
    omega

def remove (cron : Cron) (entryID : Nat) : Cron where
  entries := cron.entries.filter fun entry => entry.entryID ≠ entryID
  nextID := cron.nextID
  distinct := cron.distinct.sublist (filter_sublist.map _)
  issued := fun entry member =>
    cron.issued entry (mem_of_mem_filter member)

end Cron

structure CronImplementation where
  cron : Cron
  mapping : String → Option Nat

namespace CronImplementation

def new : CronImplementation := ⟨.new, fun _ => none⟩

/-- `Add`: the mapping forgets an entry that the id had before. -/
def add (parsers : Parsers) (implementation : CronImplementation)
    (id schedule : String) : Except String CronImplementation :=
  match parsers.cronError schedule with
  | some err => .error err
  | none =>
    let cron := implementation.cron.schedule id schedule
    .ok ⟨cron, Function.update implementation.mapping id (some cron.nextID)⟩

/-- `Remove`; an id without an entry is looked up as the entry zero. -/
def remove (implementation : CronImplementation) (id : String) :
    CronImplementation :=
  ⟨implementation.cron.remove ((implementation.mapping id).getD 0),
    Function.update implementation.mapping id none⟩

end CronImplementation

def validInputInterpreter : List String := ["cmd", "powershell"]

def validateInterpreter (interpreter : String) (isScript : Bool) : Option String :=
  if interpreter = "" ∨ isScript then none
  else if interpreter ∈ validInputInterpreter then none
  else some ("expected interpreter to be one of: [" ++
    String.intercalate " " validInputInterpreter ++ "], actual: " ++
    interpreter)

def invalid (message err : String) : Option APIError := some ⟨message, err, 400⟩

/-- The part of `validate` that depends on the type. -/
def validateBody (parsers : Parsers) (schedule : Schedule) : Option APIError :=
  if schedule.type = typeCommand then
    if schedule.details.command = "" then
      invalid "Empty command." "command cannot be empty"
    else none
  else if schedule.type = typeScript then
    if schedule.details.script = "" then
      invalid "Empty script." "script cannot be empty"
    else if (Go.Base64.decodeString schedule.details.script).isNone then
      invalid "Invalid script." (parsers.decodeError schedule.details.script)
    else none
  else none

def validate (parsers : Parsers) (schedule : Schedule) : Option APIError :=
  if schedule.type ≠ typeCommand ∧ schedule.type ≠ typeScript then
    invalid "Invalid type." "type must be 'command' or 'script'"
  else
    match parsers.cronError schedule.schedule with
    | some err => invalid "Invalid schedule." err
    | none =>
      match validateInterpreter schedule.details.interpreter (schedule.type = typeScript) with
      | some err => invalid "Invalid interpreter." err
      | none =>
        if schedule.details.timeoutSec < 0 then
          invalid "Invalid timeout." "timeout_sec must not be negative"
        else validateBody parsers schedule

theorem cronError_of_validate {parsers : Parsers} {schedule : Schedule}
    (accepted : validate parsers schedule = none) : parsers.cronError schedule.schedule = none := by
  unfold validate at accepted
  split at accepted
  · cases accepted
  · split at accepted
    · cases accepted
    · assumption

structure Manager where
  schedules : Keyed.Table Schedule.id
  cron : CronImplementation

def addAll (parsers : Parsers) :
    List Schedule → CronImplementation → Except String CronImplementation
  | [], cron => .ok cron
  | row :: rows, cron =>
    match cron.add parsers row.id row.schedule with
    | .error err => .error err
    | .ok cron => addAll parsers rows cron

def Manager.new (parsers : Parsers) (schedules : Keyed.Table Schedule.id) : Except String Manager :=
  match addAll parsers schedules.entries .new with
  | .error err => .error err
  | .ok cron => .ok ⟨schedules, cron⟩

inductive Call where
  | create (schedule : Schedule) (user : String)
  | update (id : String) (schedule : Schedule)
  | delete (id : String)

inductive Result where
  | created (schedule : Schedule)
  | updated (schedule : Option Schedule)
  | deleted
  | invalid (err : APIError)
  | failed (err : String)
  deriving DecidableEq, Repr

/-- Control points between two calls to the database or the cron
implementation. -/
inductive Thread where
  | create (schedule : Schedule) (user : String)
  | insert (schedule : Schedule)
  | addCron (schedule : Schedule) (created : Bool)
  | updateRow (schedule : Schedule)
  | removeCron (id : String) (replacement : Option Schedule)
  | readBack (id : String)
  | deleteRow (id : String)
  | deleteJobs (id : String)
  | deleteMultiJobs (id : String)
  | returned (result : Result)
  deriving DecidableEq, Repr

/-- What a step does not decide: the drawn id and the time, and whether the
call fails.  After a `DELETE` the number of rows may be refused. -/
inductive Choice where
  | proceed
  | drawn (id : String) (now : Time)
  | fails (err : String)
  | rowsAffectedFails (err : String)
  deriving DecidableEq, Repr

section

variable (parsers : Parsers)

def enter : Call → Thread
  | .create schedule user => .create schedule user
  | .update id schedule =>
    match validate parsers { schedule with id := id } with
    | some err => .returned (.invalid err)
    | none => .updateRow { schedule with id := id }
  | .delete id => .deleteRow id

def Schedule.updatedBy (row new : Schedule) : Schedule :=
  { row with
    name := new.name
    schedule := new.schedule
    type := new.type
    details := new.details }

/-- The `UPDATE` statement changes nothing if there is no such row. -/
def Manager.updateRow (manager : Manager) (new : Schedule) : Manager :=
  match manager.schedules.get new.id with
  | none => manager
  | some row =>
    { manager with schedules := manager.schedules.put (row.updatedBy new) }

def atomic (manager : Manager) : Thread → Choice → Option (Manager × Thread × List Empty)
  | .create schedule user, .drawn id now =>
    let schedule :=
      { schedule with id := id, createdAt := now, createdBy := user }
    match validate parsers schedule with
    | some err => some (manager, .returned (.invalid err), [])
    | none => some (manager, .insert schedule, [])
  | .insert schedule, .proceed =>
    if (manager.schedules.get schedule.id).isSome then
      some (manager, .returned (.failed "UNIQUE constraint failed: schedules.id"), [])
    else
      some ({ manager with schedules := manager.schedules.put schedule },
        .addCron schedule true, [])
  | .addCron schedule created, .proceed =>
    match manager.cron.add parsers schedule.id schedule.schedule with
    | .error err => some (manager, .returned (.failed err), [])
    | .ok cron =>
      some ({ manager with cron := cron },
        if created then .returned (.created schedule)
        else .readBack schedule.id, [])
  | .updateRow schedule, .proceed =>
    some (manager.updateRow schedule, .removeCron schedule.id (some schedule), [])
  | .removeCron id replacement, .proceed =>
    some ({ manager with cron := manager.cron.remove id },
      match replacement with
      | none => .returned .deleted
      | some schedule => .addCron schedule false, [])
  | .readBack id, .proceed =>
    some (manager, .returned (.updated (manager.schedules.get id)), [])
  | .deleteRow id, .proceed =>
    if (manager.schedules.get id).isNone then
      some (manager, .returned (.failed ("cannot find entry by id " ++ id)), [])
    else
      some ({ manager with schedules := manager.schedules.remove id }, .deleteJobs id, [])
  | .deleteRow id, .rowsAffectedFails err =>
    some ({ manager with schedules := manager.schedules.remove id }, .returned (.failed err), [])
  | .deleteJobs id, .proceed => some (manager, .deleteMultiJobs id, [])
  | .deleteMultiJobs id, .proceed => some (manager, .removeCron id none, [])
  | .create .., .fails err | .insert _, .fails err | .addCron .., .fails err
  | .updateRow _, .fails err | .readBack _, .fails err
  | .deleteRow _, .fails err | .deleteJobs _, .fails err
  | .deleteMultiJobs _, .fails err =>
    some (manager, .returned (.failed err), [])
  | _, _ => none

def program : Program Manager Thread Call Choice Empty Empty where
  enter := enter parsers
  atomic := atomic parsers
  environment := fun _ event => nomatch event

end

def Manager.idle (manager : Manager) : Config Manager Thread := ⟨manager, []⟩

end ProxiPort.Schedules
