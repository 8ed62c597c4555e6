import ProxiPort.Go.Unicode
import ProxiPort.Jobs.Store

/-!
# Results that agents report

`saveCmdResult` of `server/client_listener.go` and the case of
`handleSSHRequests` that calls it.  A result is a payload of arbitrary bytes
that arrives on the connection of a client.  Whatever it says, only the job of
that client that it names is touched, and nobody but the listeners of that job
is told.
-/

namespace ProxiPort.Jobs

open Enc List Keyed

structure Listener where
  provider : Provider
  unicode : Go.Unicode
  decode : List UInt8 → Except String Job
  maxRequestBytesClient : Nat

/-- What happens around one message: failures of the database, of encoding a
job for the UI, which UI sockets are open and which multi-client runs still
collect results. -/
structure Circumstances where
  lookUpFailure : Option String
  saveFailure : Option String
  marshalFailure : Option String
  uiJobWebSockets : String → Bool
  jobsDoneChannel : String → Bool
  nonces : Nat → Nonce

inductive Effect where
  | wroteUI (wsJID : String) (job : Job)
  | audited (application id clientID : String)
  | notified (multiJobID : String) (job : Job)
  deriving DecidableEq, Repr

/-- The merge of `saveCmdResult`: what the agent is the source of is taken
from its report, the rest from the stored job. -/
def reconcile (dispatched reported : Job) : Job :=
  { dispatched with
    status := reported.status
    finishedAt := reported.finishedAt
    error := reported.error
    result := reported.result
    pid := reported.pid
    streamResult := reported.streamResult }

def Job.wsJID (job : Job) : String := job.multiJobID.getD job.jid

/-- `saveCmdResult` up to the stored job. -/
def Listener.findDispatched (listener : Listener) (clientID : String)
    (reported : Job) (failure : Option String) (database : Database) : Except String Job :=
  let failed (err : String) : Except String Job := .error ("failed to look up job " ++
      Go.quote listener.unicode reported.jid ++ " for client " ++
      Go.quote listener.unicode clientID ++ ": " ++ err)
  match failure, listener.provider.getByJID clientID reported.jid database with
  | some err, _ => failed err
  | none, .error err => failed err
  | none, .ok none => .error ("client " ++ Go.quote listener.unicode clientID ++
      " reported a result for job " ++
      Go.quote listener.unicode reported.jid ++ ", which it was not given")
  | none, .ok (some dispatched) => .ok dispatched

def writeUI (circumstances : Circumstances) (resp : Job) : List Effect :=
  if circumstances.uiJobWebSockets resp.wsJID && circumstances.marshalFailure.isNone then
    [.wroteUI resp.wsJID resp]
  else []

def Listener.saveResult (listener : Listener) (circumstances : Circumstances)
    (resp : Job) (database : Database) : Except String Database :=
  match circumstances.saveFailure, listener.provider.saveJob circumstances.nonces resp database with
  | some err, _ => .error ("failed to save job result: " ++ err)
  | none, .error err => .error ("failed to save job result: " ++ err)
  | none, .ok database => .ok database

/-- `saveCmdResult`: the database afterwards, what was sent to the UI, and the
job. -/
def Listener.saveCmdResult (listener : Listener) (respBytes : List UInt8)
    (clientID : String) (circumstances : Circumstances)
    (database : Database) : Database × List Effect × Except String Job :=
  match listener.decode respBytes with
  | .error err => (database, [], .error ("failed to decode cmd result request: " ++ err))
  | .ok reported =>
    match listener.findDispatched clientID reported circumstances.lookUpFailure database with
    | .error err => (database, [], .error err)
    | .ok dispatched =>
      let resp := reconcile dispatched reported
      let written := writeUI circumstances resp
      match listener.saveResult circumstances resp database with
      | .error err => (database, written, .error err)
      | .ok database => (database, written, .ok resp)

def announce (circumstances : Circumstances) (clientID : String) (job : Job) : List Effect :=
  let application :=
    if job.isScript then "client.script" else "client.command"
  .audited application job.wsJID clientID ::
    match job.multiJobID with
    | none => []
    | some multiJobID =>
      if circumstances.jobsDoneChannel multiJobID then
        [.notified multiJobID job]
      else []

def Listener.handleCmdResult (listener : Listener) (clientID : String)
    (payload : List UInt8) (circumstances : Circumstances)
    (database : Database) : Database × List Effect :=
  if payload.length > listener.maxRequestBytesClient then (database, [])
  else
    match listener.saveCmdResult payload clientID circumstances database with
    | (database, written, .error _) => (database, written)
    | (database, written, .ok job) =>
      (database, written ++ announce circumstances clientID job)

/-- One message after the other; every effect is shown with the payload that
caused it. -/
def Listener.handleCmdResults (listener : Listener) (clientID : String) :
    Database → List (List UInt8 × Circumstances) → Database × List (List UInt8 × Effect)
  | database, [] => (database, [])
  | database, (payload, circumstances) :: messages =>
    let (next, effects) := listener.handleCmdResult clientID payload circumstances database
    let (final, later) := listener.handleCmdResults clientID next messages
    (final, effects.map (fun effect => (payload, effect)) ++ later)

/-- Two rows of one job: what identifies and authorises it is the same. -/
structure SameJob (row after : JobRow) : Prop where
  jid : after.jid = row.jid
  clientID : after.clientID = row.clientID
  command : after.details.map JobDetails.command = row.details.map JobDetails.command
  createdBy : after.createdBy = row.createdBy
  startedAt : after.startedAt = row.startedAt
  multiJobID : after.multiJobID = row.multiJobID

theorem SameJob.refl (row : JobRow) : SameJob row row := ⟨rfl, rfl, rfl, rfl, rfl, rfl⟩

variable {row : JobRow}

theorem SameJob.trans {middle after : JobRow} (first : SameJob row middle)
    (later : SameJob middle after) : SameJob row after where
  jid := later.jid.trans first.jid
  clientID := later.clientID.trans first.clientID
  command := later.command.trans first.command
  createdBy := later.createdBy.trans first.createdBy
  startedAt := later.startedAt.trans first.startedAt
  multiJobID := later.multiJobID.trans first.multiJobID

def Effect.Concerns (row : JobRow) : Effect → Prop
  | .wroteUI wsJID _ => wsJID = row.multiJobID.getD row.jid
  | .audited _ id clientID =>
    id = row.multiJobID.getD row.jid ∧ clientID = row.clientID
  | .notified multiJobID _ => row.multiJobID = some multiJobID

variable {effect : Effect}

theorem Effect.Concerns.of_sameJob {after : JobRow} (same : SameJob row after)
    (concerns : effect.Concerns after) : effect.Concerns row := by
  cases effect with
  | wroteUI wsJID job =>
    rw [Concerns, same.jid, same.multiJobID] at concerns
    exact concerns
  | audited application id clientID =>
    rw [Concerns, same.jid, same.multiJobID, same.clientID] at concerns
    exact concerns
  | notified multiJobID job =>
    rw [Concerns, same.multiJobID] at concerns
    exact concerns

variable {listener : Listener} {clientID : String}
  {circumstances : Circumstances} {database : Database}

theorem findDispatched_eq_ok {reported dispatched : Job} {failure : Option String}
    (found : listener.findDispatched clientID reported failure database = .ok dispatched) :
    ∃ row details error result,
      database.jobs.get reported.jid = some row ∧ row.clientID = clientID ∧
      row.details = some details ∧
      dispatched = { row.convert details (database.scheduleOf row) with
        error := error, result := result } := by
  simp only [Listener.findDispatched] at found
  split at found
  · cases found
  · cases found
  · cases found
  · rename_i read
    cases found
    exact getByJID_eq_some read

variable {after : Database}

theorem saveResult_eq_ok {resp : Job}
    (saved : listener.saveResult circumstances resp database = .ok after) :
    ∃ row, listener.provider.toSqlite circumstances.nonces resp = .ok row ∧
      after = { database with jobs := database.jobs.put row } := by
  simp only [Listener.saveResult] at saved
  split at saved
  · cases saved
  · cases saved
  · rename_i written
    cases saved
    simp only [Provider.saveJob, Outcome.bind_eq_ok_iff] at written
    obtain ⟨row, converted, result⟩ := written
    cases result
    exact ⟨row, converted, rfl⟩

/-- What one message can do: nothing, or replace the named job of the client
by another state of the same job; and its effects concern that job. -/
inductive Handled (listener : Listener) (clientID : String)
    (payload : List UInt8) (database : Database) :
    Database → List Effect → Prop where
  | ignored : Handled listener clientID payload database database []
  | refused {reported : Job} {row : JobRow} {effects : List Effect}
      (decoded : listener.decode payload = .ok reported)
      (stored : database.jobs.get reported.jid = some row) (own : row.clientID = clientID)
      (concerns : ∀ effect ∈ effects, effect.Concerns row) :
      Handled listener clientID payload database database effects
  | saved {reported : Job} {row after : JobRow} {effects : List Effect}
      (decoded : listener.decode payload = .ok reported)
      (stored : database.jobs.get reported.jid = some row) (own : row.clientID = clientID)
      (same : SameJob row after) (concerns : ∀ effect ∈ effects, effect.Concerns row) :
      Handled listener clientID payload database
        { database with jobs := database.jobs.put after } effects

theorem writeUI_concerns {resp : Job}
    (multiJobID : resp.multiJobID = row.multiJobID) (jid : resp.jid = row.jid) :
    ∀ effect ∈ writeUI circumstances resp, effect.Concerns row := by
  intro effect member
  simp only [writeUI] at member
  split at member
  · rw [mem_singleton.mp member, Effect.Concerns, Job.wsJID, multiJobID, jid]
  · cases member

theorem announce_concerns {job : Job} (own : row.clientID = clientID)
    (multiJobID : job.multiJobID = row.multiJobID) (jid : job.jid = row.jid) :
    ∀ effect ∈ announce circumstances clientID job, effect.Concerns row := by
  intro effect member
  simp only [announce] at member
  rcases mem_cons.mp member with rfl | later
  · refine ⟨?_, own.symm⟩
    rw [Job.wsJID, multiJobID, jid]
  · split at later
    · cases later
    · rename_i parent belongs
      split at later
      · rw [mem_singleton.mp later, Effect.Concerns, ← multiJobID, belongs]
      · cases later

theorem handleCmdResult_handled (payload : List UInt8) :
    Handled listener clientID payload database
      (listener.handleCmdResult clientID payload circumstances database).1
      (listener.handleCmdResult clientID payload circumstances database).2 := by
  simp only [Listener.handleCmdResult]
  split
  · exact .ignored
  · simp only [Listener.saveCmdResult]
    cases decoded : listener.decode payload with
    | error err => exact .ignored
    | ok reported =>
      simp only
      cases found : listener.findDispatched clientID reported
          circumstances.lookUpFailure database with
      | error err => exact .ignored
      | ok dispatched =>
        obtain ⟨row, details, error, result, stored, own, known, rfl⟩ := findDispatched_eq_ok found
        simp only
        cases saved : listener.saveResult circumstances
            (reconcile { row.convert details (database.scheduleOf row)
              with error := error, result := result } reported)
            database with
        | error err =>
          exact .refused decoded stored own (writeUI_concerns rfl rfl)
        | ok after =>
          obtain ⟨newRow, converted, rfl⟩ := saveResult_eq_ok saved
          have same : SameJob row newRow := by
            obtain ⟨newDetails, rfl, command⟩ := toSqlite_eq_ok converted
            refine ⟨rfl, rfl, ?_, rfl, rfl, rfl⟩
            rw [known]
            exact congrArg some command
          refine .saved decoded stored own same ?_
          intro effect member
          rcases mem_append.mp member with written | announced
          · exact writeUI_concerns rfl rfl effect written
          · exact announce_concerns own rfl rfl effect announced

/-- The jobs of the client in one state of the table and in a later one. -/
structure OnlyOwnJobs (clientID : String) (database after : Database) :
    Prop where
  others : ∀ jid row, database.jobs.get jid = some row →
    row.clientID ≠ clientID → after.jobs.get jid = some row
  noNew : ∀ jid, database.jobs.get jid = none → after.jobs.get jid = none
  own : ∀ jid row, database.jobs.get jid = some row → row.clientID = clientID →
    ∃ later, after.jobs.get jid = some later ∧ SameJob row later

theorem OnlyOwnJobs.refl (clientID : String) (database : Database) :
    OnlyOwnJobs clientID database database where
  others := fun _ _ stored _ => stored
  noNew := fun _ absent => absent
  own := fun _ row stored _ => ⟨row, stored, .refl row⟩

theorem OnlyOwnJobs.trans {middle after : Database} (first : OnlyOwnJobs clientID database middle)
    (later : OnlyOwnJobs clientID middle after) : OnlyOwnJobs clientID database after where
  others := fun jid row stored other =>
    later.others jid row (first.others jid row stored other) other
  noNew := fun jid absent => later.noNew jid (first.noNew jid absent)
  own := by
    intro jid row stored own
    obtain ⟨next, stillStored, same⟩ := first.own jid row stored own
    obtain ⟨last, lastStored, lastSame⟩ := later.own jid next stillStored (same.clientID.trans own)
    exact ⟨last, lastStored, same.trans lastSame⟩

theorem OnlyOwnJobs.origin (kept : OnlyOwnJobs clientID database after)
    {jid : String} {later : JobRow} (stored : after.jobs.get jid = some later)
    (own : later.clientID = clientID) :
    ∃ row, database.jobs.get jid = some row ∧ row.clientID = clientID ∧ SameJob row later := by
  cases before : database.jobs.get jid with
  | none =>
    rw [kept.noNew jid before] at stored
    cases stored
  | some row =>
    by_cases other : row.clientID = clientID
    · obtain ⟨found, foundStored, same⟩ := kept.own jid row before other
      rw [stored] at foundStored
      cases foundStored
      exact ⟨row, rfl, other, same⟩
    · have unchanged := kept.others jid row before other
      rw [stored] at unchanged
      cases unchanged
      exact absurd own other

variable {effects : List Effect} {payload : List UInt8}

theorem Handled.onlyOwnJobs (handled : Handled listener clientID payload database after effects) :
    OnlyOwnJobs clientID database after := by
  cases handled with
  | ignored | refused => exact .refl _ _
  | @saved reported row newRow effects decoded stored own same concerns =>
    have key : newRow.jid = reported.jid := by
      rw [same.jid]
      exact (Table.get_eq_some_iff.mp stored).2
    refine ⟨?_, ?_, ?_⟩
    · intro jid other otherStored foreign
      have different : jid ≠ newRow.jid := by
        rintro rfl
        rw [key, stored] at otherStored
        cases otherStored
        exact foreign own
      exact (Table.get_put_of_ne different).trans otherStored
    · intro jid absent
      have different : jid ≠ newRow.jid := by
        rintro rfl
        rw [key, stored] at absent
        cases absent
      exact (Table.get_put_of_ne different).trans absent
    · intro jid other otherStored _
      by_cases named : jid = newRow.jid
      · subst named
        rw [key, stored] at otherStored
        cases otherStored
        exact ⟨newRow, Table.get_put_self, same⟩
      · exact ⟨other, (Table.get_put_of_ne named).trans otherStored, .refl other⟩

theorem Handled.concerns (handled : Handled listener clientID payload database after effects)
    (member : effect ∈ effects) :
    ∃ reported row, listener.decode payload = .ok reported ∧
      database.jobs.get reported.jid = some row ∧ row.clientID = clientID ∧
      effect.Concerns row := by
  cases handled with
  | ignored => cases member
  | refused decoded stored own concerns
  | saved decoded stored own same concerns =>
    exact ⟨_, _, decoded, stored, own, concerns effect member⟩

/-- However many results a client reports, whatever they say: jobs of other
clients stay as they are, no job appears, the client's own jobs stay what they
are, and every effect concerns the stored job that its payload names. -/
theorem results_affect_only_own_jobs (listener : Listener) (clientID : String) (database : Database)
    (messages : List (List UInt8 × Circumstances)) :
    OnlyOwnJobs clientID database (listener.handleCmdResults clientID database messages).1 ∧
      ∀ payload effect, (payload, effect) ∈
          (listener.handleCmdResults clientID database messages).2 →
        ∃ reported row, listener.decode payload = .ok reported ∧
          database.jobs.get reported.jid = some row ∧
          row.clientID = clientID ∧ effect.Concerns row := by
  induction messages generalizing database with
  | nil =>
    refine ⟨.refl _ _, ?_⟩
    intro payload effect member
    cases member
  | cons message messages induction =>
    obtain ⟨payload, circumstances⟩ := message
    have handled : Handled listener clientID payload database
        (listener.handleCmdResult clientID payload circumstances database).1
        (listener.handleCmdResult clientID payload circumstances database).2 :=
      handleCmdResult_handled payload
    obtain ⟨laterOwn, laterConcerns⟩ := induction
      (listener.handleCmdResult clientID payload circumstances database).1
    refine ⟨handled.onlyOwnJobs.trans laterOwn, ?_⟩
    intro shown effect member
    simp only [Listener.handleCmdResults] at member
    rcases mem_append.mp member with now | later
    · obtain ⟨known, isEffect, same⟩ := mem_map.mp now
      cases same
      exact handled.concerns isEffect
    · -- the job was already there before this message, as the same job
      obtain ⟨reported, row, decoded, stored, own, concerns⟩ := laterConcerns shown effect later
      obtain ⟨before, beforeStored, beforeOwn, same⟩ := handled.onlyOwnJobs.origin stored own
      exact ⟨reported, before, decoded, beforeStored, beforeOwn, concerns.of_sameJob same⟩

end ProxiPort.Jobs
