import ProxiPort.Enc.Envelope
import ProxiPort.Foundation.Keyed
import ProxiPort.Foundation.Outcome
import ProxiPort.Go.Time

/-!
# Stored jobs

`server/api/jobs/jobs.go`: jobs are rows of a table with the job id as primary
key.  The output of a command is encrypted at rest when the server has a key
for it.  A time is stored as its instant, and the details column as what its
JSON text decodes to.
-/

namespace ProxiPort.Jobs

open Enc List Keyed

structure JobResult where
  stdOut : String
  stdErr : String
  summary : String
  deriving DecidableEq, Repr

structure Job where
  jid : String
  status : String
  finishedAt : Option Time
  clientID : String
  clientName : String
  command : String
  cwd : String
  interpreter : String
  pid : Option Int
  startedAt : Time
  createdBy : String
  timeoutSec : Int
  multiJobID : Option String
  scheduleID : Option String
  error : String
  result : Option JobResult
  isSudo : Bool
  isScript : Bool
  streamResult : Bool
  deriving DecidableEq, Repr

def jobStatusRunning : String := "running"

def jobStatusFailed : String := "failed"

structure JobDetails where
  command : String
  cwd : String
  isSudo : Bool
  isScript : Bool
  interpreter : String
  pid : Option Int
  timeoutSec : Int
  error : String
  result : Option JobResult
  clientName : String
  deriving DecidableEq, Repr

/-- A row of the table of jobs; the details may fail to decode. -/
structure JobRow where
  jid : String
  status : String
  startedAt : Time
  finishedAt : Option Time
  createdBy : String
  clientID : String
  multiJobID : Option String
  details : Option JobDetails
  deriving DecidableEq, Repr

structure MultiJobRow where
  jid : String
  scheduleID : Option String
  deriving DecidableEq, Repr

structure Database where
  jobs : Table JobRow.jid
  multiJobs : List MultiJobRow

structure Provider where
  crypto : Crypto
  envelope : Envelope

namespace Provider

variable (provider : Provider)

def decryptStringField (text : String) : Except String String :=
  if text = "" then .ok "" else provider.envelope.decrypt provider.crypto text

def encryptStringField (nonce : Nonce) (text : String) : Except String String :=
  if text = "" ∨ provider.envelope.isEncryptedBy provider.crypto text = true
  then .ok text
  else provider.envelope.encrypt provider.crypto nonce text

def decryptJobResult (job : Job) : Except String Job := do
  let error ← provider.decryptStringField job.error
  match job.result with
  | none => return { job with error := error }
  | some result =>
    let stdOut ← provider.decryptStringField result.stdOut
    let stdErr ← provider.decryptStringField result.stdErr
    return { job with
      error := error
      result := some { result with stdOut := stdOut, stdErr := stdErr } }

def encryptDetailsResult (nonces : Nat → Nonce) (details : JobDetails) :
    Except String JobDetails := do
  let error ← provider.encryptStringField (nonces 0) details.error
  match details.result with
  | none => return { details with error := error }
  | some result =>
    let stdOut ← provider.encryptStringField (nonces 1) result.stdOut
    let stdErr ← provider.encryptStringField (nonces 2) result.stdErr
    return { details with
      error := error
      result := some { result with stdOut := stdOut, stdErr := stdErr } }

end Provider

/-- The details of `convertToSqlite`. -/
def Job.details (job : Job) : JobDetails where
  command := job.command
  cwd := job.cwd
  isSudo := job.isSudo
  isScript := job.isScript
  interpreter := job.interpreter
  pid := job.pid
  timeoutSec := job.timeoutSec
  error := job.error
  result := job.result
  clientName := job.clientName

def Job.toRow (job : Job) (details : JobDetails) : JobRow where
  jid := job.jid
  status := job.status
  startedAt := job.startedAt
  finishedAt := job.finishedAt
  createdBy := job.createdBy
  clientID := job.clientID
  multiJobID := job.multiJobID
  details := some details

def Provider.toSqlite (provider : Provider) (nonces : Nat → Nonce)
    (job : Job) : Except String JobRow :=
  if provider.envelope.enabled then do
    let details ← provider.encryptDetailsResult nonces job.details
    return job.toRow details
  else .ok (job.toRow job.details)

def JobRow.convert (row : JobRow) (details : JobDetails) (scheduleID : Option String) : Job where
  jid := row.jid
  status := row.status
  finishedAt := row.finishedAt
  clientID := row.clientID
  clientName := details.clientName
  command := details.command
  cwd := details.cwd
  interpreter := details.interpreter
  pid := details.pid
  startedAt := row.startedAt
  createdBy := row.createdBy
  timeoutSec := details.timeoutSec
  multiJobID := row.multiJobID
  scheduleID := scheduleID
  error := details.error
  result := details.result
  isSudo := details.isSudo
  isScript := details.isScript
  streamResult := false

namespace Database

/-- The schedule a row gets from the left join with its parent. -/
def scheduleOf (database : Database) (row : JobRow) : Option String := do
  let parent ← row.multiJobID
  let multiJob ← database.multiJobs.find? fun multiJob => multiJob.jid = parent
  multiJob.scheduleID

end Database

namespace Provider

variable (provider : Provider)

def getByJID (clientID jid : String) (database : Database) : Except String (Option Job) :=
  match database.jobs.entries.find? fun row =>
      row.jid = jid && row.clientID = clientID with
  | none => .ok none
  | some row =>
    match row.details with
    | none => .error "failed to decode 'details' field"
    | some details => do
      let job ← provider.decryptJobResult (row.convert details (database.scheduleOf row))
      return some job

def saveJob (nonces : Nat → Nonce) (job : Job) (database : Database) : Except String Database := do
  let row ← provider.toSqlite nonces job
  return { database with jobs := database.jobs.put row }

def createJob (nonces : Nat → Nonce) (job : Job) (database : Database) :
    Except String Database := do
  let row ← provider.toSqlite nonces job
  match database.jobs.get row.jid with
  | some _ => return database
  | none => return { database with jobs := database.jobs.put row }

end Provider

variable {provider : Provider} {database after : Database}

variable {nonces : Nat → Nonce} {job : Job} {row : JobRow}

theorem toSqlite_eq_ok (converted : provider.toSqlite nonces job = .ok row) :
    ∃ details, row = job.toRow details ∧ details.command = job.command := by
  simp only [Provider.toSqlite] at converted
  split at converted
  · rw [Outcome.bind_eq_ok_iff] at converted
    obtain ⟨details, encrypted, result⟩ := converted
    cases result
    refine ⟨details, rfl, ?_⟩
    simp only [Provider.encryptDetailsResult, Outcome.bind_eq_ok_iff] at encrypted
    obtain ⟨error, _, rest⟩ := encrypted
    split at rest
    · cases rest
      rfl
    · simp only [Outcome.bind_eq_ok_iff] at rest
      obtain ⟨stdOut, _, stdErr, _, result⟩ := rest
      cases result
      rfl
  · cases converted
    exact ⟨job.details, rfl, rfl⟩

theorem decryptJobResult_eq_ok {decrypted : Job}
    (read : provider.decryptJobResult job = .ok decrypted) :
    ∃ error result, decrypted = { job with error := error, result := result } := by
  simp only [Provider.decryptJobResult, Outcome.bind_eq_ok_iff] at read
  obtain ⟨error, _, rest⟩ := read
  split at rest
  · rename_i absent
    cases rest
    refine ⟨error, none, ?_⟩
    rw [← absent]
  · simp only [Outcome.bind_eq_ok_iff] at rest
    obtain ⟨stdOut, _, stdErr, _, result⟩ := rest
    cases result
    exact ⟨error, _, rfl⟩

theorem getByJID_eq_some {clientID jid : String}
    (read : provider.getByJID clientID jid database = .ok (some job)) :
    ∃ row details error result, database.jobs.get jid = some row ∧ row.clientID = clientID ∧
      row.details = some details ∧
      job = { row.convert details (database.scheduleOf row) with
        error := error, result := result } := by
  simp only [Provider.getByJID] at read
  split at read
  · cases read
  · rename_i row found
    have matched := find?_some found
    simp only [Bool.and_eq_true, decide_eq_true_eq] at matched
    split at read
    · cases read
    · rename_i details decoded
      simp only [Outcome.bind_eq_ok_iff] at read
      obtain ⟨decrypted, converted, result⟩ := read
      cases result
      obtain ⟨error, output, rfl⟩ := decryptJobResult_eq_ok converted
      refine ⟨row, details, error, output, ?_, matched.2, decoded, rfl⟩
      exact Table.get_eq_some_iff.mpr ⟨mem_of_find?_eq_some found, matched.1⟩

structure JobDetails.Blank (details : JobDetails) : Prop where
  error : details.error = ""
  result : details.result = none

/-- A row without output, whose details decode. -/
def JobRow.Blank (row : JobRow) : Prop := ∃ details, row.details = some details ∧ details.Blank

theorem toSqlite_blank (converted : provider.toSqlite nonces job = .ok row)
    (blank : job.details.Blank) : row.Blank := by
  have same : provider.encryptDetailsResult nonces job.details = .ok job.details := by
    simp only [Provider.encryptDetailsResult, blank.error, blank.result,
      Provider.encryptStringField, true_or, if_true]
    rw [← blank.error, ← blank.result]
    rfl
  have kept : row = job.toRow job.details := by
    simp only [Provider.toSqlite, same] at converted
    split at converted
    all_goals exact (Except.ok.inj converted).symm
  subst kept
  exact ⟨job.details, rfl, blank⟩

theorem encryptStringField_total (usable : provider.envelope.Usable)
    (nonce : Nonce) (text : String) :
    ∃ stored, provider.encryptStringField nonce text = .ok stored := by
  simp only [Provider.encryptStringField]
  split
  · exact ⟨text, rfl⟩
  · exact usable.encrypt nonce text

def JobDetails.output (details : JobDetails) : List String :=
  details.error ::
    details.result.elim [] fun result => [result.stdOut, result.stdErr]

theorem toSqlite_stored {Stored : String → String → Prop} (store : ∀ nonce text, ∃ stored,
      provider.encryptStringField nonce text = .ok stored ∧ Stored text stored)
    (nonces : Nat → Nonce) (job : Job) :
    ∃ details, provider.toSqlite nonces job = .ok (job.toRow details) ∧
      List.Forall₂ Stored job.details.output details.output := by
  cases enabled : provider.envelope.enabled with
  | false =>
    refine ⟨job.details, by simp [Provider.toSqlite, enabled], List.forall₂_same.mpr ?_⟩
    intro text _
    obtain ⟨stored, same, isStored⟩ := store (nonces 0) text
    have kept : stored = text := by
      simpa [Provider.encryptStringField, Envelope.isEncryptedBy,
        Envelope.encrypt, enabled, eq_comm] using same
    exact kept ▸ isStored
  | true =>
    obtain ⟨error, errorStored, isError⟩ := store (nonces 0) job.error
    simp only [Provider.toSqlite, enabled, if_true, JobDetails.output,
      Provider.encryptDetailsResult, Job.details, errorStored]
    cases job.result with
    | none => exact ⟨_, rfl, .cons isError .nil⟩
    | some result =>
      obtain ⟨stdOut, outStored, isOut⟩ := store (nonces 1) result.stdOut
      obtain ⟨stdErr, errStored, isErr⟩ := store (nonces 2) result.stdErr
      simp only [outStored, errStored]
      exact ⟨_, rfl, .cons isError (.cons isOut (.cons isErr .nil))⟩

theorem toSqlite_total (usable : provider.envelope.Usable) (nonces : Nat → Nonce) (job : Job) :
    ∃ row, provider.toSqlite nonces job = .ok row := by
  obtain ⟨details, converted, -⟩ := toSqlite_stored
    (fun nonce text => (encryptStringField_total usable nonce text).imp
      fun _ stored => ⟨stored, trivial⟩) nonces job
  exact ⟨_, converted⟩

theorem find_of_get {clientID jid : String} (stored : database.jobs.get jid = some row)
    (own : row.clientID = clientID) :
    database.jobs.entries.find? (fun row =>
      row.jid = jid && row.clientID = clientID) = some row := by
  obtain ⟨member, named⟩ := Table.get_eq_some_iff.mp stored
  cases found : database.jobs.entries.find? fun row =>
      row.jid = jid && row.clientID = clientID with
  | none =>
    have missed := find?_eq_none.mp found row member
    simp [named, own] at missed
  | some other =>
    have matched := find?_some found
    simp only [Bool.and_eq_true, decide_eq_true_eq] at matched
    have otherStored := Table.get_eq_some_iff.mpr ⟨mem_of_find?_eq_some found, matched.1⟩
    exact otherStored.symm.trans stored

theorem getByJID_blank {clientID jid : String}
    (stored : database.jobs.get jid = some row) (own : row.clientID = clientID)
    (blank : row.Blank) : ∃ job, provider.getByJID clientID jid database = .ok (some job) := by
  obtain ⟨details, decoded, noError, noResult⟩ := blank
  have blankError : (row.convert details (database.scheduleOf row)).error = "" := noError
  have blankResult : (row.convert details (database.scheduleOf row)).result = none := noResult
  simp only [Provider.getByJID, find_of_get stored own, decoded,
    Provider.decryptJobResult, blankError, blankResult, Provider.decryptStringField, if_true]
  exact ⟨_, rfl⟩

end ProxiPort.Jobs
