import ProxiPort.Foundation.Threads
import ProxiPort.Jobs.Results

/-!
# Commands that are sent to clients

`createAndRunJob` of `server/api_helper_jobs.go` and `handleExecuteCommand` of
`server/api_handler_commands.go` send a command to a client, wait for its reply
and insert the job.  The result of the command arrives on the connection of the
client and is handled by another goroutine.  All three are cut at the message
to the client and at every call of the database.
-/

namespace ProxiPort.Jobs

open Concurrency Enc

structure Target where
  id : String
  name : String
  pausedReason : Option String
  hasConnection : Bool
  deriving DecidableEq, Repr

/-- The parameters of `createAndRunJob`; `streams` says that there is a UI
socket. -/
structure RunRequest where
  streams : Bool
  multiJobID : Option String
  command : String
  interpreter : String
  createdBy : String
  cwd : String
  timeoutSec : Int
  isSudo : Bool
  isScript : Bool
  client : Target
  deriving DecidableEq, Repr

structure ExecuteInput where
  command : String
  interpreter : String
  cwd : String
  isSudo : Bool
  timeoutSec : Int
  clientID : String
  isScript : Bool
  user : String
  deriving DecidableEq, Repr

structure RunCmdResponse where
  pid : Int
  startedAt : Time
  deriving DecidableEq, Repr

/-- What `SendRequestAndGetResponse` fails with: a refusal of the client, or
something else. -/
inductive SendError where
  | client (err : String)
  | other (err : String)
  deriving DecidableEq, Repr

def SendError.text : SendError → String
  | .client err => err
  | .other err => err

structure Server where
  listener : Listener
  runRemoteCmdTimeoutSec : Int

structure Shared where
  database : Database
  /-- Job ids that were given to a job or looked up for a result. -/
  seen : List String

inductive Call where
  | createAndRunJob (request : RunRequest)
  | handleExecuteCommand (input : ExecuteInput)
  | cmdResult (clientID : String) (payload : List UInt8)
  deriving DecidableEq, Repr

inductive Result where
  | response (status : Nat) (title : String) (err : Option String)
  | newJob (jid : String)
  | returned (err : Option String)
  deriving DecidableEq, Repr

inductive Origin where
  | createAndRunJob (streams : Bool)
  | handleExecuteCommand
  deriving DecidableEq, Repr

/-- The next section of a call.  `sent` waits for the reply of the client,
`creating` is about to insert the job, `saving` has found the job of a
result. -/
inductive Thread where
  | createAndRunJob (request : RunRequest)
  | handleExecuteCommand (input : ExecuteInput)
  | sent (origin : Origin) (curJob : Job) (dispatchedAt : Time)
  | creating (origin : Origin) (curJob : Job) (err : Option String)
  | dispatched (curJob : Job) (result : Result)
  | refused (result : Result)
  | cmdResult (clientID : String) (payload : List UInt8)
  | saving (clientID : String) (payload : List UInt8) (reported dispatched : Job)
  | resulted (clientID : String) (payload : List UInt8) (outcome : Except String Job)
  deriving DecidableEq

/-- What a section does not decide itself: clock readings, the new job id, the
client that is looked up, its reply, failures, and what happens around a
result. -/
structure Choice where
  now : Time
  jid : Except String String
  client : Except String (Option Target)
  reply : Except SendError RunCmdResponse
  failure : Option String
  nonces : Nat → Nonce
  circumstances : Circumstances

def validInputInterpreter : List String := ["cmd", "powershell"]

def validateInterpreter (interpreter : String) (isScript : Bool) : Option String :=
  if interpreter = "" ∨ isScript = true then none
  else if interpreter ∈ validInputInterpreter then none
  else some ("expected interpreter to be one of: [" ++
    " ".intercalate validInputInterpreter ++ "], actual: " ++ interpreter)

def maxAgentStartedAtSkew : Int := minute

def plausibleAgentStartedAt (dispatchedAt now reportedAt : Time) : Time × Bool :=
  if reportedAt < dispatchedAt - maxAgentStartedAtSkew ∨
      reportedAt > now + maxAgentStartedAtSkew then (dispatchedAt, false)
  else (reportedAt, true)

def RunRequest.job (request : RunRequest) (jid : String) (now : Time) : Job where
  jid := jid
  status := ""
  finishedAt := none
  clientID := request.client.id
  clientName := request.client.name
  command := request.command
  cwd := request.cwd
  interpreter := request.interpreter
  pid := none
  startedAt := now
  createdBy := request.createdBy
  timeoutSec := request.timeoutSec
  multiJobID := request.multiJobID
  scheduleID := none
  error := ""
  result := none
  isSudo := request.isSudo
  isScript := request.isScript
  streamResult := request.streams

def ExecuteInput.job (input : ExecuteInput) (jid clientName : String) (timeoutSec : Int) : Job where
  jid := jid
  status := ""
  finishedAt := none
  clientID := input.clientID
  clientName := clientName
  command := input.command
  cwd := input.cwd
  interpreter := input.interpreter
  pid := none
  startedAt := Time.zero
  createdBy := input.user
  timeoutSec := timeoutSec
  multiJobID := none
  scheduleID := none
  error := ""
  result := none
  isSudo := input.isSudo
  isScript := input.isScript
  streamResult := false

def Job.accepted (job : Job) (dispatchedAt now : Time) (response : RunCmdResponse) : Job :=
  { job with
    pid := some response.pid
    startedAt := (plausibleAgentStartedAt dispatchedAt now response.startedAt).1
    status := jobStatusRunning }

/-- The fields that `createAndRunJob` sets when the command was not sent or not
accepted. -/
def Job.failed (job : Job) (now : Time) (err : String) : Job :=
  { job with
    status := jobStatusFailed
    finishedAt := some now
    error := err }

/-- The failure branch of `createAndRunJob`: the UI is told, and only a job of
a multi-client run is inserted. -/
def failedRun (streams : Bool) (job : Job) (now : Time) (err : String) : Thread × List Effect :=
  let curJob := job.failed now err
  let shown := if streams then [Effect.wroteUI curJob.wsJID curJob] else []
  if curJob.multiJobID.isNone then
    (.dispatched curJob (.returned (some err)), shown)
  else (.creating (.createAndRunJob streams) curJob (some err), shown)

def replied (origin : Origin) (job : Job) (dispatchedAt now : Time)
    (reply : Except SendError RunCmdResponse) : Thread × List Effect :=
  match origin, reply with
  | .createAndRunJob streams, .error err =>
    failedRun streams job now err.text
  | .handleExecuteCommand, .error (.client err) =>
    (.dispatched job (.response 409 err none), [])
  | .handleExecuteCommand, .error (.other err) =>
    (.dispatched job (.response 500 "Failed to execute remote command." (some err)), [])
  | _, .ok response =>
    (.creating origin (job.accepted dispatchedAt now response) none, [])

def created (origin : Origin) (job : Job) (err dbErr : Option String) :
    Result :=
  match origin, dbErr with
  | .createAndRunJob _, _ => .returned err
  | .handleExecuteCommand, some dbErr =>
    .response 500 "Failed to persist a new job." (some dbErr)
  | .handleExecuteCommand, none => .newJob job.jid

def Server.executable (server : Server) (input : ExecuteInput)
    (client : Except String (Option Target)) : Except Result Target :=
  let clientID := Go.quote server.listener.unicode input.clientID
  if input.command = "" then
    .error (.response 400 "Command cannot be empty." none)
  else
    match validateInterpreter input.interpreter input.isScript, client with
    | some err, _ => .error (.response 400 "Invalid interpreter." (some err))
    | none, .error err => .error (.response 500
        ("Failed to find an active client with id=" ++ clientID ++ ".") (some err))
    | none, .ok none => .error (.response 404
        ("Active client with id=" ++ clientID ++ " not found.") none)
    | none, .ok (some client) =>
      match client.pausedReason with
      | some reason => .error (.response 404
          ("failed to execute command/script for client with id " ++
            client.id ++ " due to client being paused (reason = " ++
            reason ++ ")") none)
      | none => .ok client

def Shared.isFresh (shared : Shared) (jid : String) : Bool :=
  jid ∉ shared.seen && (shared.database.jobs.get jid).isNone

/-- `createAndRunJob` up to the message to the client. -/
def RunRequest.send (request : RunRequest) (jid : String) (now : Time) : Thread × List Effect :=
  let job := request.job jid now
  match request.client.pausedReason, request.client.hasConnection with
  | some reason, _ => failedRun request.streams job now
      ("client is paused (reason = " ++ reason ++ ")")
  | none, false =>
    failedRun request.streams job now "client is not connected"
  | none, true => (.sent (.createAndRunJob request.streams) job now, [])

/-- `handleExecuteCommand` up to the message to the client. -/
def Server.sendInput (server : Server) (input : ExecuteInput)
    (client : Target) (jid : String) (now : Time) : Thread :=
  let timeoutSec :=
    if input.timeoutSec ≤ 0 then server.runRemoteCmdTimeoutSec
    else input.timeoutSec
  .sent .handleExecuteCommand (input.job jid client.name timeoutSec) now

def Thread.enter : Call → Thread
  | .createAndRunJob request => .createAndRunJob request
  | .handleExecuteCommand input => .handleExecuteCommand input
  | .cmdResult clientID payload => .cmdResult clientID payload

/-- One section.  A new job id is random: it is none that is stored, was given
out or was named by a client before. -/
def atomic (server : Server) (shared : Shared) (thread : Thread)
    (choice : Choice) : Option (Shared × Thread × List Effect) :=
  let listener := server.listener
  let database := shared.database
  match thread with
  | .createAndRunJob request =>
    match choice.jid with
    | .error err => some (shared, .refused (.returned (some err)), [])
    | .ok jid =>
      if shared.isFresh jid then
        let (after, shown) := request.send jid choice.now
        some ({ shared with seen := jid :: shared.seen }, after, shown)
      else none
  | .handleExecuteCommand input =>
    match server.executable input choice.client, choice.jid with
    | .error result, _ => some (shared, .refused result, [])
    | .ok _, .error err =>
      some (shared, .refused (.response 500 err none), [])
    | .ok client, .ok jid =>
      if shared.isFresh jid then
        some ({ shared with seen := jid :: shared.seen },
          server.sendInput input client jid choice.now, [])
      else none
  | .sent origin curJob dispatchedAt =>
    let (after, shown) := replied origin curJob dispatchedAt choice.now choice.reply
    some (shared, after, shown)
  | .creating origin curJob err =>
    match choice.failure, listener.provider.createJob choice.nonces curJob database with
    | some dbErr, _ | none, .error dbErr => some (shared,
        .dispatched curJob (created origin curJob err (some dbErr)), [])
    | none, .ok database => some ({ shared with database := database },
        .dispatched curJob (created origin curJob err none), [])
  | .cmdResult clientID payload =>
    if payload.length > listener.maxRequestBytesClient then
      some (shared, .resulted clientID payload (.error "request data exceeds the limit"), [])
    else
      match listener.decode payload with
      | .error err => some (shared, .resulted clientID payload
          (.error ("failed to decode cmd result request: " ++ err)), [])
      | .ok reported =>
        let shared := { shared with seen := reported.jid :: shared.seen }
        match listener.findDispatched clientID reported
            choice.circumstances.lookUpFailure database with
        | .error err =>
          some (shared, .resulted clientID payload (.error err), [])
        | .ok dispatched => some (shared, .saving clientID payload reported dispatched, [])
  | .saving clientID payload reported dispatched =>
    let resp := reconcile dispatched reported
    let written := writeUI choice.circumstances resp
    match listener.saveResult choice.circumstances resp database with
    | .error err =>
      some (shared, .resulted clientID payload (.error err), written)
    | .ok database => some ({ shared with database := database },
        .resulted clientID payload (.ok resp),
        written ++ announce choice.circumstances clientID resp)
  | .dispatched _ _ | .refused _ | .resulted _ _ _ => none

def program (server : Server) : Program Shared Thread Call Choice Empty Effect where
  enter := Thread.enter
  atomic := atomic server
  environment := fun _ event => nomatch event

def initial (database : Database) : Config Shared Thread := ⟨⟨database, []⟩, []⟩

end ProxiPort.Jobs
