import ProxiPort.Jobs.Dispatch

/-!
# Commands for several clients

`StartMultiClientJob` and `executeMultiClientJob` of `server/api_helper_jobs.go`,
the tick of a schedule (`run` of `server/api/jobs/schedule/manager.go`) and what
`handleSSHRequests` of `server/client_listener.go` does with a saved result.  A
run for several clients dispatches with `createAndRunJob`; a sequential one waits
for a result on its channel after each dispatch.  The sections of all of them
interleave, and time passes.
-/

namespace ProxiPort.MultiJobs

open Concurrency Jobs List Keyed

/-- `models.MultiJob`, without the targets that its clients were resolved
from. -/
structure MultiJob where
  jid : String
  startedAt : Time
  createdBy : String
  scheduleID : Option String
  command : String
  interpreter : String
  cwd : String
  isScript : Bool
  isSudo : Bool
  timeoutSec : Int
  concurrent : Bool
  abortOnErr : Bool
  deriving DecidableEq, Repr

/-- `jobs.MultiJobRequest`, without its targets. -/
structure MultiJobRequest where
  scheduleID : Option String
  username : String
  command : String
  script : String
  cwd : String
  isSudo : Bool
  interpreter : String
  timeoutSec : Int
  executeConcurrently : Bool
  abortOnError : Option Bool
  isScript : Bool
  deriving DecidableEq, Repr

structure Schedule where
  id : String
  createdBy : String
  command : String
  script : String
  cwd : String
  isSudo : Bool
  interpreter : String
  timeoutSec : Int
  executeConcurrently : Bool
  abortOnError : Option Bool
  isScript : Bool
  overlaps : Bool
  deriving DecidableEq, Repr

def Schedule.request (schedule : Schedule) : MultiJobRequest where
  scheduleID := some schedule.id
  username := schedule.createdBy
  command := schedule.command
  script := schedule.script
  cwd := schedule.cwd
  isSudo := schedule.isSudo
  interpreter := schedule.interpreter
  timeoutSec := schedule.timeoutSec
  executeConcurrently := schedule.executeConcurrently
  abortOnError := schedule.abortOnError
  isScript := schedule.isScript

/-- `decodeScript` is `base64.StdEncoding.DecodeString`, as a text; `overlaps`
is the flag of each schedule. -/
structure Settings where
  server : Jobs.Server
  decodeScript : String → Except String String
  overlaps : String → Bool

def Settings.timeoutSec (settings : Settings) (timeoutSec : Int) : Int :=
  if timeoutSec ≤ 0 then settings.server.runRemoteCmdTimeoutSec else timeoutSec

/-- What `StartMultiClientJob` does not decide itself: the new job id, the
clients, whether the user may access them, and the failure to save. -/
structure StartChoice where
  schedule : Except String (Option Schedule)
  jid : Except String String
  orderedClients : Except String (List String)
  access : Option String
  failure : Option String

/-- `StartMultiClientJob` up to the call of the database. -/
def startMultiClientJob (settings : Settings) (request : MultiJobRequest)
    (choice : StartChoice) (now : Time) :
    Except String (MultiJob × List String) := do
  let jid ← choice.jid
  let orderedClients ← choice.orderedClients
  if orderedClients = [] then .error "no clients for execution"
  else
    match choice.access with
    | some err => .error err
    | none => do
      let command ←
        if request.isScript then settings.decodeScript request.script
        else .ok request.command
      return ({
        jid := jid
        startedAt := now
        createdBy := request.username
        scheduleID := request.scheduleID
        command := command
        interpreter := request.interpreter
        cwd := request.cwd
        isScript := request.isScript
        isSudo := request.isSudo
        timeoutSec := settings.timeoutSec request.timeoutSec
        concurrent := request.executeConcurrently
        abortOnErr := request.abortOnError.getD true }, orderedClients)

def saveMultiJob (job : MultiJob) (database : Database) : Database :=
  { database with
    multiJobs := database.multiJobs.filter (fun row => row.jid ≠ job.jid) ++
      [⟨job.jid, job.scheduleID⟩] }

def inProgress (database : Database) (scheduleID : String) (timeoutSec : Int)
    (now : Time) (row : JobRow) : Bool :=
  database.scheduleOf row = some scheduleID && row.finishedAt.isNone &&
    decide ((now.unix - row.startedAt.unix).natAbs ≤ timeoutSec)

def countJobsInProgress (database : Database) (scheduleID : String)
    (timeoutSec : Int) (now : Time) : Nat :=
  database.jobs.entries.countP (inProgress database scheduleID timeoutSec now)

def MultiJob.runRequest (job : MultiJob) (client : Target) : RunRequest where
  streams := false
  multiJobID := some job.jid
  command := job.command
  interpreter := job.interpreter
  createdBy := job.createdBy
  cwd := job.cwd
  timeoutSec := job.timeoutSec
  isSudo := job.isSudo
  isScript := job.isScript
  client := client

inductive Dispatch where
  | starting (jid clientID : String)
  | under (client : Target) (thread : Jobs.Thread)
  deriving DecidableEq

def notConnected (client : Target) : Bool := client.pausedReason.isNone && !client.hasConnection

def dispatchStep (settings : Settings) (shared : Shared) (now : Time)
    (job : MultiJob) (client : Target) (choice : Choice) :
    Dispatch → Option (Shared × Dispatch)
  | .starting jid clientID =>
    if client.id = clientID then
      some (shared, .under client ((job.runRequest client).send jid now).1)
    else none
  | .under known thread =>
    match atomic settings.server shared thread
        { choice with now := now } with
    | none => none
    | some (shared, thread, _) => some (shared, .under known thread)

def accepted : Dispatch → Dispatch → List Job
  | .under _ (.sent _ _ _), .under _ (.creating _ job none) => [job]
  | _, _ => []

/-- Where `executeMultiClientJob` is; the number is that of the client. -/
inductive Phase where
  /-- The channel is not set up yet. -/
  | opening
  | next (k : Nat)
  | dispatching (k : Nat) (dispatch : Dispatch)
  /-- It waits for a result on its channel. -/
  | waiting (k : Nat) (curJob : Job)
  /-- The loop was left. -/
  | closing
  | ended
  deriving DecidableEq

structure Execution where
  job : MultiJob
  orderedClients : List String
  phase : Phase

def Execution.jid (execution : Execution) : String := execution.job.jid

structure Channel where
  multiJobID : String
  capacity : Nat
  queue : List Job

structure Goroutine where
  job : MultiJob
  dispatch : Dispatch

inductive Message where
  | received (clientID : String) (payload : List UInt8)
  /-- The job that it names was found. -/
  | saving (clientID : String) (payload : List UInt8) (reported dispatched : Job)
  /-- It was saved and is about to be sent to the channel. -/
  | announcing (job : Job)
  | done
  deriving DecidableEq

inductive Starter where
  | fetching (id : String)
  | counting (schedule : Schedule)
  | starting (request : MultiJobRequest)
  | done (result : Option (Except String MultiJob))

structure State where
  now : Time
  shared : Shared
  executions : Table Execution.jid
  jobsDoneChannel : Table Channel.multiJobID
  goroutines : List Goroutine
  messages : List Message
  starters : List Starter
  /-- The commands that clients have accepted and whose results were not
  saved. -/
  running : List Job

inductive Event where
  | started (job : MultiJob)
  | dispatching (job : MultiJob) (k : Nat) (jid : String)
  | dispatchFailed (job : MultiJob) (k : Nat) (jid : String) (notConnected : Bool)
  | saved (multiJobID : Option String) (jid status : String)
  /-- The loop was left after a client. -/
  | stopped (job : MultiJob) (k : Nat)
  /-- No job id could be generated for a client. -/
  | returned (job : MultiJob) (k : Nat)
  deriving DecidableEq

inductive Input where
  | tick (id : String)
  | request (request : MultiJobRequest)
  | start (index : Nat) (choice : StartChoice)
  | execute (jid : String) (client : Target) (choice : Choice)
  | dispatch (index : Nat) (client : Target) (choice : Choice)
  | report (clientID : String) (payload : List UInt8)
  | message (index : Nat) (choice : Choice)
  | wait (nanoseconds : Nat)
  /-- Rows that the cleanup deletes. -/
  | forget (jids : List String)

def Message.belongsTo (jid : String) : Message → Bool
  | .saving _ _ _ dispatched => dispatched.multiJobID = some jid
  | .announcing job => job.multiJobID = some jid
  | .received _ _ | .done => false

namespace State

/-- A new job id is random: it is none that is stored, was given out or was
named by a client before. -/
def isFresh (state : State) (jid : String) : Bool :=
  state.shared.isFresh jid && (state.executions.get jid).isNone &&
    state.shared.database.jobs.entries.all (fun row => row.multiJobID ≠ some jid) &&
    state.messages.all fun message => !message.belongsTo jid

theorem isFresh_elim {state : State} {jid : String} (fresh : state.isFresh jid = true) :
    jid ∉ state.shared.seen ∧ state.executions.get jid = none ∧
      (∀ row ∈ state.shared.database.jobs.entries, row.multiJobID ≠ some jid) ∧
      ∀ message ∈ state.messages, message.belongsTo jid = false := by
  simp only [isFresh, Shared.isFresh, Bool.and_eq_true, decide_eq_true_eq,
    Option.isNone_iff_eq_none, all_eq_true, Bool.not_eq_true'] at fresh
  exact ⟨fresh.1.1.1.1, fresh.1.1.2, fresh.1.2, fresh.2⟩

def setPhase (state : State) (execution : Execution) (phase : Phase) : State :=
  { state with
    executions := state.executions.put { execution with phase := phase } }

def draw (state : State) (jid : String) : State :=
  { state with
    shared := { state.shared with seen := jid :: state.shared.seen } }

end State

section Steps

variable (settings : Settings)

def settle (job : MultiJob) (k : Nat) (client : Target) (curJob : Job)
    (err : Option String) : Phase × List Event :=
  match err with
  | none => (.waiting k curJob, [])
  | some _ =>
    let failed := .dispatchFailed job k curJob.jid (notConnected client)
    if job.abortOnErr && !notConnected client then
      (.closing, [failed, .stopped job k])
    else (.next (k + 1), [failed])

def conclude (job : MultiJob) (k : Nat) (jobResult : Job) : Phase × List Event :=
  if job.abortOnErr && jobResult.status = jobStatusFailed then
    (.closing, [.stopped job k])
  else (.next (k + 1), [])

/-- The end of `executeMultiClientJob`, with its deferred call. -/
def State.close (state : State) (execution : Execution) : State :=
  let closed := state.setPhase execution .ended
  if execution.job.concurrent then closed
  else { closed with
    jobsDoneChannel := closed.jobsDoneChannel.remove execution.jid }

def State.dispatchNext (state : State) (execution : Execution) (k : Nat)
    (clientID jid : String) : State :=
  let drawn := state.draw jid
  if execution.job.concurrent then
    { drawn.setPhase execution (.next (k + 1)) with
      goroutines := drawn.goroutines ++ [⟨execution.job, .starting jid clientID⟩] }
  else drawn.setPhase execution (.dispatching k (.starting jid clientID))

def executeStep (state : State) (execution : Execution) (client : Target)
    (choice : Choice) : Option (State × List Event) :=
  let job := execution.job
  match execution.phase with
  | .opening =>
    let opened := state.setPhase execution (.next 0)
    if job.concurrent then some (opened, [])
    else some ({ opened with
      jobsDoneChannel := opened.jobsDoneChannel.put
        ⟨job.jid, execution.orderedClients.length, []⟩ }, [])
  | .next k =>
    match execution.orderedClients[k]?, choice.jid with
    | none, _ => some (state.close execution, [])
    | some _, .error _ =>
      some (state.setPhase execution .closing, [.returned job k])
    | some clientID, .ok jid =>
      if state.isFresh jid then
        some (state.dispatchNext execution k clientID jid, [.dispatching job k jid])
      else none
  | .dispatching k dispatch =>
    match dispatchStep settings state.shared state.now job client choice dispatch with
    | none => none
    | some (shared, after) =>
      let moved := { state with
        shared := shared
        running := state.running ++ accepted dispatch after }
      match after with
      | .under known (.dispatched curJob (.returned err)) =>
        let (phase, shown) := settle job k known curJob err
        some (moved.setPhase execution phase, shown)
      | _ => some (moved.setPhase execution (.dispatching k after), [])
  | .waiting k _ =>
    match state.jobsDoneChannel.get job.jid with
    | none => none
    | some channel =>
      match channel.queue with
      | [] => none
      | jobResult :: rest =>
        let (phase, shown) := conclude job k jobResult
        some ({ state.setPhase execution phase with
          jobsDoneChannel := state.jobsDoneChannel.put
            { channel with queue := rest } }, shown)
  | .closing => some (state.close execution, [])
  | .ended => none

def goroutineStep (state : State) (index : Nat) (goroutine : Goroutine)
    (client : Target) (choice : Choice) : Option (State × List Event) :=
  match dispatchStep settings state.shared state.now goroutine.job client
      choice goroutine.dispatch with
  | none => none
  | some (shared, after) => some ({ state with
      shared := shared
      running := state.running ++ accepted goroutine.dispatch after
      goroutines := state.goroutines.set index { goroutine with dispatch := after } }, [])

/-- The send to the channel, which does not block. -/
def State.announce (state : State) (job : Job) : State :=
  match job.multiJobID with
  | none => state
  | some multiJobID =>
    match state.jobsDoneChannel.get multiJobID with
    | none => state
    | some done =>
      if done.queue.length < done.capacity then
        { state with
          jobsDoneChannel := state.jobsDoneChannel.put
            { done with queue := done.queue ++ [job] } }
      else state

theorem State.announce_eq (state : State) (job : Job) :
    ∃ channels, state.announce job =
      { state with jobsDoneChannel := channels } := by
  rw [State.announce]
  split
  · exact ⟨_, rfl⟩
  · split
    · exact ⟨_, rfl⟩
    · split
      all_goals exact ⟨_, rfl⟩

def State.setMessage (state : State) (index : Nat) (message : Message) : State :=
  { state with messages := state.messages.set index message }

def messageStep (state : State) (index : Nat) (message : Message)
    (choice : Choice) : Option (State × List Event) :=
  match message with
  | .received clientID payload =>
    match atomic settings.server state.shared (.cmdResult clientID payload) choice with
    | none => none
    | some (shared, after, _) =>
      let moved := { state with shared := shared }
      match after with
      | .saving clientID payload reported dispatched =>
        some (moved.setMessage index (.saving clientID payload reported dispatched), [])
      | _ => some (moved.setMessage index .done, [])
  | .saving clientID payload reported dispatched =>
    match atomic settings.server state.shared
        (.saving clientID payload reported dispatched) choice with
    | none => none
    | some (shared, after, _) =>
      let moved := { state with shared := shared }
      match after with
      | .resulted _ _ (.ok resp) =>
        some ({ moved.setMessage index (.announcing resp) with
          running := moved.running.filter fun job => job.jid ≠ resp.jid },
          [.saved resp.multiJobID resp.jid resp.status])
      | _ => some (moved.setMessage index .done, [])
  | .announcing job => some ((state.announce job).setMessage index .done, [])
  | .done => none

def State.setStarter (state : State) (index : Nat) (starter : Starter) : State :=
  { state with starters := state.starters.set index starter }

/-- One section of the tick of a schedule and of `StartMultiClientJob`. -/
def starterStep (state : State) (index : Nat) (starter : Starter)
    (choice : StartChoice) : Option (State × List Event) :=
  match starter with
  | .fetching id =>
    match choice.schedule with
    | .error _ | .ok none => some (state.setStarter index (.done none), [])
    | .ok (some schedule) =>
      if schedule.id = id ∧ schedule.overlaps = settings.overlaps id then
        if schedule.overlaps then
          some (state.setStarter index (.starting schedule.request), [])
        else some (state.setStarter index (.counting schedule), [])
      else none
  | .counting schedule =>
    if choice.failure.isSome ∨ 0 < countJobsInProgress state.shared.database schedule.id
          (settings.timeoutSec schedule.timeoutSec) state.now then
      some (state.setStarter index (.done none), [])
    else some (state.setStarter index (.starting schedule.request), [])
  | .starting request =>
    match startMultiClientJob settings request choice state.now, choice.failure with
    | .error err, _ | .ok _, some err =>
      some (state.setStarter index (.done (some (.error err))), [])
    | .ok (job, orderedClients), none =>
      if state.isFresh job.jid then
        let drawn := state.draw job.jid
        some ({ drawn.setStarter index (.done (some (.ok job))) with
          shared := { drawn.shared with
            database := saveMultiJob job drawn.shared.database }
          executions := drawn.executions.put ⟨job, orderedClients, .opening⟩ }, [.started job])
      else none
  | .done _ => none

def step (state : State) : Input → Option (State × List Event)
  | .tick id =>
    some ({ state with starters := state.starters ++ [.fetching id] }, [])
  | .request request =>
    if request.scheduleID = none then
      some ({ state with
        starters := state.starters ++ [.starting request] }, [])
    else none
  | .start index choice => do
    let starter ← state.starters[index]?
    starterStep settings state index starter choice
  | .execute jid client choice => do
    let execution ← state.executions.get jid
    executeStep settings state execution client choice
  | .dispatch index client choice => do
    let goroutine ← state.goroutines[index]?
    goroutineStep settings state index goroutine client choice
  | .report clientID payload =>
    some ({ state with
      messages := state.messages ++ [.received clientID payload] }, [])
  | .message index choice => do
    let message ← state.messages[index]?
    messageStep settings state index message choice
  | .wait nanoseconds =>
    some ({ state with now := state.now + nanoseconds }, [])
  | .forget jids =>
    some ({ state with
      shared := { state.shared with
        database := {
          jobs := jids.foldl Table.remove state.shared.database.jobs
          multiJobs := state.shared.database.multiJobs.filter fun row => row.jid ∉ jids } } }, [])

end Steps

def multiJobs (settings : Settings) : System State Input Event := ⟨step settings⟩

def started (now : Time) (database : Database) : State where
  now := now
  shared := ⟨database, []⟩
  executions := .empty
  jobsDoneChannel := .empty
  goroutines := []
  messages := []
  starters := []
  running := []

def Carries (job : MultiJob) (jid : String) : Jobs.Thread → Prop
  | .sent _ curJob _ | .creating _ curJob _ | .dispatched curJob _ =>
    curJob.jid = jid ∧ curJob.multiJobID = some job.jid
  | .createAndRunJob _ | .handleExecuteCommand _ | .refused _
  | .cmdResult _ _ | .saving _ _ _ _ | .resulted _ _ _ => False

def Dispatch.IsFor (job : MultiJob) (jid : String) : Dispatch → Prop
  | .starting own _ => own = jid
  | .under _ thread => Carries job jid thread

variable {job : MultiJob} {jid : String}

theorem failedRun_carries (streams : Bool) {curJob : Job} (now : Time)
    (err : String) (named : curJob.jid = jid) (owned : curJob.multiJobID = some job.jid) :
    Carries job jid (failedRun streams curJob now err).1 := by
  simp only [failedRun]
  split
  all_goals exact ⟨named, owned⟩

theorem send_carries (job : MultiJob) (client : Target) (jid : String) (now : Time) :
    Carries job jid ((job.runRequest client).send jid now).1 := by
  rw [RunRequest.send.eq_def]
  split
  · exact failedRun_carries _ _ _ rfl rfl
  · exact failedRun_carries _ _ _ rfl rfl
  · exact ⟨rfl, rfl⟩

theorem replied_carries (origin : Origin) {curJob : Job}
    (dispatchedAt now : Time) (reply : Except SendError RunCmdResponse)
    (named : curJob.jid = jid) (owned : curJob.multiJobID = some job.jid) :
    Carries job jid (replied origin curJob dispatchedAt now reply).1 := by
  simp only [replied]
  split
  · exact failedRun_carries _ _ _ named owned
  all_goals exact ⟨named, owned⟩

variable {settings : Settings} {client : Target} {choice : Choice}

theorem dispatchStep_isFor {shared after : Shared} {now : Time} {dispatch later : Dispatch}
    (stepped : dispatchStep settings shared now job client choice dispatch =
      some (after, later)) (carried : dispatch.IsFor job jid) :
    later.IsFor job jid := by
  cases dispatch with
  | starting own clientID =>
    simp only [dispatchStep] at stepped
    split at stepped
    · cases stepped
      cases carried
      exact send_carries _ _ _ _
    · cases stepped
  | under known thread =>
    simp only [dispatchStep] at stepped
    split at stepped
    · cases stepped
    · rename_i taken
      cases stepped
      cases thread with
      | sent origin curJob dispatchedAt =>
        cases taken
        exact replied_carries _ _ _ _ carried.1 carried.2
      | creating origin curJob err =>
        simp only [atomic] at taken
        split at taken
        all_goals
          cases taken
          exact carried
      | dispatched curJob result => cases taken
      | _ => exact carried.elim

section

variable (settings : Settings) (state : State) (execution : Execution)
  (client : Target) (choice : Choice)

inductive Looped : Phase → State → List Event → Prop where
  | opensConcurrent (here : execution.phase = .opening)
      (concurrent : execution.job.concurrent = true) :
      Looped (.next 0) (state.setPhase execution (.next 0)) []
  | opens (here : execution.phase = .opening) (sequential : execution.job.concurrent = false) :
      Looped (.next 0)
        { state.setPhase execution (.next 0) with
          jobsDoneChannel := state.jobsDoneChannel.put
            ⟨execution.job.jid, execution.orderedClients.length, []⟩ } []
  | closes (finished : execution.phase = .closing ∨
      ∃ k, execution.phase = .next k ∧ execution.orderedClients[k]? = none) :
      Looped .ended (state.close execution) []
  | returns {k : Nat} {clientID err : String} (here : execution.phase = .next k)
      (left : execution.orderedClients[k]? = some clientID) (noID : choice.jid = .error err) :
      Looped .closing (state.setPhase execution .closing) [.returned execution.job k]
  | spawns {k : Nat} {clientID jid : String} (here : execution.phase = .next k)
      (left : execution.orderedClients[k]? = some clientID)
      (concurrent : execution.job.concurrent = true) (fresh : state.isFresh jid = true) :
      Looped (.next (k + 1)) (state.dispatchNext execution k clientID jid)
        [.dispatching execution.job k jid]
  | dispatches {k : Nat} {clientID jid : String} (here : execution.phase = .next k)
      (left : execution.orderedClients[k]? = some clientID)
      (sequential : execution.job.concurrent = false) (fresh : state.isFresh jid = true) :
      Looped (.dispatching k (.starting jid clientID)) (state.dispatchNext execution k clientID jid)
        [.dispatching execution.job k jid]
  | advances {k : Nat} {dispatch after : Dispatch} {shared : Shared}
      (here : execution.phase = .dispatching k dispatch)
      (taken : dispatchStep settings state.shared state.now execution.job
        client choice dispatch = some (shared, after)) :
      Looped (.dispatching k after) ({ state with
          shared := shared
          running := state.running ++ accepted dispatch after }.setPhase
            execution (.dispatching k after)) []
  | settles {k : Nat} {dispatch : Dispatch} {shared : Shared}
      {known : Target} {curJob : Job} {err : Option String}
      (here : execution.phase = .dispatching k dispatch)
      (taken : dispatchStep settings state.shared state.now execution.job client choice dispatch =
          some (shared, .under known (.dispatched curJob (.returned err)))) :
      Looped (settle execution.job k known curJob err).1 ({ state with
          shared := shared
          running := state.running ++ accepted dispatch
            (.under known (.dispatched curJob (.returned err))) }.setPhase
            execution (settle execution.job k known curJob err).1)
        (settle execution.job k known curJob err).2
  | concludes {k : Nat} {curJob jobResult : Job} {rest : List Job}
      {channel : Channel} (here : execution.phase = .waiting k curJob)
      (found : state.jobsDoneChannel.get execution.job.jid = some channel)
      (first : channel.queue = jobResult :: rest) :
      Looped (conclude execution.job k jobResult).1
        { state.setPhase execution (conclude execution.job k jobResult).1 with
          jobsDoneChannel := state.jobsDoneChannel.put
            { channel with queue := rest } }
        (conclude execution.job k jobResult).2

end

variable {state after : State} {execution : Execution} {shown : List Event}

theorem executeStep_looped (stepped : executeStep settings state execution client choice =
      some (after, shown)) :
    ∃ phase, Looped settings state execution client choice phase after
      shown := by
  simp only [executeStep] at stepped
  split at stepped
  · rename_i here
    split at stepped
    · rename_i concurrent
      cases stepped
      exact ⟨_, .opensConcurrent here concurrent⟩
    · rename_i sequential
      cases stepped
      exact ⟨_, .opens here (eq_false_of_ne_true sequential)⟩
  · rename_i k here
    split at stepped
    · rename_i none
      cases stepped
      exact ⟨_, .closes (.inr ⟨k, here, none⟩)⟩
    · rename_i left noID
      cases stepped
      exact ⟨_, .returns here left noID⟩
    · rename_i clientID jid left drawn
      split at stepped
      · rename_i fresh
        cases stepped
        cases kind : execution.job.concurrent with
        | true => exact ⟨_, .spawns here left kind fresh⟩
        | false => exact ⟨_, .dispatches here left kind fresh⟩
      · cases stepped
  · rename_i k dispatch here
    split at stepped
    · cases stepped
    · rename_i shared later taken
      split at stepped
      · cases stepped
        exact ⟨_, .settles here taken⟩
      · cases stepped
        exact ⟨_, .advances here taken⟩
  · rename_i k curJob here
    split at stepped
    · cases stepped
    · rename_i channel found
      split at stepped
      · cases stepped
      · rename_i jobResult rest first
        cases stepped
        exact ⟨_, .concludes here found first⟩
  · rename_i here
    cases stepped
    exact ⟨_, .closes (.inl here)⟩
  · cases stepped

def Event.IsOf (job : MultiJob) : Event → Prop
  | .dispatching other _ _ => other = job
  | .dispatchFailed other _ _ _ => other = job
  | .stopped other _ => other = job
  | .returned other _ => other = job
  | .started _ | .saved _ _ _ => False

theorem settle_isOf (job : MultiJob) (k : Nat) (client : Target)
    (curJob : Job) (err : Option String) :
    ∀ event ∈ (settle job k client curJob err).2, event.IsOf job := by
  rw [settle.eq_def]
  split
  · exact forall_mem_nil _
  · dsimp only
    split
    · exact forall_mem_cons.mpr ⟨rfl, forall_mem_singleton.mpr rfl⟩
    · exact forall_mem_singleton.mpr rfl

theorem Looped.isOf {phase : Phase}
    (looped : Looped settings state execution client choice phase after
      shown) : ∀ event ∈ shown, event.IsOf execution.job := by
  cases looped with
  | opensConcurrent | opens | closes | advances => exact forall_mem_nil _
  | returns here left noID => exact forall_mem_singleton.mpr rfl
  | spawns | dispatches =>
    exact forall_mem_singleton.mpr rfl
  | settles here taken => exact settle_isOf _ _ _ _ _
  | concludes here found first =>
    simp only [conclude]
    split
    · exact forall_mem_singleton.mpr rfl
    · exact forall_mem_nil _

theorem Looped.starters {phase : Phase}
    (looped : Looped settings state execution client choice phase after
      shown) : after.starters = state.starters := by
  cases looped with
  | closes finished =>
    rw [State.close]
    split
    all_goals rfl
  | spawns here left concurrent fresh =>
    rw [State.dispatchNext, if_pos concurrent]
    rfl
  | dispatches here left sequential fresh =>
    rw [State.dispatchNext, if_neg (by rw [sequential]; exact Bool.false_ne_true)]
    rfl
  | _ => rfl

section

variable (settings : Settings) (state : State) (index : Nat) (starter : Starter)
  (choice : StartChoice)

inductive Begun : State → List Event → Prop where
  | ends {result : Option (Except String MultiJob)} :
      Begun (state.setStarter index (.done result)) []
  | overlaps {id : String} {schedule : Schedule}
      (here : starter = .fetching id) (named : schedule.id = id)
      (mayOverlap : settings.overlaps id = true) :
      Begun (state.setStarter index (.starting schedule.request)) []
  | fetches {schedule : Schedule} : Begun (state.setStarter index (.counting schedule)) []
  | passes {schedule : Schedule} (here : starter = .counting schedule)
      (free : countJobsInProgress state.shared.database schedule.id
        (settings.timeoutSec schedule.timeoutSec) state.now = 0) :
      Begun (state.setStarter index (.starting schedule.request)) []
  | launches {request : MultiJobRequest} {job : MultiJob}
      {orderedClients : List String} (here : starter = .starting request)
      (made : startMultiClientJob settings request choice state.now = .ok (job, orderedClients))
      (fresh : state.isFresh job.jid = true) :
      Begun
        { (state.draw job.jid).setStarter index (.done (some (.ok job))) with
          shared := { (state.draw job.jid).shared with
            database := saveMultiJob job state.shared.database }
          executions := state.executions.put ⟨job, orderedClients, .opening⟩ }
        [.started job]

end

theorem starterStep_begun {index : Nat} {starter : Starter} {choice : StartChoice}
    (stepped : starterStep settings state index starter choice = some (after, shown)) :
    Begun settings state index starter choice after shown := by
  cases starter with
  | fetching id =>
    simp only [starterStep] at stepped
    split at stepped
    · cases stepped
      exact .ends
    · cases stepped
      exact .ends
    · split at stepped
      · rename_i schedule _ same
        split at stepped
        · rename_i overlaps
          cases stepped
          exact .overlaps rfl same.1 (same.2.symm.trans overlaps)
        · cases stepped
          exact .fetches
      · cases stepped
  | counting schedule =>
    simp only [starterStep] at stepped
    split at stepped
    · cases stepped
      exact .ends
    · rename_i passed
      cases stepped
      exact .passes rfl (Nat.eq_zero_of_not_pos (fun counted => passed (.inr counted)))
  | starting request =>
    simp only [starterStep] at stepped
    split at stepped
    · cases stepped
      exact .ends
    · cases stepped
      exact .ends
    · rename_i job orderedClients made _
      split at stepped
      · rename_i fresh
        cases stepped
        exact .launches rfl made fresh
      · cases stepped
  | done result => cases stepped

end ProxiPort.MultiJobs
