import ProxiPort.Jobs.MultiJob

/-!
# Live output of commands

`handleCommandsExecutionWS` of `server/api_helper_commands.go` registers the UI
socket of a run and dispatches its jobs; `handleSSHChannels` and
`handleOutputChannel` of `server/client_listener.go` copy what an agent writes to
its output channels to a socket.  The socket is found, and the output labelled, by
what the agent sends when it opens the channel.
-/

namespace ProxiPort.LiveOutput

open Concurrency Jobs MultiJobs List Keyed

inductive Phase where
  | checking
  /-- The socket is registered. -/
  | registered (jid : String)
  | next (jid : String) (k : Nat)
  | dispatching (jid : String) (k : Nat) (curJID clientID : String)
  | waiting (jid : String) (k : Nat)
  | reading (jid : String)
  /-- The socket is about to be removed. -/
  | closing (jid : String)
  | ended (jid : Option String)
  deriving DecidableEq

def Phase.jid : Phase → Option String
  | .checking => none
  | .registered jid | .next jid _ | .dispatching jid _ _ _ | .waiting jid _
  | .reading jid | .closing jid => some jid
  | .ended jid => jid

structure Session where
  inboundMsg : MultiJobRequest
  orderedClients : List String
  username : String
  phase : Phase

/-- An entry of `uiJobWebSockets`; a socket is the number of its session. -/
structure Registration where
  key : String
  socket : Nat
  deriving DecidableEq

structure Goroutine where
  session : Session
  jid : String
  curJID : String
  clientID : String

def channelStdout : String := "stdout"

def channelStderr : String := "stderr"

structure OutputChannelData where
  jid : String
  clientID : String
  clientName : String
  result : Option JobResult
  deriving DecidableEq, Repr

inductive Stage where
  | opened (jobData : List UInt8)
  | reading (ws : Option Nat) (ocd : OutputChannelData)
  | done (err : Option String)
  deriving DecidableEq

structure OutputChannel where
  clientID : String
  typ : String
  stage : Stage
  deriving DecidableEq

inductive Read where
  | data (bytes : List UInt8)
  | eof
  | error (err : String)
  deriving DecidableEq

/-- `decode` is `json.Unmarshal` into a `models.Job`, and `text` is the
conversion of bytes to a string. -/
structure Settings where
  decode : List UInt8 → Except String Job
  text : List UInt8 → String
  runRemoteCmdTimeoutSec : Int

structure State where
  sessions : List Session
  goroutines : List Goroutine
  uiJobWebSockets : Table Registration.key
  channels : List OutputChannel
  /-- The jobs that were sent to their clients. -/
  sent : List Job

inductive Event where
  | registered (key : String) (socket : Nat)
  | dispatched (job : Job)
  | wrote (socket : Nat) (sender : String) (ocd : OutputChannelData)
  deriving DecidableEq

/-- What a session does not decide itself: the refusal of its checks, new job
ids, failures, the time, and whether it goes on after a dispatch. -/
structure Choice where
  refusal : Option String
  jid : Except String String
  failure : Option String
  now : Time
  goesOn : Bool

inductive Input where
  | accept (inboundMsg : MultiJobRequest) (orderedClients : List String) (username : String)
  | session (index : Nat) (client : Target) (choice : Choice)
  | dispatch (index : Nat) (client : Target) (now : Time)
  | openChannel (clientID typ : String) (extraData : List UInt8)
  | output (index : Nat) (read : Read)

def Session.runRequest (settings : Settings) (session : Session)
    (jid : String) (client : Target) : RunRequest where
  streams := true
  multiJobID := some jid
  command := session.inboundMsg.command
  interpreter := session.inboundMsg.interpreter
  createdBy := session.username
  cwd := session.inboundMsg.cwd
  timeoutSec :=
    if session.inboundMsg.timeoutSec ≤ 0 then settings.runRemoteCmdTimeoutSec
    else session.inboundMsg.timeoutSec
  isSudo := session.inboundMsg.isSudo
  isScript := session.inboundMsg.isScript
  client := client

namespace State

def setPhase (state : State) (index : Nat) (session : Session) (phase : Phase) : State :=
  { state with
    sessions := state.sessions.set index { session with phase := phase } }

/-- `createAndRunJob` up to the message to the client, which is sent unless the
client is paused or not connected. -/
def send (state : State) (request : RunRequest) (curJID : String)
    (now : Time) : State × List Event :=
  match (request.send curJID now).1 with
  | .sent _ curJob _ =>
    ({ state with sent := state.sent ++ [curJob] }, [.dispatched curJob])
  | _ => (state, [])

end State

section Steps

variable (settings : Settings)

def sessionStep (state : State) (index : Nat) (session : Session)
    (client : Target) (choice : Choice) : Option (State × List Event) :=
  let inboundMsg := session.inboundMsg
  match session.phase with
  | .checking =>
    if inboundMsg.command = "" ∨ (validateInterpreter inboundMsg.interpreter
          inboundMsg.isScript).isSome ∨ choice.refusal.isSome then
      some (state.setPhase index session (.ended none), [])
    else
      match choice.jid with
      | .error _ => some (state.setPhase index session (.ended none), [])
      | .ok jid => some ({ state.setPhase index session (.registered jid) with
          uiJobWebSockets := state.uiJobWebSockets.put ⟨jid, index⟩ },
          [.registered jid index])
  | .registered jid =>
    -- Without clients the handler indexes an empty slice and panics.
    if session.orderedClients = [] ∨ choice.failure.isSome then
      some (state.setPhase index session (.closing jid), [])
    else some (state.setPhase index session (.next jid 0), [])
  | .next jid k =>
    match session.orderedClients[k]?, choice.jid with
    | none, _ => some (state.setPhase index session (.reading jid), [])
    | some _, .error _ =>
      some (state.setPhase index session (.closing jid), [])
    | some clientID, .ok curJID =>
      if inboundMsg.executeConcurrently then
        some ({ state.setPhase index session (.next jid (k + 1)) with
          goroutines := state.goroutines ++ [⟨session, jid, curJID, clientID⟩] }, [])
      else some (state.setPhase index session (.dispatching jid k curJID clientID), [])
  | .dispatching jid k curJID clientID =>
    if client.id = clientID then
      some ((state.setPhase index session (.waiting jid k)).send
        (session.runRequest settings jid client) curJID choice.now)
    else none
  | .waiting jid k =>
    if choice.goesOn then
      some (state.setPhase index session (.next jid (k + 1)), [])
    else some (state.setPhase index session (.closing jid), [])
  | .reading jid => some (state.setPhase index session (.closing jid), [])
  | .closing jid =>
    some ({ state.setPhase index session (.ended (some jid)) with
      uiJobWebSockets := state.uiJobWebSockets.remove jid }, [])
  | .ended _ => none

def outputResult (typ : String) (text : String) : JobResult :=
  if typ = channelStdout then ⟨text, "", ""⟩ else ⟨"", text, ""⟩

def State.setStage (state : State) (index : Nat) (channel : OutputChannel)
    (stage : Stage) : State :=
  { state with
    channels := state.channels.set index { channel with stage := stage } }

/-- One section of `handleOutputChannel`: the look-up of the socket, or one turn
of the loop. -/
def outputStep (state : State) (index : Nat) (channel : OutputChannel)
    (read : Read) : Option (State × List Event) :=
  match channel.stage with
  | .opened jobData =>
    match settings.decode jobData with
    | .error err =>
      some (state.setStage index channel (.done (some err)), [])
    | .ok job => some (state.setStage index channel (.reading
        ((state.uiJobWebSockets.get job.wsJID).map Registration.socket)
        ⟨job.jid, job.clientID, job.clientName, none⟩), [])
  | .reading ws ocd =>
    match read with
    | .eof => some (state.setStage index channel (.done none), [])
    | .error err =>
      some (state.setStage index channel (.done (some err)), [])
    | .data bytes =>
      if bytes.length ≤ 4096 then
        match ws with
        | none => some (state, [])
        | some socket =>
          let written := { ocd with
            result := some (outputResult channel.typ (settings.text bytes)) }
          some (state.setStage index channel (.reading ws written),
            [.wrote socket channel.clientID written])
      else none
  | .done _ => none

def step (state : State) : Input → Option (State × List Event)
  | .accept inboundMsg orderedClients username =>
    some ({ state with
      sessions := state.sessions ++ [⟨inboundMsg, orderedClients, username, .checking⟩] }, [])
  | .session index client choice => do
    let session ← state.sessions[index]?
    sessionStep settings state index session client choice
  | .dispatch index client now => do
    let goroutine ← state.goroutines[index]?
    if client.id = goroutine.clientID then
      some ({ state with goroutines := state.goroutines.eraseIdx index }.send
        (goroutine.session.runRequest settings goroutine.jid client) goroutine.curJID now)
    else none
  | .openChannel clientID typ extraData =>
    -- Other types are rejected, or are sessions that write no output.
    if typ = channelStdout ∨ typ = channelStderr then
      some ({ state with
        channels := state.channels ++ [⟨clientID, typ, .opened extraData⟩] },
        [])
    else some (state, [])
  | .output index read => do
    let channel ← state.channels[index]?
    outputStep settings state index channel read

end Steps

def liveOutput (settings : Settings) : System State Input Event := ⟨step settings⟩

def started : State where
  sessions := []
  goroutines := []
  uiJobWebSockets := .empty
  channels := []
  sent := []

structure Labels (job : Job) (ocd : OutputChannelData) : Prop where
  jid : ocd.jid = job.jid
  clientID : ocd.clientID = job.clientID
  clientName : ocd.clientName = job.clientName

def FromOwnClient (before : List Event) (key sender : String) (ocd : OutputChannelData) : Prop :=
  ∃ job, .dispatched job ∈ before ∧ job.wsJID = key ∧ job.clientID = sender ∧ Labels job ocd

/-- What a client sends when it opens a channel names a job that was sent to it,
by its id, its run, and the id and the name of the client. -/
structure Names (clientID : String) (job own : Job) : Prop where
  receiver : own.clientID = clientID
  run : job.wsJID = own.wsJID
  jid : job.jid = own.jid
  clientID : job.clientID = own.clientID
  clientName : job.clientName = own.clientName

def OutputChannel.named (settings : Settings) (channel : OutputChannel) : Option Job :=
  match channel.stage with
  | .opened jobData => (settings.decode jobData).toOption
  | .reading _ _ | .done _ => none

/-- An output channel for whose run there is a UI socket names a job that was
sent to the client of its connection. -/
def Genuine (settings : Settings) (state : State) : Input → Prop
  | .output index _ => ∀ channel ∈ state.channels[index]?, ∀ job ∈ channel.named settings,
        (state.uiJobWebSockets.get job.wsJID).isSome = true →
        ∃ own ∈ state.sent, Names channel.clientID job own
  | .accept _ _ _ | .session _ _ _ | .dispatch _ _ _ | .openChannel _ _ _ =>
    True

section Steps

variable {settings : Settings} {state after : State} {index : Nat}
  {session : Session} {client : Target} {choice : Choice}
  {shown : List Event}

theorem State.send_cases (state : State) (request : RunRequest) (curJID : String) (now : Time) :
    state.send request curJID now = (state, []) ∨ ∃ curJob, state.send request curJID now =
        ({ state with sent := state.sent ++ [curJob] }, [.dispatched curJob]) := by
  rw [State.send.eq_def]
  split
  · rename_i curJob _ _
    exact .inr ⟨_, rfl⟩
  · exact .inl rfl

inductive Progressed (state : State) (index : Nat) (session : Session) :
    State → List Event → Prop where
  | moves {phase : Phase} (keeps : phase.jid = session.phase.jid) :
      Progressed state index session (state.setPhase index session phase) []
  | registers {jid : String} (here : session.phase = .checking) : Progressed state index session
        { state.setPhase index session (.registered jid) with
          uiJobWebSockets := state.uiJobWebSockets.put ⟨jid, index⟩ }
        [.registered jid index]
  | spawns {phase : Phase} {goroutine : Goroutine} (keeps : phase.jid = session.phase.jid) :
      Progressed state index session
        { state.setPhase index session phase with
          goroutines := state.goroutines ++ [goroutine] } []
  | sends {phase : Phase} {curJob : Job} (keeps : phase.jid = session.phase.jid) :
      Progressed state index session
        { state.setPhase index session phase with
          sent := state.sent ++ [curJob] } [.dispatched curJob]
  | closes {phase : Phase} {jid : String} (keeps : phase.jid = session.phase.jid) :
      Progressed state index session
        { state.setPhase index session phase with
          uiJobWebSockets := state.uiJobWebSockets.remove jid } []

theorem sessionStep_progressed (stepped : sessionStep settings state index session client choice =
      some (after, shown)) : Progressed state index session after shown := by
  obtain ⟨inboundMsg, orderedClients, username, phase⟩ := session
  simp only [sessionStep] at stepped
  split at stepped
  · split at stepped
    · cases stepped
      exact .moves rfl
    · split at stepped
      · cases stepped
        exact .moves rfl
      · cases stepped
        exact .registers rfl
  · split at stepped
    all_goals
      cases stepped
      exact .moves rfl
  · split at stepped
    · cases stepped
      exact .moves rfl
    · cases stepped
      exact .moves rfl
    · split at stepped
      · cases stepped
        exact .spawns rfl
      · cases stepped
        exact .moves rfl
  · split at stepped
    · have sending := Option.some.inj stepped
      rcases State.send_cases _ _ _ _ with quiet | ⟨curJob, sent⟩
      · cases quiet.symm.trans sending
        exact .moves rfl
      · cases sent.symm.trans sending
        exact .sends rfl
    · cases stepped
  · split at stepped
    all_goals
      cases stepped
      exact .moves rfl
  · cases stepped
    exact .moves rfl
  · cases stepped
    exact .closes rfl
  · cases stepped

inductive Copied (settings : Settings) (state : State) (index : Nat)
    (channel : OutputChannel) : State → List Event → Prop where
  | ends {err : Option String} : Copied settings state index channel
        (state.setStage index channel (.done err)) []
  | looksUp {job : Job} (named : channel.named settings = some job) :
      Copied settings state index channel (state.setStage index channel (.reading
          ((state.uiJobWebSockets.get job.wsJID).map Registration.socket)
          ⟨job.jid, job.clientID, job.clientName, none⟩)) []
  | drops : Copied settings state index channel state []
  | writes {socket : Nat} {ocd : OutputChannelData} {result : JobResult}
      (here : channel.stage = .reading (some socket) ocd) :
      Copied settings state index channel (state.setStage index channel (.reading (some socket)
          { ocd with result := some result }))
        [.wrote socket channel.clientID { ocd with result := some result }]

variable {channel : OutputChannel}

theorem outputStep_copied {read : Read} (stepped : outputStep settings state index channel read =
      some (after, shown)) :
    Copied settings state index channel after shown := by
  simp only [outputStep] at stepped
  split at stepped
  · rename_i jobData here
    split at stepped
    · cases stepped
      exact .ends
    · rename_i job decoded
      cases stepped
      refine .looksUp ?_
      rw [OutputChannel.named, here]
      exact congrArg Except.toOption decoded
  · rename_i ws ocd here
    split at stepped
    · cases stepped
      exact .ends
    · cases stepped
      exact .ends
    · split at stepped
      · split at stepped
        · cases stepped
          exact .drops
        · cases stepped
          exact .writes here
      · cases stepped
  · cases stepped

variable {history : List Event}

def State.Holds (state : State) (socket : Nat) (key : String) : Prop :=
  ∃ session, state.sessions[socket]? = some session ∧ session.phase.jid = some key

structure Attributed (history : List Event) (state : State) : Prop where
  registered : ∀ {key socket}, .registered key socket ∈ history → state.Holds socket key
  sockets : ∀ {key registration}, state.uiJobWebSockets.get key = some registration →
    .registered key registration.socket ∈ history
  sent : ∀ job ∈ state.sent, .dispatched job ∈ history
  channels : ∀ channel ∈ state.channels, ∀ {socket ocd},
    channel.stage = .reading (some socket) ocd →
    ∃ key, .registered key socket ∈ history ∧ FromOwnClient history key channel.clientID ocd

variable {ocd : OutputChannelData}

theorem FromOwnClient.append {key sender : String}
    (own : FromOwnClient history key sender ocd) (shown : List Event) :
    FromOwnClient (history ++ shown) key sender ocd := by
  obtain ⟨job, dispatched, rest⟩ := own
  exact ⟨job, mem_append_left _ dispatched, rest⟩

theorem Attributed.extend (attributed : Attributed history state)
    (sessions : ∀ {socket key}, state.Holds socket key → after.Holds socket key)
    (registered : ∀ {key socket}, .registered key socket ∈ shown → after.Holds socket key)
    (sockets : ∀ {key registration}, after.uiJobWebSockets.get key = some registration →
      state.uiJobWebSockets.get key = some registration ∨
        .registered key registration.socket ∈ shown)
    (sent : ∀ job ∈ after.sent, job ∈ state.sent ∨ .dispatched job ∈ shown)
    (channels : ∀ channel ∈ after.channels, channel ∈ state.channels ∨
      ∀ {socket ocd}, channel.stage = .reading (some socket) ocd →
        ∃ key, .registered key socket ∈ history ∧ FromOwnClient history key channel.clientID ocd) :
    Attributed (history ++ shown) after where
  registered := by
    intro key socket member
    rcases mem_append.mp member with old | new
    · exact sessions (attributed.registered old)
    · exact registered new
  sockets := by
    intro key registration found
    rcases sockets found with old | new
    · exact mem_append_left _ (attributed.sockets old)
    · exact mem_append_right _ new
  sent := by
    intro job member
    rcases sent job member with old | new
    · exact mem_append_left _ (attributed.sent job old)
    · exact mem_append_right _ new
  channels := by
    intro channel member socket ocd here
    have known : ∃ key, .registered key socket ∈ history ∧
        FromOwnClient history key channel.clientID ocd := by
      rcases channels channel member with old | new
      · exact attributed.channels channel old here
      · exact new here
    obtain ⟨key, there, own⟩ := known
    exact ⟨key, mem_append_left _ there, own.append shown⟩

theorem State.Holds.set {socket : Nat} {key : String} (holds : state.Holds socket key)
    (found : state.sessions[index]? = some session) {phase : Phase} (sessions : after.sessions =
      state.sessions.set index { session with phase := phase })
    (keeps : ∀ {key}, session.phase.jid = some key →
      phase.jid = some key) : after.Holds socket key := by
  obtain ⟨known, there, same⟩ := holds
  rw [State.Holds, sessions]
  by_cases own : index = socket
  · subst own
    cases found.symm.trans there
    exact ⟨_, List.getElem?_set_self (List.getElem?_eq_some_iff.mp found).1, keeps same⟩
  · exact ⟨known, (List.getElem?_set_ne own).trans there, same⟩

theorem Attributed.quiet (attributed : Attributed history state)
    (sessions : ∀ {socket key}, state.Holds socket key → after.Holds socket key)
    (unregistered : ∀ {key socket}, .registered key socket ∉ shown) (sockets : ∀ {key registration},
      after.uiJobWebSockets.get key = some registration →
      state.uiJobWebSockets.get key = some registration)
    (sent : ∀ job ∈ after.sent, job ∈ state.sent ∨ .dispatched job ∈ shown)
    (channels : after.channels = state.channels) :
    Attributed (history ++ shown) after :=
  attributed.extend sessions (fun new => (unregistered new).elim)
    (fun found => .inl (sockets found)) sent (fun _ member => .inl (channels ▸ member))

theorem Progressed.attributed (attributed : Attributed history state)
    (found : state.sessions[index]? = some session)
    (progressed : Progressed state index session after shown) :
    Attributed (history ++ shown) after := by
  cases progressed with
  | moves keeps | spawns keeps =>
    exact attributed.quiet (fun holds => holds.set found rfl (fun same => keeps.trans same))
      not_mem_nil id (fun _ member => .inl member) rfl
  | @registers jid here =>
    have none : session.phase.jid = none := congrArg Phase.jid here
    refine attributed.extend ?_ ?_ ?_ (fun _ member => .inl member) (fun _ member => .inl member)
    · intro socket key holds
      refine holds.set found rfl ?_
      intro other same
      cases none.symm.trans same
    · intro key socket new
      cases mem_singleton.mp new
      exact ⟨_, List.getElem?_set_self (List.getElem?_eq_some_iff.mp found).1, rfl⟩
    · intro key registration there
      rcases Table.get_put_cases there with ⟨rfl, rfl⟩ | ⟨_, before⟩
      · exact .inr (mem_singleton_self _)
      · exact .inl before
  | @sends phase curJob keeps =>
    refine attributed.quiet (fun holds => holds.set found rfl (fun same => keeps.trans same))
      ?_ id ?_ rfl
    · intro key socket new
      cases mem_singleton.mp new
    · exact forall_mem_concat (fun _ => .inl) (.inr (mem_singleton_self _))
  | closes keeps =>
    exact attributed.quiet (fun holds => holds.set found rfl (fun same => keeps.trans same))
      not_mem_nil (fun there => Table.get_of_get_remove there) (fun _ member => .inl member) rfl

theorem FromOwnClient.with_result {key sender : String}
    (own : FromOwnClient history key sender ocd) (result : Option JobResult) :
    FromOwnClient history key sender { ocd with result := result } := by
  obtain ⟨job, dispatched, run, receiver, labels⟩ := own
  exact ⟨job, dispatched, run, receiver, ⟨labels.jid, labels.clientID, labels.clientName⟩⟩

theorem Attributed.setStage (attributed : Attributed history state) {stage : Stage}
    (labelled : ∀ {socket ocd}, stage = .reading (some socket) ocd →
      ∃ key, .registered key socket ∈ history ∧ FromOwnClient history key channel.clientID ocd)
    (unregistered : ∀ {key socket}, .registered key socket ∉ shown) :
    Attributed (history ++ shown) (state.setStage index channel stage) := by
  refine attributed.extend id (fun new => (unregistered new).elim) .inl
    (fun _ member => .inl member) ?_
  exact forall_mem_set (fun _ => .inl) (.inr labelled)

theorem Copied.attributed (attributed : Attributed history state)
    (found : state.channels[index]? = some channel) {read : Read}
    (genuine : Genuine settings state (.output index read))
    (copied : Copied settings state index channel after shown) :
    Attributed (history ++ shown) after := by
  cases copied with
  | ends =>
    refine attributed.setStage ?_ not_mem_nil
    intro socket ocd same
    cases same
  | @looksUp job named =>
    refine attributed.setStage ?_ not_mem_nil
    intro socket ocd same
    obtain ⟨ws, rfl⟩ := Stage.reading.inj same
    obtain ⟨registration, there, rfl⟩ := Option.map_eq_some_iff.mp ws
    obtain ⟨own, sent, names⟩ := genuine channel found job named (Option.isSome_of_eq_some there)
    exact ⟨job.wsJID, attributed.sockets there, own, attributed.sent own sent,
      names.run.symm, names.receiver, ⟨names.jid, names.clientID, names.clientName⟩⟩
  | drops =>
    exact attributed.quiet id not_mem_nil id (fun _ member => .inl member) rfl
  | @writes socket ocd result here =>
    refine attributed.setStage ?_ ?_
    · intro other written same
      cases same
      obtain ⟨key, registered, own⟩ := attributed.channels channel (List.mem_of_getElem? found) here
      exact ⟨key, registered, own.with_result _⟩
    · intro key other new
      cases mem_singleton.mp new

theorem started_attributed : Attributed [] started where
  registered := fun member => by cases member
  sockets := fun found => by cases found
  sent := forall_mem_nil _
  channels := forall_mem_nil _

/-- An output goes to the socket of a run of which the sender was given a
job. -/
def Attributable (before : List Event) (socket : Nat) (sender : String)
    (ocd : OutputChannelData) : Prop :=
  ∃ key, .registered key socket ∈ before ∧ FromOwnClient before key sender ocd

theorem step_attributed (attributed : Attributed history state) {input : Input}
    (stepped : step settings state input = some (after, shown)) :
    (Genuine settings state input → Attributed (history ++ shown) after) ∧
      ∀ {socket sender ocd}, .wrote socket sender ocd ∈ shown →
        Attributable history socket sender ocd := by
  cases input with
  | accept inboundMsg orderedClients username =>
    cases stepped
    refine ⟨fun _ => attributed.quiet ?_ not_mem_nil id (fun _ member => .inl member) rfl, nofun⟩
    rintro socket key ⟨session, found, same⟩
    refine ⟨session, ?_, same⟩
    exact (List.getElem?_append_left (List.getElem?_eq_some_iff.mp found).1).trans found
  | session index client choice =>
    obtain ⟨session, found, taken⟩ := Option.bind_eq_some_iff.mp stepped
    have progressed := sessionStep_progressed taken
    refine ⟨fun _ => progressed.attributed attributed found, ?_⟩
    intro socket sender ocd wrote
    cases progressed with
    | moves | spawns | closes => cases wrote
    | registers | sends => cases mem_singleton.mp wrote
  | dispatch index client now =>
    obtain ⟨goroutine, _, taken⟩ := Option.bind_eq_some_iff.mp stepped
    split at taken
    · have sending := Option.some.inj taken
      rcases State.send_cases
        { state with goroutines := state.goroutines.eraseIdx index }
        (goroutine.session.runRequest settings goroutine.jid client)
        goroutine.curJID now with quiet | ⟨curJob, sent⟩
      · cases quiet.symm.trans sending
        exact ⟨fun _ => attributed.quiet id not_mem_nil id (fun _ member => .inl member) rfl, nofun⟩
      · cases sent.symm.trans sending
        refine ⟨fun _ => attributed.quiet id ?_ id ?_ rfl, ?_⟩
        · intro key socket new
          cases mem_singleton.mp new
        · exact forall_mem_concat (fun _ => .inl) (.inr (mem_singleton_self _))
        · intro socket sender ocd wrote
          cases mem_singleton.mp wrote
    · cases taken
  | openChannel clientID typ extraData =>
    simp only [step] at stepped
    split at stepped
    · cases stepped
      refine ⟨fun _ => attributed.extend id (fun new => by cases new) .inl
        (fun _ member => .inl member) ?_, nofun⟩
      exact forall_mem_concat (fun _ => .inl) (.inr (fun same => by cases same))
    · cases stepped
      exact ⟨fun _ => attributed.quiet id not_mem_nil id (fun _ member => .inl member) rfl, nofun⟩
  | output index read =>
    obtain ⟨channel, found, taken⟩ := Option.bind_eq_some_iff.mp stepped
    have copied := outputStep_copied taken
    refine ⟨fun genuine => copied.attributed attributed found genuine, ?_⟩
    intro socket sender ocd wrote
    cases copied with
    | ends | looksUp | drops => cases wrote
    | writes here =>
      cases mem_singleton.mp wrote
      obtain ⟨key, registered, own⟩ := attributed.channels channel (List.mem_of_getElem? found) here
      exact ⟨key, registered, own.with_result _⟩

end Steps

def Event.IsAttributable (before : List Event) : Event → Prop
  | .wrote socket sender ocd => Attributable before socket sender ocd
  | .registered _ _ | .dispatched _ => True

/-- Every output that is written to the socket of a run was sent by a client that
a job of the run was dispatched to, and carries the labels of that job. -/
theorem live_output_from_own_client (settings : Settings) {history : List Event} {state : State}
    (run : Run (liveOutput settings) (Genuine settings) started history state)
    {before later : List Event} {socket : Nat} {sender : String} {ocd : OutputChannelData}
    (split : history = before ++ .wrote socket sender ocd :: later)
    {key : String} (registered : .registered key socket ∈ history) :
    FromOwnClient before key sender ocd := by
  have preserved : ∀ {history shown state next input},
      Attributed history state → Genuine settings state input →
      (liveOutput settings).step state input = some (next, shown) →
      Attributed (history ++ shown) next :=
    fun attributed genuine stepped =>
      (step_attributed attributed stepped).1 genuine
  have attributable : Attributable before socket sender ocd := by
    refine run.justified Attributed started_attributed preserved
      (fun before event => event.IsAttributable before) ?_ split
    intro history shown state next input attributed _ stepped earlier event later shows
    cases event with
    | registered | dispatched => trivial
    | wrote socket sender ocd =>
      have wrote : .wrote socket sender ocd ∈ shown := by
        rw [shows]
        exact mem_append_right _ mem_cons_self
      obtain ⟨key, there, own⟩ := (step_attributed attributed stepped).2 wrote
      exact ⟨key, mem_append_left _ there, own.append earlier⟩
  obtain ⟨own, there, fromOwn⟩ := attributable
  -- A socket is registered for one run only.
  have attributed := run.invariant Attributed started_attributed preserved
  have thereLater : .registered own socket ∈ history := by
    rw [split]
    exact mem_append_left _ there
  obtain ⟨first, foundFirst, firstKey⟩ := attributed.registered thereLater
  obtain ⟨second, foundSecond, secondKey⟩ := attributed.registered registered
  cases foundFirst.symm.trans foundSecond
  cases firstKey.symm.trans secondKey
  exact fromOwn

instance (clientID : String) (job own : Job) : Decidable (Names clientID job own) :=
  decidable_of_iff (own.clientID = clientID ∧ job.wsJID = own.wsJID ∧
      job.jid = own.jid ∧ job.clientID = own.clientID ∧
      job.clientName = own.clientName)
    ⟨fun names => ⟨names.1, names.2.1, names.2.2.1, names.2.2.2.1, names.2.2.2.2⟩,
      fun names => ⟨names.receiver, names.run, names.jid, names.clientID, names.clientName⟩⟩

instance (settings : Settings) (state : State) : DecidablePred (Genuine settings state)
  | .output index _ => inferInstanceAs (Decidable
      (∀ channel ∈ state.channels[index]?, ∀ job ∈ _, _ → ∃ own ∈ _, _))
  | .accept _ _ _ | .session _ _ _ | .dispatch _ _ _ | .openChannel _ _ _ =>
    .isTrue trivial

def dateMsg : MultiJobRequest where
  scheduleID := none
  username := ""
  command := "date"
  script := ""
  cwd := ""
  isSudo := false
  interpreter := ""
  timeoutSec := 0
  executeConcurrently := false
  abortOnError := none
  isScript := false

def jobOfA : Job where
  jid := "job-a"
  status := ""
  finishedAt := none
  clientID := "a"
  clientName := "alpha"
  command := "date"
  cwd := ""
  interpreter := ""
  pid := none
  startedAt := 0
  createdBy := "user"
  timeoutSec := 60
  multiJobID := some "run"
  scheduleID := none
  error := ""
  result := none
  isSudo := false
  isScript := false
  streamResult := true

def dateSettings : Settings where
  decode := fun jobData =>
    if jobData = [1] then .ok jobOfA else .error "invalid character"
  text := fun _ => "Monday"
  runRemoteCmdTimeoutSec := 60

def goOn (jid : String) : Input :=
  .session 0 ⟨"a", "alpha", none, true⟩ ⟨none, .ok jid, none, 0, true⟩

def outputBy (clientID : String) : List Input :=
  [.accept dateMsg ["a"] "user", goOn "run", goOn "run", goOn "job-a",
    goOn "", .openChannel clientID "stdout" [1], .output 0 .eof, .output 0 (.data [77])]

def labelledA : OutputChannelData := ⟨"job-a", "a", "alpha", some ⟨"Monday", "", ""⟩⟩

theorem live_output_from_own_client_a :
    ∃ history state,
      Run (liveOutput dateSettings) (Genuine dateSettings) started history state ∧
      history = [.registered "run" 0, .dispatched jobOfA, .wrote 0 "a" labelledA] ∧
      FromOwnClient [.registered "run" 0, .dispatched jobOfA] "run" "a"
        labelledA := by
  obtain ⟨state, history, run, outcome⟩ :=
    Run.exists_ofExecute (liveOutput dateSettings) (Genuine dateSettings) started (outputBy "a")
      (fun outcome => decide (outcome.2 = [.registered "run" 0,
        .dispatched jobOfA, .wrote 0 "a" labelledA]))
      (by decide +kernel) (by decide +kernel)
  have shown : history = [.registered "run" 0, .dispatched jobOfA] ++
      .wrote 0 "a" labelledA :: [] := of_decide_eq_true outcome
  refine ⟨history, state, run, shown, live_output_from_own_client dateSettings run shown ?_⟩
  rw [shown]
  exact mem_cons_self

/-- Client b opens a channel with the data of client a's job.  Its output is
written to the socket of the run, under the id and the name of client a, although
no job of the run was dispatched to client b. -/
theorem live_output_of_another :
    ∃ history state,
      Run (liveOutput dateSettings) Unrestricted started history state ∧
      history = [.registered "run" 0, .dispatched jobOfA, .wrote 0 "b" labelledA] ∧
      ¬ FromOwnClient [.registered "run" 0, .dispatched jobOfA] "run" "b"
        labelledA := by
  obtain ⟨state, history, run, outcome⟩ :=
    Run.exists_unrestricted (liveOutput dateSettings) started (outputBy "b")
      (fun outcome => decide (outcome.2 = [.registered "run" 0,
        .dispatched jobOfA, .wrote 0 "b" labelledA]))
      (by decide +kernel)
  refine ⟨history, state, run, of_decide_eq_true outcome, ?_⟩
  rintro ⟨job, dispatched, _, receiver, _⟩
  have same : job = jobOfA := by simpa using dispatched
  rw [same] at receiver
  exact absurd receiver (by decide)

end ProxiPort.LiveOutput
