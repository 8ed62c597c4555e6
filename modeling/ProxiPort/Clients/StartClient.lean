import ProxiPort.Clients.Tunnel
import ProxiPort.Foundation.Keyed

/-!
# A client connects

`StartClient` of `server/clients/client_service.go` as one call that nothing
interrupts.  It works on the client object of the repository, so what it has
changed stays when a later step fails.
-/

namespace ProxiPort.Clients

open Ports Keyed

structure Service where
  clients : Table Client.id
  stored : Table Client.id
  distributor : PortDistributor
  keepDisconnectedClients : Option Int

/-- A call of `StartClient`, with what it meets: the host of the remote address
(`net.SplitHostPort`), the answers of the agent, and a failure of the store. -/
structure StartCall where
  clientAuthID : String
  clientID : String
  sshConn : Nat
  address : String
  clientHost : Except String String
  authMultiuseCreds : Bool
  description : Description
  remotes : List (Option Remote)
  answer : Nat → String → Except String Bool
  saveFailure : Option String
  surroundings : Surroundings

namespace Service

def getByID (service : Service) (now : Time) (id : String) : Option Client :=
  (service.clients.get id).filter fun client =>
    !client.obsolete service.keepDisconnectedClients now

def isClientAuthIDInUse (service : Service) (now : Time) (clientAuthID clientID : String) : Bool :=
  service.clients.entries.any fun client =>
    !client.obsolete service.keepDisconnectedClients now &&
      client.clientAuthID = clientAuthID && client.id ≠ clientID

def change (service : Service) (registered : Bool) (client : Client) :
    Service :=
  if registered then { service with clients := service.clients.put client }
  else service

def changeExisting (service : Service) : Option Client → Service
  | none => service
  | some client => service.change true client

def save (service : Service) (client : Client) : Service :=
  { service with
    stored := service.stored.put client
    clients := service.clients.put client }

end Service

namespace StartCall

def resumes (call : StartCall) (client : Client) : Bool :=
  call.description.sessionID ≠ "" &&
    call.description.sessionID = client.description.sessionID

def isForeign (call : StartCall) (client : Client) : Bool :=
  !call.authMultiuseCreds && client.clientAuthID ≠ "" && client.clientAuthID ≠ call.clientAuthID

def oldTunnels (call : StartCall) (client : Client) : List Remote :=
  getTunnelsToReestablish (client.tunnels.map Tunnel.remote) call.remotes

def keptTunnels (call : StartCall) (client : Client) : Except String (List Remote) :=
  if call.surroundings.versionBefore064 call.description.version then
    .ok (call.oldTunnels client)
  else excludeNotAllowedTunnels call.answer (call.oldTunnels client)

/-- `StartClient` on a client that it has found, up to the release of its
tunnels. -/
def checkExisting (call : StartCall) (client : Client) : Except Err (List Remote) :=
  if client.isConnected && !call.resumes client then
    .error (.plain ("client is already connected: " ++
      client.description.name ++ " [" ++ call.clientID ++ "]"))
  else if call.isForeign client then
    .error (.plain ("client id " ++ Go.quote call.surroundings.unicode call.clientID ++
      " is already registered to a different credential"))
  else
    match call.keptTunnels client with
    | .error err => .error (.plain ("failed to filter tunnels: " ++ err))
    | .ok kept => .ok kept

def check (call : StartCall) : Option Client → Except Err (List Remote)
  | none => .ok []
  | some client => call.checkExisting client

def newClient (call : StartCall) : Client where
  id := call.clientID
  description := call.description
  address := ""
  tunnels := []
  disconnectedAt := none
  lastHeartbeatAt := none
  clientAuthID := ""
  allowedUserGroups := []
  connection := none
  paused := false
  tunnelIDAutoIncrement := 0

def newClientFromConnRequest (call : StartCall)
    (existing : Option Client) (clientHost : String) : Client :=
  { existing.getD call.newClient with
    description := call.description
    address := clientHost
    tunnels := []
    disconnectedAt := none
    clientAuthID := call.clientAuthID
    connection := some call.sshConn }

def addressError (call : StartCall) (err : String) : Err :=
  .plain ("failed to get host for address " ++
    Go.quote call.surroundings.unicode call.address ++ ": " ++ err)

def authIDInUseError (call : StartCall) : Err :=
  .plain ("client auth ID is already in use: " ++
    Go.quote call.surroundings.unicode call.clientAuthID)

def saveError (err : String) : Err := .plain ("failed to save client: " ++ err)

def startTunnels (call : StartCall) (kept : List Remote)
    (tunnelling : Tunnelling) : Tunnelling × Except Err (List Started) :=
  if tunnelling.client.paused then (tunnelling, .ok [])
  else startClientTunnels call.surroundings
    (sanitizeAgentRemotes (call.remotes ++ kept.map some)) tunnelling

/-- `StartClient` from `NewClientFromConnRequest` on. -/
def takeOver (call : StartCall) (existing : Option Client)
    (clientHost : String) (kept : List Remote) (service : Service) :
    Service × Except Err (Client × List Started) :=
  let client := call.newClientFromConnRequest existing clientHost
  match call.startTunnels kept ⟨client, service.distributor⟩ with
  | (tunnelling, result) =>
    let service := { service.change existing.isSome tunnelling.client with
      distributor := tunnelling.distributor }
    match result, call.saveFailure with
    | .error err, _ => (service, .error err)
    | .ok _, some err => (service, .error (saveError err))
    | .ok tunnels, none => (service.save tunnelling.client, .ok (tunnelling.client, tunnels))

end StartCall

/-- `StartClient`.  The list of tunnels is the one that `startClientTunnels`
returns; the source drops it. -/
def startClient (service : Service) (call : StartCall) :
    Service × Except Err (Client × List Started) :=
  let now := call.surroundings.now
  match call.clientHost with
  | .error err => (service, .error (call.addressError err))
  | .ok clientHost =>
    let existing := service.getByID now call.clientID
    match call.check existing with
    | .error err => (service, .error err)
    | .ok kept =>
      let released := existing.map Client.releaseTunnels
      let service := service.changeExisting released
      if !call.authMultiuseCreds && service.isClientAuthIDInUse now
          call.clientAuthID call.clientID then
        (service, .error call.authIDInUseError)
      else call.takeOver released clientHost kept service

/-- What the repository says about a client, and which of its tunnels listen,
is as before. -/
structure Unchanged (client after : Client) : Prop where
  isConnected : after.isConnected = client.isConnected
  connection : after.connection = client.connection
  description : after.description = client.description
  address : after.address = client.address
  clientAuthID : after.clientAuthID = client.clientAuthID
  tunnels : after.tunnels = client.tunnels

theorem Unchanged.refl (client : Client) : Unchanged client client := ⟨rfl, rfl, rfl, rfl, rfl, rfl⟩

def Tunnel.isStopped (tunnel : Tunnel) : Prop :=
  tunnel.listening = false ∧
    ∀ proxy ∈ tunnel.proxy, proxy.running = false

theorem stop_eq_self_iff (tunnel : Tunnel) : tunnel.stop = tunnel ↔ tunnel.isStopped := by
  obtain ⟨id, remote, specified, acl, listening, proxy, createdAt⟩ := tunnel
  cases proxy with
  | none => simp [Tunnel.stop, Tunnel.isStopped]
  | some proxy =>
    obtain ⟨host, port, proxyACL, running⟩ := proxy
    simp [Tunnel.stop, Tunnel.isStopped]

theorem releaseTunnels_eq_self_iff (client : Client) :
    client.releaseTunnels.tunnels = client.tunnels ↔
      ∀ tunnel ∈ client.tunnels, tunnel.isStopped := by
  have same : client.tunnels.map Tunnel.stop = client.tunnels.map id ↔
      ∀ tunnel ∈ client.tunnels, tunnel.stop = tunnel :=
    List.map_inj_left
  rw [List.map_id] at same
  simp only [stop_eq_self_iff] at same
  exact same

inductive RefusedUntouched (service : Service) (call : StartCall)
    (client : Client) : Prop where
  | address {err : String} (unusable : call.clientHost = .error err)
  | connected (isConnected : client.isConnected = true) (other : call.resumes client = false)
  | credential (isForeign : call.isForeign client = true)
  | policy {err : String} (unknown : call.keptTunnels client = .error err)
  | authIDInUse (single : call.authMultiuseCreds = false)
      (inUse : service.isClientAuthIDInUse call.surroundings.now
        call.clientAuthID call.clientID = true)
      (stopped : ∀ tunnel ∈ client.tunnels, tunnel.isStopped)

theorem releaseTunnels_unchanged_iff (client : Client) :
    Unchanged client client.releaseTunnels ↔
      ∀ tunnel ∈ client.tunnels, tunnel.isStopped := by
  rw [← releaseTunnels_eq_self_iff]
  constructor
  · exact Unchanged.tunnels
  · intro same
    exact ⟨rfl, rfl, rfl, rfl, rfl, same⟩

variable {service : Service} {call : StartCall} {client : Client} {err : Err}

theorem checkExisting_error (refused : call.checkExisting client = .error err) :
    RefusedUntouched service call client := by
  simp only [StartCall.checkExisting] at refused
  split at refused
  · rename_i connected
    simp only [Bool.and_eq_true, Bool.not_eq_true'] at connected
    exact .connected connected.1 connected.2
  · split at refused
    · rename_i isForeign
      exact .credential isForeign
    · split at refused
      · rename_i unknown
        exact .policy unknown
      · cases refused

variable {clientHost : String} {kept : List Remote}

theorem refusedUntouched_of_checked (usable : call.clientHost = .ok clientHost)
    (checked : call.checkExisting client = .ok kept)
    (refused : RefusedUntouched service call client) :
    (call.authMultiuseCreds = false ∧
      service.isClientAuthIDInUse call.surroundings.now call.clientAuthID call.clientID = true) ∧
      ∀ tunnel ∈ client.tunnels, tunnel.isStopped := by
  cases refused with
  | address unusable => cases usable.symm.trans unusable
  | connected isConnected other =>
    simp [StartCall.checkExisting, isConnected, other] at checked
  | credential isForeign =>
    simp only [StartCall.checkExisting, isForeign, if_true] at checked
    split at checked
    all_goals cases checked
  | policy unknown =>
    simp only [StartCall.checkExisting, unknown] at checked
    split at checked
    · cases checked
    · split at checked
      all_goals cases checked
  | authIDInUse single inUse stopped => exact ⟨⟨single, inUse⟩, stopped⟩

theorem isClientAuthIDInUse_change (service : Service) (client : Client)
    (now : Time) (clientAuthID : String) :
    (service.change true client.releaseTunnels).isClientAuthIDInUse now clientAuthID client.id =
      service.isClientAuthIDInUse now clientAuthID client.id := by
  rw [Bool.eq_iff_iff]
  simp only [Service.isClientAuthIDInUse, Service.change, if_true,
    List.any_eq_true, Table.put, mem_put]
  constructor
  · rintro ⟨other, rfl | ⟨member, _⟩, uses⟩
    · simp [Client.releaseTunnels] at uses
    · exact ⟨other, member, uses⟩
  · rintro ⟨other, member, uses⟩
    refine ⟨other, .inr ⟨member, ?_⟩, uses⟩
    simp only [Bool.and_eq_true, decide_eq_true_eq] at uses
    exact uses.2

theorem startTunnels_client (call : StartCall) (kept : List Remote) (tunnelling : Tunnelling) :
    OnlyTunnels tunnelling.client (call.startTunnels kept tunnelling).1.client := by
  simp only [StartCall.startTunnels]
  split
  · exact .refl _
  · exact startClientTunnels_client call.surroundings tunnelling _

theorem takeOver_connection {service after : Service} {existing : Client}
    (named : existing.id = call.clientID)
    (failed : call.takeOver (some existing) clientHost kept service = (after, .error err)) :
    ∃ client, after.clients.get call.clientID = some client ∧
      client.connection = some call.sshConn := by
  have tunnels := startTunnels_client call kept
    ⟨call.newClientFromConnRequest (some existing) clientHost, service.distributor⟩
  simp only [StartCall.takeOver] at failed
  generalize call.startTunnels kept ⟨call.newClientFromConnRequest (some existing) clientHost,
      service.distributor⟩ = outcome at failed tunnels
  obtain ⟨tunnelling, result⟩ := outcome
  have isThere : after.clients = service.clients.put tunnelling.client := by
    split at failed
    · cases failed
      rfl
    · cases failed
      rfl
    · cases failed
  refine ⟨tunnelling.client, ?_, tunnels.connection⟩
  have key : tunnelling.client.id = call.clientID := tunnels.id.trans named
  rw [isThere, ← key]
  exact Table.get_put_self

theorem getByID_of_get {id : String} (known : service.clients.get id = some client) (now : Time) :
    service.getByID now id =
      if client.obsolete service.keepDisconnectedClients now then none
      else some client := by
  cases obsolete : client.obsolete service.keepDisconnectedClients now with
  | true | false => simp [Service.getByID, known, Option.filter, obsolete]

theorem takeOver_new {service after : Service}
    (failed : call.takeOver none clientHost kept service =
      (after, .error err)) : after.clients = service.clients := by
  simp only [StartCall.takeOver] at failed
  split at failed
  · cases failed
    rfl
  · cases failed
    rfl
  · cases failed

/-- If a connection of a known client fails, then the client, as the repository
shows it, and its tunnels are as before exactly if the client is obsolete or the
connection was refused before anything was touched. -/
theorem failed_start_unchanged_iff (service after : Service)
    (call : StartCall) (client : Client) (err : Err)
    (known : service.clients.get call.clientID = some client)
    (newConnection : client.connection ≠ some call.sshConn)
    (failed : startClient service call = (after, .error err)) :
    (∃ later, after.clients.get call.clientID = some later ∧ Unchanged client later) ↔
    client.obsolete service.keepDisconnectedClients call.surroundings.now = true ∨
      RefusedUntouched service call client := by
  have named : client.id = call.clientID := (Table.get_eq_some_iff.mp known).2
  have same : (∃ later, service.clients.get call.clientID = some later ∧
      Unchanged client later) := ⟨client, known, .refl client⟩
  simp only [startClient] at failed
  split at failed
  · rename_i unusable
    cases failed
    exact iff_of_true same (.inr (.address unusable))
  · rename_i clientHost usable
    rw [getByID_of_get known] at failed
    cases obsolete : client.obsolete service.keepDisconnectedClients call.surroundings.now with
    | true =>
      simp only [obsolete, if_true, StartCall.check, Option.map_none,
        Service.changeExisting] at failed
      split at failed
      · cases failed
        exact iff_of_true same (.inl rfl)
      · rw [← takeOver_new failed] at same
        exact iff_of_true same (.inl rfl)
    | false =>
      simp only [obsolete, Bool.false_eq_true, if_false, StartCall.check,
        Option.map_some, Service.changeExisting] at failed
      split at failed
      · rename_i refused
        cases failed
        exact iff_of_true same (.inr (checkExisting_error refused))
      · rename_i kept checked
        have released := isClientAuthIDInUse_change service client
          call.surroundings.now call.clientAuthID
        rw [named] at released
        simp only [released] at failed
        split at failed
        · rename_i inUse
          simp only [Bool.and_eq_true, Bool.not_eq_true'] at inUse
          cases failed
          have isThere : (service.change true client.releaseTunnels).clients.get call.clientID =
                some client.releaseTunnels := by
            rw [← named]
            exact Table.get_put_self
          constructor
          · rintro ⟨later, found, unchanged⟩
            cases found.symm.trans isThere
            exact .inr (.authIDInUse inUse.1 inUse.2
              ((releaseTunnels_unchanged_iff client).mp unchanged))
          · rintro (isObsolete | refused)
            · cases isObsolete
            · obtain ⟨_, stopped⟩ := refusedUntouched_of_checked usable checked refused
              exact ⟨_, isThere, (releaseTunnels_unchanged_iff client).mpr stopped⟩
        · rename_i free
          obtain ⟨later, isThere, connection⟩ := takeOver_connection named failed
          refine iff_of_false ?_ ?_
          · rintro ⟨found, isFound, unchanged⟩
            cases isFound.symm.trans isThere
            exact newConnection (unchanged.connection.symm.trans connection)
          · rintro (isObsolete | refused)
            · cases isObsolete
            · obtain ⟨⟨single, inUse⟩, _⟩ := refusedUntouched_of_checked usable checked refused
              simp [single, inUse] at free

def unknownMachine : Description where
  name := "agent"
  sessionID := ""
  os := ""
  osArch := ""
  osFamily := ""
  osKernel := ""
  osFullName := ""
  osVersion := ""
  osVirtualizationSystem := ""
  osVirtualizationRole := ""
  hostname := ""
  cpuFamily := ""
  cpuModel := ""
  cpuModelName := ""
  cpuVendor := ""
  numCPUs := 1
  memoryTotal := 0
  timezone := ""
  ipv4 := []
  ipv6 := []
  tags := []
  labels := []
  version := "1.0.0"
  clientConfiguration := none

def quietSurroundings : Surroundings where
  unicode := Go.Unicode.ascii
  tunnelProxyEnabled := true
  parseTunnelACL := fun acl => .ok [acl]
  versionBefore064 := fun _ => false
  busyPorts := fun _ => .ok ∅
  pop := fun ports =>
    if nonempty : ports.Nonempty then ports.min' nonempty else 0
  pop_mem := by
    intro ports nonempty
    rw [dif_pos nonempty]
    exact ports.min'_mem nonempty
  start := fun _ => none
  startProxy := fun _ => none
  startCaddy := fun _ => none
  now := 100

def sshRemote : Remote where
  name := "ssh"
  protocol := "tcp"
  localHost := "0.0.0.0"
  localPort := "22"
  localPortRandom := false
  owner := "admin"
  remoteHost := "127.0.0.1"
  remotePort := "22"
  scheme := none
  acl := none
  idleTimeoutMinutes := 5
  autoClose := 0
  httpProxy := false
  hostHeader := ""
  authUser := ""
  authPassword := ""
  skipTLSVerify := false
  tunnelURL := ""

def sshTunnel : Tunnel where
  id := "1"
  remote := sshRemote
  localSpecified := by decide
  acl := none
  listening := true
  proxy := none
  createdAt := 0

def lostClient : Client where
  id := "client"
  description := unknownMachine
  address := "192.0.2.1"
  tunnels := [sshTunnel]
  disconnectedAt := some 90
  lastHeartbeatAt := none
  clientAuthID := "auth"
  allowedUserGroups := []
  connection := some 1
  paused := false
  tunnelIDAutoIncrement := 1

def office : Service where
  clients := Table.empty.put lostClient
  stored := Table.empty.put lostClient
  distributor := PortDistributor.new {22}
  keepDisconnectedClients := none

def comesBack (remotes : List (Option Remote)) : StartCall where
  clientAuthID := "auth"
  clientID := "client"
  sshConn := 2
  address := "192.0.2.1:40000"
  clientHost := .ok "192.0.2.1"
  authMultiuseCreds := false
  description := unknownMachine
  remotes := remotes
  answer := fun _ _ => .ok true
  saveFailure := none
  surroundings := quietSurroundings

/-- A credential that is not that of the client is refused and changes
nothing. -/
theorem failed_start_unchanged_iff_foreign :
    let call := { comesBack [] with clientAuthID := "other" }
    ((∃ later, (startClient office call).1.clients.get "client" = some later ∧
        Unchanged lostClient later) ↔
      lostClient.obsolete office.keepDisconnectedClients 100 = true ∨
        RefusedUntouched office call lostClient) ∧
    RefusedUntouched office call lostClient := by
  intro call
  refine ⟨failed_start_unchanged_iff office _ call lostClient
    (.plain ("client id " ++ Go.quote Go.Unicode.ascii "client" ++
      " is already registered to a different credential")) rfl (by decide)
    rfl, .credential (by decide)⟩

/-- The agent asks for a port that is not allowed.  The connection is refused,
but the client is now connected over it, and the tunnel of the operator is
neither listening nor listed. -/
theorem failed_start_takes_over :
    let call := comesBack [some { sshRemote with localPort := "23" }]
    office.clients.get "client" = some lostClient ∧
    lostClient.isConnected = false ∧
    (startClient office call).2 = .error
      (.api 400 "Local port 23 is not among allowed ports." none) ∧
    ∃ later, (startClient office call).1.clients.get "client" = some later ∧
      later.isConnected = true ∧ later.connection = some 2 ∧
      later.tunnels = [] := by
  intro call
  refine ⟨rfl, rfl, by decide +kernel, ?_⟩
  refine ⟨call.newClientFromConnRequest
    (some lostClient.releaseTunnels) "192.0.2.1", by decide +kernel, rfl,
    rfl, rfl⟩

end ProxiPort.Clients
