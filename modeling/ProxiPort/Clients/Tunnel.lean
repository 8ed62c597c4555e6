import ProxiPort.Clients.Remote
import ProxiPort.Go.Time
import ProxiPort.Go.Unicode

/-!
# Clients and their tunnels

`clientdata.Client`, `clienttunnel.Tunnel`, and the part of
`server/clients/client_service.go` that starts the tunnels of a client:
`startClientTunnels`, `StartTunnel` with its two ways to start a tunnel, and
`releaseTunnelsForReconnect`.
-/

namespace ProxiPort.Clients

open Ports

abbrev TunnelACL := List String

structure Proxy where
  host : String
  port : String
  acl : Option TunnelACL
  running : Bool
  deriving DecidableEq, Repr

/-- `clienttunnel.Tunnel`.  `listening` says that its protocol handlers are
there and have not been terminated; a tunnel read from the store has none.
Every tunnel has a local address. -/
structure Tunnel where
  id : String
  remote : Remote
  localSpecified : remote.isLocalSpecified = true
  acl : Option TunnelACL
  listening : Bool
  proxy : Option Proxy
  createdAt : Time
  deriving DecidableEq, Repr

structure Description where
  name : String
  sessionID : String
  os : String
  osArch : String
  osFamily : String
  osKernel : String
  osFullName : String
  osVersion : String
  osVirtualizationSystem : String
  osVirtualizationRole : String
  hostname : String
  cpuFamily : String
  cpuModel : String
  cpuModelName : String
  cpuVendor : String
  numCPUs : Int
  memoryTotal : Nat
  timezone : String
  ipv4 : List String
  ipv6 : List String
  tags : List String
  labels : List (String × String)
  version : String
  clientConfiguration : Option String
  deriving DecidableEq, Repr

/-- `clientdata.Client`.  SSH connections are numbered. -/
structure Client where
  id : String
  description : Description
  address : String
  tunnels : List Tunnel
  disconnectedAt : Option Time
  lastHeartbeatAt : Option Time
  clientAuthID : String
  allowedUserGroups : List String
  connection : Option Nat
  paused : Bool
  tunnelIDAutoIncrement : Nat
  deriving DecidableEq, Repr

namespace Client

def isConnected (client : Client) : Bool := client.disconnectedAt.isNone

def obsolete (client : Client) (duration : Option Int) (now : Time) : Bool :=
  match client.disconnectedAt, duration with
  | some disconnectedAt, some duration => disconnectedAt + duration < now
  | _, _ => false

end Client

/-- A plain error, or an `APIError` with its status and message. -/
inductive Err where
  | plain (text : String)
  | api (status : Nat) (message : String) (err : Option String)
  deriving DecidableEq, Repr

/-- What starting a tunnel depends on: the settings of the server and what the
outside world answers. -/
structure Surroundings where
  unicode : Go.Unicode
  tunnelProxyEnabled : Bool
  parseTunnelACL : String → Except String TunnelACL
  /-- The text is a version, and one before 0.6.4. -/
  versionBefore064 : String → Bool
  busyPorts : Protocol → Except String (Finset Int)
  /-- The element that `Pop` takes from a set. -/
  pop : Finset Int → Int
  pop_mem : ∀ ports, ports.Nonempty → pop ports ∈ ports
  start : Tunnel → Option String
  startProxy : Tunnel → Option String
  startCaddy : Tunnel → Option String
  now : Time

structure Tunnelling where
  client : Client
  distributor : PortDistributor

def refreshPorts (surroundings : Surroundings) (distributor : PortDistributor) :
    PortDistributor × Option String :=
  match surroundings.busyPorts .tcp with
  | .error err => (distributor, some err)
  | .ok busy =>
    let distributor := distributor.refresh .tcp busy
    match surroundings.busyPorts .udp with
    | .error err => (distributor, some err)
    | .ok busy => (distributor.refresh .udp busy, none)

def getRandomPort (surroundings : Surroundings)
    (distributor : PortDistributor) (protocol : Protocol) : Except String (Int × PortDistributor) :=
  match distributor.candidates protocol.subProtocols none with
  | some (some ports) =>
    if ports = ∅ then .error "no ports available"
    else
      let port := surroundings.pop ports
      .ok (port, distributor.reserve protocol port)
  | _ => .error "no ports available"

def isPortBusy (distributor : PortDistributor) (protocol : Protocol)
    (port : Int) : Except String Bool :=
  match distributor.candidates protocol.subProtocols none with
  | some (some ports) => .ok (port ∉ ports)
  | _ => .error (match protocol with
      | .tcp => "port pool for \"tcp\" has not been refreshed yet"
      | .udp => "port pool for \"udp\" has not been refreshed yet"
      | .tcpUdp => "port pools for \"tcp+udp\" have not been refreshed yet")

def checkLocalPort (distributor : PortDistributor) (protocol : Protocol)
    (port : String) : Option Err :=
  match Go.atoi port with
  | none => some (.api 400 ("Invalid local port: " ++ port ++ ".") none)
  | some localPort =>
    if localPort ∉ distributor.allowedPorts then
      some (.api 400 ("Local port " ++ toString localPort ++ " is not among allowed ports.") none)
    else
      match isPortBusy distributor protocol localPort with
      | .error err => some (.api 400 ("Cannot check local port " ++
          toString localPort ++ ": " ++ err ++ ".") (some err))
      | .ok true => some (.api 409 ("Local port " ++ toString localPort ++ " already in use.") none)
      | .ok false => none

abbrev LocalRemote :=
  { remote : Remote // remote.isLocalSpecified = true }

theorem toString_ne_empty (port : Int) : toString port ≠ "" := by
  cases port with
  | ofNat value =>
    intro blank
    exact Nat.toDigits_ne_nil (String.ofList_eq_empty_iff.mp blank)
  | negSucc value =>
    intro blank
    have size := congrArg String.length blank
    simp [toString, Int.repr] at size

theorem isLocalSpecified_of {remote : Remote} (host : remote.localHost ≠ "")
    (port : remote.localPort ≠ "") : remote.isLocalSpecified = true := by
  simp [Remote.isLocalSpecified, host, port]

theorem zeroHost_ne_empty : zeroHost ≠ "" := by
  decide

theorem loopback_ne_empty : "127.0.0.1" ≠ "" := by
  decide

def Remote.withRandomPort (remote : Remote) (port : Int) : LocalRemote :=
  ⟨{ remote with
      localPort := toString port
      localHost := zeroHost
      localPortRandom := true },
    isLocalSpecified_of zeroHost_ne_empty (toString_ne_empty port)⟩

def Client.newTunnelID (client : Client) : String × Client :=
  let next := client.tunnelIDAutoIncrement + 1
  (toString next, { client with tunnelIDAutoIncrement := next })

def newTunnel (surroundings : Surroundings) (id : String)
    (remote : LocalRemote) (acl : Option TunnelACL) : Except String Tunnel :=
  match protocolOf remote.1.protocol with
  | none => .error ("unsupported protocol " ++ Go.quote surroundings.unicode remote.1.protocol)
  | some _ => .ok {
      id := id
      remote := remote.1
      localSpecified := remote.2
      acl := acl
      listening := false
      proxy := none
      createdAt := surroundings.now }

def startRegularTunnel (surroundings : Surroundings) (remote : LocalRemote)
    (acl : Option TunnelACL) (tunnelling : Tunnelling) : Tunnelling × Except String Tunnel :=
  let (tunnelID, client) := tunnelling.client.newTunnelID
  let tunnelling := { tunnelling with client := client }
  match newTunnel surroundings tunnelID remote acl with
  | .error err => (tunnelling, .error err)
  | .ok tunnel =>
    match surroundings.start tunnel with
    | some err => (tunnelling, .error err)
    | none => (tunnelling, .ok { tunnel with listening := true })

/-- The tunnel behind the proxy listens on the loopback address only. -/
def Remote.behindProxy (remote : Remote) (port : Int) : LocalRemote :=
  ⟨remote.withLocal "127.0.0.1" (toString port),
    isLocalSpecified_of loopback_ne_empty (toString_ne_empty port)⟩

def Tunnel.withProxy (tunnel : Tunnel) (remote : LocalRemote) (acl : Option TunnelACL) : Tunnel :=
  { tunnel with
    remote := tunnel.remote.withLocal remote.1.localHost remote.1.localPort
    localSpecified := remote.2
    proxy := some ⟨remote.1.localHost, remote.1.localPort, acl, true⟩ }

def startTunnelWithProxy (surroundings : Surroundings)
    (protocol : Protocol) (remote : LocalRemote) (acl : Option TunnelACL)
    (tunnelling : Tunnelling) : Tunnelling × Except String Tunnel :=
  let distributor :=
    match Go.atoi remote.1.localPort with
    | some proxyPort => tunnelling.distributor.reserve protocol proxyPort
    | none => tunnelling.distributor
  match getRandomPort surroundings distributor protocol with
  | .error err =>
    ({ tunnelling with distributor := distributor }, .error err)
  | .ok (port, distributor) =>
    let tunnelling := { tunnelling with distributor := distributor }
    let localhost := (surroundings.parseTunnelACL "127.0.0.1").toOption
    match startRegularTunnel surroundings (remote.1.behindProxy port) localhost tunnelling with
    | (tunnelling, .error err) => (tunnelling, .error err)
    | (tunnelling, .ok tunnel) =>
      match surroundings.startProxy tunnel with
      | some _ => (tunnelling, .error ("tunnel started and terminated " ++
          "because of tunnel proxy start error"))
      | none => (tunnelling, .ok (tunnel.withProxy remote acl))

/-- `StartTunnel` up to `AddTunnel`, when there is no such tunnel yet. -/
def startNewTunnel (surroundings : Surroundings) (protocol : Protocol)
    (remote : LocalRemote) (acl : Option TunnelACL)
    (tunnelling : Tunnelling) : Tunnelling × Except String Tunnel :=
  if surroundings.tunnelProxyEnabled && remote.1.httpProxy then
    match startTunnelWithProxy surroundings protocol remote acl tunnelling with
    | (tunnelling, .error err) => (tunnelling, .error err)
    | (tunnelling, .ok tunnel) =>
      if remote.1.hasSubdomainTunnel then
        match surroundings.startCaddy tunnel with
        | some err => (tunnelling, .error err)
        | none => (tunnelling, .ok tunnel)
      else (tunnelling, .ok tunnel)
  else startRegularTunnel surroundings remote acl tunnelling

/-- A tunnel that `StartTunnel` returns, and whether it was started or found
among the tunnels of the client. -/
structure Started where
  tunnel : Tunnel
  isNew : Bool
  deriving DecidableEq, Repr

def startTunnel (surroundings : Surroundings) (protocol : Protocol)
    (remote : LocalRemote) (acl : Option TunnelACL)
    (tunnelling : Tunnelling) : Tunnelling × Except String Started :=
  match tunnelling.client.tunnels.find? fun tunnel =>
      tunnel.remote.equals remote.1 with
  | some tunnel => (tunnelling, .ok ⟨tunnel, false⟩)
  | none =>
    match startNewTunnel surroundings protocol remote acl tunnelling with
    | (tunnelling, .error err) => (tunnelling, .error err)
    | (tunnelling, .ok tunnel) =>
      let client := { tunnelling.client with
        tunnels := tunnelling.client.tunnels ++ [tunnel] }
      ({ tunnelling with client := client }, .ok ⟨tunnel, true⟩)

/-- The local address of a remote, in the loop of `startClientTunnels`. -/
def localRemote (surroundings : Surroundings) (protocol : Protocol)
    (remote : Remote) (distributor : PortDistributor) : PortDistributor × Except Err LocalRemote :=
  if specified : remote.isLocalSpecified = true then
    match checkLocalPort distributor protocol remote.localPort with
    | some err => (distributor, .error err)
    | none => (distributor, .ok ⟨remote, specified⟩)
  else
    match getRandomPort surroundings distributor protocol with
    | .error err => (distributor, .error (.plain err))
    | .ok (port, distributor) =>
      (distributor, .ok (remote.withRandomPort port))

def parseACL (surroundings : Surroundings) (acl : Option String) :
    Except String (Option TunnelACL) :=
  match acl with
  | none => .ok none
  | some acl => (surroundings.parseTunnelACL acl).map some

/-- The body of the loop of `startClientTunnels`. -/
def startOne (surroundings : Surroundings) (remote : Remote)
    (tunnelling : Tunnelling) : Tunnelling × Except Err Started :=
  match protocolOf remote.protocol with
  | none => (tunnelling, .error (.api 400 ("Unsupported protocol " ++
      Go.quote surroundings.unicode remote.protocol ++ ".") none))
  | some protocol =>
    match localRemote surroundings protocol remote tunnelling.distributor with
    | (distributor, .error err) =>
      ({ tunnelling with distributor := distributor }, .error err)
    | (distributor, .ok localRemote) =>
      let tunnelling := { tunnelling with distributor := distributor }
      match parseACL surroundings remote.acl with
      | .error err => (tunnelling, .error (.plain err))
      | .ok acl =>
        match startTunnel surroundings protocol localRemote acl tunnelling with
        | (tunnelling, .error err) => (tunnelling,
            .error (.api 409 "" (some ("unable to start tunnel: " ++ err))))
        | (tunnelling, .ok started) => (tunnelling, .ok started)

/-- The loop of `startClientTunnels`. -/
def startAll (surroundings : Surroundings) :
    List Remote → Tunnelling → Tunnelling × Except Err (List Started)
  | [], tunnelling => (tunnelling, .ok [])
  | remote :: remotes, tunnelling =>
    match startOne surroundings remote tunnelling with
    | (tunnelling, .error err) => (tunnelling, .error err)
    | (tunnelling, .ok started) =>
      match startAll surroundings remotes tunnelling with
      | (tunnelling, .error err) => (tunnelling, .error err)
      | (tunnelling, .ok later) => (tunnelling, .ok (started :: later))

def startClientTunnels (surroundings : Surroundings)
    (remotes : List Remote) (tunnelling : Tunnelling) : Tunnelling × Except Err (List Started) :=
  match refreshPorts surroundings tunnelling.distributor with
  | (distributor, some err) =>
    ({ tunnelling with distributor := distributor }, .error (.plain err))
  | (distributor, none) => startAll surroundings remotes
      { tunnelling with distributor := distributor }

def Tunnel.stop (tunnel : Tunnel) : Tunnel :=
  { tunnel with
    listening := false
    proxy := tunnel.proxy.map fun proxy => { proxy with running := false } }

def Client.releaseTunnels (client : Client) : Client :=
  { client with tunnels := client.tunnels.map Tunnel.stop }

structure OnlyTunnels (client after : Client) : Prop where
  id : after.id = client.id
  description : after.description = client.description
  address : after.address = client.address
  disconnectedAt : after.disconnectedAt = client.disconnectedAt
  clientAuthID : after.clientAuthID = client.clientAuthID
  connection : after.connection = client.connection
  paused : after.paused = client.paused

theorem OnlyTunnels.refl (client : Client) : OnlyTunnels client client :=
  ⟨rfl, rfl, rfl, rfl, rfl, rfl, rfl⟩

theorem OnlyTunnels.trans {client middle after : Client}
    (first : OnlyTunnels client middle) (later : OnlyTunnels middle after) :
    OnlyTunnels client after where
  id := later.id.trans first.id
  description := later.description.trans first.description
  address := later.address.trans first.address
  disconnectedAt := later.disconnectedAt.trans first.disconnectedAt
  clientAuthID := later.clientAuthID.trans first.clientAuthID
  connection := later.connection.trans first.connection
  paused := later.paused.trans first.paused

variable (surroundings : Surroundings) (protocol : Protocol)
  (acl : Option TunnelACL) (tunnelling : Tunnelling)

theorem startRegularTunnel_client (remote : LocalRemote) :
    OnlyTunnels tunnelling.client
      (startRegularTunnel surroundings remote acl tunnelling).1.client := by
  have next : OnlyTunnels tunnelling.client tunnelling.client.newTunnelID.2 :=
    ⟨rfl, rfl, rfl, rfl, rfl, rfl, rfl⟩
  simp only [startRegularTunnel]
  split
  · exact next
  · split
    all_goals exact next

theorem startTunnelWithProxy_client (remote : LocalRemote) :
    OnlyTunnels tunnelling.client (startTunnelWithProxy surroundings protocol
      remote acl tunnelling).1.client := by
  simp only [startTunnelWithProxy]
  split
  · exact .refl _
  · rename_i port distributor _
    have inner := startRegularTunnel_client surroundings
      (surroundings.parseTunnelACL "127.0.0.1").toOption
      { tunnelling with distributor := distributor }
      (remote.1.behindProxy port)
    split
    · rename_i started
      rw [started] at inner
      exact inner
    · rename_i started
      rw [started] at inner
      split
      all_goals exact inner

theorem startNewTunnel_client (remote : LocalRemote) :
    OnlyTunnels tunnelling.client (startNewTunnel surroundings protocol
      remote acl tunnelling).1.client := by
  simp only [startNewTunnel]
  split
  · have inner := startTunnelWithProxy_client surroundings protocol acl tunnelling remote
    split
    · rename_i started
      rw [started] at inner
      exact inner
    · rename_i started
      rw [started] at inner
      split
      · split
        all_goals exact inner
      · exact inner
  · exact startRegularTunnel_client surroundings acl tunnelling remote

theorem startTunnel_client (remote : LocalRemote) :
    OnlyTunnels tunnelling.client (startTunnel surroundings protocol remote
      acl tunnelling).1.client := by
  simp only [startTunnel]
  split
  · exact .refl _
  · have inner := startNewTunnel_client surroundings protocol acl tunnelling remote
    split
    · rename_i started
      rw [started] at inner
      exact inner
    · rename_i started
      rw [started] at inner
      exact inner.trans ⟨rfl, rfl, rfl, rfl, rfl, rfl, rfl⟩

theorem startOne_client (remote : Remote) :
    OnlyTunnels tunnelling.client
      (startOne surroundings remote tunnelling).1.client := by
  simp only [startOne]
  split
  · exact .refl _
  · rename_i protocol _
    split
    · exact .refl _
    · rename_i distributor localRemote _
      split
      · exact .refl _
      · rename_i acl _
        have inner := startTunnel_client surroundings protocol acl
          { tunnelling with distributor := distributor } localRemote
        split
        · rename_i started
          rw [started] at inner
          exact inner
        · rename_i started
          rw [started] at inner
          exact inner

theorem startAll_client (remotes : List Remote) :
    OnlyTunnels tunnelling.client
      (startAll surroundings remotes tunnelling).1.client := by
  induction remotes generalizing tunnelling with
  | nil => exact .refl _
  | cons remote remotes induction =>
    have first := startOne_client surroundings tunnelling remote
    simp only [startAll]
    split
    · rename_i started
      rw [started] at first
      exact first
    · rename_i middle started here
      rw [here] at first
      have later := induction middle
      split
      · rename_i rest
        rw [rest] at later
        exact first.trans later
      · rename_i rest
        rw [rest] at later
        exact first.trans later

theorem startClientTunnels_client (remotes : List Remote) :
    OnlyTunnels tunnelling.client
      (startClientTunnels surroundings remotes tunnelling).1.client := by
  simp only [startClientTunnels]
  split
  · exact .refl _
  · rename_i distributor _
    exact startAll_client surroundings
      { tunnelling with distributor := distributor } remotes

variable {surroundings protocol acl tunnelling} {remote : LocalRemote}
  {after : Tunnelling} {tunnel : Tunnel}

theorem startRegularTunnel_eq_ok (started : startRegularTunnel surroundings remote acl tunnelling =
      (after, .ok tunnel)) : tunnel.remote = remote.1 := by
  simp only [startRegularTunnel] at started
  split at started
  · cases started
  · rename_i created
    split at started
    · cases started
    · cases started
      simp only [newTunnel] at created
      split at created
      · cases created
      · cases created
        rfl

/-- A tunnel that is started has the remote it was started for, whether it is
behind a proxy or not. -/
theorem startNewTunnel_eq_ok (started : startNewTunnel surroundings protocol remote acl tunnelling =
      (after, .ok tunnel)) : tunnel.remote = remote.1 := by
  simp only [startNewTunnel] at started
  split at started
  · have proxied : ∀ {middle tunnel},
        startTunnelWithProxy surroundings protocol remote acl tunnelling =
          (middle, .ok tunnel) → tunnel.remote = remote.1 := by
      intro middle tunnel here
      simp only [startTunnelWithProxy] at here
      split at here
      · cases here
      · split at here
        · cases here
        · rename_i inner
          split at here
          · cases here
          · cases here
            rw [Tunnel.withProxy, startRegularTunnel_eq_ok inner]
            rfl
    split at started
    · cases started
    · rename_i here
      split at started
      · split at started
        · cases started
        · cases started
          exact proxied here
      · cases started
        exact proxied here
  · exact startRegularTunnel_eq_ok started

end ProxiPort.Clients
