import ProxiPort.Clients.StartClient

/-!
# What a failed start leaves behind

`startClientTunnels` and `StartTunnel` of `server/clients/client_service.go` with
everything they create outside of the list of tunnels: the sockets and the agent
channel of `server/clients/clienttunnel`, the internal tunnel proxy and the route
of the downstream proxy.  A start that fails undoes only a part of it.
-/

namespace ProxiPort.TunnelStart

open Clients Ports

/-- What a start creates, named by the id of its tunnel or of its route. -/
inductive Resource where
  | tcpListener (tunnelID : String)
  | udpListener (tunnelID : String)
  | agentChannel (tunnelID : String)
  | internalProxy (tunnelID : String)
  | caddyRoute (routeID : String)
  deriving DecidableEq, Repr

structure NewRouteRequest where
  routeID : String
  targetTunnelHost : String
  targetTunnelPort : String
  downstreamProxySubdomain : String
  downstreamProxyBaseDomain : String
  deriving DecidableEq, Repr

/-- What every single step answers; `none` is success.  Tunnels have different
ids, so each start can fail in its own way.  A request to add a route may have
added it whatever is answered. -/
structure Machine where
  settings : Surroundings
  listenTCP : Tunnel → Option String
  openChannel : Tunnel → Option String
  resolveUDPAddr : Tunnel → Option String
  listenUDP : Tunnel → Option String
  listenProxy : Tunnel → Option String
  caddyEnabled : Bool
  /-- The host name of an URL that can be parsed. -/
  hostname : String → Except String String
  addRoute : NewRouteRequest → Bool × Except String Int

/-- The client whose tunnels are started, the ports, and what there is outside,
the newest first. -/
structure Site where
  tunnelling : Tunnelling
  opened : List Resource

namespace Machine

variable (machine : Machine)

inductive Half where
  | tcp
  | udp

def startHalf (tunnel : Tunnel) (opened : List Resource) : Half → List Resource × Option String
  | .tcp =>
    match machine.listenTCP tunnel with
    | some err => (opened, some err)
    | none => (.tcpListener tunnel.id :: opened, none)
  | .udp =>
    match machine.openChannel tunnel with
    | some err => (opened, some err)
    | none =>
      let opened := .agentChannel tunnel.id :: opened
      match machine.resolveUDPAddr tunnel with
      | some err => (opened, some err)
      | none =>
        match machine.listenUDP tunnel with
        | some err => (opened, some err)
        | none => (.udpListener tunnel.id :: opened, none)

def terminateHalf (tunnel : Tunnel) (opened : List Resource) : Half → List Resource
  | .tcp => opened.erase (.tcpListener tunnel.id)
  | .udp => (opened.erase (.udpListener tunnel.id)).erase (.agentChannel tunnel.id)

def startHalves (tunnel : Tunnel) (started : List Half) :
    List Half → List Resource → List Resource × Option String
  | [], opened => (opened, none)
  | half :: halves, opened =>
    match machine.startHalf tunnel opened half with
    | (opened, some err) => (started.foldl (terminateHalf tunnel) opened, some err)
    | (opened, none) =>
      startHalves tunnel (started ++ [half]) halves opened

def start (tunnel : Tunnel) (opened : List Resource) : List Resource × Option String :=
  match protocolOf tunnel.remote.protocol with
  | some .tcp => machine.startHalf tunnel opened .tcp
  | some .udp => machine.startHalf tunnel opened .udp
  | some .tcpUdp => machine.startHalves tunnel [] [.tcp, .udp] opened
  | none => (opened, some ("tunnel has no live protocol: a record restored " ++
      "from storage must be rebuilt with NewTunnel before it can be started"))

def terminate (tunnel : Tunnel) (opened : List Resource) : List Resource :=
  match protocolOf tunnel.remote.protocol with
  | some .tcp => terminateHalf tunnel opened .tcp
  | some .udp => terminateHalf tunnel opened .udp
  | some .tcpUdp => [Half.tcp, Half.udp].foldl (terminateHalf tunnel) opened
  | none => opened

def startRegularTunnel (remote : LocalRemote) (acl : Option TunnelACL)
    (site : Site) : Site × Except String Tunnel :=
  let (tunnelID, client) := site.tunnelling.client.newTunnelID
  let site := { site with tunnelling :=
    { site.tunnelling with client := client } }
  match newTunnel machine.settings tunnelID remote acl with
  | .error err => (site, .error err)
  | .ok tunnel =>
    match machine.start tunnel site.opened with
    | (opened, some err) => ({ site with opened := opened }, .error err)
    | (opened, none) => ({ site with opened := opened }, .ok { tunnel with listening := true })

def reserveProxyPort (protocol : Protocol) (remote : LocalRemote)
    (distributor : PortDistributor) : PortDistributor :=
  match Go.atoi remote.1.localPort with
  | some proxyPort => distributor.reserve protocol proxyPort
  | none => distributor

def startTunnelWithProxy (protocol : Protocol) (remote : LocalRemote)
    (acl : Option TunnelACL) (site : Site) : Site × Except String Tunnel :=
  let distributor := reserveProxyPort protocol remote site.tunnelling.distributor
  match getRandomPort machine.settings distributor protocol with
  | .error err => ({ site with tunnelling :=
      { site.tunnelling with distributor := distributor } }, .error err)
  | .ok (port, distributor) =>
    let site := { site with tunnelling :=
      { site.tunnelling with distributor := distributor } }
    let localhost := (machine.settings.parseTunnelACL "127.0.0.1").toOption
    match machine.startRegularTunnel (remote.1.behindProxy port) localhost site with
    | (site, .error err) => (site, .error err)
    | (site, .ok tunnel) =>
      match machine.listenProxy tunnel with
      | some _ => ({ site with
          opened := terminate tunnel site.opened },
          .error ("tunnel started and terminated " ++ "because of tunnel proxy start error"))
      | none => ({ site with
          opened := .internalProxy tunnel.id :: site.opened },
          .ok (tunnel.withProxy remote acl))

/-- `GetTunnelDomains` and the request that is made of them. -/
def newRouteRequest (hostname : String) (tunnel : Tunnel) :
    NewRouteRequest :=
  let parts := Go.split hostname '.'
  { routeID := parts.headD ""
    targetTunnelHost := tunnel.remote.localHost
    targetTunnelPort := tunnel.remote.localPort
    downstreamProxySubdomain := parts.headD ""
    downstreamProxyBaseDomain := Go.join parts.tail "." }

def startCaddyDownstreamProxy (tunnelURL : String) (tunnel : Tunnel)
    (opened : List Resource) : List Resource × Option String :=
  if !machine.caddyEnabled then (opened, some ("cannot create a downstream " ++
    "proxy: the caddy integration is not enabled"))
  else
    match machine.hostname tunnelURL with
    | .error err => (opened, some err)
    | .ok hostname =>
      let request := newRouteRequest hostname tunnel
      let (added, answer) := machine.addRoute request
      let opened :=
        if added then .caddyRoute request.routeID :: opened else opened
      match answer with
      | .error err => (opened, some err)
      | .ok statusCode =>
        if statusCode ≠ 200 then (opened,
          some ("failed to create downstream caddy proxy: status_code: " ++ toString statusCode))
        else (opened, none)

/-- `StartTunnel` up to `AddTunnel`, when there is no such tunnel yet. -/
def startNewTunnel (protocol : Protocol) (remote : LocalRemote)
    (acl : Option TunnelACL) (site : Site) : Site × Except String Tunnel :=
  if machine.settings.tunnelProxyEnabled && remote.1.httpProxy then
    match machine.startTunnelWithProxy protocol remote acl site with
    | (site, .error err) => (site, .error err)
    | (site, .ok tunnel) =>
      if remote.1.hasSubdomainTunnel then
        match machine.startCaddyDownstreamProxy remote.1.tunnelURL tunnel site.opened with
        | (opened, some err) =>
          -- The proxy is stopped, the tunnel behind it is not.
          ({ site with
            opened := opened.erase (.internalProxy tunnel.id) },
            .error err)
        | (opened, none) => ({ site with opened := opened }, .ok tunnel)
      else (site, .ok tunnel)
  else machine.startRegularTunnel remote acl site

def startTunnel (protocol : Protocol) (remote : LocalRemote)
    (acl : Option TunnelACL) (site : Site) : Site × Except String Started :=
  match site.tunnelling.client.tunnels.find? fun tunnel =>
      tunnel.remote.equals remote.1 with
  | some tunnel => (site, .ok ⟨tunnel, false⟩)
  | none =>
    match machine.startNewTunnel protocol remote acl site with
    | (site, .error err) => (site, .error err)
    | (site, .ok tunnel) =>
      let client := { site.tunnelling.client with
        tunnels := site.tunnelling.client.tunnels ++ [tunnel] }
      ({ site with tunnelling :=
        { site.tunnelling with client := client } }, .ok ⟨tunnel, true⟩)

/-- The body of the loop of `startClientTunnels`. -/
def startOne (remote : Remote) (site : Site) : Site × Except Err Started :=
  match protocolOf remote.protocol with
  | none => (site, .error (.api 400 ("Unsupported protocol " ++
      Go.quote machine.settings.unicode remote.protocol ++ ".") none))
  | some protocol =>
    match localRemote machine.settings protocol remote site.tunnelling.distributor with
    | (distributor, .error err) => ({ site with tunnelling :=
        { site.tunnelling with distributor := distributor } }, .error err)
    | (distributor, .ok localRemote) =>
      let site := { site with tunnelling :=
        { site.tunnelling with distributor := distributor } }
      match parseACL machine.settings remote.acl with
      | .error err => (site, .error (.plain err))
      | .ok acl =>
        match machine.startTunnel protocol localRemote acl site with
        | (site, .error err) => (site, .error (.api 409 "" (some ("unable to start tunnel: " ++
              err))))
        | (site, .ok started) => (site, .ok started)

def startAll : List Remote → Site → Site × Except Err (List Started)
  | [], site => (site, .ok [])
  | remote :: remotes, site =>
    match machine.startOne remote site with
    | (site, .error err) => (site, .error err)
    | (site, .ok started) =>
      match startAll remotes site with
      | (site, .error err) => (site, .error err)
      | (site, .ok later) => (site, .ok (started :: later))

def startClientTunnels (remotes : List Remote) (site : Site) : Site × Except Err (List Started) :=
  match refreshPorts machine.settings site.tunnelling.distributor with
  | (distributor, some err) => ({ site with tunnelling :=
      { site.tunnelling with distributor := distributor } },
      .error (.plain err))
  | (distributor, none) => machine.startAll remotes { site with tunnelling :=
      { site.tunnelling with distributor := distributor } }

/-- What `Tunnel.Start` creates and does not undo, and its error. -/
def startError (tunnel : Tunnel) : Option String := (machine.start tunnel []).2

def created (tunnel : Tunnel) : List Resource := (machine.start tunnel []).1

theorem start_eq (tunnel : Tunnel) (opened : List Resource) :
    machine.start tunnel opened =
      (machine.created tunnel ++ opened, machine.startError tunnel) := by
  simp only [created, startError, start]
  cases protocolOf tunnel.remote.protocol with
  | none => rfl
  | some protocol =>
    cases protocol with
    | tcp =>
      cases tcp : machine.listenTCP tunnel with
      | none | some err => simp [startHalf, tcp]
    | udp =>
      cases channel : machine.openChannel tunnel with
      | some err => simp [startHalf, channel]
      | none =>
        cases resolved : machine.resolveUDPAddr tunnel with
        | some err => simp [startHalf, channel, resolved]
        | none =>
          cases bound : machine.listenUDP tunnel with
          | none | some err =>
            simp [startHalf, channel, resolved, bound]
    | tcpUdp =>
      cases tcp : machine.listenTCP tunnel with
      | some err => simp [startHalves, startHalf, tcp]
      | none =>
        cases channel : machine.openChannel tunnel with
        | some err =>
          simp [startHalves, startHalf, terminateHalf, tcp, channel]
        | none =>
          cases resolved : machine.resolveUDPAddr tunnel with
          | some err =>
            simp [startHalves, startHalf, terminateHalf, tcp, channel, resolved]
          | none =>
            cases bound : machine.listenUDP tunnel with
            | none | some err =>
              simp [startHalves, startHalf, terminateHalf, tcp, channel, resolved, bound]

/-- The route that a request may add, and the error. -/
def routeError (tunnelURL : String) (tunnel : Tunnel) : Option String :=
  (machine.startCaddyDownstreamProxy tunnelURL tunnel []).2

def routes (tunnelURL : String) (tunnel : Tunnel) : List Resource :=
  (machine.startCaddyDownstreamProxy tunnelURL tunnel []).1

theorem startCaddyDownstreamProxy_eq (tunnelURL : String) (tunnel : Tunnel)
    (opened : List Resource) :
    machine.startCaddyDownstreamProxy tunnelURL tunnel opened =
      (machine.routes tunnelURL tunnel ++ opened, machine.routeError tunnelURL tunnel) := by
  simp only [routes, routeError, startCaddyDownstreamProxy]
  cases enabled : machine.caddyEnabled with
  | false => simp
  | true =>
    cases parsed : machine.hostname tunnelURL with
    | error err => simp
    | ok hostname =>
      rcases answered : machine.addRoute (newRouteRequest hostname tunnel)
        with ⟨added, err | statusCode⟩
      · cases added with
        | false | true => simp [answered]
      · cases added with
        | false | true =>
          by_cases refused : statusCode = 200
          all_goals simp [answered, refused]

/-- The answers of the machine, one for each tunnel, proxy and route. -/
def surroundings : Surroundings :=
  { machine.settings with
    start := machine.startError
    startProxy := machine.listenProxy
    startCaddy := fun tunnel =>
      machine.routeError tunnel.remote.tunnelURL tunnel }

variable {machine} {protocol : Protocol} {remote : LocalRemote}
  {acl : Option TunnelACL} {site after : Site}

theorem startRegularTunnel_project (machine : Machine) (remote : LocalRemote)
    (acl : Option TunnelACL) (site : Site) :
    Clients.startRegularTunnel machine.surroundings remote acl site.tunnelling =
      ((machine.startRegularTunnel remote acl site).1.tunnelling,
        (machine.startRegularTunnel remote acl site).2) := by
  have created : newTunnel machine.surroundings = newTunnel machine.settings :=
    rfl
  simp only [Clients.startRegularTunnel, startRegularTunnel, created, start_eq]
  cases newTunnel machine.settings site.tunnelling.client.newTunnelID.1 remote acl with
  | error err => rfl
  | ok tunnel =>
    simp only [surroundings]
    cases machine.startError tunnel with
    | none | some err => rfl

theorem startTunnelWithProxy_project (machine : Machine)
    (protocol : Protocol) (remote : LocalRemote) (acl : Option TunnelACL) (site : Site) :
    Clients.startTunnelWithProxy machine.surroundings protocol remote acl site.tunnelling =
      ((machine.startTunnelWithProxy protocol remote acl site).1.tunnelling,
        (machine.startTunnelWithProxy protocol remote acl site).2) := by
  have ports : getRandomPort machine.surroundings = getRandomPort machine.settings := rfl
  have lists : machine.surroundings.parseTunnelACL = machine.settings.parseTunnelACL := rfl
  have proxies : machine.surroundings.startProxy = machine.listenProxy := rfl
  simp only [Clients.startTunnelWithProxy, startTunnelWithProxy, ports, lists,
    proxies, reserveProxyPort]
  cases Go.atoi remote.1.localPort with
  | none | some proxyPort =>
    split
    · rename_i random
      simp only [random]
    · rename_i port distributor random
      have inner := startRegularTunnel_project machine (remote.1.behindProxy port)
        (machine.settings.parseTunnelACL "127.0.0.1").toOption
        { site with tunnelling :=
          { site.tunnelling with distributor := distributor } }
      simp only at inner
      simp only [random, inner]
      generalize machine.startRegularTunnel _ _ _ = started
      rcases started with ⟨later, err | tunnel⟩
      · rfl
      · dsimp only
        cases machine.listenProxy tunnel with
        | none | some err => rfl

theorem startTunnelWithProxy_tunnelURL {tunnel : Tunnel}
    (started : machine.startTunnelWithProxy protocol remote acl site = (after, .ok tunnel)) :
    tunnel.remote.tunnelURL = remote.1.tunnelURL := by
  simp only [startTunnelWithProxy] at started
  split at started
  · cases started
  · rename_i port distributor _
    have inner := startRegularTunnel_project machine (remote.1.behindProxy port)
      (machine.settings.parseTunnelACL "127.0.0.1").toOption
      { site with tunnelling :=
        { site.tunnelling with distributor := distributor } }
    split at started
    · cases started
    · rename_i here
      rw [here] at inner
      split at started
      · cases started
      · cases started
        rw [Tunnel.withProxy, startRegularTunnel_eq_ok inner]
        rfl

theorem startNewTunnel_project (machine : Machine) (protocol : Protocol)
    (remote : LocalRemote) (acl : Option TunnelACL) (site : Site) :
    Clients.startNewTunnel machine.surroundings protocol remote acl site.tunnelling =
      ((machine.startNewTunnel protocol remote acl site).1.tunnelling,
        (machine.startNewTunnel protocol remote acl site).2) := by
  have enabled : machine.surroundings.tunnelProxyEnabled =
      machine.settings.tunnelProxyEnabled := rfl
  simp only [Clients.startNewTunnel, startNewTunnel, enabled,
    startTunnelWithProxy_project, startCaddyDownstreamProxy_eq]
  split
  · cases here : machine.startTunnelWithProxy protocol remote acl site with
    | mk later result =>
      cases result with
      | error err => rfl
      | ok tunnel =>
        dsimp only
        have route : machine.surroundings.startCaddy tunnel =
            machine.routeError remote.1.tunnelURL tunnel := by
          rw [← startTunnelWithProxy_tunnelURL here]
          rfl
        rw [route]
        split
        · cases machine.routeError remote.1.tunnelURL tunnel with
          | none | some err => rfl
        · rfl
  · exact startRegularTunnel_project machine remote acl site

theorem startTunnel_project (machine : Machine) (protocol : Protocol)
    (remote : LocalRemote) (acl : Option TunnelACL) (site : Site) :
    Clients.startTunnel machine.surroundings protocol remote acl site.tunnelling =
      ((machine.startTunnel protocol remote acl site).1.tunnelling,
        (machine.startTunnel protocol remote acl site).2) := by
  simp only [Clients.startTunnel, startTunnel, startNewTunnel_project]
  cases site.tunnelling.client.tunnels.find? fun tunnel =>
      tunnel.remote.equals remote.1 with
  | some tunnel => rfl
  | none =>
    rcases machine.startNewTunnel protocol remote acl site with
      ⟨later, err | tunnel⟩
    all_goals rfl

theorem startOne_project (machine : Machine) (remote : Remote) (site : Site) :
    Clients.startOne machine.surroundings remote site.tunnelling =
      ((machine.startOne remote site).1.tunnelling, (machine.startOne remote site).2) := by
  have locals : localRemote machine.surroundings = localRemote machine.settings := rfl
  have lists : parseACL machine.surroundings = parseACL machine.settings := rfl
  have texts : machine.surroundings.unicode = machine.settings.unicode := rfl
  simp only [Clients.startOne, startOne, locals, lists, texts]
  cases protocolOf remote.protocol with
  | none => rfl
  | some protocol =>
    dsimp only
    rcases localRemote machine.settings protocol remote
      site.tunnelling.distributor with ⟨distributor, err | placed⟩
    · rfl
    · cases parseACL machine.settings remote.acl with
      | error err => rfl
      | ok acl =>
        have inner := startTunnel_project machine protocol placed acl
          { site with tunnelling :=
            { site.tunnelling with distributor := distributor } }
        simp only at inner
        simp only [inner]
        generalize machine.startTunnel _ _ _ _ = started
        rcases started with ⟨later, err | tunnel⟩
        all_goals rfl

theorem startAll_project (machine : Machine) (remotes : List Remote) (site : Site) :
    Clients.startAll machine.surroundings remotes site.tunnelling =
      ((machine.startAll remotes site).1.tunnelling, (machine.startAll remotes site).2) := by
  induction remotes generalizing site with
  | nil => rfl
  | cons remote remotes induction =>
    simp only [Clients.startAll, startAll, startOne_project]
    rcases machine.startOne remote site with ⟨later, err | started⟩
    · rfl
    · simp only [induction]
      rcases machine.startAll remotes later with ⟨last, err | rest⟩
      all_goals rfl

/-- Without the resources, the model is the one of the tunnels of a client. -/
theorem startClientTunnels_project (machine : Machine) (remotes : List Remote) (site : Site) :
    Clients.startClientTunnels machine.surroundings remotes site.tunnelling =
      ((machine.startClientTunnels remotes site).1.tunnelling,
        (machine.startClientTunnels remotes site).2) := by
  have ports : refreshPorts machine.surroundings = refreshPorts machine.settings := rfl
  simp only [Clients.startClientTunnels, startClientTunnels, ports]
  rcases refreshPorts machine.settings site.tunnelling.distributor with
    ⟨distributor, _ | err⟩
  · exact startAll_project machine remotes
      { site with tunnelling :=
        { site.tunnelling with distributor := distributor } }
  · rfl

end Machine

end ProxiPort.TunnelStart
