import Mathlib.Data.List.Forall2
import ProxiPort.Clients.StartClient

/-!
# Re-established tunnels

`StartClient` appends the old tunnels of a client to the remotes of its agent
and sends both through `sanitizeAgentRemotes`.  The tunnel that is started in
the place of an old one has all of its settings only if the old one had none of
those that the agent must not set.
-/

namespace ProxiPort.Clients

open Ports List

/-- The settings of a tunnel; a local address that the server has chosen is not
one of them. -/
structure SameSettings (old new : Remote) : Prop where
  name : new.name = old.name
  protocol : new.protocol = old.protocol
  remoteHost : new.remoteHost = old.remoteHost
  remotePort : new.remotePort = old.remotePort
  acl : new.acl = old.acl
  scheme : new.scheme = old.scheme
  owner : new.owner = old.owner
  authUser : new.authUser = old.authUser
  authPassword : new.authPassword = old.authPassword
  skipTLSVerify : new.skipTLSVerify = old.skipTLSVerify
  tunnelURL : new.tunnelURL = old.tunnelURL
  hostHeader : new.hostHeader = old.hostHeader
  httpProxy : new.httpProxy = old.httpProxy
  idleTimeoutMinutes : new.idleTimeoutMinutes = old.idleTimeoutMinutes
  autoClose : new.autoClose = old.autoClose
  localPortRandom : new.localPortRandom = old.localPortRandom
  pinned : old.localPortRandom = false →
    new.localHost = old.localHost ∧ new.localPort = old.localPort

/-- A remote with none of the settings that only an operator can make. -/
structure Remote.Plain (remote : Remote) : Prop where
  owner : remote.owner = ""
  authUser : remote.authUser = ""
  authPassword : remote.authPassword = ""
  skipTLSVerify : remote.skipTLSVerify = false
  tunnelURL : remote.tunnelURL = ""

/-- The remote of a tunnel that was started for a remote: the same one, with a
random port if it came without a local address. -/
def HasLocalAddress (remote new : Remote) : Prop :=
  (remote.isLocalSpecified = true ∧ new = remote) ∨ (remote.isLocalSpecified = false ∧
      ∃ port, new = (remote.withRandomPort port).1)

variable {surroundings : Surroundings}

variable {remote : Remote} {protocol : Protocol}

theorem localRemote_eq_ok {distributor after : PortDistributor} {new : LocalRemote}
    (chosen : localRemote surroundings protocol remote distributor =
      (after, .ok new)) : HasLocalAddress remote new.1 := by
  simp only [localRemote] at chosen
  split at chosen
  · rename_i specified
    split at chosen
    · cases chosen
    · cases chosen
      exact .inl ⟨specified, rfl⟩
  · rename_i unspecified
    split at chosen
    · cases chosen
    · rename_i port later _
      cases chosen
      exact .inr ⟨Bool.eq_false_iff.mpr unspecified, port, rfl⟩

/-- What a round of the loop returns for a remote; a tunnel that was there
already was not started for it. -/
def StartedFor (remote : Remote) (started : Started) : Prop :=
  started.isNew = true → HasLocalAddress remote started.tunnel.remote

variable {tunnelling after : Tunnelling} {started : Started}

theorem startTunnel_eq_ok {remote : LocalRemote} {acl : Option TunnelACL}
    (returned : startTunnel surroundings protocol remote acl tunnelling =
      (after, .ok started)) (isNew : started.isNew = true) :
    started.tunnel.remote = remote.1 := by
  simp only [startTunnel] at returned
  split at returned
  · cases returned
    cases isNew
  · split at returned
    · cases returned
    · rename_i here
      cases returned
      exact startNewTunnel_eq_ok here

theorem startOne_eq_ok (returned : startOne surroundings remote tunnelling =
      (after, .ok started)) : StartedFor remote started := by
  simp only [startOne] at returned
  split at returned
  · cases returned
  · split at returned
    · cases returned
    · rename_i chosen
      split at returned
      · cases returned
      · split at returned
        · cases returned
        · rename_i here
          cases returned
          intro isNew
          rw [startTunnel_eq_ok here isNew]
          exact localRemote_eq_ok chosen

variable {tunnels : List Started}

theorem startAll_eq_ok {remotes : List Remote}
    (returned : startAll surroundings remotes tunnelling =
      (after, .ok tunnels)) : List.Forall₂ StartedFor remotes tunnels := by
  induction remotes generalizing tunnelling tunnels with
  | nil =>
    cases returned
    exact .nil
  | cons remote remotes induction =>
    simp only [startAll] at returned
    split at returned
    · cases returned
    · rename_i here
      split at returned
      · cases returned
      · rename_i rest
        cases returned
        exact .cons (startOne_eq_ok here) (induction rest)

variable {call : StartCall} {kept : List Remote}

theorem startTunnels_eq_ok (returned : call.startTunnels kept tunnelling = (after, .ok tunnels)) :
    tunnels = [] ∨ List.Forall₂ StartedFor
      (sanitizeAgentRemotes (call.remotes ++ kept.map some)) tunnels := by
  simp only [StartCall.startTunnels] at returned
  split at returned
  · cases returned
    exact .inl rfl
  · simp only [startClientTunnels] at returned
    split at returned
    · cases returned
    · exact .inr (startAll_eq_ok returned)

theorem takeOver_eq_ok {existing : Option Client} {clientHost : String}
    {service after : Service} {connected : Client}
    (returned : call.takeOver existing clientHost kept service =
      (after, .ok (connected, tunnels))) :
    ∃ tunnelling later, call.startTunnels kept tunnelling = (later, .ok tunnels) := by
  simp only [StartCall.takeOver] at returned
  split at returned
  · cases returned
  · cases returned
  · rename_i result _
    cases returned
    exact ⟨_, _, Prod.ext rfl result⟩

theorem startClient_eq_ok {service after : Service} {client connected : Client}
    (found : service.getByID call.surroundings.now call.clientID =
      some client) (allowed : call.keptTunnels client = .ok kept)
    (returned : startClient service call = (after, .ok (connected, tunnels))) :
    ∃ tunnelling later, call.startTunnels kept tunnelling = (later, .ok tunnels) := by
  simp only [startClient, found] at returned
  split at returned
  · cases returned
  · split at returned
    · cases returned
    · rename_i checked
      have same : call.checkExisting client = .ok _ := checked
      simp only [StartCall.checkExisting, allowed] at same
      split at same
      · cases same
      · split at same
        · cases same
        · cases same
          split at returned
          · cases returned
          · exact takeOver_eq_ok returned

theorem sanitizeAgentRemotes_append (remotes : List (Option Remote)) (kept : List Remote) :
    sanitizeAgentRemotes (remotes ++ kept.map some) =
      sanitizeAgentRemotes remotes ++ kept.map Remote.sanitize := by
  simp only [sanitizeAgentRemotes, filterMap_append, filterMap_map]
  congr 1
  rw [← filterMap_eq_map]
  rfl

theorem startedFor_kept {position : Nat}
    (returned : call.startTunnels kept tunnelling = (after, .ok tunnels))
    (isKept : kept[position]? = some remote)
    (inPlace : tunnels[(sanitizeAgentRemotes call.remotes).length + position]? = some started) :
    StartedFor remote.sanitize started := by
  rcases startTunnels_eq_ok returned with none | all
  · rw [none] at inPlace
    cases inPlace
  · rw [sanitizeAgentRemotes_append] at all
    have sent : (sanitizeAgentRemotes call.remotes ++
        kept.map Remote.sanitize)[(sanitizeAgentRemotes
          call.remotes).length + position]? = some remote.sanitize := by
      rw [List.getElem?_append_right (Nat.le_add_right _ _),
        Nat.add_sub_cancel_left, List.getElem?_map, isKept]
      rfl
    obtain ⟨inRemotes, isRemote⟩ := List.getElem?_eq_some_iff.mp sent
    obtain ⟨inTunnels, isTunnel⟩ := List.getElem?_eq_some_iff.mp inPlace
    have related := all.get inRemotes inTunnels
    simp only [List.get_eq_getElem, isRemote, isTunnel] at related
    exact related

theorem keptTunnels_old {client : Client}
    (allowed : call.keptTunnels client = .ok kept) (isKept : remote ∈ kept) :
    ∃ old ∈ client.tunnels, remote = old.remote.toReestablish := by
  have among : remote ∈ call.oldTunnels client := by
    simp only [StartCall.keptTunnels] at allowed
    split at allowed
    · cases allowed
      exact isKept
    · exact (excludeNotAllowedTunnels_sublist allowed).subset isKept
  obtain ⟨old, left, rfl⟩ := mem_map.mp among
  obtain ⟨tunnel, isOld, rfl⟩ := mem_map.mp ((leftAmongOld_sublist _ _).subset left)
  exact ⟨tunnel, isOld, rfl⟩

theorem sameSettings_iff_plain {old : Tunnel} {new : Remote}
    (started : HasLocalAddress old.remote.toReestablish.sanitize new) :
    SameSettings old.remote new ↔ old.remote.Plain := by
  have changed : new = { old.remote.sanitize with
        localHost := new.localHost
        localPort := new.localPort } ∧
      (old.remote.localPortRandom = false → new.localHost = old.remote.localHost ∧
          new.localPort = old.remote.localPort) := by
    cases random : old.remote.localPortRandom with
    | true =>
      simp only [Remote.toReestablish, random, if_true] at started
      rcases started with ⟨specified, _⟩ | ⟨_, port, rfl⟩
      · cases specified
      · refine ⟨?_, nofun⟩
        simp only [Remote.withRandomPort, Remote.sanitize, Remote.withLocal, ← random]
    | false =>
      simp only [Remote.toReestablish, random, Bool.false_eq_true, if_false] at started
      have specified : old.remote.sanitize.isLocalSpecified = true := old.localSpecified
      rcases started with ⟨_, rfl⟩ | ⟨unspecified, _⟩
      · exact ⟨rfl, fun _ => ⟨rfl, rfl⟩⟩
      · cases specified.symm.trans unspecified
  obtain ⟨same, pinned⟩ := changed
  constructor
  · intro settings
    rw [same] at settings
    exact {
      owner := settings.owner.symm
      authUser := settings.authUser.symm
      authPassword := settings.authPassword.symm
      skipTLSVerify := settings.skipTLSVerify.symm
      tunnelURL := settings.tunnelURL.symm }
  · intro plain
    rw [same]
    exact {
      name := rfl
      protocol := rfl
      remoteHost := rfl
      remotePort := rfl
      acl := rfl
      scheme := rfl
      owner := plain.owner.symm
      authUser := plain.authUser.symm
      authPassword := plain.authPassword.symm
      skipTLSVerify := plain.skipTLSVerify.symm
      tunnelURL := plain.tunnelURL.symm
      hostHeader := rfl
      httpProxy := rfl
      idleTimeoutMinutes := rfl
      autoClose := rfl
      localPortRandom := rfl
      pinned := pinned }

/-- A tunnel that is kept when a client comes back is one of its old tunnels,
and the tunnel that is started in its place has the settings of the old one
exactly if the old one had none that only an operator can make. -/
theorem reestablished_keeps_settings_iff (service after : Service)
    (call : StartCall) (client connected : Client) (kept : List Remote) (tunnels : List Started)
    (found : service.getByID call.surroundings.now call.clientID = some client)
    (allowed : call.keptTunnels client = .ok kept) (returned : startClient service call =
      (after, .ok (connected, tunnels)))
    (position : Nat) (remote : Remote) (tunnel : Tunnel)
    (isKept : kept[position]? = some remote)
    (inPlace : tunnels[(sanitizeAgentRemotes call.remotes).length +
      position]? = some ⟨tunnel, true⟩) :
    (∃ old ∈ client.tunnels, remote = old.remote.toReestablish) ∧
    ∀ old ∈ client.tunnels, remote = old.remote.toReestablish →
      (SameSettings old.remote tunnel.remote ↔ old.remote.Plain) := by
  refine ⟨keptTunnels_old allowed (List.mem_of_getElem? isKept), ?_⟩
  rintro old isOld rfl
  obtain ⟨tunnelling, later, started⟩ := startClient_eq_ok found allowed returned
  exact sameSettings_iff_plain (startedFor_kept started isKept inPlace rfl)

def restoredTunnel (remote : Remote)
    (localSpecified : remote.isLocalSpecified = true) : Tunnel where
  id := "2"
  remote := remote
  localSpecified := localSpecified
  acl := none
  listening := true
  proxy := none
  createdAt := 100

theorem reestablished_keeps_settings_iff_unowned :
    let remote := { sshRemote with owner := "" }
    let old := { sshTunnel with remote := remote, localSpecified := by decide }
    let client := { lostClient with tunnels := [old] }
    let service := { office with clients := Keyed.Table.empty.put client }
    ∃ after connected tunnel, startClient service (comesBack []) =
        (after, .ok (connected, [⟨tunnel, true⟩])) ∧
      SameSettings remote tunnel.remote := by
  intro remote old client service
  have started : startClient service (comesBack []) = ((startClient service (comesBack [])).1,
        .ok ({ client with
          disconnectedAt := none
          connection := some 2
          tunnels := [restoredTunnel remote (by decide)]
          tunnelIDAutoIncrement := 2 },
          [⟨restoredTunnel remote (by decide), true⟩])) :=
    Prod.ext rfl (by decide +kernel)
  refine ⟨_, _, _, started, ?_⟩
  refine ((reestablished_keeps_settings_iff service _ (comesBack []) client _
    [remote] _ rfl (by decide +kernel) started 0 remote _ rfl rfl).2 old
    (mem_singleton_self old) rfl).mpr ?_
  exact ⟨rfl, rfl, rfl, rfl, rfl⟩

/-- The tunnel of an operator comes back without its owner. -/
theorem reestablished_loses_owner :
    ∃ after connected tunnel,
      office.getByID 100 "client" = some lostClient ∧
      (comesBack []).keptTunnels lostClient = .ok [sshRemote] ∧
      startClient office (comesBack []) = (after, .ok (connected, [⟨tunnel, true⟩])) ∧
      sshTunnel ∈ lostClient.tunnels ∧
      sshTunnel.remote.toReestablish = sshRemote ∧
      sshTunnel.remote.owner = "admin" ∧ tunnel.remote.owner = "" := by
  have started : startClient office (comesBack []) = ((startClient office (comesBack [])).1,
        .ok ({ lostClient with
          disconnectedAt := none
          connection := some 2
          tunnels := [restoredTunnel { sshRemote with owner := "" } (by decide)]
          tunnelIDAutoIncrement := 2 },
          [⟨restoredTunnel { sshRemote with owner := "" } (by decide), true⟩])) :=
    Prod.ext rfl (by decide +kernel)
  exact ⟨_, _, _, rfl, by decide +kernel, started, mem_singleton_self sshTunnel, rfl, rfl, rfl⟩

end ProxiPort.Clients
