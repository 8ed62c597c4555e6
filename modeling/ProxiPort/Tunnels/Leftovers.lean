import ProxiPort.Tunnels.Start

/-!
# Undoing a failed start

A start that fails leaves nothing behind unless one of three things happens: the
socket of a UDP tunnel cannot be bound after its agent channel was opened, the
route of a downstream proxy cannot be added, or a remote of the list fails after
a tunnel was started for an earlier one.
-/

namespace ProxiPort.TunnelStart

open Clients Ports List

structure Undone (before after : Site) : Prop where
  opened : after.opened = before.opened
  tunnels : after.tunnelling.client.tunnels = before.tunnelling.client.tunnels

def FailsClean {Result Error : Type} (site : Site) (outcome : Site × Except Error Result) : Prop :=
  ∀ err, outcome.2 = .error err → Undone site outcome.1

namespace Machine

variable (machine : Machine)

/-- The agent channel of a UDP tunnel is opened and its socket cannot be
bound. -/
def ChannelAlone (tunnel : Tunnel) : Prop :=
  machine.openChannel tunnel = none ∧
    (machine.resolveUDPAddr tunnel ≠ none ∨ machine.listenUDP tunnel ≠ none)

def Unbound (tunnel : Tunnel) : Prop :=
  match protocolOf tunnel.remote.protocol with
  | some .udp => machine.ChannelAlone tunnel
  | some .tcpUdp => machine.listenTCP tunnel = none ∧ machine.ChannelAlone tunnel
  | some .tcp | none => False

/-- The tunnel of a remote does not get to a channel without a socket. -/
def RegularUndoable (remote : LocalRemote) (acl : Option TunnelACL) (site : Site) : Prop :=
  ∀ tunnel, newTunnel machine.settings site.tunnelling.client.newTunnelID.1
    remote acl = .ok tunnel → ¬machine.Unbound tunnel

/-- The same for the tunnel behind a proxy, on the port it is given. -/
def ProxyUndoable (protocol : Protocol) (remote : LocalRemote) (site : Site) : Prop :=
  ∀ port distributor, getRandomPort machine.settings
      (reserveProxyPort protocol remote site.tunnelling.distributor)
      protocol = .ok (port, distributor) →
    machine.RegularUndoable (remote.1.behindProxy port)
      (machine.settings.parseTunnelACL "127.0.0.1").toOption site

def RouteAdded (protocol : Protocol) (remote : LocalRemote)
    (acl : Option TunnelACL) (site : Site) : Prop :=
  remote.1.hasSubdomainTunnel = true → ∀ after tunnel,
    machine.startTunnelWithProxy protocol remote acl site = (after, .ok tunnel) →
    machine.routeError remote.1.tunnelURL tunnel = none

def NewUndoable (protocol : Protocol) (remote : LocalRemote)
    (acl : Option TunnelACL) (site : Site) : Prop :=
  if machine.settings.tunnelProxyEnabled && remote.1.httpProxy then
    machine.ProxyUndoable protocol remote site ∧ machine.RouteAdded protocol remote acl site
  else machine.RegularUndoable remote acl site

def Undoable (protocol : Protocol) (remote : LocalRemote)
    (acl : Option TunnelACL) (site : Site) : Prop :=
  (site.tunnelling.client.tunnels.find? fun tunnel =>
      tunnel.remote.equals remote.1) = none →
    machine.NewUndoable protocol remote acl site

def OneUndoable (remote : Remote) (site : Site) : Prop :=
  ∀ protocol ∈ protocolOf remote.protocol, ∀ distributor placed acl,
    localRemote machine.settings protocol remote
      site.tunnelling.distributor = (distributor, .ok placed) →
    parseACL machine.settings remote.acl = .ok acl →
    machine.Undoable protocol placed acl { site with tunnelling :=
      { site.tunnelling with distributor := distributor } }

/-- The condition for the list: once a tunnel is started for a remote, no later
remote fails. -/
def AllUndoable : List Remote → Site → Prop
  | [], _ => True
  | remote :: remotes, site =>
    machine.OneUndoable remote site ∧
      match machine.startOne remote site with
      | (_, .error _) => True
      | (after, .ok started) =>
        if started.isNew then
          ∃ later, (machine.startAll remotes after).2 = .ok later
        else AllUndoable remotes after

def ClientUndoable (remotes : List Remote) (site : Site) : Prop :=
  ∀ distributor,
    refreshPorts machine.settings site.tunnelling.distributor = (distributor, none) →
    machine.AllUndoable remotes { site with tunnelling :=
      { site.tunnelling with distributor := distributor } }

variable {machine} {protocol : Protocol} {remote : LocalRemote}
  {acl : Option TunnelACL} {site after : Site} {tunnel : Tunnel}

/-- The three ways `Tunnel.Start` can end: it has undone what it created, it has
left the channel without a socket, or the tunnel has something and `Terminate`
undoes all of it. -/
inductive StartEnd (machine : Machine) (tunnel : Tunnel) : Prop where
  | undone (err : String) (failed : machine.startError tunnel = some err)
      (bound : ¬machine.Unbound tunnel) (nothing : machine.created tunnel = [])
  | channel (err : String) (failed : machine.startError tunnel = some err)
      (unbound : machine.Unbound tunnel) (left : machine.created tunnel = [.agentChannel tunnel.id])
  | started (started : machine.startError tunnel = none) (bound : ¬machine.Unbound tunnel)
      (something : 0 < (machine.created tunnel).length) (terminates : ∀ opened,
        terminate tunnel (machine.created tunnel ++ opened) = opened)

theorem startEnd_udp (kind : protocolOf tunnel.remote.protocol = some .udp ∨
      protocolOf tunnel.remote.protocol = some .tcpUdp ∧ machine.listenTCP tunnel = none) :
    StartEnd machine tunnel := by
  cases channel : machine.openChannel tunnel with
  | some err =>
    refine .undone err ?_ ?_ ?_
    all_goals rcases kind with isUDP | isBoth
    all_goals simp [startError, created, start, Unbound, ChannelAlone,
      startHalves, startHalf, terminateHalf, *]
  | none =>
    cases resolved : machine.resolveUDPAddr tunnel with
    | some err =>
      refine .channel err ?_ ?_ ?_
      all_goals rcases kind with isUDP | isBoth
      all_goals simp [startError, created, start, Unbound, ChannelAlone,
        startHalves, startHalf, terminateHalf, *]
    | none =>
      cases bound : machine.listenUDP tunnel with
      | some err =>
        refine .channel err ?_ ?_ ?_
        all_goals rcases kind with isUDP | isBoth
        all_goals simp [startError, created, start, Unbound, ChannelAlone,
          startHalves, startHalf, terminateHalf, *]
      | none =>
        refine .started ?_ ?_ ?_ ?_
        all_goals rcases kind with isUDP | isBoth
        all_goals simp [startError, created, start, Unbound, ChannelAlone,
          startHalves, startHalf, terminate, terminateHalf, *]

theorem startEnd (machine : Machine) (tunnel : Tunnel) : StartEnd machine tunnel := by
  cases kind : protocolOf tunnel.remote.protocol with
  | none =>
    obtain ⟨err, failed⟩ : ∃ err, machine.startError tunnel = some err := by
      simp [startError, start, kind]
    refine .undone err failed ?_ ?_
    · simp [Unbound, kind]
    · simp [created, start, kind]
  | some protocol =>
    cases protocol with
    | udp => exact startEnd_udp (.inl kind)
    | tcpUdp =>
      cases tcp : machine.listenTCP tunnel with
      | some err =>
        refine .undone err ?_ ?_ ?_
        all_goals simp [startError, created, start, Unbound, startHalves, startHalf, kind, tcp]
      | none => exact startEnd_udp (.inr ⟨kind, tcp⟩)
    | tcp =>
      cases tcp : machine.listenTCP tunnel with
      | some err =>
        refine .undone err ?_ ?_ ?_
        all_goals simp [startError, created, start, Unbound, startHalf, kind, tcp]
      | none =>
        refine .started ?_ ?_ ?_ ?_
        all_goals simp [startError, created, start, Unbound, startHalf,
          terminate, terminateHalf, kind, tcp]

/-- After a start that failed: the list of tunnels is as before, and something is
left exactly if the condition does not hold. -/
structure Leaves (undoable : Prop) (before after : Site) : Prop where
  tunnels : after.tunnelling.client.tunnels = before.tunnelling.client.tunnels
  undone : undoable → after.opened = before.opened
  remains : ¬undoable → before.opened.length < after.opened.length

variable {undoable : Prop}

theorem Leaves.congr {undoable' : Prop} (leaves : Leaves undoable site after)
    (same : undoable' ↔ undoable) : Leaves undoable' site after := by
  rw [propext same]
  exact leaves

theorem Leaves.nothing (holds : undoable) (opened : after.opened = site.opened)
    (tunnels : after.tunnelling.client.tunnels = site.tunnelling.client.tunnels) :
    Leaves undoable site after :=
  ⟨tunnels, fun _ => opened, fun fails => absurd holds fails⟩

variable {err : String}

theorem startRegularTunnel_error (failed : machine.startRegularTunnel remote acl site =
      (after, .error err)) :
    Leaves (machine.RegularUndoable remote acl site) site after := by
  simp only [startRegularTunnel, start_eq] at failed
  split at failed
  · rename_i refused
    cases failed
    refine .nothing ?_ rfl rfl
    intro tunnel created
    cases refused.symm.trans created
  · rename_i tunnel made
    have undoable : machine.RegularUndoable remote acl site ↔ ¬machine.Unbound tunnel := by
      constructor
      · intro holds
        exact holds tunnel made
      · intro bound other created
        cases made.symm.trans created
        exact bound
    refine Leaves.congr ?_ undoable
    cases startEnd machine tunnel with
    | undone err' failedHere bound nothing =>
      simp only [failedHere, nothing, nil_append] at failed
      cases failed
      exact .nothing bound rfl rfl
    | channel err' failedHere unbound left =>
      simp only [failedHere, left] at failed
      cases failed
      refine ⟨rfl, fun bound => absurd unbound bound, ?_⟩
      intro _
      exact Nat.lt_succ_self _
    | started started =>
      simp only [started] at failed
      cases failed

theorem startRegularTunnel_ok (started : machine.startRegularTunnel remote acl site =
      (after, .ok tunnel)) :
    machine.RegularUndoable remote acl site ∧
      after.tunnelling.client.tunnels = site.tunnelling.client.tunnels ∧
      site.opened.length < after.opened.length ∧
      terminate tunnel after.opened = site.opened := by
  simp only [startRegularTunnel, start_eq] at started
  split at started
  · cases started
  · rename_i fresh made
    cases startEnd machine fresh with
    | undone err failed | channel err failed =>
      simp only [failed] at started
      cases started
    | started startedHere bound something terminates =>
      simp only [startedHere] at started
      cases started
      refine ⟨?_, rfl, ?_, terminates site.opened⟩
      · intro other created
        cases made.symm.trans created
        exact bound
      · simp only [length_append]
        omega

theorem startTunnelWithProxy_error (failed : machine.startTunnelWithProxy protocol remote acl site =
      (after, .error err)) :
    Leaves (machine.ProxyUndoable protocol remote site) site after := by
  simp only [startTunnelWithProxy] at failed
  split at failed
  · rename_i none
    cases failed
    refine .nothing ?_ rfl rfl
    intro port distributor random
    cases none.symm.trans random
  · rename_i port distributor random
    have undoable : machine.ProxyUndoable protocol remote site ↔
        machine.RegularUndoable (remote.1.behindProxy port)
          (machine.settings.parseTunnelACL "127.0.0.1").toOption
          { site with tunnelling :=
            { site.tunnelling with distributor := distributor } } := by
      constructor
      · intro holds
        exact holds port distributor random
      · intro holds other distributor' random'
        cases random.symm.trans random'
        exact holds
    split at failed
    · rename_i inner
      cases failed
      have leaves := startRegularTunnel_error inner
      exact Leaves.congr ⟨leaves.tunnels, leaves.undone, leaves.remains⟩ undoable
    · rename_i inner
      obtain ⟨holds, tunnels, _, terminates⟩ := startRegularTunnel_ok inner
      split at failed
      · cases failed
        exact .nothing (undoable.mpr holds) terminates tunnels
      · cases failed

theorem startTunnelWithProxy_ok (started : machine.startTunnelWithProxy protocol remote acl site =
      (after, .ok tunnel)) :
    machine.ProxyUndoable protocol remote site ∧
      after.tunnelling.client.tunnels = site.tunnelling.client.tunnels ∧
      ∃ inner, after.opened = .internalProxy tunnel.id :: inner ∧
        site.opened.length < inner.length := by
  simp only [startTunnelWithProxy] at started
  split at started
  · cases started
  · rename_i port distributor random
    split at started
    · cases started
    · rename_i inner
      obtain ⟨holds, tunnels, something, _⟩ := startRegularTunnel_ok inner
      split at started
      · cases started
      · cases started
        refine ⟨?_, tunnels, _, rfl, something⟩
        intro other distributor' random'
        cases random.symm.trans random'
        exact holds

theorem startNewTunnel_error (failed : machine.startNewTunnel protocol remote acl site =
      (after, .error err)) :
    Leaves (machine.NewUndoable protocol remote acl site) site after := by
  simp only [startNewTunnel, startCaddyDownstreamProxy_eq] at failed
  simp only [NewUndoable]
  split at failed
  · rename_i proxied
    rw [if_pos proxied]
    split at failed
    · rename_i inner
      cases failed
      have leaves := startTunnelWithProxy_error inner
      refine leaves.congr ⟨And.left, fun holds => ⟨holds, ?_⟩⟩
      intro _ later tunnel started
      cases inner.symm.trans started
    · rename_i middle tunnel inner
      obtain ⟨holds, tunnels, below, opened, something⟩ := startTunnelWithProxy_ok inner
      split at failed
      · rename_i subdomain
        cases route : machine.routeError remote.1.tunnelURL tunnel with
        | none =>
          simp only [route] at failed
          cases failed
        | some refused =>
          simp only [route] at failed
          cases failed
          refine ⟨tunnels, ?_, ?_⟩
          · intro both
            cases route.symm.trans (both.2 subdomain _ _ inner)
          · intro _
            -- Erasing one entry leaves the tunnel behind the proxy.
            have erased := length_erase_add_one (mem_append_right (machine.routes remote.1.tunnelURL
                tunnel) (opened ▸ mem_cons_self : Resource.internalProxy tunnel.id ∈ middle.opened))
            dsimp only
            simp only [length_append, opened, length_cons] at erased ⊢
            omega
      · cases failed
  · rename_i plain
    rw [if_neg plain]
    exact startRegularTunnel_error failed

theorem startNewTunnel_ok (started : machine.startNewTunnel protocol remote acl site =
      (after, .ok tunnel)) :
    machine.NewUndoable protocol remote acl site ∧ site.opened.length < after.opened.length := by
  simp only [startNewTunnel, startCaddyDownstreamProxy_eq] at started
  simp only [NewUndoable]
  split at started
  · rename_i proxied
    rw [if_pos proxied]
    split at started
    · cases started
    · rename_i middle inside inner
      obtain ⟨holds, _, below, opened, something⟩ := startTunnelWithProxy_ok inner
      have grown : site.opened.length < middle.opened.length := by
        rw [opened, length_cons]
        omega
      split at started
      · cases route : machine.routeError remote.1.tunnelURL inside with
        | some refused =>
          simp only [route] at started
          cases started
        | none =>
          simp only [route] at started
          cases started
          refine ⟨⟨holds, ?_⟩, ?_⟩
          · intro _ other tunnel' again
            cases inner.symm.trans again
            exact route
          · simp only [length_append]
            omega
      · rename_i plain
        cases started
        exact ⟨⟨holds, fun subdomain => absurd subdomain plain⟩, grown⟩
  · rename_i plain
    rw [if_neg plain]
    obtain ⟨holds, _, something, _⟩ := startRegularTunnel_ok started
    exact ⟨holds, something⟩

theorem startTunnel_error (failed : machine.startTunnel protocol remote acl site =
      (after, .error err)) :
    Leaves (machine.Undoable protocol remote acl site) site after := by
  simp only [startTunnel] at failed
  split at failed
  · cases failed
  · rename_i absent
    have undoable : machine.Undoable protocol remote acl site ↔
        machine.NewUndoable protocol remote acl site :=
      ⟨fun holds => holds absent, fun holds _ => holds⟩
    split at failed
    · rename_i inner
      cases failed
      exact (startNewTunnel_error inner).congr undoable
    · cases failed

variable {started : Started}

theorem startTunnel_ok (succeeded : machine.startTunnel protocol remote acl site =
      (after, .ok started)) :
    machine.Undoable protocol remote acl site ∧
      if started.isNew then site.opened.length < after.opened.length
      else Undone site after := by
  simp only [startTunnel] at succeeded
  split at succeeded
  · rename_i known
    cases succeeded
    exact ⟨fun absent => absurd (known.symm.trans absent) (by simp), ⟨rfl, rfl⟩⟩
  · split at succeeded
    · cases succeeded
    · rename_i inner
      cases succeeded
      obtain ⟨holds, something⟩ := startNewTunnel_ok inner
      exact ⟨fun _ => holds, something⟩

variable {remote : Remote}

theorem startOne_error {err : Err} (failed : machine.startOne remote site = (after, .error err)) :
    Leaves (machine.OneUndoable remote site) site after := by
  simp only [startOne] at failed
  split at failed
  · rename_i unsupported
    cases failed
    refine .nothing ?_ rfl rfl
    intro protocol supported
    cases unsupported.symm.trans supported
  · rename_i protocol supported
    split at failed
    · rename_i refused
      cases failed
      refine .nothing ?_ rfl rfl
      intro protocol' supported' distributor placed acl placedHere
      cases supported.symm.trans supported'
      cases refused.symm.trans placedHere
    · rename_i distributor placed placedHere
      split at failed
      · rename_i refused
        cases failed
        refine .nothing ?_ rfl rfl
        intro protocol' _ distributor' placed' acl _ parsed
        cases refused.symm.trans parsed
      · rename_i acl parsed
        have undoable : machine.OneUndoable remote site ↔
            machine.Undoable protocol placed acl { site with tunnelling :=
              { site.tunnelling with distributor := distributor } } := by
          constructor
          · intro holds
            exact holds protocol supported distributor placed acl placedHere parsed
          · intro holds protocol' supported' distributor' placed' acl' placedHere' parsed'
            cases supported.symm.trans supported'
            cases placedHere.symm.trans placedHere'
            cases parsed.symm.trans parsed'
            exact holds
        split at failed
        · rename_i inner
          cases failed
          have leaves := startTunnel_error inner
          exact Leaves.congr ⟨leaves.tunnels, leaves.undone, leaves.remains⟩ undoable
        · cases failed

theorem startOne_ok (succeeded : machine.startOne remote site = (after, .ok started)) :
    machine.OneUndoable remote site ∧
      if started.isNew then site.opened.length < after.opened.length
      else Undone site after := by
  simp only [startOne] at succeeded
  split at succeeded
  · cases succeeded
  · rename_i protocol supported
    split at succeeded
    · cases succeeded
    · rename_i distributor placed placedHere
      split at succeeded
      · cases succeeded
      · rename_i acl parsed
        split at succeeded
        · cases succeeded
        · rename_i inner
          cases succeeded
          obtain ⟨holds, created⟩ := startTunnel_ok inner
          refine ⟨?_, ?_⟩
          · intro protocol' supported' distributor' placed' acl' placedHere' parsed'
            cases supported.symm.trans supported'
            cases placedHere.symm.trans placedHere'
            cases parsed.symm.trans parsed'
            exact holds
          · split at created
            · rename_i isNew
              rw [if_pos isNew]
              exact created
            · rename_i isOld
              rw [if_neg isOld]
              exact ⟨created.opened, created.tunnels⟩

theorem startOne_grows (remote : Remote) (site : Site) :
    site.opened.length ≤ (machine.startOne remote site).1.opened.length := by
  rcases here : machine.startOne remote site with ⟨after, err | started⟩
  · have leaves := startOne_error here
    by_cases undoable : machine.OneUndoable remote site
    · exact (congrArg List.length (leaves.undone undoable)).ge
    · exact (leaves.remains undoable).le
  · have created := (startOne_ok here).2
    split at created
    · exact created.le
    · exact (congrArg List.length created.opened).ge

theorem startAll_grows (remotes : List Remote) (site : Site) :
    site.opened.length ≤ (machine.startAll remotes site).1.opened.length := by
  induction remotes generalizing site with
  | nil => exact Nat.le_refl _
  | cons remote remotes induction =>
    have first : site.opened.length ≤ (machine.startOne remote site).1.opened.length :=
      startOne_grows remote site
    simp only [startAll]
    split
    · rename_i failed
      rw [failed] at first
      exact first
    · rename_i middle started here
      rw [here] at first
      have later := induction middle
      split
      · rename_i rest
        rw [rest] at later
        exact first.trans later
      · rename_i rest
        rw [rest] at later
        exact first.trans later

theorem undone_congr {before middle last : Site} (first : Undone before middle) :
    Undone before last ↔ Undone middle last := by
  constructor
  · intro undone
    exact ⟨undone.opened.trans first.opened.symm, undone.tunnels.trans first.tunnels.symm⟩
  · intro undone
    exact ⟨undone.opened.trans first.opened, undone.tunnels.trans first.tunnels⟩

theorem Leaves.clean_iff (leaves : Leaves undoable site after) : Undone site after ↔ undoable := by
  constructor
  · intro undone
    by_contra spoiled
    have grown := leaves.remains spoiled
    rw [undone.opened] at grown
    exact Nat.lt_irrefl _ grown
  · intro holds
    exact ⟨leaves.undone holds, leaves.tunnels⟩

theorem failsClean_error {Result Error : Type} {err : Error} :
    FailsClean site ((after, .error err) : Site × Except Error Result) ↔ Undone site after := by
  constructor
  · intro clean
    exact clean err rfl
  · intro undone _ _
    exact undone

theorem failsClean_ok {Result Error : Type} {result : Result} :
    FailsClean site ((after, .ok result) : Site × Except Error Result) :=
  fun _ failed => by cases failed

theorem startTunnel_clean_iff (machine : Machine) (protocol : Protocol)
    (remote : LocalRemote) (acl : Option TunnelACL) (site : Site) :
    FailsClean site (machine.startTunnel protocol remote acl site) ↔
      machine.Undoable protocol remote acl site := by
  rcases here : machine.startTunnel protocol remote acl site with
    ⟨after, err | started⟩
  · rw [failsClean_error]
    exact (startTunnel_error here).clean_iff
  · exact iff_of_true failsClean_ok (startTunnel_ok here).1

variable {remotes : List Remote}

theorem startAll_clean_of_new (created : site.opened.length < after.opened.length) :
    FailsClean site (machine.startAll remotes after) ↔
      ∃ later, (machine.startAll remotes after).2 = .ok later := by
  have grows : after.opened.length ≤ (machine.startAll remotes after).1.opened.length :=
    startAll_grows remotes after
  rcases rest : machine.startAll remotes after with ⟨last, err | later⟩
  · rw [failsClean_error]
    rw [rest] at grows
    refine iff_of_false ?_ ?_
    · intro undone
      have kept := congrArg List.length undone.opened
      dsimp only at grows
      omega
    · rintro ⟨later, wrong⟩
      cases wrong
  · exact iff_of_true failsClean_ok ⟨later, rfl⟩

theorem startAll_cons_clean_iff {before : Site}
    (here : machine.startOne remote site = (after, .ok started)) :
    FailsClean before (machine.startAll (remote :: remotes) site) ↔
      FailsClean before (machine.startAll remotes after) := by
  simp only [startAll, here]
  rcases machine.startAll remotes after with ⟨last, err | later⟩
  · exact Iff.rfl
  · exact iff_of_true failsClean_ok failsClean_ok

theorem startAll_clean_iff (machine : Machine) (remotes : List Remote) (site : Site) :
    FailsClean site (machine.startAll remotes site) ↔ machine.AllUndoable remotes site := by
  induction remotes generalizing site with
  | nil => exact iff_of_true failsClean_ok trivial
  | cons remote remotes induction =>
    rcases here : machine.startOne remote site with ⟨middle, err | started⟩
    · simp only [AllUndoable, startAll, here]
      rw [failsClean_error, and_true]
      exact (startOne_error here).clean_iff
    · obtain ⟨holds, created⟩ := startOne_ok here
      rw [startAll_cons_clean_iff here]
      simp only [AllUndoable, here, holds, true_and]
      split at created
      · rename_i isNew
        rw [if_pos isNew]
        exact startAll_clean_of_new created
      · rename_i isOld
        rw [if_neg isOld, ← induction middle]
        simp only [FailsClean, undone_congr created]

theorem startClientTunnels_clean_iff (machine : Machine) (remotes : List Remote) (site : Site) :
    FailsClean site (machine.startClientTunnels remotes site) ↔
      machine.ClientUndoable remotes site := by
  simp only [startClientTunnels, ClientUndoable]
  rcases refreshPorts machine.settings site.tunnelling.distributor with
    ⟨distributor, _ | err⟩
  · have same : Undone site { site with tunnelling :=
        { site.tunnelling with distributor := distributor } } := ⟨rfl, rfl⟩
    have loop := startAll_clean_iff machine remotes { site with tunnelling :=
      { site.tunnelling with distributor := distributor } }
    constructor
    · rintro clean _ ⟨⟩
      rw [← loop]
      intro err failed
      exact (undone_congr same).mp (clean err failed)
    · intro holds err failed
      exact (undone_congr same).mpr (loop.mpr (holds _ rfl) err failed)
  · rw [failsClean_error]
    refine iff_of_true ⟨rfl, rfl⟩ ?_
    rintro _ ⟨⟩

end Machine

/-- `StartTunnel` leaves nothing behind when it fails, exactly if the tunnel does
not get to an agent channel without a socket and, behind a proxy, the route can
be added; `startClientTunnels` does exactly if moreover no remote fails after a
tunnel was started for an earlier one. -/
theorem failed_start_leaves_nothing_iff (machine : Machine) (site : Site) :
    (∀ protocol remote acl,
      FailsClean site (machine.startTunnel protocol remote acl site) ↔
        machine.Undoable protocol remote acl site) ∧
    ∀ remotes, FailsClean site (machine.startClientTunnels remotes site) ↔
      machine.ClientUndoable remotes site :=
  ⟨fun protocol remote acl =>
      machine.startTunnel_clean_iff protocol remote acl site,
    fun remotes => machine.startClientTunnels_clean_iff remotes site⟩

def quietMachine : Machine where
  settings := quietSurroundings
  listenTCP := fun _ => none
  openChannel := fun _ => none
  resolveUDPAddr := fun _ => none
  listenUDP := fun _ => none
  listenProxy := fun _ => none
  caddyEnabled := true
  hostname := .ok
  addRoute := fun _ => (true, .ok 200)

def quietSite : Site where
  tunnelling := ⟨{ lostClient with tunnels := [], tunnelIDAutoIncrement := 0 },
    PortDistributor.new {22, 53, 80}⟩
  opened := []

def dnsRemote : Remote :=
  { sshRemote with protocol := "udp", localPort := "53", remotePort := "53" }

def webRemote : Remote :=
  { sshRemote with
    localPort := "80"
    httpProxy := true
    tunnelURL := "a.example.com" }

def noSockets : Machine :=
  { quietMachine with listenUDP := fun _ => some "address already in use" }

def noRoutes : Machine :=
  { quietMachine with addRoute := fun _ => (false, .ok 500) }

def otherRemote : Remote :=
  { sshRemote with localPort := "23" }

/-- The socket of a UDP tunnel cannot be bound: the agent channel stays open.
The route of a tunnel with a proxy is refused: the tunnel behind the proxy goes on
listening.  The second of two remotes asks for a port that is not allowed: the
tunnel of the first one is listening and listed. -/
theorem failed_start_leaves_resources :
    ((noSockets.startClientTunnels [dnsRemote] quietSite).2 =
      .error (.api 409 "" (some "unable to start tunnel: address already in use")) ∧
      (noSockets.startClientTunnels [dnsRemote] quietSite).1.opened = [.agentChannel "1"]) ∧
    ((noRoutes.startClientTunnels [webRemote] quietSite).2 =
      .error (.api 409 "" (some ("unable to start tunnel: " ++
        "failed to create downstream caddy proxy: status_code: 500"))) ∧
      (noRoutes.startClientTunnels [webRemote] quietSite).1.opened = [.tcpListener "1"]) ∧
    (quietMachine.startClientTunnels [sshRemote, otherRemote] quietSite).2 =
      .error (.api 400 "Local port 23 is not among allowed ports." none) ∧
    (quietMachine.startClientTunnels [sshRemote, otherRemote]
      quietSite).1.opened = [.tcpListener "1"] ∧
    (quietMachine.startClientTunnels [sshRemote, otherRemote]
      quietSite).1.tunnelling.client.tunnels.map Tunnel.id = ["1"] := by
  decide +kernel

end ProxiPort.TunnelStart
