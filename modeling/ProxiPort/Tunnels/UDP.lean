import ProxiPort.Foundation.Keyed
import ProxiPort.Foundation.Run
import ProxiPort.Go.Net
import ProxiPort.Go.Time

/-!
# UDP tunnels

`server/clients/clienttunnel/tunnel_udp.go` and `tunnel_udp_peers.go`: the loop
that reads datagrams from the socket and the loop that writes the agent's answers
share the table of peers and the ACL, which `SetACL` replaces at any time.  Each
access to what they share is one step; the clock shows any value whenever it is
read.
-/

namespace ProxiPort.TunnelUDP

open Concurrency Go List Keyed

abbrev TunnelACL := List IPNet

def checkAccess (acl : TunnelACL) (ip : IP) : Bool :=
  if acl.isEmpty then true else acl.any (·.contains ip)

def admits (acl : Option TunnelACL) (ip : IP) : Bool :=
  match acl with
  | none => true
  | some acl => checkAccess acl ip

structure UDPAddr where
  ip : IP
  port : Int
  zone : String
  deriving DecidableEq, Repr

def udpPeerTTL : Int := 2 * minute

def maxTrackedUDPPeers : Nat := 4096

def udpPeerKey (addr : Option UDPAddr) : String :=
  match addr with
  | none => ""
  | some addr =>
    if addr.port < 0 ∨ addr.port > 65535 then ""
    else
      match Addr.fromSlice addr.ip with
      | none => ""
      | some ip =>
        let ip := ip.unmap
        let ip := if addr.zone ≠ "" then ip.withZone addr.zone else ip
        ip.printPort addr.port.toNat

structure Peer where
  key : String
  last : Time
  deriving DecidableEq, Repr

abbrev PeerTable := Table Peer.key

/-- `Time.Sub`: the difference is cut to a `Duration`. -/
def sub (time other : Time) : Int := max (-(2 ^ 63)) (min (2 ^ 63 - 1) (time - other))

/-- The first loop of `evictLocked`. -/
def removeExpired (now : Time) (peers : List Peer) (seen : PeerTable) :
    PeerTable :=
  peers.foldl (fun seen peer =>
    if udpPeerTTL < sub now peer.last then seen.remove peer.key else seen) seen

/-- The second loop of `evictLocked`. -/
def oldestPeer (peers : List Peer) : Option Peer := peers.foldl (fun oldest peer =>
    match oldest with
    | none => some peer
    | some known => if peer.last < known.last then some peer else some known)
    none

/-- `evictLocked`; a map is visited in any order. -/
def evictLocked (now : Time) (order : List Peer → List Peer) (seen : PeerTable) : PeerTable :=
  let seen := removeExpired now seen.entries seen
  if seen.entries.length < maxTrackedUDPPeers then seen
  else
    match oldestPeer (order seen.entries) with
    | none => seen
    | some oldest => seen.remove oldest.key

def remember (now : Time) (order : List Peer → List Peer)
    (addr : Option UDPAddr) (seen : PeerTable) : PeerTable :=
  let key := udpPeerKey addr
  if key = "" then seen
  else
    let seen :=
      if seen.get key = none ∧ maxTrackedUDPPeers ≤ seen.entries.length then
        evictLocked now order seen
      else seen
    seen.put ⟨key, now⟩

def known (now : Time) (addr : Option UDPAddr) (seen : PeerTable) : Bool × PeerTable :=
  let key := udpPeerKey addr
  if key = "" then (false, seen)
  else
    match seen.get key with
    | none => (false, seen)
    | some peer =>
      if udpPeerTTL < sub now peer.last then (false, seen.remove key)
      else (true, seen)

inductive Inbound where
  | reading
  | checking (source : UDPAddr)
  | remembering (source : UDPAddr)
  | encoding
  | stopped

/-- Where `runOutbound` is; it has the clock of `known`, and the ACL it has
loaded. -/
inductive Outbound where
  | decoding
  | asking (addr : Option UDPAddr)
  | loading (addr : UDPAddr) (now : Time)
  | writing (addr : UDPAddr) (acl : Option TunnelACL) (now : Time)
  | stopped

structure State where
  acl : Option TunnelACL
  seen : PeerTable
  inbound : Inbound
  outbound : Outbound

inductive Input where
  | setACL (acl : Option TunnelACL)
  /-- A datagram comes in. -/
  | receive (source : UDPAddr)
  | check
  | remember (now : Time) (order : List Peer → List Peer)
  | encode (failed : Bool)
  /-- The agent sends a message. -/
  | decode (addr : Option UDPAddr)
  | known (now : Time)
  | load
  | write (failed : Bool)
  | stopInbound
  | stopOutbound

inductive Event where
  | aclSet (acl : Option TunnelACL)
  | received (source : UDPAddr)
  /-- The ACL that was loaded admits the sender. -/
  | admitted (source : UDPAddr)
  | remembered (source : UDPAddr) (now : Time)
  /-- A datagram is written under the ACL that was loaded for it, to a peer that
  was known at some clock. -/
  | wrote (addr : UDPAddr) (acl : Option TunnelACL) (now : Time)

def inboundStep (state : State) : Inbound → Input → Option (State × List Event)
  | .reading, .receive source =>
    some ({ state with inbound := .checking source }, [.received source])
  | .checking source, .check =>
    if admits state.acl source.ip then
      some ({ state with inbound := .remembering source }, [.admitted source])
    else some ({ state with inbound := .reading }, [])
  | .remembering source, .remember now order =>
    some ({ state with
      seen := remember now order (some source) state.seen
      inbound := .encoding }, [.remembered source now])
  | .encoding, .encode failed =>
    some ({ state with
      inbound := if failed then .stopped else .reading }, [])
  | _, .stopInbound => some ({ state with inbound := .stopped }, [])
  | _, _ => none

def outboundStep (state : State) : Outbound → Input → Option (State × List Event)
  | .decoding, .decode addr =>
    some ({ state with outbound := .asking addr }, [])
  | .asking addr, .known now =>
    match known now addr state.seen, addr with
    | (true, seen), some addr =>
      some ({ state with seen := seen, outbound := .loading addr now }, [])
    | (_, seen), _ =>
      some ({ state with seen := seen, outbound := .decoding }, [])
  | .loading addr now, .load =>
    if admits state.acl addr.ip then
      some ({ state with outbound := .writing addr state.acl now }, [])
    else some ({ state with outbound := .decoding }, [])
  | .writing addr acl now, .write failed =>
    some ({ state with
      outbound := if failed then .stopped else .decoding },
      [.wrote addr acl now])
  | _, .stopOutbound => some ({ state with outbound := .stopped }, [])
  | _, _ => none

def step (state : State) : Input → Option (State × List Event)
  | .setACL acl => some ({ state with acl := acl }, [.aclSet acl])
  | input =>
    (inboundStep state state.inbound input).or (outboundStep state state.outbound input)

def tunnelUDP : System State Input Event := ⟨step⟩

def started (acl : Option TunnelACL) : State := ⟨acl, .empty, .reading, .decoding⟩

/-- The transitions of the two loops and of `SetACL`. -/
inductive Stepped (state : State) : List Event → State → Prop where
  | setACL (acl : Option TunnelACL) : Stepped state [.aclSet acl] { state with acl := acl }
  | receive (source : UDPAddr) : Stepped state [.received source]
        { state with inbound := .checking source }
  | pass {source : UDPAddr} (admitted : admits state.acl source.ip = true) :
      Stepped state [.admitted source]
        { state with inbound := .remembering source }
  | remember {source : UDPAddr} (now : Time) (order : List Peer → List Peer)
      (place : state.inbound = .remembering source) :
      Stepped state [.remembered source now]
        { state with
          seen := remember now order (some source) state.seen
          inbound := .encoding }
  | inboundIdle {inbound : Inbound} (idle : ∀ source, inbound ≠ .remembering source) :
      Stepped state [] { state with inbound := inbound }
  | ask {addr : UDPAddr} {now : Time} {seen : PeerTable}
      (answered : known now (some addr) state.seen = (true, seen)) :
      Stepped state []
        { state with seen := seen, outbound := .loading addr now }
  | forget {addr : Option UDPAddr} {now : Time} {answer : Bool}
      {seen : PeerTable} (answered : known now addr state.seen = (answer, seen)) :
      Stepped state [] { state with seen := seen, outbound := .decoding }
  | load {addr : UDPAddr} {now : Time} (place : state.outbound = .loading addr now)
      (admitted : admits state.acl addr.ip = true) :
      Stepped state []
        { state with outbound := .writing addr state.acl now }
  | write {addr : UDPAddr} {acl : Option TunnelACL} {now : Time}
      {outbound : Outbound} (place : state.outbound = .writing addr acl now)
      (idle : outbound = .stopped ∨ outbound = .decoding) :
      Stepped state [.wrote addr acl now] { state with outbound := outbound }
  | outboundIdle {outbound : Outbound} (idle : outbound = .stopped ∨ outbound = .decoding ∨
        ∃ addr, outbound = .asking addr) :
      Stepped state [] { state with outbound := outbound }

variable {state next : State} {shown : List Event} {input : Input}

theorem inboundStep_stepped (stepped : inboundStep state state.inbound input = some (next, shown)) :
    Stepped state shown next := by
  generalize place : state.inbound = inbound at stepped
  simp only [inboundStep.eq_def] at stepped
  split at stepped
  · cases stepped
    exact .receive _
  · split at stepped
    · rename_i admitted
      cases stepped
      exact .pass admitted
    · cases stepped
      exact .inboundIdle (fun _ wrong => by cases wrong)
  · cases stepped
    exact .remember _ _ place
  · rename_i failed
    cases stepped
    refine .inboundIdle (fun _ wrong => ?_)
    cases failed <;> cases wrong
  · cases stepped
    exact .inboundIdle (fun _ wrong => by cases wrong)
  · cases stepped

theorem outboundStep_stepped
    (stepped : outboundStep state state.outbound input = some (next, shown)) :
    Stepped state shown next := by
  generalize place : state.outbound = outbound at stepped
  simp only [outboundStep.eq_def] at stepped
  split at stepped
  · cases stepped
    exact .outboundIdle (.inr (.inr ⟨_, rfl⟩))
  · split at stepped
    · rename_i answered
      cases stepped
      exact .ask answered
    · rename_i answered
      cases stepped
      exact .forget answered
  · split at stepped
    · rename_i admitted
      cases stepped
      exact .load place admitted
    · cases stepped
      exact .outboundIdle (.inr (.inl rfl))
  · rename_i failed
    cases stepped
    refine .write place ?_
    cases failed
    · exact .inr rfl
    · exact .inl rfl
  · cases stepped
    exact .outboundIdle (.inl rfl)
  · cases stepped

theorem step_stepped (stepped : step state input = some (next, shown)) :
    Stepped state shown next := by
  simp only [step.eq_def] at stepped
  split at stepped
  · cases stepped
    exact .setACL _
  · rcases Option.or_eq_some_iff.mp stepped with inbound | ⟨_, outbound⟩
    · exact inboundStep_stepped inbound
    · exact outboundStep_stepped outbound

def inForce (initial : Option TunnelACL) (history : List Event) : Option TunnelACL :=
  history.foldl (fun current event =>
    match event with
    | .aclSet acl => acl
    | _ => current) initial

def Event.isInbound : Event → Bool
  | .received _ => true
  | .admitted _ => true
  | .remembered _ _ => true
  | .aclSet _ => false
  | .wrote _ _ _ => false

/-- The last inbound event is that the ACL then in force admitted the sender of
a datagram. -/
def JustAdmitted (initial : Option TunnelACL) (history : List Event) (source : UDPAddr) : Prop :=
  ∃ earlier between, history = earlier ++ .admitted source :: between ∧
    admits (inForce initial earlier) source.ip = true ∧
    ∀ event ∈ between, event.isInbound = false

/-- A datagram was remembered at some clock after the ACL then in force had
admitted its sender. -/
def Remembered (initial : Option TunnelACL) (history : List Event)
    (source : UDPAddr) (now : Time) : Prop :=
  ∃ earlier later, history = earlier ++ .remembered source now :: later ∧
    JustAdmitted initial earlier source

/-- An inbound datagram with this key was remembered at some clock. -/
def Vouched (initial : Option TunnelACL) (history : List Event) (key : String)
    (now : Time) : Prop :=
  ∃ source, udpPeerKey (some source) = key ∧ Remembered initial history source now

/-- An inbound datagram with the key of the address was remembered, no longer
than the lifetime of an entry before. -/
def FreshPeer (initial : Option TunnelACL) (history : List Event)
    (addr : UDPAddr) (now : Time) : Prop :=
  udpPeerKey (some addr) ≠ "" ∧ ∃ last, now - last ≤ udpPeerTTL ∧
    Vouched initial history (udpPeerKey (some addr)) last

/-- What has to hold when a datagram is written: the ACL that was loaded for it
admits the address, and the address is that of a fresh peer. -/
structure Replies (initial : Option TunnelACL) (history : List Event)
    (addr : UDPAddr) (acl : Option TunnelACL) (now : Time) : Prop where
  loaded : ∃ earlier, earlier <+: history ∧ inForce initial earlier = acl
  admitted : admits acl addr.ip = true
  peer : FreshPeer initial history addr now

variable {initial acl : Option TunnelACL} {history more : List Event}
  {addr source : UDPAddr} {now : Time}

theorem JustAdmitted.append (just : JustAdmitted initial history source)
    (quiet : ∀ event ∈ more, event.isInbound = false) :
    JustAdmitted initial (history ++ more) source := by
  obtain ⟨earlier, between, rfl, admitted, silent⟩ := just
  refine ⟨earlier, between ++ more, by simp, admitted, ?_⟩
  intro event member
  rcases mem_append.mp member with known | new
  · exact silent event known
  · exact quiet event new

theorem Vouched.append {key : String} (vouched : Vouched initial history key now)
    (more : List Event) : Vouched initial (history ++ more) key now := by
  obtain ⟨source, same, earlier, later, rfl, just⟩ := vouched
  exact ⟨source, same, earlier, later ++ more, by simp, just⟩

theorem FreshPeer.append (fresh : FreshPeer initial history addr now)
    (more : List Event) : FreshPeer initial (history ++ more) addr now := by
  obtain ⟨usable, last, young, vouched⟩ := fresh
  exact ⟨usable, last, young, vouched.append more⟩

theorem Replies.append (replies : Replies initial history addr acl now)
    (more : List Event) : Replies initial (history ++ more) addr acl now := by
  obtain ⟨⟨earlier, isEarlier, force⟩, admitted, peer⟩ := replies
  exact ⟨⟨earlier, isEarlier.trans (prefix_append _ _), force⟩, admitted, peer.append more⟩

theorem inForce_append (initial : Option TunnelACL) (history more : List Event) :
    inForce initial (history ++ more) = inForce (inForce initial history) more :=
  foldl_append

variable {seen : PeerTable} {peer : Peer}

theorem mem_removeExpired {peers : List Peer}
    (member : peer ∈ (removeExpired now peers seen).entries) : peer ∈ seen.entries := by
  induction peers generalizing seen with
  | nil => exact member
  | cons first rest induction =>
    simp only [removeExpired, foldl_cons] at member
    have kept := induction member
    split at kept
    · exact (mem_remove.mp kept).1
    · exact kept

variable {order : List Peer → List Peer}

theorem mem_evictLocked (member : peer ∈ (evictLocked now order seen).entries) :
    peer ∈ seen.entries := by
  simp only [evictLocked] at member
  split at member
  · exact mem_removeExpired member
  · split at member
    · exact mem_removeExpired member
    · exact mem_removeExpired (mem_remove.mp member).1

theorem mem_remember (member : peer ∈ (remember now order (some source) seen).entries) :
    peer = ⟨udpPeerKey (some source), now⟩ ∨ peer ∈ seen.entries := by
  simp only [remember] at member
  split at member
  · exact .inr member
  · rcases mem_put.mp member with new | ⟨old, _⟩
    · exact .inl new
    · split at old
      · exact .inr (mem_evictLocked old)
      · exact .inr old

variable {after : PeerTable}

theorem mem_known {addr : Option UDPAddr} {answer : Bool}
    (answered : known now addr seen = (answer, after))
    (member : peer ∈ after.entries) : peer ∈ seen.entries := by
  simp only [known] at answered
  split at answered
  · cases answered
    exact member
  · split at answered
    · cases answered
      exact member
    · split at answered
      · cases answered
        exact (mem_remove.mp member).1
      · cases answered
        exact member

theorem le_of_sub {first second : Int} (young : ¬ udpPeerTTL < sub first second) :
    first - second ≤ udpPeerTTL := by
  have bound : udpPeerTTL = 120000000000 := rfl
  simp only [sub, bound] at young ⊢
  omega

theorem exists_of_known (answered : known now (some addr) seen = (true, after)) :
    udpPeerKey (some addr) ≠ "" ∧ ∃ peer ∈ seen.entries,
      peer.key = udpPeerKey (some addr) ∧ now - peer.last ≤ udpPeerTTL := by
  simp only [known] at answered
  split at answered
  · cases answered
  · rename_i usable
    split at answered
    · cases answered
    · rename_i peer found
      split at answered
      · cases answered
      · rename_i young
        obtain ⟨member, same⟩ := Table.get_eq_some_iff.mp found
        exact ⟨usable, peer, member, same, le_of_sub young⟩

def Inbound.Holds (initial : Option TunnelACL) (history : List Event) : Inbound → Prop
  | .remembering source => JustAdmitted initial history source
  | .reading => True
  | .checking _ => True
  | .encoding => True
  | .stopped => True

def Outbound.Holds (initial : Option TunnelACL) (history : List Event) : Outbound → Prop
  | .loading addr now => FreshPeer initial history addr now
  | .writing addr acl now => Replies initial history addr acl now
  | .decoding => True
  | .asking _ => True
  | .stopped => True

structure Invariant (initial : Option TunnelACL) (history : List Event)
    (state : State) : Prop where
  acl : state.acl = inForce initial history
  seen : ∀ peer ∈ state.seen.entries, Vouched initial history peer.key peer.last
  inbound : state.inbound.Holds initial history
  outbound : state.outbound.Holds initial history

theorem Inbound.Holds.append {inbound : Inbound} (holds : inbound.Holds initial history)
    (quiet : ∀ event ∈ more, event.isInbound = false) :
    inbound.Holds initial (history ++ more) := by
  cases inbound with
  | remembering source => exact JustAdmitted.append holds quiet
  | reading | checking | encoding | stopped => trivial

theorem Outbound.Holds.append {outbound : Outbound}
    (holds : outbound.Holds initial history) (more : List Event) :
    outbound.Holds initial (history ++ more) := by
  cases outbound with
  | loading addr now => exact FreshPeer.append holds more
  | writing addr acl now => exact Replies.append holds more
  | decoding | asking | stopped => trivial

theorem Stepped.invariant (stepped : Stepped state shown next)
    (held : Invariant initial history state) : Invariant initial (history ++ shown) next := by
  have seen : ∀ peer ∈ state.seen.entries, Vouched initial (history ++ shown) peer.key peer.last :=
    fun peer member => (held.seen peer member).append shown
  have outbound := held.outbound.append shown
  cases stepped with
  | setACL acl =>
    refine ⟨?_, seen, held.inbound.append ?_, outbound⟩
    · rw [inForce_append]
      rfl
    · exact forall_mem_singleton.mpr rfl
  | receive source =>
    refine ⟨?_, seen, trivial, outbound⟩
    rw [inForce_append, ← held.acl]
    rfl
  | pass admitted =>
    rw [held.acl] at admitted
    refine ⟨?_, seen, ⟨history, [], rfl, admitted, forall_mem_nil _⟩, outbound⟩
    rw [inForce_append, ← held.acl]
    rfl
  | @remember source now order place =>
    have just : JustAdmitted initial history source := by
      have inbound := held.inbound
      rwa [place] at inbound
    refine ⟨?_, ?_, trivial, outbound⟩
    · rw [inForce_append, ← held.acl]
      rfl
    · intro peer member
      rcases mem_remember member with rfl | old
      · exact ⟨source, rfl, history, [], rfl, just⟩
      · exact seen peer old
  | @inboundIdle inbound idle =>
    rw [append_nil] at seen outbound ⊢
    refine ⟨held.acl, seen, ?_, outbound⟩
    cases inbound with
    | remembering source => exact (idle source rfl).elim
    | reading | checking | encoding | stopped => trivial
  | @ask addr now after answered =>
    rw [append_nil] at seen ⊢
    obtain ⟨usable, peer, member, same, young⟩ := exists_of_known answered
    refine ⟨held.acl, fun peer member => seen peer (mem_known answered member),
      held.inbound, usable, peer.last, young, ?_⟩
    rw [← same]
    exact seen peer member
  | forget answered =>
    rw [append_nil] at seen ⊢
    exact ⟨held.acl, fun peer member => seen peer (mem_known answered member),
      held.inbound, trivial⟩
  | @load addr now place admitted =>
    rw [append_nil] at seen ⊢
    have fresh := held.outbound
    rw [place] at fresh
    exact ⟨held.acl, seen, held.inbound, ⟨⟨history, prefix_refl _, held.acl.symm⟩, admitted, fresh⟩⟩
  | write place idle =>
    refine ⟨?_, seen, held.inbound.append ?_, ?_⟩
    · rw [inForce_append, ← held.acl]
      rfl
    · exact forall_mem_singleton.mpr rfl
    · rcases idle with rfl | rfl
      all_goals trivial
  | outboundIdle idle =>
    rw [append_nil] at seen ⊢
    refine ⟨held.acl, seen, held.inbound, ?_⟩
    rcases idle with rfl | rfl | ⟨addr, rfl⟩
    all_goals trivial

theorem started_invariant (initial : Option TunnelACL) : Invariant initial [] (started initial) :=
  ⟨rfl, forall_mem_nil _, trivial, trivial⟩

/-- What a written datagram has to answer to. -/
def Event.Justified (initial : Option TunnelACL) (before : List Event) : Event → Prop
  | .wrote addr acl now => Replies initial before addr acl now
  | .aclSet _ => True
  | .received _ => True
  | .admitted _ => True
  | .remembered _ _ => True

theorem Stepped.justified (stepped : Stepped state shown next)
    (held : Invariant initial history state) {earlier later : List Event}
    {event : Event} (split : shown = earlier ++ event :: later) :
    event.Justified initial (history ++ earlier) := by
  have single : ∀ only, shown = [only] → earlier = [] ∧ event = only := by
    intro only same
    rw [same] at split
    cases earlier with
    | nil => exact ⟨rfl, (List.cons.inj split).1.symm⟩
    | cons first rest =>
      have tail := (List.cons.inj split).2
      simp at tail
  have nonempty : shown ≠ [] := by
    rw [split]
    simp
  cases stepped with
  | setACL | receive | pass | remember =>
    obtain ⟨_, rfl⟩ := single _ rfl
    trivial
  | write place idle =>
    obtain ⟨rfl, rfl⟩ := single _ rfl
    have replies := held.outbound
    rw [place] at replies
    rw [append_nil]
    exact replies
  | inboundIdle | ask | forget | load | outboundIdle =>
    exact (nonempty rfl).elim

/-- A UDP tunnel is no relay: however inbound datagrams, messages of the agent,
calls of `SetACL` and clock values interleave, a datagram is written only to an
address whose key was remembered from an inbound datagram that the ACL then in
force admitted, no longer than the lifetime of an entry before, and that the ACL
loaded for this write admits. -/
theorem writes_answer_peers (initial : Option TunnelACL) {state : State}
    {history before after : List Event} {addr : UDPAddr} {acl : Option TunnelACL} {now : Time}
    (run : Run tunnelUDP Unrestricted (started initial) history state)
    (written : history = before ++ .wrote addr acl now :: after) :
    Replies initial before addr acl now := by
  refine run.justified (Invariant initial) (started_invariant initial) ?_
    (fun before event => event.Justified initial before) ?_ written
  · intro history shown state next input held _ stepped
    exact (step_stepped stepped).invariant held
  · intro history shown state next input held _ stepped earlier event later
      split
    exact (step_stepped stepped).justified held split

def exchange : List Input :=
  [.receive ⟨v4InV6Prefix ++ [192, 0, 2, 1], 5000, ""⟩, .check,
    .remember 7 id, .encode false,
    .decode (some ⟨[192, 0, 2, 1], 5000, ""⟩), .known 8, .load, .write false]

def sampleACL : Option TunnelACL := some [⟨[192, 0, 2, 0], [255, 255, 255, 0]⟩]

def Event.isWrite : Event → Bool
  | .wrote _ _ _ => true
  | _ => false

def writesLast (outcome : State × List Event) : Bool := (outcome.2.getLast?).any Event.isWrite

theorem writes_answer_peers_exchange :
    ∃ state history before addr acl now,
      Run tunnelUDP Unrestricted (started sampleACL) history state ∧
      history = before ++ [.wrote addr acl now] ∧
      Replies sampleACL before addr acl now := by
  obtain ⟨state, history, run, checked⟩ := Run.exists_unrestricted tunnelUDP
    (started sampleACL) exchange writesLast (by decide +kernel)
  rcases eq_nil_or_concat' history with rfl | ⟨before, last, rfl⟩
  · cases checked
  · cases last with
    | wrote addr acl now =>
      exact ⟨state, _, before, addr, acl, now, run, rfl, writes_answer_peers sampleACL run rfl⟩
    | aclSet | received | admitted | remembered =>
      simp [writesLast, Event.isWrite] at checked

/-- `evictLocked` visits every entry of the map. -/
def Visits (_ : State) : Input → Prop
  | .remember _ order => ∀ peers, (order peers).Perm peers
  | _ => True

def Bounded (seen : PeerTable) : Prop := seen.entries.length ≤ maxTrackedUDPPeers

theorem oldestPeer_mem (peers : List Peer) :
    peers = [] ∨ ∃ oldest ∈ peers, oldestPeer peers = some oldest := by
  induction peers using reverseRecOn with
  | nil => exact .inl rfl
  | append_singleton peers peer induction =>
    rw [oldestPeer, foldl_append, ← oldestPeer]
    rcases induction with rfl | ⟨known, member, found⟩
    · exact .inr ⟨peer, mem_singleton_self _, rfl⟩
    · simp only [found, foldl_cons, foldl_nil]
      grind

variable {now : Time} {order : List Peer → List Peer} {seen : PeerTable}

theorem removeExpired_bounded (peers : List Peer) (bounded : Bounded seen) :
    Bounded (removeExpired now peers seen) := by
  refine foldlRecOn peers _ bounded fun table kept peer _ => ?_
  split
  · exact (length_filter_le ..).trans kept
  · exact kept

theorem evictLocked_room (visits : ∀ peers, (order peers).Perm peers) (bounded : Bounded seen) :
    (evictLocked now order seen).entries.length < maxTrackedUDPPeers := by
  have kept : Bounded (removeExpired now _ seen) := removeExpired_bounded seen.entries bounded
  simp only [evictLocked]
  generalize removeExpired now seen.entries seen = rest at kept ⊢
  split
  · assumption
  · rename_i full
    -- a full table has an oldest entry
    rcases oldestPeer_mem (order rest.entries) with empty | ⟨oldest, member, found⟩
    · have none := (visits rest.entries).length_eq
      rw [empty, length_nil] at none
      exact absurd (none ▸ by decide) full
    · rw [found]
      exact (length_filter_lt_length_iff_exists.mpr
        ⟨oldest, (visits _).mem_iff.mp member, by simp⟩).trans_le kept

theorem remember_bounded {addr : Option UDPAddr} (visits : ∀ peers, (order peers).Perm peers)
    (bounded : Bounded seen) : Bounded (remember now order addr seen) := by
  have put {table : PeerTable} (room : table.entries.length < maxTrackedUDPPeers) (peer : Peer) :
      Bounded (table.put peer) := (Nat.succ_le_succ (length_filter_le ..)).trans room
  simp only [remember]
  split
  · exact bounded
  split
  · exact put (evictLocked_room visits bounded) _
  · rename_i room
    cases listed : seen.get (udpPeerKey addr) with
    | none => exact put (Nat.lt_of_not_le fun full => room ⟨listed, full⟩) _
    | some peer =>
      obtain ⟨member, same⟩ := Table.get_eq_some_iff.mp listed
      exact (Nat.succ_le_of_lt (length_filter_lt_length_iff_exists.mpr
        ⟨peer, member, by simp [same]⟩)).trans bounded

theorem known_bounded {addr : Option UDPAddr} {answer : Bool} {rest : PeerTable}
    (answered : known now addr seen = (answer, rest)) (bounded : Bounded seen) :
    Bounded rest := by
  obtain rfl : (known now addr seen).2 = rest := congrArg Prod.snd answered
  simp only [known]
  split
  · exact bounded
  split
  · exact bounded
  split
  · exact (length_filter_le ..).trans bounded
  · exact bounded

theorem step_bounded (bounded : Bounded state.seen) (visits : Visits state input)
    (stepped : step state input = some (next, shown)) : Bounded next.seen := by
  simp only [step.eq_def] at stepped
  split at stepped
  · cases stepped
    exact bounded
  · rcases Option.or_eq_some_iff.mp stepped with inbound | ⟨_, outbound⟩
    · simp only [inboundStep.eq_def] at inbound
      split at inbound
      case h_2 => split at inbound <;> cases inbound <;> exact bounded
      case h_3 =>
        cases inbound
        exact remember_bounded visits bounded
      all_goals cases inbound
      all_goals exact bounded
    · simp only [outboundStep.eq_def] at outbound
      split at outbound
      case h_2 =>
        split at outbound <;> rename_i answered <;> cases outbound
        all_goals exact known_bounded answered bounded
      case h_3 => split at outbound <;> cases outbound <;> exact bounded
      all_goals cases outbound
      all_goals exact bounded

/-- Whatever datagrams come in and however the loops and the clock interleave, the
table of peers keeps its size. -/
theorem peers_bounded {acl : Option TunnelACL} {history : List Event}
    (run : Run tunnelUDP Visits (started acl) history state) : Bounded state.seen :=
  run.stateInvariant (fun state => Bounded state.seen) (Nat.zero_le _) step_bounded

theorem peers_bounded_one : ∃ state history,
    Run tunnelUDP Visits (started none) history state ∧ state.seen.entries.length = 1 ∧
      Bounded state.seen :=
  Run.exists_reaching_follows (exchange.take 3) (by decide +kernel)
    (And.intro trivial (And.intro trivial (And.intro (fun _ => .refl _) trivial)))
    fun run _ => peers_bounded run

end ProxiPort.TunnelUDP
