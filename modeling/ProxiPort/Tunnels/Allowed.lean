import ProxiPort.Clients.Remote
import ProxiPort.Go.Net
import ProxiPort.Go.Unicode

/-!
# What an agent may dial

`client/tunnel_allowed.go`, and the code paths in which an agent dials for a
stream: `connectStreams` of `client/client.go` with `HandleTCPStream` and the
handler of `client/udp.go`, and `handleDirectTCPIP` of `client/e2e/server.go`.
The decision and the dial each look a name up, and the resolver answers each
look-up as it likes.
-/

namespace ProxiPort.Agent

open Concurrency Go

/-- What the resolver answers to one look-up of a name. -/
abbrev Answer := Except String (List IP)

/-- `net.LookupIP`: a literal address is not looked up. -/
def lookupIP (answer : Answer) (host : String) : Answer :=
  if host = "" then .error "no such host"
  else
    match parseAddr host with
    | some addr => .ok [addr.as16]
    | none => answer

/-- `net.LookupPort`, with the numbers of the named services. -/
def lookupPort (services : String → Option Int) (service : String) : Except String Nat :=
  match (parsePort service).or (services service) with
  | none => .error "unknown port"
  | some port =>
    if 0 ≤ port ∧ port ≤ 65535 then .ok port.toNat
    else .error "invalid port"

abbrev Target := IP × Nat

/-- The addresses that `net.Dial` tries (`internetAddrList`): without a host it
is the local system, and after `::` it falls back to `0.0.0.0`. -/
def dialAddresses (services : String → Option Int) (answer : Answer)
    (address : String) : Except String (List Target) := do
  let (host, service) ← splitHostPort address
  let port ← lookupPort services service
  if host = "" then return [([], port)]
  else
    let ips ← lookupIP answer host
    let ips :=
      if ips = [List.replicate 16 0] then ips ++ [v4InV6Prefix ++ [0, 0, 0, 0]]
      else ips
    return ips.map fun ip => (ip, port)

section Allowed

variable (unicode : Go.Unicode)

def parseTunnelAllowed (input : String) : Except String (Option IPNet × String) :=
  match split input ':' with
  | [part] =>
    match parseCIDR part with
    | some network => .ok (some network, "")
    | none =>
      match parseIP part with
      | some ip => .ok (some ⟨ip, cidrMask 32 32⟩, "")
      | none =>
        if part = "" then
          .error ("empty value not allowed: " ++ quote unicode input)
        else if (atoi part).isNone then
          .error ("invalid port: " ++ quote unicode part)
        else .ok (none, part)
  | [part, portStr] =>
    let network : Except String (Option IPNet) :=
      if part = "" then .ok none
      else
        match parseCIDR part with
        | some network => .ok (some network)
        | none =>
          match parseIP part with
          | some ip => .ok (some ⟨ip, cidrMask 32 32⟩)
          | none => .error ("invalid ip range: " ++ quote unicode part)
    match network with
    | .error err => .error err
    | .ok network =>
      if portStr = "" ∧ network = none then
        .error ("empty value not allowed: " ++ quote unicode input)
      else if portStr ≠ "" ∧ (atoi portStr).isNone then
        .error ("invalid port: " ++ quote unicode portStr)
      else .ok (network, portStr)
  | _ => .error ("invalid value: " ++ quote unicode input)

/-- The inner loop of `TunnelIsAllowed`: some entry covers the address. -/
def coveredBy (remotePort : String) (ip : IP) : List String → Except String Bool
  | [] => .ok false
  | entry :: entries =>
    match parseTunnelAllowed unicode entry with
    | .error err => .error err
    | .ok (network, port) =>
      if network.any (fun network => !network.contains ip) then
        coveredBy remotePort ip entries
      else if port ≠ "" ∧ port ≠ remotePort then
        coveredBy remotePort ip entries
      else .ok true

/-- The outer loop of `TunnelIsAllowed`. -/
def allCovered (tunnelAllowed : List String) (remotePort : String) : List IP → Except String Bool
  | [] => .ok true
  | ip :: ips =>
    match coveredBy unicode remotePort ip tunnelAllowed with
    | .error err => .error err
    | .ok false => .ok false
    | .ok true => allCovered tunnelAllowed remotePort ips

/-- `TunnelIsAllowed`, with the answer to its look-up. -/
def tunnelIsAllowed (tunnelAllowed : List String) (answer : Answer)
    (remote : String) : Except String Bool :=
  if tunnelAllowed = [] then .ok true
  else do
    let (host, remotePort) ← splitHostPort remote
    let ips ← lookupIP answer host
    allCovered unicode tunnelAllowed remotePort ips

/-- The list permits an address and a port: it is empty, or an entry covers
both. -/
def Permitted (tunnelAllowed : List String) (target : Target) : Prop :=
  tunnelAllowed = [] ∨
    ∃ entry ∈ tunnelAllowed, ∃ network port,
      parseTunnelAllowed unicode entry = .ok (network, port) ∧
      (∀ known ∈ network, IPNet.contains known target.1 = true) ∧
      (port = "" ∨ parsePort port = some (target.2 : Int))

def permits (target : Target) (entry : String) : Bool :=
  match parseTunnelAllowed unicode entry with
  | .error _ => false
  | .ok (network, port) =>
    network.all (fun known => known.contains target.1) &&
      (port = "" || parsePort port = some (target.2 : Int))

theorem permits_iff {target : Target} {entry : String} :
    permits unicode target entry = true ↔
      ∃ network port, parseTunnelAllowed unicode entry = .ok (network, port) ∧
        (∀ known ∈ network, IPNet.contains known target.1 = true) ∧
        (port = "" ∨ parsePort port = some (target.2 : Int)) := by
  rw [permits]
  cases parseTunnelAllowed unicode entry with
  | error err => simp
  | ok parsed =>
    obtain ⟨network, port⟩ := parsed
    simp only [Bool.and_eq_true, Option.all_eq_true, Bool.or_eq_true,
      decide_eq_true_eq, Except.ok.injEq, Prod.mk.injEq]
    constructor
    · intro covers
      exact ⟨network, port, ⟨rfl, rfl⟩, covers⟩
    · rintro ⟨_, _, ⟨rfl, rfl⟩, covers⟩
      exact covers

instance decidablePermitted (tunnelAllowed : List String) (target : Target) :
    Decidable (Permitted unicode tunnelAllowed target) :=
  decidable_of_iff (tunnelAllowed = [] ∨
      ∃ entry ∈ tunnelAllowed, permits unicode target entry = true)
    (by simp only [permits_iff, Permitted])

end Allowed

structure Settings where
  unicode : Go.Unicode
  tunnelAllowed : List String

/-- A connection of the UDP handler: the text of the peer's address and where
it leads. -/
structure Conn where
  id : String
  target : Target
  deriving DecidableEq

/-- A request that has passed the check, with the answer the check got. -/
inductive Stream where
  /-- About to dial TCP. -/
  | dialing (remote : String) (answer : Answer)
  /-- A UDP handler. -/
  | handling (remote : String) (answer : Answer) (conns : List Conn)
  | ended

inductive Input where
  /-- A channel of `connectStreams`. -/
  | stream (extraData : String) (answer : Answer) (accepted : Bool)
  /-- A channel of `handleDirectTCPIP`. -/
  | direct (host : String) (port : Nat) (answer : Answer)
  /-- The dial of a TCP stream: which of the addresses are tried. -/
  | dial (index : Nat) (services : String → Option Int) (answer : Answer) (tried : List Nat)
  /-- A message for the UDP handler: which of the addresses are tried, and
  which one works, if it has to dial. -/
  | datagram (index : Nat) (id : String) (services : String → Option Int)
      (answer : Answer) (tried : List Nat) (won : Nat)
  /-- A connection of the UDP handler is closed. -/
  | close (index : Nat) (id : String)

inductive Event where
  | connected (target : Target)
  | sent (target : Target)

def Event.target : Event → Target
  | .connected target => target
  | .sent target => target

section Steps

variable (settings : Settings)

/-- The decision of `connectStreams` and of `Config.Allowed`; an error is a
refusal. -/
def allowed (answer : Answer) (remote : String) : Bool :=
  tunnelIsAllowed settings.unicode settings.tunnelAllowed answer remote = .ok true

def remoteAndProtocol (extraData : String) : String × String :=
  let remote := String.ofList (extraData.toList.takeWhile (· ≠ '/'))
  match extraData.toList.dropWhile (· ≠ '/') with
  | [] => (remote, "tcp")
  | _ :: protocol => (remote, String.ofList protocol)

def connectStream (extraData : String) (answer : Answer) (accepted : Bool) :
    Stream :=
  let (remote, protocol) := remoteAndProtocol extraData
  if allowed settings answer remote ∧ accepted then
    if protocol = "tcp" then .dialing remote answer
    else if protocol = "udp" then .handling remote answer []
    else .ended
  else .ended

def handleDirectTCPIP (host : String) (port : Nat) (answer : Answer) : Stream :=
  let remote := Clients.joinHostPort host (Nat.repr port)
  if port = 0 ∨ 65535 < port then .ended
  else if allowed settings answer remote then .dialing remote answer
  else .ended

def attempts (targets : List Target) (tried : List Nat) : List Event :=
  (tried.filterMap fun index => targets[index]?).map .connected

/-- One message of `Handle`, with `getConn`. -/
def handleMessage (remote : String) (checked : Answer) (conns : List Conn)
    (id : String) (services : String → Option Int) (answer : Answer)
    (tried : List Nat) (won : Nat) : Stream × List Event :=
  match conns.find? fun conn => conn.id = id with
  | some conn => (.handling remote checked conns, [.sent conn.target])
  | none =>
    match dialAddresses services answer remote with
    | .error _ => (.ended, [])
    | .ok targets =>
      match targets[won]? with
      | none => (.ended, attempts targets tried)
      | some target =>
        (.handling remote checked (conns ++ [⟨id, target⟩]),
          attempts targets tried ++ [.sent target])

def streamStep : Stream → Input → Option (Stream × List Event)
  | .dialing remote _, .dial _ services answer tried =>
    match dialAddresses services answer remote with
    | .error _ => some (.ended, [])
    | .ok targets => some (.ended, attempts targets tried)
  | .handling remote checked conns, .datagram _ id services answer tried won =>
    some (handleMessage remote checked conns id services answer tried won)
  | .handling remote checked conns, .close _ id =>
    some (.handling remote checked (conns.filter fun conn => conn.id ≠ id), [])
  | _, _ => none

def Input.index : Input → Option Nat
  | .dial index _ _ _ => some index
  | .datagram index _ _ _ _ _ => some index
  | .close index _ => some index
  | .stream _ _ _ => none
  | .direct _ _ _ => none

def step (streams : List Stream) (input : Input) : Option (List Stream × List Event) :=
  match input with
  | .stream extraData answer accepted =>
    some (streams ++ [connectStream settings extraData answer accepted], [])
  | .direct host port answer =>
    some (streams ++ [handleDirectTCPIP settings host port answer], [])
  | input => do
    let index ← input.index
    let stream ← streams[index]?
    let (after, shown) ← streamStep stream input
    return (streams.set index after, shown)

end Steps

def agentStreams (settings : Settings) : System (List Stream) Input Event := ⟨step settings⟩

end ProxiPort.Agent
