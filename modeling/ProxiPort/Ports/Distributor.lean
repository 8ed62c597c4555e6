import ProxiPort.Foundation.Threads
import Mathlib.Data.Finset.Basic
import Mathlib.Data.Finset.SDiff
import Mathlib.Data.Finset.Filter

/-!
# The port distributor

`server/ports/port_distributor.go` keeps one pool of free local ports for each
of the protocols tcp and udp, and one set of reserved ports for both.  The
bodies of `GetRandomPort`, `Reserve` and `Refresh` are cut here at the
distributor's mutex: reading the busy ports of the machine is a section of its
own, so a snapshot may be old by the time `refresh` takes the lock.
-/

namespace ProxiPort.Ports

open Concurrency

/-- The protocol vocabulary of `models.IsValidProtocol`. -/
inductive Protocol where
  | tcp
  | udp
  | tcpUdp
  deriving DecidableEq, Repr

namespace Protocol

def subProtocols : Protocol → List Protocol
  | .tcpUdp => [.tcp, .udp]
  | protocol => [protocol]

/-- Two protocols compete for a port number when they share a pool. -/
def Overlaps (left right : Protocol) : Prop :=
  ∃ protocol ∈ left.subProtocols, protocol ∈ right.subProtocols

instance (left right : Protocol) : Decidable (left.Overlaps right) := inferInstanceAs
    (Decidable (∃ protocol ∈ left.subProtocols, protocol ∈ right.subProtocols))

end Protocol

structure Connection where
  status : String
  laddrPort : Nat
  deriving DecidableEq, Repr

/-- The sockets the operating system reports for tcp and for udp. -/
abbrev NetConnections := Protocol → List Connection

namespace Connection

def isActive (connection : Connection) : Bool :=
  connection.status = "LISTEN" || connection.status = "NONE" || connection.status = ""

end Connection

def activePorts (connections : List Connection) : Finset Int :=
  ((connections.filter fun connection =>
    connection.isActive && connection.laddrPort != 0).map
      fun connection => (connection.laddrPort : Int)).toFinset

/-- Local ports in use for a protocol; tcp+udp unites the two halves. -/
def listBusyPorts (connections : NetConnections) : Protocol → Finset Int
  | .tcpUdp => activePorts (connections .tcp) ∪ activePorts (connections .udp)
  | protocol => activePorts (connections protocol)

structure PortDistributor where
  allowedPorts : Finset Int
  portsPools : Protocol → Option (Finset Int)
  reserved : Finset Int

namespace PortDistributor

/-- `NewPortDistributor`: no pool exists before the first refresh. -/
def new (allowedPorts : Finset Int) : PortDistributor :=
  { allowedPorts := allowedPorts
    portsPools := fun _ => none
    reserved := ∅ }

/-- The part of `refresh` under the lock: a reserved port that shows up as
busy loses its reservation, and the pool is rebuilt from the snapshot. -/
def refresh (distributor : PortDistributor) (protocol : Protocol)
    (busyPorts : Finset Int) : PortDistributor :=
  let reserved := distributor.reserved.filter (· ∉ busyPorts)
  { distributor with
    reserved := reserved
    portsPools := Function.update distributor.portsPools protocol
      (some ((distributor.allowedPorts \ busyPorts) \ reserved)) }

/-- `Reserve`, and the tail of `GetRandomPort`: take a port out of every pool
of the protocol and mark it reserved. -/
def reserve (distributor : PortDistributor) (protocol : Protocol) (port : Int) : PortDistributor :=
  { distributor with
    reserved := insert port distributor.reserved
    portsPools := fun candidate =>
      if candidate ∈ protocol.subProtocols then
        (distributor.portsPools candidate).map (·.erase port)
      else distributor.portsPools candidate }

/-- The loop that intersects the pools of the sub-protocols; `none` is the
exit for a pool that does not exist. -/
def candidates (distributor : PortDistributor) :
    List Protocol → Option (Finset Int) → Option (Option (Finset Int))
  | [], found => some found
  | protocol :: protocols, found =>
    match distributor.portsPools protocol with
    | none => none
    | some pool =>
      distributor.candidates protocols (some (match found with
          | none => pool
          | some ports => ports ∩ pool))

end PortDistributor

/-- A port that was handed out or reserved for a protocol and whose tunnel has
not been closed. -/
structure Booking where
  protocol : Protocol
  port : Int
  deriving DecidableEq, Repr

structure World where
  distributor : PortDistributor
  netConnections : NetConnections
  bookings : List Booking

inductive Call where
  | getRandomPort (protocol : Protocol)
  | reserve (protocol : Protocol) (port : Int)
  | refresh

inductive Continuation where
  /-- `Refresh` goes on with the next pool. -/
  | refreshAll (remaining : List Protocol)
  /-- `GetRandomPort` goes on checking that its pools exist. -/
  | getRandomPort (protocol : Protocol) (remaining : List Protocol)

inductive Result where
  | port (port : Int)
  | reserved
  | refreshed
  | failed (message : String)
  deriving DecidableEq, Repr

inductive Thread where
  | checkPool (pool : Protocol) (remaining : List Protocol) (protocol : Protocol)
  | listBusy (pool : Protocol) (continuation : Continuation)
  | refreshLocked (pool : Protocol) (busyPorts : Finset Int) (continuation : Continuation)
  | allocate (protocol : Protocol)
  | reserveLocked (protocol : Protocol) (port : Int)
  | returned (result : Result)

namespace Thread

def checkPools (protocol : Protocol) : List Protocol → Thread
  | [] => .allocate protocol
  | pool :: remaining => .checkPool pool remaining protocol

def refreshAll : List Protocol → Thread
  | [] => .returned .refreshed
  | pool :: remaining => .listBusy pool (.refreshAll remaining)

def resume : Continuation → Thread
  | .refreshAll remaining => refreshAll remaining
  | .getRandomPort protocol remaining => checkPools protocol remaining

def enter : Call → Thread
  | .getRandomPort protocol => checkPools protocol protocol.subProtocols
  | .reserve protocol port => .reserveLocked protocol port
  | .refresh => refreshAll [.tcp, .udp]

end Thread

/-- What the distributor does not decide: which candidate `Pop` yields, and
whether the socket listing fails. -/
inductive Choice where
  | proceed
  | listingFails (message : String)
  | pop (port : Int)

inductive Event where
  | bind (protocol : Protocol) (connection : Connection)
  | unbind (protocol : Protocol) (connection : Connection)
  | closeTunnel (booking : Booking)

inductive Output where
  | handedOut (protocol : Protocol) (port : Int)
  deriving DecidableEq, Repr

def allocate (world : World) (protocol : Protocol) : Choice → Option (World × Thread × List Output)
  | .pop port =>
    match world.distributor.candidates protocol.subProtocols none with
    | some (some ports) =>
      if port ∈ ports then
        some ({ world with
            distributor := world.distributor.reserve protocol port
            bookings := ⟨protocol, port⟩ :: world.bookings },
          .returned (.port port), [.handedOut protocol port])
      else none
    | _ => none
  | .proceed =>
    match world.distributor.candidates protocol.subProtocols none with
    | some (some ports) =>
      if ports = ∅ then
        some (world, .returned (.failed "no ports available"), [])
      else none
    | _ => some (world, .returned (.failed "no ports available"), [])
  | .listingFails _ => none

def atomic (world : World) : Thread → Choice → Option (World × Thread × List Output)
  | .checkPool pool remaining protocol, .proceed =>
    match world.distributor.portsPools pool with
    | none =>
      some (world, .listBusy pool (.getRandomPort protocol remaining), [])
    | some _ => some (world, .checkPools protocol remaining, [])
  | .listBusy pool continuation, .proceed =>
    some (world, .refreshLocked pool (listBusyPorts world.netConnections pool) continuation, [])
  | .listBusy _ _, .listingFails message =>
    some (world, .returned (.failed message), [])
  | .refreshLocked pool busyPorts continuation, .proceed =>
    some ({ world with
        distributor := world.distributor.refresh pool busyPorts },
      .resume continuation, [])
  | .allocate protocol, choice => allocate world protocol choice
  | .reserveLocked protocol port, .proceed =>
    some ({ world with
        distributor := world.distributor.reserve protocol port
        bookings := ⟨protocol, port⟩ :: world.bookings },
      .returned .reserved, [])
  | _, _ => none

def environment (world : World) : Event → Option (World × List Output)
  | .bind protocol connection =>
    some ({ world with
      netConnections := Function.update world.netConnections protocol
        (connection :: world.netConnections protocol) }, [])
  | .unbind protocol connection =>
    some ({ world with
      netConnections := Function.update world.netConnections protocol
        ((world.netConnections protocol).erase connection) }, [])
  | .closeTunnel booking =>
    some ({ world with bookings := world.bookings.erase booking }, [])

def program : Program World Thread Call Choice Event Output where
  enter := Thread.enter
  atomic := atomic
  environment := environment

/-- The server right after `NewPortDistributor`, on a machine with any
sockets. -/
def initial (allowedPorts : Finset Int) (connections : NetConnections) : Config World Thread :=
  { shared :=
      { distributor := .new allowedPorts
        netConnections := connections
        bookings := [] }
    threads := [] }

end ProxiPort.Ports
