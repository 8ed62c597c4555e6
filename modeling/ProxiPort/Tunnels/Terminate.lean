import ProxiPort.Foundation.Run
import Mathlib.Data.List.Count

/-!
# Terminating a tunnel of two protocols

`MultiProtocolTunnel.Terminate` of `server/clients/clienttunnel/tunnel.go` over
the two halves of a tcp+udp tunnel, next to the goroutines it stops.  It asks
every half whether it can be terminated before it terminates any, but the tcp
half asks itself once more, and a connection may have come in between: then the
call fails with the tcp half still serving and the udp half stopped.
-/

namespace ProxiPort.TunnelStop

open Concurrency

/-- Where the goroutine of an accepted connection is: `connCount` counts it
from the start of `accept` to its end, the wait group a little longer on either
side. -/
inductive Connection where
  | accepted
  | counted
  | uncounted
  | done
  deriving DecidableEq, Repr

/-- `tunnelTCP`: whether `stopFn` is set, whether its context is cancelled,
whether `listen` is still there, and the connections it has accepted. -/
structure TunnelTCP where
  stopFn : Bool
  cancelled : Bool
  listening : Bool
  connections : List Connection
  deriving DecidableEq, Repr

/-- `tunnelUDP`: whether its context is cancelled, whether `runInbound` is still
there, which closes `done` at its end, and whether the agent channel is open. -/
structure TunnelUDP where
  cancelled : Bool
  reading : Bool
  channelOpen : Bool
  deriving DecidableEq, Repr

structure Tunnel where
  tcp : TunnelTCP
  udp : TunnelUDP
  deriving DecidableEq, Repr

namespace TunnelTCP

def connCount (tunnel : TunnelTCP) : Nat := tunnel.connections.count .counted

def waited (tunnel : TunnelTCP) : Bool := !tunnel.listening && tunnel.connections.all (· = .done)

def canTerminate (tunnel : TunnelTCP) (force : Bool) : Option String :=
  if !force ∧ 0 < tunnel.connCount then
    some ("tunnel has " ++ toString tunnel.connCount ++ " active connection(s)")
  else none

end TunnelTCP

inductive Protocol where
  | tcp
  | udp
  deriving DecidableEq, Repr

def protocols : List Protocol := [.tcp, .udp]

/-- `CanTerminate` of one protocol; a udp tunnel always can. -/
def Tunnel.canTerminate (tunnel : Tunnel) (force : Bool) : Protocol → Option String
  | .tcp => tunnel.tcp.canTerminate force
  | .udp => none

/-- Where `Terminate` is, with the protocols still to treat and the errors that
were collected. -/
inductive Call where
  | canTerminate (remaining : List Protocol) (errs : List String)
  | terminate (remaining : List Protocol) (errs : List String)
  | stop (remaining : List Protocol) (errs : List String)
  | wait (remaining : List Protocol) (errs : List String)
  | done (remaining : List Protocol) (errs : List String)
  | chanClosed (remaining : List Protocol) (errs : List String)
  | returned (errs : List String)
  deriving DecidableEq, Repr

structure State where
  tunnel : Tunnel
  call : Call
  deriving DecidableEq, Repr

/-- What the goroutines do: a connection comes in, the goroutine of a
connection goes on, and the goroutines that notice a cancelled context. -/
inductive Event where
  | accept
  | proceed (connection : Nat)
  | listenReturns
  | inboundReturns
  | channelCloses
  deriving DecidableEq, Repr

inductive Input where
  | call
  | event (event : Event)
  deriving DecidableEq, Repr

def callStep (force : Bool) (tunnel : Tunnel) : Call → Option (Tunnel × Call)
  | .canTerminate [] errs =>
    some (tunnel, if errs = [] then .terminate protocols []
      else .returned errs)
  | .canTerminate (protocol :: remaining) errs =>
    some (tunnel, .canTerminate remaining (errs ++ (tunnel.canTerminate force protocol).toList))
  | .terminate [] errs => some (tunnel, .returned errs)
  | .terminate (.tcp :: remaining) errs =>
    match tunnel.tcp.canTerminate force with
    | some err => some (tunnel, .terminate remaining (errs ++ [err]))
    | none => some (tunnel, .stop remaining errs)
  | .terminate (.udp :: remaining) errs =>
    some ({ tunnel with udp := { tunnel.udp with cancelled := true } }, .done remaining errs)
  | .stop remaining errs =>
    if tunnel.tcp.stopFn then
      some ({ tunnel with tcp := { tunnel.tcp with cancelled := true } }, .wait remaining errs)
    else some (tunnel, .terminate remaining errs)
  | .wait remaining errs =>
    if tunnel.tcp.waited then
      some ({ tunnel with tcp := { tunnel.tcp with stopFn := false } }, .terminate remaining errs)
    else none
  | .done remaining errs =>
    if tunnel.udp.reading then none
    else some (tunnel, .chanClosed remaining errs)
  | .chanClosed remaining errs =>
    if tunnel.udp.channelOpen then none
    else some (tunnel, .terminate remaining errs)
  | .returned _ => none

def Connection.next : Connection → Option Connection
  | .accepted => some .counted
  | .counted => some .uncounted
  | .uncounted => some .done
  | .done => none

def eventStep (tunnel : Tunnel) : Event → Option Tunnel
  | .accept =>
    if tunnel.tcp.listening then
      some { tunnel with tcp :=
        { tunnel.tcp with
          connections := tunnel.tcp.connections ++ [.accepted] } }
    else none
  | .proceed index => do
    let connection ← tunnel.tcp.connections[index]?
    let next ← connection.next
    pure { tunnel with tcp :=
      { tunnel.tcp with
        connections := tunnel.tcp.connections.set index next } }
  | .listenReturns =>
    if tunnel.tcp.cancelled then
      some { tunnel with tcp := { tunnel.tcp with listening := false } }
    else none
  | .inboundReturns =>
    if tunnel.udp.cancelled then
      some { tunnel with udp := { tunnel.udp with reading := false } }
    else none
  | .channelCloses =>
    if tunnel.udp.cancelled then
      some { tunnel with udp := { tunnel.udp with channelOpen := false } }
    else none

def system (force : Bool) : System State Input Empty where
  step state input :=
    match input with
    | .call =>
      (callStep force state.tunnel state.call).map fun (tunnel, call) => (⟨tunnel, call⟩, [])
    | .event event =>
      (eventStep state.tunnel event).map fun tunnel => (⟨tunnel, state.call⟩, [])

def State.start (tunnel : Tunnel) : State := ⟨tunnel, .canTerminate protocols []⟩

def TunnelTCP.Serving (tunnel : TunnelTCP) : Prop :=
  tunnel.stopFn = true ∧ tunnel.cancelled = false ∧ tunnel.listening = true

/-- Nothing is accepted any more, and no connection is left. -/
def TunnelTCP.Stopped (tunnel : TunnelTCP) : Prop :=
  tunnel.listening = false ∧ ∀ connection ∈ tunnel.connections, connection = .done

def TunnelUDP.Serving (tunnel : TunnelUDP) : Prop :=
  tunnel.cancelled = false ∧ tunnel.reading = true ∧ tunnel.channelOpen = true

def TunnelUDP.Stopped (tunnel : TunnelUDP) : Prop :=
  tunnel.reading = false ∧ tunnel.channelOpen = false

/-- The condition on a step: when the tcp half asks itself once more, no
connection is counted. -/
def StillIdle (state : State) (input : Input) : Prop :=
  match input, state.call with
  | .call, .terminate (.tcp :: _) _ => state.tunnel.tcp.connCount = 0
  | _, _ => True

instance (state : State) (input : Input) : Decidable (StillIdle state input) :=
  match input, state with
  | .call, ⟨tunnel, .terminate (.tcp :: _) _⟩ =>
    inferInstanceAs (Decidable (tunnel.tcp.connCount = 0))
  | .call, ⟨_, .terminate [] _⟩ | .call, ⟨_, .terminate (.udp :: _) _⟩
  | .call, ⟨_, .canTerminate ..⟩ | .call, ⟨_, .stop ..⟩
  | .call, ⟨_, .wait ..⟩ | .call, ⟨_, .done ..⟩
  | .call, ⟨_, .chanClosed ..⟩ | .call, ⟨_, .returned _⟩
  | .event _, _ => .isTrue trivial

def Sound (tunnel : Tunnel) : Call → Prop
  | .canTerminate .. => tunnel.tcp.Serving ∧ tunnel.udp.Serving
  | .terminate remaining errs =>
    errs = [] ∧ (remaining = protocols ∧ tunnel.tcp.Serving ∧ tunnel.udp.Serving ∨
        remaining = [.udp] ∧ tunnel.tcp.Stopped ∧ tunnel.udp.Serving ∨
        remaining = [] ∧ tunnel.tcp.Stopped ∧ tunnel.udp.Stopped)
  | .stop remaining errs =>
    errs = [] ∧ remaining = [.udp] ∧ tunnel.tcp.Serving ∧ tunnel.udp.Serving
  | .wait remaining errs =>
    errs = [] ∧ remaining = [.udp] ∧ tunnel.udp.Serving
  | .done remaining errs =>
    errs = [] ∧ remaining = [] ∧ tunnel.tcp.Stopped
  | .chanClosed remaining errs =>
    errs = [] ∧ remaining = [] ∧ tunnel.tcp.Stopped ∧ tunnel.udp.reading = false
  | .returned errs =>
    (errs ≠ [] → tunnel.tcp.Serving ∧ tunnel.udp.Serving) ∧
      (errs = [] → tunnel.tcp.Stopped ∧ tunnel.udp.Stopped)

theorem TunnelTCP.stopped_of_waited {tunnel : TunnelTCP}
    (waited : tunnel.waited = true) : tunnel.Stopped := by
  simp only [TunnelTCP.waited, Bool.and_eq_true, Bool.not_eq_true',
    List.all_eq_true, decide_eq_true_eq] at waited
  exact waited

variable {tunnel next : Tunnel} {call after : Call}

theorem callStep_sound (sound : Sound tunnel call) (idle : StillIdle ⟨tunnel, call⟩ .call)
    (stepped : callStep false tunnel call = some (next, after)) : Sound next after := by
  cases call with
  | canTerminate remaining errs =>
    cases remaining with
    | nil =>
      cases stepped
      split
      · exact ⟨rfl, .inl ⟨rfl, sound⟩⟩
      · rename_i some_errors
        exact ⟨fun _ => sound, fun none => absurd none some_errors⟩
    | cons protocol remaining =>
      cases stepped
      exact sound
  | terminate remaining errs =>
    obtain ⟨rfl, ⟨rfl, serving, udpServing⟩ | ⟨rfl, stopped, udpServing⟩ |
      ⟨rfl, stopped, udpStopped⟩⟩ := sound
    · have unused : tunnel.tcp.connCount = 0 := idle
      have passes : tunnel.tcp.canTerminate false = none := by
        rw [TunnelTCP.canTerminate, unused]
        rfl
      simp only [callStep, protocols, passes] at stepped
      cases stepped
      exact ⟨rfl, rfl, serving, udpServing⟩
    · cases stepped
      exact ⟨rfl, rfl, stopped⟩
    · cases stepped
      exact ⟨fun wrong => absurd rfl wrong, fun _ => ⟨stopped, udpStopped⟩⟩
  | stop remaining errs =>
    obtain ⟨rfl, rfl, serving, udpServing⟩ := sound
    simp only [callStep, serving.1, if_true] at stepped
    cases stepped
    exact ⟨rfl, rfl, udpServing⟩
  | wait remaining errs =>
    obtain ⟨rfl, rfl, udpServing⟩ := sound
    simp only [callStep] at stepped
    split at stepped
    · rename_i waited
      cases stepped
      have stopped := TunnelTCP.stopped_of_waited waited
      exact ⟨rfl, .inr (.inl ⟨rfl, stopped, udpServing⟩)⟩
    · cases stepped
  | done remaining errs =>
    obtain ⟨rfl, rfl, stopped⟩ := sound
    simp only [callStep] at stepped
    split at stepped
    · cases stepped
    · rename_i ended
      cases stepped
      exact ⟨rfl, rfl, stopped, eq_false_of_ne_true ended⟩
  | chanClosed remaining errs =>
    obtain ⟨rfl, rfl, stopped, ended⟩ := sound
    simp only [callStep] at stepped
    split at stepped
    · cases stepped
    · rename_i closed
      cases stepped
      exact ⟨rfl, .inr (.inr ⟨rfl, stopped, ended, eq_false_of_ne_true closed⟩)⟩
  | returned errs => cases stepped

/-- What the goroutines may change: a half that serves goes on serving, and
one that is stopped stays so. -/
structure Kept (tunnel next : Tunnel) : Prop where
  tcpServing : tunnel.tcp.Serving → next.tcp.Serving
  udpServing : tunnel.udp.Serving → next.udp.Serving
  tcpStopped : tunnel.tcp.Stopped → next.tcp.Stopped
  udpStopped : tunnel.udp.Stopped → next.udp.Stopped
  ended : tunnel.udp.reading = false → next.udp.reading = false

theorem eventStep_kept {event : Event}
    (stepped : eventStep tunnel event = some next) : Kept tunnel next := by
  cases event with
  | accept =>
    simp only [eventStep] at stepped
    split at stepped
    · rename_i listening
      cases stepped
      refine ⟨id, id, fun stopped => ?_, id, id⟩
      cases stopped.1.symm.trans listening
    · cases stepped
  | proceed index =>
    simp only [eventStep, Option.bind_eq_bind, Option.bind_eq_some_iff] at stepped
    obtain ⟨connection, found, later, proceeds, result⟩ := stepped
    cases result
    refine ⟨id, id, fun stopped => ?_, id, id⟩
    rw [stopped.2 connection (List.mem_of_getElem? found)] at proceeds
    cases proceeds
  | listenReturns =>
    simp only [eventStep] at stepped
    split at stepped
    · rename_i cancelled
      cases stepped
      refine ⟨fun serving => ?_, id, fun stopped => ⟨rfl, stopped.2⟩, id, id⟩
      cases serving.2.1.symm.trans cancelled
    · cases stepped
  | inboundReturns =>
    simp only [eventStep] at stepped
    split at stepped
    · rename_i cancelled
      cases stepped
      refine ⟨id, fun serving => ?_, id, fun stopped => ⟨rfl, stopped.2⟩, fun _ => rfl⟩
      cases serving.1.symm.trans cancelled
    · cases stepped
  | channelCloses =>
    simp only [eventStep] at stepped
    split at stepped
    · rename_i cancelled
      cases stepped
      refine ⟨id, fun serving => ?_, id, fun stopped => ⟨stopped.1, rfl⟩, id⟩
      cases serving.1.symm.trans cancelled
    · cases stepped

theorem Kept.sound (kept : Kept tunnel next) (sound : Sound tunnel call) : Sound next call := by
  cases call with
  | canTerminate remaining errs =>
    exact ⟨kept.tcpServing sound.1, kept.udpServing sound.2⟩
  | terminate remaining errs =>
    obtain ⟨none, ⟨all, tcp, udp⟩ | ⟨one, tcp, udp⟩ | ⟨nothing, tcp, udp⟩⟩ := sound
    · exact ⟨none, .inl ⟨all, kept.tcpServing tcp, kept.udpServing udp⟩⟩
    · exact ⟨none, .inr (.inl ⟨one, kept.tcpStopped tcp, kept.udpServing udp⟩)⟩
    · exact ⟨none, .inr (.inr ⟨nothing, kept.tcpStopped tcp, kept.udpStopped udp⟩)⟩
  | stop remaining errs =>
    obtain ⟨none, one, tcp, udp⟩ := sound
    exact ⟨none, one, kept.tcpServing tcp, kept.udpServing udp⟩
  | wait remaining errs =>
    exact ⟨sound.1, sound.2.1, kept.udpServing sound.2.2⟩
  | done remaining errs =>
    exact ⟨sound.1, sound.2.1, kept.tcpStopped sound.2.2⟩
  | chanClosed remaining errs =>
    obtain ⟨none, nothing, tcp, ended⟩ := sound
    exact ⟨none, nothing, kept.tcpStopped tcp, kept.ended ended⟩
  | returned errs =>
    exact ⟨fun failed => ⟨kept.tcpServing (sound.1 failed).1, kept.udpServing (sound.1 failed).2⟩,
      fun passed => ⟨kept.tcpStopped (sound.2 passed).1, kept.udpStopped (sound.2 passed).2⟩⟩

/-- For every tunnel whose halves both serve when `Terminate(false)` is called,
in every run in which no connection is counted when the tcp half asks itself
once more: a call that has returned errors has left both halves serving, and one
that has returned none has stopped both. -/
theorem terminate_all_or_none (tcpServing : tunnel.tcp.Serving)
    (udpServing : tunnel.udp.Serving) {history : List Empty} {state : State}
    (run : Run (system false) StillIdle (.start tunnel) history state)
    {errs : List String} (returned : state.call = .returned errs) :
    (errs ≠ [] → state.tunnel.tcp.Serving ∧ state.tunnel.udp.Serving) ∧
      (errs = [] → state.tunnel.tcp.Stopped ∧ state.tunnel.udp.Stopped) := by
  have sound : Sound state.tunnel state.call := by
    refine run.stateInvariant (fun state => Sound state.tunnel state.call)
      ⟨tcpServing, udpServing⟩ ?_
    intro shown before next input kept idle stepped
    cases input with
    | call =>
      simp only [system, Option.map_eq_some_iff] at stepped
      obtain ⟨⟨tunnel, call⟩, ran, result⟩ := stepped
      cases result
      exact callStep_sound kept idle ran
    | event event =>
      simp only [system, Option.map_eq_some_iff] at stepped
      obtain ⟨tunnel, ran, result⟩ := stepped
      cases result
      exact (eventStep_kept ran).sound kept
  rw [returned] at sound
  exact sound

def unused : Tunnel :=
  { tcp := ⟨true, false, true, []⟩
    udp := ⟨false, true, true⟩ }

def undisturbed : List Input :=
  [.event .accept, .call, .call, .call, .call, .call, .event (.proceed 0),
    .event (.proceed 0), .event (.proceed 0), .event .listenReturns, .call,
    .call, .event .inboundReturns, .event .channelCloses, .call, .call, .call]

def returnedWith (errs : List String) (outcome : State × List Empty) : Bool :=
  outcome.1.call = .returned errs

theorem terminate_all_or_none_undisturbed :
    ∃ state history,
      Run (system false) StillIdle (.start unused) history state ∧
      state.call = .returned [] ∧ state.tunnel.tcp.Stopped ∧
      state.tunnel.udp.Stopped := by
  obtain ⟨state, history, run, check⟩ := Run.exists_ofExecute (system false)
    StillIdle (.start unused) undisturbed (returnedWith []) (by decide +kernel) (by decide +kernel)
  have returned : state.call = .returned [] := of_decide_eq_true check
  have stopped := (terminate_all_or_none ⟨rfl, rfl, rfl⟩ ⟨rfl, rfl, rfl⟩ run returned).2 rfl
  exact ⟨state, history, run, returned, stopped.1, stopped.2⟩

def connectedBetween : List Input :=
  [.call, .call, .call, .event .accept, .event (.proceed 0), .call, .call,
    .event .inboundReturns, .event .channelCloses, .call, .call, .call]

def refusedHalf : State :=
  { tunnel :=
      { tcp := ⟨true, false, true, [.counted]⟩
        udp := ⟨true, false, false⟩ }
    call := .returned ["tunnel has 1 active connection(s)"] }

def isRefusedHalf (outcome : State × List Empty) : Bool := outcome.1 = refusedHalf

/-- The call fails, the tcp half serves and the udp half is stopped. -/
theorem terminate_stops_one_half :
    ∃ state history,
      Run (system false) Unrestricted (.start unused) history state ∧
      state.call = .returned ["tunnel has 1 active connection(s)"] ∧
      state.tunnel.tcp.Serving ∧ state.tunnel.udp.Stopped := by
  obtain ⟨state, history, run, check⟩ := Run.exists_unrestricted
    (system false) (.start unused) connectedBetween isRefusedHalf (by decide +kernel)
  have reached : state = refusedHalf := of_decide_eq_true check
  subst reached
  exact ⟨refusedHalf, history, run, rfl, ⟨rfl, rfl, rfl⟩, rfl, rfl⟩

end ProxiPort.TunnelStop
