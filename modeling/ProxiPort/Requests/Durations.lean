import ProxiPort.Clients.StartClient
import ProxiPort.Query.Options

/-!
# Durations in requests

`parseTokenLifetime` of `server/api_handler_login.go`, and `ResolveIdleTunnelTimeoutValue` of
`server/validation/tunnel.go` with its caller.  Both turn a number of seconds or minutes into a
duration before they check it, and the product wraps around at 64 bits.
-/

namespace ProxiPort.Durations

open Clients

/-- `time.Duration(number) * unit`. -/
def times (number unit : Int) : Int := (number * unit).bmod (2 ^ 64)

theorem times_eq {number unit : Int} (low : -2 ^ 63 ≤ number * unit)
    (high : number * unit < 2 ^ 63) : times number unit = number * unit := by
  apply Int.bmod_eq_of_le <;> omega

variable (unicode : Go.Unicode)

def defaultMaxTokenLifetime : Int := 90 * 24 * 60 * minute

def defaultTokenLifetime : Int := 10 * minute

/-- The error of `strconv.ParseInt`, which is that of `strconv.Atoi` under another name. -/
def parseIntError (text : String) : String :=
  "strconv.ParseInt" ++ String.ofList ((Query.atoiError unicode text).toList.drop 12)

def parseTokenLifetime (lifetimeStr : String) : Except String Int :=
  let lifetimeStr := if lifetimeStr = "" then "0" else lifetimeStr
  match Go.atoi lifetimeStr with
  | none => .error ("invalid token-lifetime : " ++ parseIntError unicode lifetimeStr)
  | some lifetime =>
    let result := times lifetime second
    if result > defaultMaxTokenLifetime then
      .error ("requested token lifetime exceeds max allowed " ++
        toString (defaultMaxTokenLifetime / second))
    else .ok (if result ≤ 0 then defaultTokenLifetime else result)

/-- What the answer to a number of seconds has to be; `none` is an error. -/
def limitedLifetime (seconds : Int) : Option Int :=
  if seconds * second > defaultMaxTokenLifetime then none
  else some (if seconds ≤ 0 then defaultTokenLifetime else seconds * second)

def idleTimeoutDefault : Int := 5 * minute

def idleTimeoutMax : Int := 24 * 7 * 60 * minute

def resolveIdleTunnelTimeoutValue (idleTimeoutMinutesStr : String) (skipIdleTimeout : Bool) :
    Except Err Int :=
  if idleTimeoutMinutesStr ≠ "" ∧ skipIdleTimeout = true then
    .error (.api 400 ("conflicting parameters idle timeout " ++ idleTimeoutMinutesStr ++
      " and skip idle timeout " ++ idleTimeoutMinutesStr ++ ", either decide for skipping an " ++
      "idle timeout or provide a non empty timeout value") none)
  else if skipIdleTimeout then .ok 0
  else if idleTimeoutMinutesStr = "" then .ok idleTimeoutDefault
  else
    match Go.atoi idleTimeoutMinutesStr with
    | none => .error (.api 400 "invalid idle timeout param"
        (some (Query.atoiError unicode idleTimeoutMinutesStr)))
    | some minutes =>
      let idleTimeout := times minutes minute
      if 0 > idleTimeout ∨ idleTimeout > idleTimeoutMax then
        .error (.api 400 "idle timeout should be between 0 and 10080 minutes (7 days)" none)
      else .ok idleTimeout

/-- The parameters of the request, and what `ResolveTunnelAutoCloseValue` makes of the third.  The
whole part of `Duration.Minutes` is a division for durations of at most a week. -/
def setAutoCloseIdleOptionsForRemote (idleTimeoutMinutesStr skipIdleTimeout : String)
    (autoClose : Except Err Int) (remote : Remote) : Remote × Option Err :=
  match resolveIdleTunnelTimeoutValue unicode idleTimeoutMinutesStr
      ((Go.parseBool skipIdleTimeout).getD false) with
  | .error err => (remote, some err)
  | .ok idleTimeout =>
    let remote := { remote with idleTimeoutMinutes := idleTimeout / minute }
    match autoClose with
    | .error err => ({ remote with autoClose := 0 }, some err)
    | .ok autoClose => ({ remote with autoClose := autoClose }, none)

/-- What is asked of a number of minutes, and of the remote that is then set. -/
structure IdleLimited (minutes : Int) (resolved : Except Err Int) (remote : Remote) : Prop where
  accepted : (∃ timeout, resolved = .ok timeout) ↔ 0 ≤ minutes ∧ minutes ≤ 10080
  set : ∀ timeout, resolved = .ok timeout → remote.idleTimeoutMinutes = minutes

variable {unicode} {text : String} {minutes : Int}

theorem resolve_eq_ok_iff (parsed : Go.atoi text = some minutes) {skips : Bool} {timeout : Int} :
    resolveIdleTunnelTimeoutValue unicode text skips = .ok timeout ↔ timeout = times minutes minute ∧
      skips = false ∧ 0 ≤ times minutes minute ∧ times minutes minute ≤ idleTimeoutMax := by
  have given : text ≠ "" := by
    rintro rfl
    cases parsed
  cases skips with
  | true => simp [resolveIdleTunnelTimeoutValue, given]
  | false =>
    simp only [resolveIdleTunnelTimeoutValue, given, parsed, Bool.false_eq_true, and_false, if_false]
    split
    · refine iff_of_false nofun ?_
      omega
    · rw [Except.ok.injEq, eq_comm, iff_self_and]
      exact fun _ => ⟨trivial, by omega, by omega⟩

end ProxiPort.Durations
