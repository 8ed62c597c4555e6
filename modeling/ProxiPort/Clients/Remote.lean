import ProxiPort.Foundation.Outcome
import ProxiPort.Go.Strings
import ProxiPort.Ports.Distributor

/-!
# Remotes

`share/models/remote.go`: what a tunnel connects, and how.  When a client comes
back, `getTunnelsToReestablish` of `server/clients/client_service.go` compares
the remotes of its old tunnels with the ones its agent asks for, and
`sanitizeAgentRemotes` clears what an agent must not set.
-/

namespace ProxiPort.Clients

open List

/-- `models.Remote`.  Durations are nanoseconds. -/
structure Remote where
  name : String
  protocol : String
  localHost : String
  localPort : String
  localPortRandom : Bool
  owner : String
  remoteHost : String
  remotePort : String
  scheme : Option String
  acl : Option String
  idleTimeoutMinutes : Int
  autoClose : Int
  httpProxy : Bool
  hostHeader : String
  authUser : String
  authPassword : String
  skipTLSVerify : Bool
  tunnelURL : String
  deriving DecidableEq, Repr

def zeroHost : String := "0.0.0.0"

def joinHostPort (host port : String) : String :=
  if ':' ∈ host.toList then "[" ++ host ++ "]:" ++ port
  else host ++ ":" ++ port

def protocolOf : String → Option Ports.Protocol
  | "tcp" => some .tcp
  | "udp" => some .udp
  | "tcp+udp" => some .tcpUdp
  | _ => none

namespace Remote

def remote (remote : Remote) : String := joinHostPort remote.remoteHost remote.remotePort

def string (remote : Remote) : String :=
  remote.localHost ++ ":" ++ remote.localPort ++ ":" ++ remote.remote ++
    (if remote.protocol ≠ "tcp" then "/" ++ remote.protocol else "") ++
    (match remote.acl with
    | none => ""
    | some acl => "(acl:" ++ acl ++ ")")

def equals (remote other : Remote) : Bool := remote.string = other.string

def equalACL (remote : Remote) (acl : Option String) : Bool := remote.acl = acl

def isLocalSpecified (remote : Remote) : Bool := remote.localHost ≠ "" && remote.localPort ≠ ""

def hasSubdomainTunnel (remote : Remote) : Bool := remote.tunnelURL ≠ ""

def withLocal (remote : Remote) (host port : String) : Remote :=
  { remote with localHost := host, localPort := port }

end Remote

/-- The inner loops of `getTunnelsToReestablish`: mark the first old remote
that is not marked yet and matches. -/
def mark (isMatch : Remote → Bool) : List (Remote × Bool) → Option (List (Remote × Bool))
  | [] => none
  | (curOld, marked) :: rest =>
    if !marked && isMatch curOld then some ((curOld, true) :: rest)
    else (mark isMatch rest).map ((curOld, marked) :: ·)

/-- The outer loops: every new remote of one kind has to find its match. -/
def markAll (concerns : Remote → Bool) (isMatch : Remote → Remote → Bool) :
    List (Option Remote) → List (Remote × Bool) → Option (List (Remote × Bool))
  | [], old => some old
  | none :: new, old => markAll concerns isMatch new old
  | some curNew :: new, old =>
    if concerns curNew then
      (mark (isMatch curNew) old).bind (markAll concerns isMatch new)
    else markAll concerns isMatch new old

def leftAmongOld (old : List Remote) (new : List (Option Remote)) : List Remote :=
  let marked := do
    let first ← markAll (fun curNew => curNew.isLocalSpecified)
      (fun curNew curOld => curNew.string = curOld.string) new
      (old.map fun curOld => (curOld, false))
    markAll (fun curNew => !curNew.isLocalSpecified) (fun curNew curOld => curOld.localPortRandom &&
        curNew.remote = curOld.remote && curNew.equalACL curOld.acl) new first
  if new.length > old.length then []
  else
    match marked with
    | none => []
    | some marked =>
      (marked.filter fun entry => !entry.2).map Prod.fst

def Remote.toReestablish (remote : Remote) : Remote :=
  if remote.localPortRandom then remote.withLocal "" "" else remote

def getTunnelsToReestablish (old : List Remote) (new : List (Option Remote)) : List Remote :=
  (leftAmongOld old new).map Remote.toReestablish

/-- `clienttunnel.IsAllowed`, for the answer of the agent. -/
def isAllowed (answer : Except String Bool) : Except String Bool :=
  match answer with
  | .error err =>
    if Go.contains err "unknown request" then .ok true else .error err
  | .ok allowed => .ok allowed

/-- The loop of `excludeNotAllowedTunnels`; the answers of the agent are
numbered. -/
def filterAllowed (answer : Nat → String → Except String Bool) :
    Nat → List Remote → Except String (List Remote)
  | _, [] => .ok []
  | index, tunnel :: tunnels => do
    let allowed ← isAllowed (answer index tunnel.remote)
    let filtered ← filterAllowed answer (index + 1) tunnels
    return if allowed then tunnel :: filtered else filtered

def excludeNotAllowedTunnels (answer : Nat → String → Except String Bool)
    (tunnels : List Remote) : Except String (List Remote) :=
  match filterAllowed answer 0 tunnels with
  | .error err =>
    if Go.contains err "unknown request" then .ok tunnels else .error err
  | .ok filtered => .ok filtered

def Remote.sanitize (remote : Remote) : Remote :=
  { remote with
    tunnelURL := ""
    skipTLSVerify := false
    authUser := ""
    authPassword := ""
    owner := "" }

def sanitizeAgentRemotes (remotes : List (Option Remote)) : List Remote :=
  remotes.filterMap fun remote => remote.map Remote.sanitize

theorem mark_fst {isMatch : Remote → Bool} {old marked : List (Remote × Bool)}
    (found : mark isMatch old = some marked) : marked.map Prod.fst = old.map Prod.fst := by
  induction old generalizing marked with
  | nil => cases found
  | cons entry rest induction =>
    obtain ⟨curOld, isMarked⟩ := entry
    simp only [mark] at found
    split at found
    · cases found
      rfl
    · obtain ⟨tail, inRest, rfl⟩ := Option.map_eq_some_iff.mp found
      rw [map_cons, map_cons, induction inRest]

theorem markAll_fst {concerns : Remote → Bool}
    {isMatch : Remote → Remote → Bool} {new : List (Option Remote)}
    {old marked : List (Remote × Bool)} (found : markAll concerns isMatch new old = some marked) :
    marked.map Prod.fst = old.map Prod.fst := by
  induction new generalizing old with
  | nil =>
    cases found
    rfl
  | cons curNew new induction =>
    cases curNew with
    | none => exact induction found
    | some curNew =>
      simp only [markAll] at found
      split at found
      · obtain ⟨first, here, later⟩ := Option.bind_eq_some_iff.mp found
        rw [induction later, mark_fst here]
      · exact induction found

theorem leftAmongOld_sublist (old : List Remote)
    (new : List (Option Remote)) : (leftAmongOld old new).Sublist old := by
  simp only [leftAmongOld]
  split
  · exact nil_sublist old
  · split
    · exact nil_sublist old
    · rename_i marked found
      obtain ⟨first, one, two⟩ := Option.bind_eq_some_iff.mp found
      have same : marked.map Prod.fst = old := by
        rw [markAll_fst two, markAll_fst one, map_map]
        exact map_id old
      have kept : ((marked.filter fun entry => !entry.2).map
          Prod.fst).Sublist (marked.map Prod.fst) :=
        filter_sublist.map _
      rwa [same] at kept

variable {answer : Nat → String → Except String Bool}

theorem filterAllowed_sublist {index : Nat} {tunnels filtered : List Remote}
    (asked : filterAllowed answer index tunnels = .ok filtered) : filtered.Sublist tunnels := by
  induction tunnels generalizing index filtered with
  | nil =>
    cases asked
    exact List.Sublist.refl []
  | cons tunnel tunnels induction =>
    simp only [filterAllowed, Outcome.bind_eq_ok_iff] at asked
    obtain ⟨allowed, _, later, rest, result⟩ := asked
    cases result
    split
    · exact (induction rest).cons_cons tunnel
    · exact (induction rest).cons tunnel

theorem excludeNotAllowedTunnels_sublist {tunnels filtered : List Remote}
    (asked : excludeNotAllowedTunnels answer tunnels = .ok filtered) :
    filtered.Sublist tunnels := by
  simp only [excludeNotAllowedTunnels] at asked
  split at asked
  · split at asked
    · cases asked
      exact List.Sublist.refl tunnels
    · cases asked
  · rename_i kept
    cases asked
    exact filterAllowed_sublist kept

end ProxiPort.Clients
