import ProxiPort.Go.Net

/-!
# The source address of a request

`RemoteIP` of `share/ip.go`, behind proxies that are trusted to report the
addresses they were reached from.
-/

namespace ProxiPort.Security

open Go

structure Request where
  remoteAddr : String
  xForwardedFor : List String

def isTrustedProxy (trustedProxies : List IPNet) (ip : IP) : Bool :=
  trustedProxies.any fun network => network.contains ip

def ipString (ip : IP) : String :=
  match ip.to4 with
  | some short => Addr.printV4 short
  | none => Addr.printV6 ip

def Request.peer (request : Request) : String :=
  match splitHostPort request.remoteAddr with
  | .ok (host, _) => host
  | .error _ => request.remoteAddr

variable (trustedProxies : List IPNet)

def untrustedHop (part : String) : Option String :=
  match parseIP (trimSpace part) with
  | none => none
  | some ip => if isTrustedProxy trustedProxies ip then none else ipString ip

/-- The first untrusted hop from the right. -/
def closestHop (parts : List String) : Option String :=
  parts.reverse.findSome? (untrustedHop trustedProxies)

/-- `RemoteIP`.  `Header.Get` returns the first line of a header. -/
def remoteIP (request : Request) : String :=
  match parseIP request.peer with
  | none => request.peer
  | some ip =>
    if !isTrustedProxy trustedProxies ip then request.peer
    else
      let xff := request.xForwardedFor.headD ""
      if xff = "" then request.peer
      else (closestHop trustedProxies (split xff ',')).getD request.peer

namespace Request

variable (request : Request)

def FromTrusted : Prop := ∃ ip, parseIP request.peer = some ip ∧ isTrustedProxy trustedProxies ip

def hops : List String := request.xForwardedFor.flatMap (split · ',')

/-- The address of the first untrusted hop from the right in all lines, or of
the peer if there is none. -/
def source : String := (closestHop trustedProxies request.hops).getD request.peer

/-- The lines after the first have no untrusted hop, or one with the address
that the first line gives. -/
def LaterAgree : Prop :=
  ∀ address ∈ closestHop trustedProxies
      (request.xForwardedFor.tail.flatMap (split · ',')),
    address = (closestHop trustedProxies
      (split (request.xForwardedFor.headD "") ',')).getD request.peer

end Request

variable {trustedProxies : List IPNet} {request : Request}

theorem closestHop_append (left right : List String) :
    closestHop trustedProxies (left ++ right) =
      (closestHop trustedProxies right).or (closestHop trustedProxies left) := by
  simp [closestHop, List.findSome?_append]

theorem Request.FromTrusted.remoteIP_eq (trusted : request.FromTrusted trustedProxies) :
    remoteIP trustedProxies request = (closestHop trustedProxies
      (split (request.xForwardedFor.headD "") ',')).getD request.peer := by
  obtain ⟨ip, parsed, isTrusted⟩ := trusted
  simp only [remoteIP, parsed, isTrusted, Bool.not_true, Bool.false_eq_true, if_false]
  split
  · rename_i empty
    rw [empty]
    rfl
  · rfl

theorem Request.FromTrusted.source_iff (trusted : request.FromTrusted trustedProxies) :
    remoteIP trustedProxies request = request.source trustedProxies ↔
      request.LaterAgree trustedProxies := by
  have whole : closestHop trustedProxies request.hops = (closestHop
      trustedProxies (request.xForwardedFor.tail.flatMap (split · ','))).or
      (closestHop trustedProxies (split (request.xForwardedFor.headD "") ',')) := by
    unfold hops
    cases request.xForwardedFor with
    | nil => rfl
    | cons first later => exact closestHop_append _ _
  rw [trusted.remoteIP_eq, source, whole, LaterAgree]
  cases closestHop trustedProxies (request.xForwardedFor.tail.flatMap (split · ',')) with
  | none => simp
  | some address => simp [eq_comm]

def tenNetwork : List IPNet := [⟨[10, 0, 0, 0], [255, 0, 0, 0]⟩]

def spoofed (firstLine : String) : Request := ⟨"10.1.2.3:4444", [firstLine, "8.8.8.8"]⟩

end ProxiPort.Security
