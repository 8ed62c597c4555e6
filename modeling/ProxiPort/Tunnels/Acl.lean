import ProxiPort.Ports.Distributor
import ProxiPort.Tunnels.UDP

/-!
# Access lists of tunnels behind a proxy

`server/clients/clienttunnel/tunnel_acl.go`, the access lists that
`startTunnelWithProxy` gives to a tunnel and to the proxy in front of it, and
`SetTunnelACL`, which stores one list in both.  The proxy is to enforce the list
of the user, the tunnel behind it to admit the loopback address alone.
-/

namespace ProxiPort.TunnelAccess

open Go TunnelUDP List

def cidrAddress (text : String) : Option IP :=
  (parseAddr (String.ofList (text.toList.takeWhile (· ≠ '/')))).map Addr.as16

/-- Equality with `net.IPv4zero` or `net.IPv6zero`, as `IP.String` shows it. -/
def zeroAddress (ip : IP) : Option String :=
  if ip = v4InV6Prefix ++ [0, 0, 0, 0] then some "0.0.0.0"
  else if ip = List.replicate 16 0 then some "::"
  else none

def everyone (zero : String) : String :=
  zero ++ " would allow access to everyone. If that's what you want, do not " ++ "set the ACL"

def parseIPNet (text : String) : Except String IPNet :=
  if '/' ∈ text.toList then
    match parseCIDR text, cidrAddress text with
    | some network, some ip =>
      match zeroAddress ip with
      | some zero => .error (everyone zero)
      | none => .ok network
    | _, _ => .error ("invalid CIDR address: " ++ text)
  else
    match parseIP text with
    | none => .error ("invalid IP addr: " ++ text)
    | some ip =>
      match zeroAddress ip with
      | some zero => .error (everyone zero)
      | none => .ok ⟨ip, if ip.to4.isSome then cidrMask 32 32
          else cidrMask 128 128⟩

def parseAll : List String → Except String TunnelACL
  | [] => .ok []
  | text :: texts =>
    match parseIPNet text with
    | .error err => .error err
    | .ok network => (parseAll texts).map (network :: ·)

/-- `ParseTunnelACL`: the empty text is no list. -/
def parseTunnelACL (text : String) : Except String (Option TunnelACL) :=
  if text = "" then .ok none else (parseAll (split text ',')).map some

def readACL (aclStr : Option String) : Except String (Option TunnelACL) :=
  match aclStr with
  | none => .ok none
  | some text => parseTunnelACL text

/-- The access lists of a tunnel with a proxy: the text of the tunnel's remote,
the list of each protocol handler, and the list of the proxy. -/
structure ProxiedTunnel where
  aclStr : Option String
  handlers : List (Option TunnelACL)
  proxy : Option TunnelACL
  deriving DecidableEq, Repr

def localhost : Option TunnelACL :=
  match parseTunnelACL "127.0.0.1" with
  | .ok acl => acl
  | .error _ => none

/-- The lists after a successful `startTunnelWithProxy`, for a remote with the
protocol, with an access list that was read before. -/
def startTunnelWithProxy (protocol : Ports.Protocol)
    (aclStr : Option String) (acl : Option TunnelACL) : ProxiedTunnel where
  aclStr := aclStr
  handlers := protocol.subProtocols.map fun _ => localhost
  proxy := acl

/-- `SetTunnelACL`: the text of the remote is replaced before it is read. -/
def setTunnelACL (tunnel : ProxiedTunnel) (aclStr : Option String) :
    ProxiedTunnel × Option String :=
  match readACL aclStr with
  | .error err => ({ tunnel with aclStr := aclStr }, some err)
  | .ok acl =>
    ({ aclStr := aclStr
       handlers := tunnel.handlers.map fun _ => acl
       proxy := acl }, none)

def setAll (tunnel : ProxiedTunnel) (calls : List (Option String)) :
    ProxiedTunnel :=
  calls.foldl (fun tunnel aclStr => (setTunnelACL tunnel aclStr).1) tunnel

def handleACL (acl : Option TunnelACL) (clientIP : String) : Bool :=
  match acl with
  | none => true
  | some acl =>
    match parseIP clientIP with
    | none => false
    | some ip => checkAccess acl ip

def loopback : IP := [127, 0, 0, 1]

def OnlyLoopback (acl : Option TunnelACL) : Prop :=
  ∀ ip, admits acl ip = true ↔ ip.to4 = some loopback

def acceptedACLs (calls : List (Option String)) : List (Option TunnelACL) :=
  calls.filterMap fun aclStr => (readACL aclStr).toOption

/-- The list that was accepted last, or the one of the start. -/
def lastAccepted (acl : Option TunnelACL) (calls : List (Option String)) : Option TunnelACL :=
  (acceptedACLs calls).getLast?.getD acl

def IsLoopback (network : IPNet) : Prop :=
  network.networkNumberAndMask = (loopback, [255, 255, 255, 255])

/-- The networks of the list are all the one address 127.0.0.1, and there is
one. -/
def LoopbackList (acl : Option TunnelACL) : Prop :=
  acl ≠ none ∧ ∀ networks ∈ acl,
    networks ≠ [] ∧ ∀ network ∈ networks, IsLoopback network

instance (acl : Option TunnelACL) : Decidable (LoopbackList acl) :=
  inferInstanceAs (Decidable (acl ≠ none ∧ ∀ networks ∈ acl, networks ≠ [] ∧ ∀ network ∈ networks,
      network.networkNumberAndMask = (loopback, [255, 255, 255, 255])))

theorem flip_and (number mask : UInt8) : (number ^^^ ~~~mask) &&& mask = number &&& mask := by
  apply UInt8.eq_of_toBitVec_eq
  simp only [UInt8.toBitVec_and, UInt8.toBitVec_xor, UInt8.toBitVec_not]
  ext index bound
  simp only [BitVec.getElem_and, BitVec.getElem_xor, BitVec.getElem_not]
  cases number.toBitVec[index] <;> cases mask.toBitVec[index] <;> rfl

theorem mask_eq_of_flip {number mask : UInt8}
    (same : number ^^^ ~~~mask = number) : mask = 255 := by
  have zero : ~~~mask = 0 := by
    have cancelled := congrArg (number ^^^ ·) same
    simpa [← UInt8.xor_assoc] using cancelled
  have full : ~~~(~~~mask) = ~~~0 := congrArg (~~~ ·) zero
  rw [UInt8.not_not] at full
  exact full

variable {ip : IP}

theorem to4_of_length (four : ip.length = 4) : ip.to4 = some ip := if_pos four

theorem length_of_to4 {short : IP} (found : ip.to4 = some short) : short.length = 4 := by
  unfold IP.to4 at found
  split at found
  · cases found
    assumption
  · split at found
    · rename_i mapped
      cases found
      rw [length_drop, mapped.1]
    · cases found

variable {network : IPNet}

theorem contains_of_number (same : ip.to4.getD ip = network.networkNumberAndMask.1) :
    network.contains ip = true := by
  simp [IPNet.contains, same]

theorem number_cases (network : IPNet) :
    ∃ number mask, network.networkNumberAndMask = (number, mask) ∧
      mask.length = number.length ∧ (number = [] ∨ number.length = 4 ∨
        number.length = 16 ∧ number.to4 = none) := by
  simp only [IPNet.networkNumberAndMask]
  split
  · exact ⟨_, _, rfl, rfl, .inl rfl⟩
  · rename_i sized
    split
    · rename_i mask
      split
      · rename_i four
        exact ⟨_, _, rfl, mask.trans four.symm, .inr (.inl four)⟩
      · exact ⟨_, _, rfl, rfl, .inl rfl⟩
    · split
      · rename_i mask
        refine ⟨_, _, rfl, ?_⟩
        split
        · rename_i four
          rw [length_drop, mask, four]
          exact ⟨rfl, .inr (.inl rfl)⟩
        · rename_i long
          have sixteen := (not_and_not_right.mp sized) long
          refine ⟨mask.trans sixteen.symm, .inr (.inr ⟨sixteen, ?_⟩)⟩
          cases found : network.ip.to4 with
          | none => simpa using found
          | some short =>
            rw [found, Option.getD_some] at long
            exact absurd (length_of_to4 found) long
      · exact ⟨_, _, rfl, rfl, .inl rfl⟩

theorem isLoopback_of_contains (only : ∀ ip, network.contains ip = true → ip.to4 = some loopback) :
    IsLoopback network := by
  obtain ⟨number, mask, split, sameSize, sized⟩ := number_cases network
  have apart : number.to4 ≠ none := by
    intro long
    cases long.symm.trans (only number (contains_of_number (by
      rw [long, split]
      rfl)))
  rcases sized with rfl | four | ⟨_, long⟩
  · exact absurd rfl apart
  · have own : number = loopback := by
      have inside := only number (contains_of_number (by
        rw [to4_of_length four, split]
        rfl))
      rw [to4_of_length four] at inside
      exact Option.some.inj inside
    obtain ⟨a, b, c, d, rfl⟩ := length_eq_four.mp (sameSize.trans four)
    subst own
    -- change all bits of the address that the mask leaves free
    have inside := only (List.zipWith (fun number mask => number ^^^ ~~~mask)
      loopback [a, b, c, d]) (by
        simp only [IPNet.contains, split, loopback, zipWith_cons_cons,
          zipWith_nil_right, to4_of_length, length_cons, length_nil, Option.getD_some, flip_and]
        simp)
    rw [to4_of_length rfl, Option.some.injEq] at inside
    simp only [loopback, zipWith_cons_cons, zipWith_nil_right, List.cons.injEq, and_true] at inside
    obtain ⟨first, second, third, fourth⟩ := inside
    rw [IsLoopback, split, mask_eq_of_flip first, mask_eq_of_flip second,
      mask_eq_of_flip third, mask_eq_of_flip fourth]
  · exact absurd long apart

theorem zipWith_replicate (combine : UInt8 → UInt8 → UInt8) (bytes : IP) (byte : UInt8) :
    List.zipWith combine bytes (List.replicate bytes.length byte) = bytes.map (combine · byte) := by
  induction bytes with
  | nil => rfl
  | cons first bytes induction =>
    simpa [replicate_succ] using induction

theorem contains_iff_of_full {number : IP} (full : network.networkNumberAndMask =
      (number, List.replicate number.length 255)) (ip : IP) :
    network.contains ip = true ↔ ip.to4.getD ip = number := by
  have whole : ∀ bytes : IP, List.zipWith (· &&& ·) bytes
      (List.replicate bytes.length 255) = bytes := by
    intro bytes
    simp [zipWith_replicate, show (255 : UInt8) = -1 from rfl]
  simp only [IPNet.contains, full, whole, Bool.and_eq_true, decide_eq_true_eq]
  constructor
  · rintro ⟨sameSize, same⟩
    rw [← sameSize, whole] at same
    exact same.symm
  · rintro rfl
    exact ⟨rfl, (whole _).symm⟩

theorem contains_iff_of_isLoopback (isLoopback : IsLoopback network) (ip : IP) :
    network.contains ip = true ↔ ip.to4 = some loopback := by
  rw [contains_iff_of_full isLoopback]
  cases found : ip.to4 with
  | none =>
    simp only [Option.getD_none, reduceCtorEq, iff_false]
    rintro rfl
    cases found
  | some short => simp

theorem onlyLoopback_iff (acl : Option TunnelACL) : OnlyLoopback acl ↔ LoopbackList acl := by
  constructor
  · intro only
    have unknown : admits acl [] ≠ true := by
      rw [Ne, only []]
      intro wrong
      cases wrong
    cases acl with
    | none => exact absurd rfl unknown
    | some networks =>
      refine ⟨Option.some_ne_none _, fun known same => ?_⟩
      cases same
      constructor
      · rintro rfl
        exact unknown rfl
      · intro network member
        apply isLoopback_of_contains
        intro ip inside
        apply (only ip).mp
        simp only [admits, checkAccess]
        split
        · rfl
        · exact any_eq_true.mpr ⟨network, member, inside⟩
  · rintro ⟨present, networksOf⟩ ip
    obtain ⟨networks, rfl⟩ := Option.ne_none_iff_exists'.mp present
    obtain ⟨some_network, all⟩ := networksOf networks rfl
    simp only [admits, checkAccess]
    rw [if_neg (by simpa using some_network), any_eq_true]
    constructor
    · rintro ⟨network, member, inside⟩
      exact (contains_iff_of_isLoopback (all network member) ip).mp inside
    · intro found
      obtain ⟨network, member⟩ := exists_mem_of_ne_nil _ some_network
      exact ⟨network, member, (contains_iff_of_isLoopback (all network member) ip).mpr found⟩

theorem loopbackList_localhost : LoopbackList localhost := by
  decide

theorem acceptedACLs_cons (aclStr : Option String) (calls : List (Option String)) :
    acceptedACLs (aclStr :: calls) = (readACL aclStr).toOption.toList ++ acceptedACLs calls := by
  unfold acceptedACLs
  rw [filterMap_cons]
  cases (readACL aclStr).toOption with
  | none => rfl
  | some acl => rfl

/-- After a sequence of calls, every handler and the proxy have the list that
was accepted last. -/
theorem setAll_eq (tunnel : ProxiedTunnel) (calls : List (Option String)) :
    (setAll tunnel calls).handlers = tunnel.handlers.map (lastAccepted · calls) ∧
      (setAll tunnel calls).proxy = lastAccepted tunnel.proxy calls := by
  induction calls generalizing tunnel with
  | nil => exact ⟨(map_id _).symm, rfl⟩
  | cons aclStr calls induction =>
    rw [setAll, foldl_cons]
    obtain ⟨handlers, proxy⟩ := induction (setTunnelACL tunnel aclStr).1
    rw [setAll] at handlers proxy
    rw [handlers, proxy]
    unfold setTunnelACL
    cases read : readACL aclStr with
    | error err =>
      simp only [lastAccepted, acceptedACLs_cons, read, Except.toOption,
        Option.toList_none, nil_append]
      exact ⟨trivial, trivial⟩
    | ok acl =>
      have last : ∀ start, lastAccepted start (aclStr :: calls) = lastAccepted acl calls := by
        intro start
        simp only [lastAccepted, acceptedACLs_cons, read, Except.toOption,
          Option.toList_some, singleton_append, getLast?_cons, Option.getD_some]
      simp only [last, map_map, and_true]
      rfl

/-- For every protocol, every access list at the start and every sequence of
`SetTunnelACL` calls on a tunnel with a proxy: the handlers of the tunnel admit
127.0.0.1 and no other address, and the proxy serves exactly the clients that
the last accepted list admits, if and only if no call was accepted, or the
list accepted last consists of networks of the one address 127.0.0.1. -/
theorem proxied_tunnel_closed_iff (protocol : Ports.Protocol)
    (aclStr : Option String) (acl : Option TunnelACL) (calls : List (Option String)) :
    ((∀ handler ∈ (setAll (startTunnelWithProxy protocol aclStr acl)
        calls).handlers, OnlyLoopback handler) ∧
      ∀ clientIP, handleACL (setAll (startTunnelWithProxy protocol aclStr acl)
          calls).proxy clientIP =
        handleACL (lastAccepted acl calls) clientIP) ↔
    ∀ accepted ∈ (acceptedACLs calls).getLast?, LoopbackList accepted := by
  obtain ⟨handlers, proxy⟩ := setAll_eq (startTunnelWithProxy protocol aclStr acl) calls
  have enforced : (setAll (startTunnelWithProxy protocol aclStr acl)
      calls).proxy = lastAccepted acl calls := proxy
  have inner : ∀ handler, handler ∈ (setAll (startTunnelWithProxy protocol
      aclStr acl) calls).handlers ↔ handler = lastAccepted localhost calls := by
    intro handler
    rw [handlers]
    cases protocol <;> simp [startTunnelWithProxy, Ports.Protocol.subProtocols]
  simp only [inner, enforced, forall_eq, implies_true, and_true, onlyLoopback_iff]
  cases last : (acceptedACLs calls).getLast? with
  | none =>
    simp only [lastAccepted, last, Option.getD_none]
    constructor
    · intro _ accepted wrong
      cases wrong
    · intro _
      exact loopbackList_localhost
  | some accepted =>
    simp only [lastAccepted, last, Option.getD_some, Option.mem_some_iff, forall_eq']

/-- A list for one network opens the tunnel behind the proxy to it, past the
proxy, and closes it to the proxy. -/
theorem inner_tunnel_opened :
    ∃ handler ∈ (setAll (startTunnelWithProxy .tcp none none)
        [some "10.0.0.0/8"]).handlers,
      admits handler [10, 1, 2, 3] = true ∧ admits handler loopback = false := by
  decide

/-- The network has every address of one of the two families. -/
def AdmitsFamily (network : IPNet) : Prop :=
  ∃ size, (size = 4 ∨ size = 16) ∧ ∀ ip,
    (ip.to4.getD ip).length = size → network.contains ip = true

def Unmasked (network : IPNet) : Prop :=
  network.networkNumberAndMask.1 ≠ [] ∧
    ∀ byte ∈ network.networkNumberAndMask.2, byte = 0

/-- The address is the one that the entry names, or lies in its network. -/
def LiesIn (entry : String) (ip : IP) : Prop :=
  if '/' ∈ entry.toList then
    ∃ network ∈ parseCIDR entry, network.contains ip = true
  else ∃ address ∈ parseIP entry, ip.to4.getD ip = address.to4.getD address

theorem admitsFamily_iff (network : IPNet) : AdmitsFamily network ↔ Unmasked network := by
  have constant : ∀ size byte, size = 4 ∨ size = 16 → byte = 0 ∨ byte = 255 →
      (IP.to4 (List.replicate size byte)).getD (List.replicate size byte) =
        List.replicate size byte := by
    rintro _ _ (rfl | rfl) (rfl | rfl) <;> rfl
  simp only [AdmitsFamily, Unmasked, IPNet.contains, Bool.and_eq_true, decide_eq_true_eq]
  obtain ⟨number, mask, split, sameSize, sized⟩ := number_cases network
  simp only [split]
  constructor
  · rintro ⟨size, isSize, all⟩
    have masked : ∀ byte, byte = 0 ∨ byte = 255 → size = number.length ∧
        List.zipWith (· &&& ·) number mask = mask.map (byte &&& ·) := by
      intro byte isByte
      have inside := all (List.replicate size byte) (by
        rw [constant _ _ isSize isByte, length_replicate])
      rw [constant _ _ isSize isByte, length_replicate] at inside
      obtain ⟨rfl, same⟩ := inside
      rw [same, zipWith_comm, ← sameSize]
      exact ⟨rfl, zipWith_replicate (fun byte other => other &&& byte) _ _⟩
    obtain ⟨rfl, zeros⟩ := masked 0 (.inl rfl)
    have ones := (masked 255 (.inr rfl)).2
    constructor
    · rintro rfl
      simp at isSize
    · have same := map_inj_left.mp (ones.symm.trans zeros)
      intro byte member
      simpa [show (255 : UInt8) = -1 from rfl] using same byte member
  · rintro ⟨known, zero⟩
    refine ⟨number.length, (sized.resolve_left known).imp_right (·.1), ?_⟩
    intro ip size
    have all : mask = List.replicate number.length 0 := eq_replicate_iff.mpr ⟨sameSize, zero⟩
    refine ⟨size, ?_⟩
    rw [all, zipWith_replicate, ← size, zipWith_replicate]
    simp [map_const', size]

section

variable (sized : ip.length = 4 ∨ ip.length = 16)
include sized

theorem contains_single (address : IP) :
    (IPNet.mk address (if address.to4.isSome then cidrMask 32 32
      else cidrMask 128 128)).contains ip = true ↔ ip.to4.getD ip = address.to4.getD address := by
  cases short : address.to4 with
  | some number =>
    apply contains_iff_of_full
    simp only [IPNet.networkNumberAndMask, short, Option.getD_some, length_of_to4 short]
    rfl
  | none =>
    by_cases long : address.length = 16
    · apply contains_iff_of_full
      simp only [IPNet.networkNumberAndMask, short, Option.getD_none, long]
      rfl
    · -- neither side has an address of another size
      have known : (ip.to4.getD ip).length = 4 ∨ (ip.to4.getD ip).length = 16 := by
        cases found : ip.to4 with
        | none => exact sized
        | some number => exact .inl (length_of_to4 found)
      have other : address.length ≠ 4 := by
        intro four
        cases short.symm.trans (to4_of_length four)
      have unknown : (IPNet.mk address (cidrMask 128 128)).networkNumberAndMask = ([], []) := by
        simp [IPNet.networkNumberAndMask, short, long, other]
      refine iff_of_false (fun inside => ?_) (fun same => ?_)
      · simp only [IPNet.contains, Option.isSome_none, Bool.false_eq_true,
          if_false, unknown, Bool.and_eq_true, decide_eq_true_eq] at inside
        rw [inside.1] at known
        cases known <;> contradiction
      · rw [same] at known
        exact known.elim other long

theorem contains_iff_liesIn {entry : String}
    (read : parseIPNet entry = .ok network) : network.contains ip = true ↔ LiesIn entry ip := by
  unfold parseIPNet at read
  unfold LiesIn
  split at read
  · rename_i slash
    rw [if_pos slash]
    split at read
    · rename_i found _
      split at read
      · cases read
      · cases read
        simp [found]
    · cases read
  · rename_i plain
    rw [if_neg plain]
    split at read
    · cases read
    · rename_i address found
      split at read
      · cases read
      · cases read
        simp [found, contains_single sized]

theorem parseAll_contains {texts : List String} {networks : TunnelACL}
    (read : parseAll texts = .ok networks) :
    networks.isEmpty = texts.isEmpty ∧ (networks.any (·.contains ip) = true ↔
        ∃ entry ∈ texts, LiesIn entry ip) := by
  induction texts generalizing networks with
  | nil =>
    cases read
    simp
  | cons text texts induction =>
    rw [parseAll] at read
    split at read
    · cases read
    · rename_i network first
      cases rest : parseAll texts with
      | error err =>
        rw [rest] at read
        cases read
      | ok others =>
        rw [rest] at read
        cases read
        simp [(induction rest).2, contains_iff_liesIn sized first]

end

structure Tunnel where
  aclStr : Option String
  handlers : List (Option TunnelACL)
  proxy : Option (Option TunnelACL)
  deriving DecidableEq

/-- `SetTunnelACL` of any tunnel. -/
def Tunnel.setTunnelACL (tunnel : Tunnel) (aclStr : Option String) : Tunnel × Option String :=
  match readACL aclStr with
  | .error err => ({ tunnel with aclStr := aclStr }, some err)
  | .ok acl =>
    ({ aclStr := aclStr
       handlers := tunnel.handlers.map fun _ => acl
       proxy := tunnel.proxy.map fun _ => acl }, none)

def ProxiedTunnel.toTunnel (tunnel : ProxiedTunnel) : Tunnel :=
  ⟨tunnel.aclStr, tunnel.handlers, some tunnel.proxy⟩

theorem ProxiedTunnel.setTunnelACL_toTunnel (tunnel : ProxiedTunnel) (aclStr : Option String) :
    tunnel.toTunnel.setTunnelACL aclStr = ((setTunnelACL tunnel aclStr).1.toTunnel,
        (setTunnelACL tunnel aclStr).2) := by
  unfold Tunnel.setTunnelACL setTunnelACL
  cases readACL aclStr <;> rfl

/-- A text that cannot be read is refused and leaves the lists alone, but it is
stored, and a reconnect cannot read it either: the tunnel is as it was exactly
when this text was stored before. -/
theorem refused_update_iff (tunnel : Tunnel) (text err : String)
    (refused : parseTunnelACL text = .error err) :
    (tunnel.setTunnelACL (some text)).2 = some err ∧
    ((tunnel.setTunnelACL (some text)).1.handlers = tunnel.handlers ∧
      (tunnel.setTunnelACL (some text)).1.proxy = tunnel.proxy) ∧
    readACL (tunnel.setTunnelACL (some text)).1.aclStr = .error err ∧
    ((tunnel.setTunnelACL (some text)).1 = tunnel ↔ tunnel.aclStr = some text) := by
  have read : readACL (some text) = .error err := refused
  simp only [Tunnel.setTunnelACL, read]
  refine ⟨trivial, ⟨trivial, trivial⟩, trivial, ?_⟩
  constructor
  · intro same
    exact (congrArg Tunnel.aclStr same).symm
  · intro stored
    rw [← stored]

/-- A refused text replaces that of a list that admits one network. -/
theorem refused_update_stored :
    parseTunnelACL "10.0.0.0/8,x" = .error "invalid IP addr: x" ∧
    ∃ networks, readACL (some "10.0.0.0/8") = .ok (some networks) ∧
      Tunnel.setTunnelACL ⟨some "10.0.0.0/8", [some networks], none⟩ (some "10.0.0.0/8,x") =
        (⟨some "10.0.0.0/8,x", [some networks], none⟩, some "invalid IP addr: x") := by
  refine ⟨by decide, [⟨[10, 0, 0, 0], [255, 0, 0, 0]⟩], by decide, by decide⟩

theorem refused_update_iff_open :
    parseTunnelACL "x" = .error "invalid IP addr: x" ∧
      (Tunnel.setTunnelACL ⟨none, [none], none⟩ (some "x")).1 ≠ ⟨none, [none], none⟩ := by
  have refused : parseTunnelACL "x" = .error "invalid IP addr: x" := by decide
  refine ⟨refused, fun same => ?_⟩
  cases (refused_update_iff _ "x" _ refused).2.2.2.mp same

end ProxiPort.TunnelAccess
