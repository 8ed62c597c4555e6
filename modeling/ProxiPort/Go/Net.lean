import ProxiPort.Go.Strings

/-!
# Addresses

The packages `net` and `net/netip`, as far as the modelled code calls them:
parsing and printing of addresses and networks, membership in a network, hosts
and ports.  A `net.IP` is its bytes; the zero value has none.
-/

namespace ProxiPort.Go

abbrev IP := List UInt8

/-- The bytes before an IPv4 address in its sixteen-byte form. -/
def v4InV6Prefix : IP := [0, 0, 0, 0, 0, 0, 0, 0, 0, 0, 0xff, 0xff]

def IP.to4 (ip : IP) : Option IP :=
  if ip.length = 4 then some ip
  else if ip.length = 16 ∧ ip.take 12 = v4InV6Prefix then some (ip.drop 12)
  else none

structure IPNet where
  ip : IP
  mask : List UInt8
  deriving DecidableEq, Repr

def IPNet.networkNumberAndMask (network : IPNet) : IP × List UInt8 :=
  let ip := (network.ip.to4).getD network.ip
  if ip.length ≠ 4 ∧ ip.length ≠ 16 then ([], [])
  else if network.mask.length = 4 then
    if ip.length = 4 then (ip, network.mask) else ([], [])
  else if network.mask.length = 16 then
    (ip, if ip.length = 4 then network.mask.drop 12 else network.mask)
  else ([], [])

def IPNet.contains (network : IPNet) (ip : IP) : Bool :=
  let (number, mask) := network.networkNumberAndMask
  let ip := ip.to4.getD ip
  ip.length = number.length && List.zipWith (· &&& ·) number mask = List.zipWith (· &&& ·) ip mask

inductive Addr where
  | v4 (bytes : List UInt8)
  | v6 (bytes : List UInt8) (zone : String)
  deriving DecidableEq, Repr

namespace Addr

def fromSlice (slice : List UInt8) : Option Addr :=
  if slice.length = 4 then some (.v4 slice)
  else if slice.length = 16 then some (.v6 slice "")
  else none

def unmap : Addr → Addr
  | .v4 bytes => .v4 bytes
  | .v6 bytes zone =>
    if bytes.take 12 = v4InV6Prefix then .v4 (bytes.drop 12)
    else .v6 bytes zone

/-- `WithZone`: an IPv4 address has no zone. -/
def withZone (zone : String) : Addr → Addr
  | .v4 bytes => .v4 bytes
  | .v6 bytes _ => .v6 bytes zone

def zone : Addr → String
  | .v4 _ => ""
  | .v6 _ zone => zone

def bitLen : Addr → Nat
  | .v4 _ => 32
  | .v6 _ _ => 128

def as16 : Addr → IP
  | .v4 bytes => v4InV6Prefix ++ bytes
  | .v6 bytes _ => bytes

/-- `appendTo4`. -/
def printV4 (bytes : List UInt8) : String := join (bytes.map fun byte => Nat.repr byte.toNat) "."

def groups : List UInt8 → List Nat
  | high :: low :: rest => (high.toNat * 256 + low.toNat) :: groups rest
  | _ => []

/-- The longest run of at least two zero groups, the first one among equals:
where it starts and how long it is. -/
def zeroRun (groups : List Nat) : Nat × Nat := (List.range groups.length).foldl (fun best start =>
    let length := ((groups.drop start).takeWhile (· = 0)).length
    if 2 ≤ length ∧ best.2 < length then (start, length) else best) (0, 0)

/-- `appendTo6` without the zone. -/
def printV6 (bytes : List UInt8) : String :=
  let groups := groups bytes
  let print := fun groups =>
    join (groups.map fun group => String.ofList (Nat.toDigits 16 group)) ":"
  let (start, length) := zeroRun groups
  if length = 0 then print groups
  else
    print (groups.take start) ++ "::" ++ print (groups.drop (start + length))

def printPort (port : Nat) : Addr → String
  | .v4 bytes => printV4 bytes ++ ":" ++ Nat.repr port
  | .v6 bytes zone =>
    let host :=
      if bytes.take 12 = v4InV6Prefix then
        "::ffff:" ++ printV4 (bytes.drop 12)
      else printV6 bytes
    "[" ++ host ++ (if zone = "" then "" else "%" ++ zone) ++ "]:" ++ Nat.repr port

end Addr

/-- `parseIPv4Fields`: the value and the number of digits of the field that is
being read, and the fields before it. -/
def parseIPv4Fields (val digLen : Nat) (fields : List UInt8) : List Char → Option (List UInt8)
  | [] =>
    if fields.length < 3 then none else some (fields ++ [UInt8.ofNat val])
  | character :: rest =>
    if character.isDigit then
      let next := val * 10 + (character.toNat - '0'.toNat)
      if digLen = 1 ∧ val = 0 then none
      else if next > 255 then none
      else parseIPv4Fields next (digLen + 1) fields rest
    else if character = '.' then
      if digLen = 0 ∨ rest = [] then none
      else if fields.length = 3 then none
      else parseIPv4Fields 0 0 (fields ++ [UInt8.ofNat val]) rest
    else none

def parseIPv4 (text : List Char) : Option Addr := (parseIPv4Fields 0 0 [] text).map .v4

def hexValue (character : Char) : Option Nat :=
  if '0' ≤ character ∧ character ≤ '9' then
    some (character.toNat - '0'.toNat)
  else if 'a' ≤ character ∧ character ≤ 'f' then
    some (character.toNat - 'a'.toNat + 10)
  else if 'A' ≤ character ∧ character ≤ 'F' then
    some (character.toNat - 'A'.toNat + 10)
  else none

/-- The hexadecimal digits at the start of a text, at most four of them: their
value, their number and what follows. -/
def takeHex (acc off : Nat) : List Char → Option (Nat × Nat × List Char)
  | [] => some (acc, off, [])
  | character :: rest =>
    match hexValue character with
    | none => some (acc, off, character :: rest)
    | some digit =>
      if off > 3 then none else takeHex (acc * 16 + digit) (off + 1) rest

/-- The loop of `parseIPv6` over the groups: the bytes so far, where the
ellipsis is, and the text that is left. -/
def parseGroups :
    Nat → List UInt8 → Option Nat → List Char →
    Option (List UInt8 × Option Nat × List Char)
  | 0, bytes, ellipsis, text => some (bytes, ellipsis, text)
  | room + 1, bytes, ellipsis, text =>
    match takeHex 0 0 text with
    | none => none
    | some (acc, off, rest) =>
      let next := bytes ++ [UInt8.ofNat (acc / 256), UInt8.ofNat (acc % 256)]
      if off = 0 then none
      else
        match rest with
        | [] => some (next, ellipsis, [])
        | '.' :: _ =>
          if ellipsis = none ∧ bytes.length ≠ 12 then none
          else if bytes.length + 4 > 16 then none
          else
            (parseIPv4Fields 0 0 [] text).map fun fields =>
              (bytes ++ fields, ellipsis, [])
        | [':'] => none
        | ':' :: ':' :: rest =>
          if ellipsis.isSome then none
          else if rest = [] then some (next, some next.length, [])
          else parseGroups room next (some next.length) rest
        | ':' :: rest => parseGroups room next ellipsis rest
        | _ => none

def parseIPv6 (text : List Char) : Option Addr :=
  let address := text.takeWhile (· ≠ '%')
  let behind := text.dropWhile (· ≠ '%')
  if behind = ['%'] then none
  else
    let zone := String.ofList (behind.drop 1)
    match address with
    | [':', ':'] => some (.v6 (List.replicate 16 0) zone)
    | _ =>
      let parsed :=
        match address with
        | ':' :: ':' :: rest => parseGroups 8 [] (some 0) rest
        | _ => parseGroups 8 [] none address
      match parsed with
      | some (bytes, none, []) =>
        if bytes.length < 16 then none else some (.v6 bytes zone)
      | some (bytes, some ellipsis, []) =>
        if bytes.length < 16 then
          some (.v6 (bytes.take ellipsis ++ List.replicate (16 - bytes.length) 0 ++
            bytes.drop ellipsis) zone)
        else none
      | _ => none

def parseAddr (text : String) : Option Addr :=
  match text.toList.find? fun character =>
      character = '.' ∨ character = ':' ∨ character = '%' with
  | some '.' => parseIPv4 text.toList
  | some ':' => parseIPv6 text.toList
  | _ => none

def parseIP (text : String) : Option IP :=
  match parseAddr text with
  | none => none
  | some addr => if addr.zone ≠ "" then none else some addr.as16

def cidrMask (ones bits : Nat) : List UInt8 := (List.range (bits / 8)).map fun index =>
    let left := ones - 8 * index
    if 8 ≤ left then 0xff else UInt8.ofNat (0xff * 2 ^ (8 - left) % 256)

def IP.mask (ip : IP) (mask : List UInt8) : IP :=
  let mask :=
    if mask.length = 16 ∧ ip.length = 4 ∧ mask.take 12 = List.replicate 12 0xff then mask.drop 12
    else mask
  let ip :=
    if mask.length = 4 ∧ ip.length = 16 ∧ ip.take 12 = v4InV6Prefix then
      ip.drop 12
    else ip
  if ip.length ≠ mask.length then [] else List.zipWith (· &&& ·) ip mask

def parseCIDR (text : String) : Option IPNet :=
  let addr := text.toList.takeWhile (· ≠ '/')
  match text.toList.dropWhile (· ≠ '/') with
  | [] => none
  | _ :: bits =>
    match parseAddr (String.ofList addr), digitsValue bits with
    | some addr, some ones =>
      if addr.zone ≠ "" ∨ addr.bitLen < ones then none
      else
        let mask := cidrMask ones addr.bitLen
        some ⟨addr.as16.mask mask, mask⟩
    | _, _ => none

def splitHostPort (hostport : String) : Except String (String × String) :=
  let text := hostport.toList
  let port := (text.reverse.takeWhile (· ≠ ':')).reverse
  let before := text.take (text.length - port.length - 1)
  if ':' ∉ text then .error "missing port in address"
  else
    match text with
    | '[' :: inner =>
      let host := inner.takeWhile (· ≠ ']')
      let behind := (inner.dropWhile (· ≠ ']')).drop 1
      if ']' ∉ inner then .error "missing ']' in address"
      else if behind = [] then .error "missing port in address"
      else if behind ≠ ':' :: port then
        if behind.head? = some ':' then .error "too many colons in address"
        else .error "missing port in address"
      else if '[' ∈ inner then .error "unexpected '[' in address"
      else if ']' ∈ behind then .error "unexpected ']' in address"
      else .ok (String.ofList host, String.ofList port)
    | _ =>
      if ':' ∈ before then .error "too many colons in address"
      else if '[' ∈ text then .error "unexpected '[' in address"
      else if ']' ∈ text then .error "unexpected ']' in address"
      else .ok (String.ofList before, String.ofList port)

/-- The loop of `parsePort` over the digits, in a `uint32`. -/
def parsePortDigits (n : Nat) : List Char → Option Nat
  | [] => some n
  | character :: rest =>
    if ¬ character.isDigit then none
    else if 2 ^ 30 ≤ n then some (2 ^ 32 - 1)
    else
      let shifted := n * 10 % 2 ^ 32
      let next := (shifted + (character.toNat - '0'.toNat)) % 2 ^ 32
      if next < shifted then some (2 ^ 32 - 1)
      else parsePortDigits next rest

/-- `parsePort`; a text that is not a number has to be looked up. -/
def parsePort (service : String) : Option Int :=
  match service.toList with
  | '-' :: digits =>
    (parsePortDigits 0 digits).map fun n => -((min n (2 ^ 30) : Nat) : Int)
  | '+' :: digits =>
    (parsePortDigits 0 digits).map fun n => ((min n (2 ^ 30 - 1) : Nat) : Int)
  | digits =>
    (parsePortDigits 0 digits).map fun n => ((min n (2 ^ 30 - 1) : Nat) : Int)

example : (Addr.v6 (List.replicate 15 0 ++ [1]) "lo").printPort 53 = "[::1%lo]:53" := by
  decide

end ProxiPort.Go
