import ProxiPort.Tunnels.Allowed

/-!
# Dials stay within `tunnel_allowed`

The decision is about the addresses of one look-up, and the dial makes another
one.  As long as a look-up for a dial returns no address that the look-up of the
decision has not returned, every address that is dialled is permitted.
-/

namespace ProxiPort.Agent

open Concurrency Go List

variable {unicode : Go.Unicode}

variable {digits : List Char}

theorem parsePortDigits_isSome (decimal : ∀ digit ∈ digits, digit.isDigit = true) (n : Nat) :
    (parsePortDigits n digits).isSome = true := by
  induction digits generalizing n with
  | nil => rfl
  | cons digit rest induction =>
    obtain ⟨first, others⟩ := forall_mem_cons.mp decimal
    simp only [parsePortDigits, first, not_true_eq_false, if_false]
    split
    · rfl
    · split
      · rfl
      · exact induction others _

theorem isDigit_of_foldl {start : Option Nat} (read : (digits.foldl (fun value digit =>
      value.bind fun value =>
        if digit.isDigit then some (value * 10 + (digit.toNat - '0'.toNat))
        else none) start).isSome = true) :
    start.isSome = true ∧ ∀ digit ∈ digits, digit.isDigit = true := by
  induction digits generalizing start with
  | nil => exact ⟨read, forall_mem_nil _⟩
  | cons digit rest induction =>
    obtain ⟨first, others⟩ := induction read
    cases start with
    | none => cases first
    | some value =>
      refine ⟨rfl, forall_mem_cons.mpr ⟨?_, others⟩⟩
      by_contra letter
      simp [letter] at first

theorem isDigit_of_digitsValue (read : (digitsValue digits).isSome = true) :
    ∀ digit ∈ digits, digit.isDigit = true := by
  cases digits with
  | nil => exact forall_mem_nil _
  | cons digit rest => exact (isDigit_of_foldl read).2

theorem isDigit_of_bind (read : (digitsValue digits >>= fun value =>
      pure (value : Int)).isSome = true) :
    ∀ digit ∈ digits, digit.isDigit = true := by
  cases value : digitsValue digits with
  | none =>
    rw [value] at read
    cases read
  | some number =>
    apply isDigit_of_digitsValue
    rw [value]
    rfl

/-- What follows an optional sign. -/
def unsigned : List Char → List Char
  | '-' :: digits => digits
  | '+' :: digits => digits
  | digits => digits

theorem unsigned_of_no_sign {characters : List Char}
    (noMinus : ∀ digits, characters = '-' :: digits → False)
    (noPlus : ∀ digits, characters = '+' :: digits → False) : unsigned characters = characters := by
  rw [unsigned.eq_def]
  split
  · exact (noMinus _ rfl).elim
  · exact (noPlus _ rfl).elim
  · rfl

variable {text : String}

theorem isDigit_of_atoi (number : (atoi text).isSome = true) :
    ∀ digit ∈ unsigned text.toList, digit.isDigit = true := by
  simp only [atoi] at number
  have read := Option.isSome_of_isSome_filter _ _ number
  clear number
  split at read
  · rename_i start
    rw [start]
    rw [Option.isSome_map] at read
    exact isDigit_of_bind read
  · rename_i start
    rw [start]
    rw [Option.isSome_map] at read
    exact isDigit_of_bind read
  · rename_i noMinus noPlus
    rw [unsigned_of_no_sign noMinus noPlus]
    rw [Option.isSome_map] at read
    exact isDigit_of_bind read

theorem parsePort_of_atoi (number : (atoi text).isSome = true) :
    (parsePort text).isSome = true := by
  have digits := isDigit_of_atoi number
  simp only [parsePort]
  split
  · rename_i start
    rw [start] at digits
    rw [Option.isSome_map]
    exact parsePortDigits_isSome digits 0
  · rename_i start
    rw [start] at digits
    rw [Option.isSome_map]
    exact parsePortDigits_isSome digits 0
  · rename_i noMinus noPlus
    rw [unsigned_of_no_sign noMinus noPlus] at digits
    rw [Option.isSome_map]
    exact parsePortDigits_isSome digits 0

theorem parseAddr_v4 {addr : Addr} (plain : ':' ∉ text.toList)
    (parsed : parseAddr text = some addr) : ∃ bytes, addr = .v4 bytes := by
  simp only [parseAddr] at parsed
  split at parsed
  · simp only [parseIPv4, Option.map_eq_some_iff] at parsed
    obtain ⟨bytes, _, rfl⟩ := parsed
    exact ⟨bytes, rfl⟩
  · rename_i found
    exact (plain (mem_of_find?_eq_some found)).elim
  · cases parsed

theorem parseCIDR_mask {part : String} {network : IPNet}
    (plain : ':' ∉ part.toList) (parsed : parseCIDR part = some network) :
    network.mask.length = 4 := by
  simp only [parseCIDR] at parsed
  split at parsed
  · cases parsed
  · split at parsed
    · rename_i addr ones known _
      obtain ⟨bytes, rfl⟩ := parseAddr_v4 (by
        rw [String.toList_ofList]
        exact fun inside => plain (takeWhile_subset _ inside)) known
      split at parsed
      · cases parsed
      · cases parsed
        simp [cidrMask, Addr.bitLen]
    · cases parsed

variable {network : Option IPNet}

theorem parseTunnelAllowed_spec {entry port : String}
    (parsed : parseTunnelAllowed unicode entry = .ok (network, port)) :
    (port = "" ∨ (atoi port).isSome = true) ∧ ∀ known ∈ network, known.mask.length = 4 := by
  have plain : ∀ part ∈ split entry ':', ':' ∉ part.toList := fun part => not_mem_of_split
  simp only [parseTunnelAllowed] at parsed
  split at parsed
  · rename_i part parts
    rw [parts] at plain
    split at parsed
    · rename_i cidr
      cases parsed
      refine ⟨.inl rfl, ?_⟩
      rintro known ⟨⟩
      exact parseCIDR_mask (plain part mem_cons_self) cidr
    · split at parsed
      · cases parsed
        refine ⟨.inl rfl, ?_⟩
        rintro known ⟨⟩
        rfl
      · split at parsed
        · cases parsed
        · split at parsed
          · cases parsed
          · rename_i number
            cases parsed
            exact ⟨.inr (by simpa [Option.isSome_iff_ne_none] using number),
              fun known wrong => (Option.not_mem_none known wrong).elim⟩
  · rename_i part portStr parts
    rw [parts] at plain
    split at parsed
    · cases parsed
    · rename_i found
      split at parsed
      · cases parsed
      · split at parsed
        · cases parsed
        · rename_i number
          cases parsed
          constructor
          · by_cases empty : port = ""
            · exact .inl empty
            · right
              simpa [empty, Option.isSome_iff_ne_none] using number
          · rintro known ⟨⟩
            split at found
            · cases found
            · split at found
              · rename_i cidr
                cases found
                exact parseCIDR_mask (plain part mem_cons_self) cidr
              · split at found
                · cases found
                  rfl
                · cases found
  · cases parsed

theorem not_contains_v6 {network : IPNet} (short : network.mask.length = 4) :
    network.contains (List.replicate 16 0) = false := by
  have number : network.networkNumberAndMask.1.length ≤ 4 := by
    simp only [IPNet.networkNumberAndMask, short, if_true]
    split
    · exact Nat.zero_le _
    · split
      · rename_i four
        exact four.le
      · exact Nat.zero_le _
  simp only [IPNet.contains]
  have wide : ((IP.to4 (List.replicate 16 0)).getD (List.replicate 16 0)).length = 16 := by decide
  rw [wide, Bool.and_eq_false_iff]
  left
  simp only [decide_eq_false_iff_not]
  omega

variable {entries : List String} {remotePort : String}

theorem exists_of_coveredBy {ip : IP}
    (covered : coveredBy unicode remotePort ip entries = .ok true) :
    ∃ entry ∈ entries, ∃ network port, parseTunnelAllowed unicode entry = .ok (network, port) ∧
      (∀ known ∈ network, IPNet.contains known ip = true) ∧ (port = "" ∨ port = remotePort) := by
  induction entries with
  | nil => cases covered
  | cons entry entries induction =>
    have later : coveredBy unicode remotePort ip entries = .ok true →
        ∃ entry' ∈ entry :: entries, ∃ network port,
          parseTunnelAllowed unicode entry' = .ok (network, port) ∧
          (∀ known ∈ network, IPNet.contains known ip = true) ∧
          (port = "" ∨ port = remotePort) := by
      intro rest
      obtain ⟨found, member, facts⟩ := induction rest
      exact ⟨found, mem_cons_of_mem _ member, facts⟩
    simp only [coveredBy] at covered
    split at covered
    · cases covered
    · rename_i network port parsed
      split at covered
      · exact later covered
      · rename_i inside
        split at covered
        · exact later covered
        · rename_i fits
          refine ⟨entry, mem_cons_self, network, port, parsed, ?_, ?_⟩
          · intro known member
            cases Option.mem_def.mp member
            simpa using inside
          · by_contra different
            exact fits (not_or.mp different)

theorem coveredBy_of_allCovered {ips : List IP}
    (covered : allCovered unicode entries remotePort ips = .ok true) :
    ∀ ip ∈ ips, coveredBy unicode remotePort ip entries = .ok true := by
  induction ips with
  | nil => exact forall_mem_nil _
  | cons ip ips induction =>
    simp only [allCovered] at covered
    split at covered
    · cases covered
    · cases covered
    · rename_i first
      exact forall_mem_cons.mpr ⟨first, induction covered⟩

variable {remote : String} {settings : Settings}

theorem covered_of_allowed {answer : Answer} (passed : allowed settings answer remote = true) :
    settings.tunnelAllowed = [] ∨
      ∃ host remotePort ips, splitHostPort remote = .ok (host, remotePort) ∧
        lookupIP answer host = .ok ips ∧
        ∀ ip ∈ ips, coveredBy settings.unicode remotePort ip settings.tunnelAllowed = .ok true := by
  simp only [allowed, tunnelIsAllowed, decide_eq_true_eq] at passed
  split at passed
  · rename_i empty
    exact .inl empty
  · simp only [Outcome.bind_eq_ok_iff] at passed
    obtain ⟨⟨host, remotePort⟩, parts, ips, found, covered⟩ := passed
    exact .inr ⟨host, remotePort, ips, parts, found, coveredBy_of_allCovered covered⟩

variable {services : String → Option Int}

theorem port_of_fits {entry : String} {port : Nat}
    (parsed : parseTunnelAllowed unicode entry = .ok (network, text))
    (fits : text = "" ∨ text = remotePort) (resolved : lookupPort services remotePort = .ok port) :
    text = "" ∨ parsePort text = some (port : Int) := by
  rcases fits with empty | rfl
  · exact .inl empty
  · rcases (parseTunnelAllowed_spec parsed).1 with empty | number
    · exact .inl empty
    · right
      obtain ⟨value, known⟩ := Option.isSome_iff_exists.mp (parsePort_of_atoi number)
      simp only [lookupPort, known, Option.some_or] at resolved
      split at resolved
      · rename_i range
        cases resolved
        rw [known, Int.toNat_of_nonneg range.1]
      · cases resolved

section Covered

variable {services : String → Option Int} {ip : IP} {port : Nat}

theorem permitted_fallback (covered : coveredBy unicode remotePort (List.replicate 16 0) entries =
      .ok true)
    (resolved : lookupPort services remotePort = .ok port) :
    Permitted unicode entries (ip, port) := by
  obtain ⟨entry, member, network, text, parsed, inside, fits⟩ := exists_of_coveredBy covered
  cases network with
  | none =>
    exact .inr ⟨entry, member, none, text, parsed,
      fun known wrong => (Option.not_mem_none known wrong).elim, port_of_fits parsed fits resolved⟩
  | some network =>
    have short := (parseTunnelAllowed_spec parsed).2 network rfl
    have contained := inside network rfl
    rw [not_contains_v6 short] at contained
    cases contained

end Covered

/-- Every address that a look-up of the host returns was returned by another
look-up of it. -/
def Within (remote : String) (checked answer : Answer) : Prop :=
  ∀ host service ips known, splitHostPort remote = .ok (host, service) →
    lookupIP answer host = .ok ips → lookupIP checked host = .ok known →
    ips ⊆ known

/-- The executable form of `Within`. -/
def isWithin (remote : String) (checked answer : Answer) : Bool :=
  match splitHostPort remote with
  | .error _ => true
  | .ok (host, _) =>
    match lookupIP answer host, lookupIP checked host with
    | .ok ips, .ok known => ips.all fun ip => known.contains ip
    | _, _ => true

variable {checked answer : Answer}

theorem isWithin_iff : isWithin remote checked answer = true ↔ Within remote checked answer := by
  rw [isWithin]
  constructor
  · intro checks host service ips known parts answered found ip member
    simp only [parts, answered, found, all_eq_true, contains_iff_mem] at checks
    exact checks ip member
  · intro within
    split
    · rfl
    · rename_i host service parts
      split
      · rename_i ips known answered found
        simp only [all_eq_true, contains_iff_mem]
        exact fun ip member =>
          within host service ips known parts answered found member
      · rfl

instance decidableWithin (remote : String) (checked answer : Answer) :
    Decidable (Within remote checked answer) :=
  decidable_of_iff _ isWithin_iff

variable {targets : List Target}

theorem dialAddresses_permitted (passed : allowed settings checked remote = true)
    (within : settings.tunnelAllowed ≠ [] → Within remote checked answer)
    (dialled : dialAddresses services answer remote = .ok targets) :
    ∀ target ∈ targets, Permitted settings.unicode settings.tunnelAllowed target := by
  rcases covered_of_allowed passed with empty | covered
  · exact fun _ _ => .inl empty
  · obtain ⟨host, service, known, parts, found, covered⟩ := covered
    by_cases empty : settings.tunnelAllowed = []
    · exact fun _ _ => .inl empty
    simp only [dialAddresses, Outcome.bind_eq_ok_iff] at dialled
    obtain ⟨⟨dialHost, dialService⟩, dialParts, port, resolved, rest⟩ := dialled
    rw [parts] at dialParts
    cases dialParts
    split at rest
    · rename_i noHost
      rw [lookupIP, if_pos noHost] at found
      cases found
    · simp only [Outcome.bind_eq_ok_iff] at rest
      obtain ⟨ips, answered, result⟩ := rest
      have inside := within empty host service ips known parts answered found
      cases result
      intro target member
      obtain ⟨ip, tried, rfl⟩ := mem_map.mp member
      split at tried
      · rename_i unspecified
        have zero : List.replicate 16 0 ∈ ips := by simp [unspecified]
        exact permitted_fallback (covered _ (inside zero)) resolved
      · obtain ⟨entry, member, network, text, parsed, within, fits⟩ :=
          exists_of_coveredBy (covered ip (inside tried))
        exact .inr ⟨entry, member, network, text, parsed, within, port_of_fits parsed fits resolved⟩

/-- What a step dials: the remote, the answer that the decision got and the
answer that the dial gets. -/
def Stream.dials : Stream → Input → Option (String × Answer × Answer)
  | .dialing remote checked, .dial _ _ answer _ =>
    some (remote, checked, answer)
  | .handling remote checked conns, .datagram _ id _ answer _ _ =>
    if conns.any fun conn => conn.id = id then none
    else some (remote, checked, answer)
  | _, _ => none

/-- A dial gets no address that the decision did not get. -/
def DialsWithin (settings : Settings) (streams : List Stream) (input : Input) :
    Prop :=
  ∀ index stream remote checked answer, input.index = some index → streams[index]? = some stream →
    stream.dials input = some (remote, checked, answer) →
    settings.tunnelAllowed ≠ [] → Within remote checked answer

instance decidableDialsWithin (settings : Settings) (streams : List Stream)
    (input : Input) : Decidable (DialsWithin settings streams input) :=
  decidable_of_iff (∀ dial ∈ input.index.bind fun index =>
        streams[index]?.bind fun stream => stream.dials input,
      settings.tunnelAllowed ≠ [] → Within dial.1 dial.2.1 dial.2.2)
    (by
      constructor
      · intro within index stream remote checked answer indexed place dials
        exact within (remote, checked, answer)
          (by simp only [indexed, place, Option.bind_some, dials, Option.mem_def])
      · intro within dial member
        obtain ⟨index, indexed, rest⟩ := Option.bind_eq_some_iff.mp member
        obtain ⟨stream, place, dials⟩ := Option.bind_eq_some_iff.mp rest
        exact within index stream _ _ _ indexed place dials)

def Stream.Cleared (settings : Settings) : Stream → Prop
  | .dialing remote checked => allowed settings checked remote = true
  | .handling remote checked conns => allowed settings checked remote = true ∧ ∀ conn ∈ conns,
        Permitted settings.unicode settings.tunnelAllowed conn.target
  | .ended => True

variable {settings : Settings}

theorem connectStream_cleared (extraData : String) (answer : Answer) (accepted : Bool) :
    (connectStream settings extraData answer accepted).Cleared settings := by
  rw [connectStream]
  -- How the request is taken apart plays no part in the decision.
  obtain ⟨remote, protocol⟩ := remoteAndProtocol extraData
  simp only
  split
  · rename_i passed
    split
    · exact passed.1
    · split
      · exact ⟨passed.1, forall_mem_nil _⟩
      · trivial
  · trivial

theorem handleDirectTCPIP_cleared (host : String) (port : Nat) (answer : Answer) :
    (handleDirectTCPIP settings host port answer).Cleared settings := by
  simp only [handleDirectTCPIP]
  split
  · trivial
  · split
    · rename_i passed
      exact passed
    · trivial

variable {tried : List Nat}

theorem target_of_attempts {event : Event} (member : event ∈ attempts targets tried) :
    event.target ∈ targets := by
  obtain ⟨target, found, rfl⟩ := mem_map.mp member
  obtain ⟨index, _, place⟩ := mem_filterMap.mp found
  exact List.mem_of_getElem? place

variable {shown : List Event}

theorem handleMessage_cleared {id : String} {conns : List Conn} {won : Nat} {after : Stream}
    (cleared : (Stream.handling remote checked conns).Cleared settings)
    (within : conns.any (fun conn => conn.id = id) = false →
      settings.tunnelAllowed ≠ [] → Within remote checked answer)
    (handled : handleMessage remote checked conns id services answer tried won = (after, shown)) :
    after.Cleared settings ∧ ∀ event ∈ shown,
      Permitted settings.unicode settings.tunnelAllowed event.target := by
  obtain ⟨passed, known⟩ := cleared
  simp only [handleMessage] at handled
  split at handled
  · rename_i conn found
    cases handled
    exact ⟨⟨passed, known⟩, forall_mem_singleton.mpr (known conn (mem_of_find?_eq_some found))⟩
  · rename_i missing
    have fresh : conns.any (fun conn => conn.id = id) = false := by
      simpa using missing
    split at handled
    · cases handled
      exact ⟨trivial, forall_mem_nil _⟩
    · rename_i targets dialled
      have permitted := dialAddresses_permitted passed (within fresh) dialled
      have attempted : ∀ event ∈ attempts targets tried,
          Permitted settings.unicode settings.tunnelAllowed event.target :=
        fun event member => permitted _ (target_of_attempts member)
      split at handled
      · cases handled
        exact ⟨trivial, attempted⟩
      · rename_i target place
        cases handled
        have reached := permitted target (List.mem_of_getElem? place)
        refine ⟨⟨passed, ?_⟩, ?_⟩
        · exact forall_mem_concat known reached
        · exact forall_mem_concat attempted reached

theorem streamStep_cleared {stream after : Stream} {input : Input}
    (cleared : stream.Cleared settings) (within : ∀ remote checked answer,
      stream.dials input = some (remote, checked, answer) →
      settings.tunnelAllowed ≠ [] → Within remote checked answer)
    (stepped : streamStep stream input = some (after, shown)) :
    after.Cleared settings ∧ ∀ event ∈ shown,
      Permitted settings.unicode settings.tunnelAllowed event.target := by
  simp only [streamStep.eq_def] at stepped
  split at stepped
  · split at stepped
    · cases stepped
      exact ⟨trivial, forall_mem_nil _⟩
    · rename_i targets dialled
      cases stepped
      have permitted := dialAddresses_permitted cleared (within _ _ _ rfl) dialled
      exact ⟨trivial, fun event member =>
        permitted _ (target_of_attempts member)⟩
  · rename_i remote checked conns _ id services answer tried won
    have handled := Option.some.inj stepped
    refine handleMessage_cleared cleared ?_ handled
    intro fresh
    apply within
    simp [Stream.dials, fresh]
  · rename_i remote checked conns _ id
    cases stepped
    exact ⟨⟨cleared.1, fun conn member =>
      cleared.2 conn (mem_of_mem_filter member)⟩, forall_mem_nil _⟩
  · cases stepped

theorem step_cleared {streams after : List Stream} {input : Input}
    (cleared : ∀ stream ∈ streams, stream.Cleared settings)
    (within : DialsWithin settings streams input)
    (stepped : step settings streams input = some (after, shown)) :
    (∀ stream ∈ after, stream.Cleared settings) ∧ ∀ event ∈ shown,
      Permitted settings.unicode settings.tunnelAllowed event.target := by
  rw [step.eq_def] at stepped
  split at stepped
  · cases stepped
    exact ⟨forall_mem_concat cleared (connectStream_cleared _ _ _), forall_mem_nil _⟩
  · cases stepped
    exact ⟨forall_mem_concat cleared (handleDirectTCPIP_cleared _ _ _), forall_mem_nil _⟩
  · simp only [Option.bind_eq_bind, Option.bind_eq_some_iff] at stepped
    obtain ⟨index, indexed, stream, place, ⟨next, events⟩, moved, result⟩ := stepped
    cases result
    obtain ⟨kept, reached⟩ := streamStep_cleared (cleared stream (List.mem_of_getElem? place))
      (within index stream · · · indexed place) moved
    exact ⟨forall_mem_set cleared kept, reached⟩

/-- In a run whose dials get no address that the decision on the same request
did not get, an agent reaches nothing that its list does not permit. -/
theorem reaches_permitted (settings : Settings) {history : List Event} {streams : List Stream}
    (run : Run (agentStreams settings) (DialsWithin settings) [] history streams) :
    ∀ event ∈ history, Permitted settings.unicode settings.tunnelAllowed event.target := by
  refine (run.invariant (fun history streams =>
      (∀ stream ∈ streams, stream.Cleared settings) ∧ ∀ event ∈ history,
        Permitted settings.unicode settings.tunnelAllowed event.target)
    ⟨forall_mem_nil _, forall_mem_nil _⟩ ?_).2
  intro history shown streams next input ⟨cleared, reached⟩ within stepped
  obtain ⟨kept, new⟩ := step_cleared cleared within stepped
  exact ⟨kept, forall_mem_append.mpr ⟨reached, new⟩⟩

def tenOnly : Settings := ⟨Unicode.ascii, ["10.0.0.0/8"]⟩

def privateAnswer : Answer := .ok [v4InV6Prefix ++ [10, 0, 0, 1]]

def otherAnswer : Answer := .ok [v4InV6Prefix ++ [192, 168, 1, 1]]

def dialledWith (answer : Answer) : List Input :=
  [.stream "db.internal:80" privateAnswer true,
    .dial 0 (fun _ => none) answer [0], .stream "dns.internal:53/udp" privateAnswer true,
    .datagram 1 "peer" (fun _ => none) answer [0] 0, .datagram 1 "peer" (fun _ => none) answer [] 0,
    .direct "db.internal" 22 privateAnswer, .dial 2 (fun _ => none) answer [0]]

def reachesFive (outcome : List Stream × List Event) : Bool :=
  outcome.2.length = 5 && outcome.2.all fun event =>
    event.target.1 = v4InV6Prefix ++ [10, 0, 0, 1]

theorem reaches_permitted_privateAnswer :
    ∃ streams history,
      Run (agentStreams tenOnly) (DialsWithin tenOnly) [] history streams ∧
      history.length = 5 ∧ ∀ event ∈ history,
        Permitted tenOnly.unicode tenOnly.tunnelAllowed event.target := by
  obtain ⟨streams, history, run, checked⟩ := Run.exists_ofExecute
    (agentStreams tenOnly) (DialsWithin tenOnly) []
    (dialledWith privateAnswer) reachesFive (by decide +kernel) (by decide +kernel)
  simp only [reachesFive, Bool.and_eq_true, decide_eq_true_eq] at checked
  exact ⟨streams, history, run, checked.1, reaches_permitted tenOnly run⟩

def reachesForbidden (outcome : List Stream × List Event) : Bool :=
  outcome.2.length = 5 && outcome.2.all fun event =>
    !decide (Permitted tenOnly.unicode tenOnly.tunnelAllowed event.target)

/-- The decision gets `10.0.0.1` for the name and the dial gets another
address, on each of the three paths. -/
theorem reaches_forbidden :
    ∃ streams history,
      Run (agentStreams tenOnly) Unrestricted [] history streams ∧
      history.length = 5 ∧ ∀ event ∈ history,
        ¬ Permitted tenOnly.unicode tenOnly.tunnelAllowed event.target := by
  obtain ⟨streams, history, run, checked⟩ := Run.exists_unrestricted
    (agentStreams tenOnly) [] (dialledWith otherAnswer) reachesForbidden (by decide +kernel)
  simp only [reachesForbidden, Bool.and_eq_true, decide_eq_true_eq,
    all_eq_true, Bool.not_eq_true', decide_eq_false_iff_not] at checked
  exact ⟨streams, history, run, checked⟩

end ProxiPort.Agent
