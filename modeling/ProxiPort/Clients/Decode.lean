import ProxiPort.Clients.Remote
import ProxiPort.Go.Filepath

/-!
# Reading remotes

`NewRemote` of `share/models/remote.go`: a text is split at its colons, and its
parts are read from the right.  The parts need not have one of the documented
shapes, and then some of them are lost.  What is printed of a remote that was
read is read as the same remote.
-/

namespace ProxiPort.Clients

open Go List

/-- `url.Parse`, as far as `isHost` asks it. -/
structure Urls where
  isHost : String → Bool
  noControl : ∀ {text}, isHost text = true →
    ∀ character ∈ text.toList, ' ' ≤ character ∧ character ≠ '\x7f'
  plain : isHost "" = true ∧ isHost "127.0.0.1" = true ∧ isHost zeroHost = true

def lenient : Urls where
  isHost text := text.toList.all fun character =>
    ' ' ≤ character && character ≠ '\x7f'
  noControl := by simp
  plain := by decide

def isPort (text : String) : Bool := text ≠ "" && text.toList.all Char.isDigit

def protocols : List String := ["tcp", "udp", "tcp+udp"]

/-- The text before the suffix of `protocolRe`, and the protocol. -/
def cutProtocol (text : List Char) : List Char × Option String :=
  match protocols.find? fun protocol =>
      ('/' :: protocol.toList).isSuffixOf text with
  | none => (text, none)
  | some protocol =>
    (text.take (text.length - (protocol.toList.length + 1)), some protocol)

def lastLine (text : List Char) : List Char := (splitCharacters '\n' text).getLastD []

def Remote.of (protocol localHost localPort remoteHost remotePort : String) :
    Remote :=
  ⟨"", protocol, localHost, localPort, false, "", remoteHost, remotePort, none,
    none, 0, 0, false, "", "", "", false, ""⟩

variable (urls : Urls)

def readPart (r : Remote) (p : String) : Except String Remote :=
  if isPort p then
    if r.remotePort = "" then .ok { r with remotePort := p }
    else .ok { r with localPort := p }
  else if r.remotePort = "" ∧ r.localPort = "" then .error "Missing ports"
  else if !urls.isHost p then .error "Invalid host"
  else if r.remoteHost = "" then .ok { r with remoteHost := p }
  else .ok { r with localHost := p }

def setDefaults (r : Remote) : Remote :=
  { r with
    localHost := if r.localHost = "" ∧ r.localPort ≠ "" then zeroHost
      else r.localHost
    remoteHost := if r.remoteHost = "" then "127.0.0.1" else r.remoteHost }

def readParts (protocol s : String) : Except String Remote :=
  let parts := split s ':'
  if 5 ≤ parts.length then .error "Invalid remote"
  else do
    let r ← parts.reverse.foldlM (readPart urls) (.of protocol "" "" "" "")
    return setDefaults r

def newRemote (text : String) : Except String Remote :=
  match cutProtocol text.toList with
  | (body, none) => readParts urls "tcp" (String.ofList body)
  | (body, some protocol) =>
    readParts urls protocol (String.ofList (lastLine body))

inductive Kind where
  | port
  | host
  | other
  deriving DecidableEq

def kindOf (part : String) : Kind :=
  if isPort part then .port
  else if part ≠ "" && urls.isHost part then .host
  else .other

def shapes : List (List Kind) :=
  [[.port], [.host, .port], [.port, .host, .port],
    [.host, .port, .host, .port], [.port, .port]]

def partsOf (text : String) : List String :=
  split (String.ofList (cutProtocol text.toList).1) ':'

def Documented (text : String) : Prop := (partsOf text).map (kindOf urls) ∈ shapes

/-- Every part is in one of the two addresses, and the local one is whole or
absent. -/
def Whole (parts : List String) (r : Remote) : Prop :=
  parts ⊆ [r.localHost, r.localPort, r.remoteHost, r.remotePort] ∧
    (r.localHost ≠ "" ↔ r.localPort ≠ "")

variable {urls} {part text : String} {r : Remote}

theorem kindOf_eq_port : kindOf urls part = .port ↔ isPort part = true ∧ part ≠ "" := by
  unfold kindOf
  split
  · simp_all [isPort]
  · split <;> simp [*]

theorem kindOf_eq_host :
    kindOf urls part = .host ↔
    isPort part = false ∧ part ≠ "" ∧ urls.isHost part = true := by
  unfold kindOf
  split
  · simp [*]
  · split <;> simp_all

theorem not_mem_of_isPort (port : isPort part = true) {character : Char}
    (noDigit : character.isDigit = false) : character ∉ part.toList := by
  simp only [isPort, Bool.and_eq_true, all_eq_true] at port
  intro member
  cases noDigit.symm.trans (port.2 character member)

theorem not_mem_of_isHost (host : urls.isHost part = true) : '\n' ∉ part.toList := by
  intro member
  exact absurd (urls.noControl host _ member).1 (by decide)

variable {parts : List String}

theorem not_mem_join {character separator : Char} (apart : character ≠ separator)
    (absent : ∀ part ∈ parts, character ∉ part.toList) :
    character ∉ (join parts (String.singleton separator)).toList := by
  induction parts with
  | nil => simp [join]
  | cons first rest induction =>
    obtain ⟨here, later⟩ := forall_mem_cons.mp absent
    by_cases last : rest = []
    · simpa [last, join] using here
    · rw [join, String.intercalate_cons_of_ne_nil last, ← join]
      simp [here, apart, induction later]

theorem Documented.line (documented : Documented urls text) :
    '\n' ∉ (cutProtocol text.toList).1 := by
  have parts : ∀ part ∈ partsOf text, '\n' ∉ part.toList := by
    intro part member
    have known : ∀ kinds ∈ shapes, Kind.other ∉ kinds := by decide
    cases kind : kindOf urls part with
    | port => exact not_mem_of_isPort (kindOf_eq_port.mp kind).1 rfl
    | host => exact not_mem_of_isHost (kindOf_eq_host.mp kind).2.2
    | other =>
      exact absurd (mem_map.mpr ⟨part, member, kind⟩) (known _ documented)
  have whole := not_mem_join (by decide : '\n' ≠ ':') parts
  rwa [partsOf, Path.join_split, String.toList_ofList] at whole

theorem whole_of_shape {protocol : String} (shape : parts.map (kindOf urls) ∈ shapes)
    (read : parts.reverse.foldlM (readPart urls) (.of protocol "" "" "" "") =
      .ok r) : Whole parts (setDefaults r) := by
  simp only [shapes, mem_cons, not_mem_nil, or_false,
    map_eq_cons_iff, map_eq_nil_iff, kindOf_eq_port, kindOf_eq_host] at shape
  rcases shape with ⟨port, _, rfl, isPort, rfl⟩ |
    ⟨host, _, rfl, isHost, port, _, rfl, isPort, rfl⟩ |
    ⟨lport, _, rfl, isLocal, host, _, rfl, isHost, port, _, rfl, isPort, rfl⟩ |
    ⟨lhost, _, rfl, isLHost, lport, _, rfl, isLocal, host, _, rfl, isHost,
      port, _, rfl, isPort, rfl⟩ |
    ⟨lport, _, rfl, isLocal, port, _, rfl, isPort, rfl⟩
  all_goals
    simp [readPart, Remote.of, pure, Except.pure, bind, Except.bind, *] at read
    subst read
    simp [Whole, setDefaults, zeroHost, *]

theorem Documented.whole (documented : Documented urls text)
    (accepted : newRemote urls text = .ok r) : Whole (partsOf text) r := by
  have parsed : ∃ protocol, readParts urls protocol
      (String.ofList (cutProtocol text.toList).1) = .ok r := by
    have line := documented.line
    rw [newRemote] at accepted
    split at accepted <;> rename_i body protocol cut <;> rw [cut] at line ⊢
    · exact ⟨_, accepted⟩
    · rw [lastLine, splitCharacters_of_not_mem line] at accepted
      exact ⟨_, accepted⟩
  obtain ⟨protocol, parsed⟩ := parsed
  simp only [readParts] at parsed
  split at parsed
  · cases parsed
  · obtain ⟨read, walked, result⟩ := Outcome.bind_eq_ok_iff.mp parsed
    cases result
    exact whole_of_shape documented walked

/-- Nothing of an accepted text is lost exactly when it has one of the
documented shapes. -/
theorem drops_nothing_iff (accepted : newRemote urls text = .ok r) :
    (Documented urls text ∧ Whole (partsOf text) r) ↔ Documented urls text :=
  ⟨And.left, fun documented => ⟨documented, documented.whole accepted⟩⟩

theorem drops_nothing_iff_port :
    Documented lenient "80" ∧
    Whole (partsOf "80") (.of "tcp" "" "" "127.0.0.1" "80") :=
  (drops_nothing_iff (by rfl)).mpr (mem_cons_self ..)

/-- Of three ports the second is lost. -/
theorem drops_port :
    newRemote lenient "1:2:3" = .ok (.of "tcp" zeroHost "1" "127.0.0.1" "3") ∧
    ¬ Documented lenient "1:2:3" ∧
    ¬ Whole (partsOf "1:2:3") (.of "tcp" zeroHost "1" "127.0.0.1" "3") := by
  refine ⟨by rfl, ?_, ?_⟩
  · change [Kind.port, .port, .port] ∉ shapes
    decide
  · intro whole
    have kept := whole.1 (by decide : "2" ∈ partsOf "1:2:3")
    exact absurd kept (by decide)

structure IsHostPart (urls : Urls) (part : String) : Prop where
  isHost : urls.isHost part = true
  noPort : isPort part = false
  whole : ':' ∉ part.toList

inductive Read (urls : Urls) (protocol : String) : Remote → Prop where
  | of {localHost localPort remoteHost remotePort : String}
      (isLocalHost : IsHostPart urls localHost)
      (isLocalPort : localPort = "" ∨ isPort localPort = true)
      (isRemoteHost : IsHostPart urls remoteHost) (isRemotePort : isPort remotePort = true) :
      Read urls protocol (.of protocol localHost localPort remoteHost remotePort)

variable {protocol : String} {next : Remote} {parts : List String}

theorem ne_empty_of_isPort (port : isPort part = true) : part ≠ "" := by
  rintro rfl
  cases port

theorem isHostPart_empty : IsHostPart urls "" := ⟨urls.plain.1, rfl, by simp⟩

theorem read_part (before : r = .of protocol "" "" "" "" ∨ Read urls protocol r)
    (whole : ':' ∉ part.toList) (read : readPart urls r part = .ok next) :
    Read urls protocol next := by
  rcases before with rfl | ⟨localHost, localPort, remoteHost, remotePort⟩
  · unfold readPart at read
    split at read
    · rename_i port
      cases read
      exact .of isHostPart_empty (.inl rfl) isHostPart_empty port
    · cases read
  · dsimp only [readPart, Remote.of] at read
    simp only [ne_empty_of_isPort remotePort, false_and, if_false] at read
    split at read
    · rename_i port
      cases read
      exact .of localHost (.inr port) remoteHost remotePort
    · rename_i noPort
      split at read
      · cases read
      · rename_i isHost
        have host : IsHostPart urls part :=
          ⟨by simpa using isHost, eq_false_of_ne_true noPort, whole⟩
        split at read
        · cases read
          exact .of localHost localPort host remotePort
        · cases read
          exact .of host localPort remoteHost remotePort

theorem read_parts (present : parts ≠ [])
    (before : r = .of protocol "" "" "" "" ∨ Read urls protocol r)
    (whole : ∀ part ∈ parts, ':' ∉ part.toList) (read : parts.foldlM (readPart urls) r = .ok next) :
    Read urls protocol next := by
  induction parts generalizing r with
  | nil => exact absurd rfl present
  | cons part parts induction =>
    obtain ⟨here, later⟩ := forall_mem_cons.mp whole
    rw [foldlM_cons, Outcome.bind_eq_ok_iff] at read
    obtain ⟨between, first, rest⟩ := read
    have now := read_part before here first
    by_cases last : parts = []
    · subst last
      cases rest
      exact now
    · exact induction last (.inr now) later rest

theorem Read.setDefaults (read : Read urls protocol r) : Read urls protocol (setDefaults r) := by
  obtain ⟨localHost, localPort, remoteHost, remotePort⟩ := read
  refine .of ?_ localPort ?_ remotePort
  · split
    · exact ⟨urls.plain.2.2, by decide, by decide⟩
    · exact localHost
  · split
    · exact ⟨urls.plain.2.1, by decide, by decide⟩
    · exact remoteHost

theorem read_of_accepted (accepted : newRemote urls text = .ok r) :
    ∃ protocol ∈ protocols, Read urls protocol r ∧ setDefaults r = r := by
  obtain ⟨protocol, known, s, parsed⟩ : ∃ protocol ∈ protocols, ∃ s,
      readParts urls protocol s = .ok r := by
    rw [newRemote] at accepted
    split at accepted
    · exact ⟨_, by decide, _, accepted⟩
    · rename_i protocol cut
      simp only [cutProtocol] at cut
      split at cut
      · cases cut
      · rename_i found
        cases cut
        exact ⟨protocol, mem_of_find?_eq_some found, _, accepted⟩
  simp only [readParts] at parsed
  split at parsed
  · cases parsed
  · obtain ⟨read, walked, result⟩ := Outcome.bind_eq_ok_iff.mp parsed
    cases result
    have whole : ∀ part ∈ (split s ':').reverse, ':' ∉ part.toList :=
      fun part member => not_mem_of_split (mem_reverse.mp member)
    have present : (split s ':').reverse ≠ [] := by
      simp [split, splitCharacters_ne_nil]
    refine ⟨protocol, known, (read_parts present (.inl rfl) whole walked).setDefaults, ?_⟩
    simp only [Clients.setDefaults]
    split_ifs <;> simp_all [zeroHost]

/-- A line that does not end as a protocol does is read as it is, with and
without a protocol behind it. -/
theorem newRemote_append {last : Char} {front : List Char} (apart : last ≠ 'p')
    (ends : text.toList.reverse = last :: front) (line : '\n' ∉ text.toList)
    (known : protocol ∈ protocols) :
    newRemote urls (text ++ if protocol ≠ "tcp" then "/" ++ protocol else "") =
      readParts urls protocol text := by
  have whole : lastLine text.toList = text.toList := by
    rw [lastLine, splitCharacters_of_not_mem line]
    rfl
  simp only [protocols, mem_cons, not_mem_nil, or_false] at known
  rcases known with rfl | rfl | rfl
  all_goals simp [newRemote, cutProtocol, protocols, List.isSuffixOf,
    List.isPrefixOf, ends, apart.symm, whole]

theorem Read.newRemote_string (read : Read urls protocol r)
    (known : protocol ∈ protocols) (kept : Clients.setDefaults r = r) :
    newRemote urls r.string = .ok r := by
  obtain @⟨lhost, lport, rhost, rport, localHost, localPort, remoteHost, remotePort⟩ := read
  have given := ne_empty_of_isPort remotePort
  have named : rhost ≠ "" := by
    rintro rfl
    simp [Clients.setDefaults, Remote.of] at kept
  have port : ∀ character, character.isDigit = false → character ∉ lport.toList := by
    intro character noDigit
    rcases localPort with rfl | isPort
    · simp
    · exact not_mem_of_isPort isPort noDigit
  have parts : split (join [lhost, lport, rhost, rport] ":") ':' =
      [lhost, lport, rhost, rport] := by
    apply split_join (by simp)
    simp [localHost.whole, port, remoteHost.whole, not_mem_of_isPort remotePort]
  have text : join [lhost, lport, rhost, rport] ":" =
      lhost ++ ":" ++ lport ++ ":" ++ rhost ++ ":" ++ rport := by
    simp [join, String.intercalate_cons_of_ne_nil, String.append_assoc]
  have printed : (Remote.of protocol lhost lport rhost rport).string =
      join [lhost, lport, rhost, rport] ":" ++
        if protocol ≠ "tcp" then "/" ++ protocol else "" := by
    simp only [Remote.string, Remote.remote, Remote.of, joinHostPort,
      remoteHost.whole, text, String.append_assoc, String.append_empty, if_false]
    rfl
  have read : readParts urls protocol (join [lhost, lport, rhost, rport] ":") =
      .ok (.of protocol lhost lport rhost rport) := by
    rcases localPort with rfl | isPort
    all_goals simp_all [readParts, readPart, Remote.of, localHost.noPort,
      localHost.isHost, remoteHost.noPort, remoteHost.isHost, urls.plain.1,
      pure, Except.pure, bind, Except.bind]
  cases ends : rport.toList.reverse with
  | nil => simp [given] at ends
  | cons last front =>
    have apart : last ≠ 'p' := by
      rintro rfl
      apply not_mem_of_isPort remotePort (by decide : 'p'.isDigit = false)
      rw [← mem_reverse, ends]
      exact mem_cons_self
    rw [printed, newRemote_append apart (by simp [text, ends]; rfl) _ known, read]
    simp [text, not_mem_of_isHost localHost.isHost, port,
      not_mem_of_isHost remoteHost.isHost, not_mem_of_isPort remotePort]

/-- A remote that was read is read again from what is printed of it, and so no
two of them are printed alike. -/
theorem remote_string_roundTrip (accepted : newRemote urls text = .ok r) :
    newRemote urls r.string = .ok r ∧
      ∀ {other s}, newRemote urls other = .ok s → s.string = r.string → s = r := by
  have again {text : String} {r : Remote} (accepted : newRemote urls text = .ok r) :
      newRemote urls r.string = .ok r := by
    obtain ⟨protocol, known, read, kept⟩ := read_of_accepted accepted
    exact read.newRemote_string known kept
  refine ⟨again accepted, ?_⟩
  intro other s otherAccepted same
  have otherAgain := again otherAccepted
  rw [same, again accepted] at otherAgain
  exact (Except.ok.inj otherAgain).symm

theorem remote_string_roundTrip_udp :
    newRemote lenient "0.0.0.0:80:host:22/udp" =
      .ok (.of "udp" "0.0.0.0" "80" "host" "22") :=
  (remote_string_roundTrip (by rfl : newRemote lenient "80:host:22/udp" =
    .ok (.of "udp" zeroHost "80" "host" "22"))).1

end ProxiPort.Clients
