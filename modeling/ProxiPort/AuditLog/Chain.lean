import Mathlib.Data.List.Forall2
import Mathlib.Data.List.Infix
import ProxiPort.Foundation.Framing
import ProxiPort.Go.Time

/-!
# The chain of the audit log

`server/auditlog/chain.go`: the tag of an entry and the walk over the rows of a
table.  A string is a list of bytes here, since the tag is computed over bytes
and their number.
-/

namespace ProxiPort.AuditLog

/-- A Go string: its length is an `int`. -/
structure Text where
  bytes : List UInt8
  short : bytes.length < 2 ^ 63
  deriving DecidableEq

namespace Text

def empty : Text := ⟨[], by decide⟩

@[ext]
theorem ext {text other : Text} (same : text.bytes = other.bytes) : text = other := by
  cases text
  cases other
  cases same
  rfl

end Text

structure Audited where
  timestamp : Time
  username : Text
  remoteIP : Text
  application : Text
  action : Text
  id : Text
  clientID : Text
  clientHostName : Text
  request : Text
  response : Text
  deriving DecidableEq

/-- The fields of an entry that the provider fills in. -/
structure Links where
  seq : Int64
  mac : Text
  prevMAC : Text
  deriving DecidableEq

def Links.unset : Links := ⟨0, .empty, .empty⟩

structure Entry extends Audited, Links
  deriving DecidableEq

/-- `UnixNano`; the seconds are multiplied in an `int64`. -/
def unixNano (time : Time) : Int64 := Int64.ofInt time

def Entry.chained (entry : Entry) : Bool := entry.seq != 0

/-- The two entries agree in every field; the timestamps are compared by
`UnixNano`. -/
structure Entry.Same (entry other : Entry) : Prop where
  timestamp : unixNano entry.timestamp = unixNano other.timestamp
  fields : { entry with timestamp := other.timestamp } = other

def hexDigit (value : Nat) : UInt8 := UInt8.ofNat (if value < 10 then 48 + value else 87 + value)

def hexByte (byte : UInt8) : List UInt8 := [hexDigit (byte.toNat / 16), hexDigit (byte.toNat % 16)]

def hexEncode (digest : Vector UInt8 32) : Text where
  bytes := digest.toList.flatMap hexByte
  short := by
    have count : (digest.toList.flatMap hexByte).length = 64 := by
      rw [List.length_flatMap, List.map_eq_replicate_iff.mpr
        (show ∀ byte ∈ digest.toList, (hexByte byte).length = 2 from
          fun byte _ => rfl)]
      simp
    rw [count]
    decide

def Entry.texts (entry : Entry) : List Text :=
  [entry.prevMAC, entry.application, entry.action, entry.username,
    entry.remoteIP, entry.id, entry.clientID, entry.clientHostName, entry.request, entry.response]

def putUint64 (value : UInt64) : List UInt8 := Framing.bigEndian 8 value.toNat

def Entry.serialize (entry : Entry) : List UInt8 :=
  putUint64 entry.seq.toUInt64 ++ putUint64 (unixNano entry.timestamp).toUInt64 ++
    (entry.texts.map Text.bytes).flatMap (Framing.frame 8)

/-- HMAC-SHA256: the key and the message. -/
abbrev Hmac := List UInt8 → List UInt8 → Vector UInt8 32

def computeMAC (hmac : Hmac) (key : List UInt8) (entry : Entry) : Text :=
  hexEncode (hmac key entry.serialize)

theorem putUint64_inj {first second : UInt64}
    (same : putUint64 first = putUint64 second) : first = second := by
  apply UInt64.toNat_inj.mp
  apply Framing.bigEndian_inj _ _ same
  · exact first.toNat_lt
  · exact second.toNat_lt

theorem int64_eq_of_toUInt64 {first second : Int64}
    (same : first.toUInt64 = second.toUInt64) : first = second := by
  cases first
  cases second
  cases same
  rfl

theorem Text.fits {texts : List Text} {block : List UInt8}
    (member : block ∈ texts.map Text.bytes) : block.length < 256 ^ 8 := by
  obtain ⟨text, _, rfl⟩ := List.mem_map.mp member
  exact lt_of_lt_of_le text.short (by decide)

theorem Entry.serialize_inj {entry other : Entry} (same : entry.serialize = other.serialize) :
    entry.seq = other.seq ∧ unixNano entry.timestamp = unixNano other.timestamp ∧
      entry.texts = other.texts := by
  simp only [serialize, List.append_assoc] at same
  obtain ⟨numbers, rest⟩ := List.append_inj same (by simp [putUint64])
  obtain ⟨times, blocks⟩ := List.append_inj rest (by simp [putUint64])
  refine ⟨int64_eq_of_toUInt64 (putUint64_inj numbers),
    int64_eq_of_toUInt64 (putUint64_inj times), ?_⟩
  have texts : entry.texts.map Text.bytes = other.texts.map Text.bytes := by
    apply Framing.flatMap_frame_inj _ _ _ blocks
    · exact fun _ => Text.fits
    · exact fun _ => Text.fits
    · rfl
  exact List.map_injective_iff.mpr (fun _ _ => Text.ext) texts

theorem Entry.same_of_serialize {entry other : Entry} (same : entry.serialize = other.serialize)
    (tags : entry.mac = other.mac) : entry.Same other := by
  obtain ⟨seq, nano, texts⟩ := serialize_inj same
  refine ⟨nano, ?_⟩
  obtain ⟨⟨_, _, _, _, _, _, _, _, _, _⟩, ⟨_, _, _⟩⟩ := entry
  obtain ⟨⟨_, _, _, _, _, _, _, _, _, _⟩, ⟨_, _, _⟩⟩ := other
  simp only [Entry.texts, List.cons.injEq, and_true] at texts
  obtain ⟨rfl, rfl, rfl, rfl, rfl, rfl, rfl, rfl, rfl, rfl⟩ := texts
  cases seq
  cases tags
  rfl

inductive BreakKind where
  | none
  | mac
  | link
  | gap
  deriving DecidableEq, Repr

structure ChainVerification where
  enabled : Bool
  checked : Nat
  valid : Bool
  breakSeq : Int64
  breakKind : BreakKind
  oldestTS : Time
  deriving DecidableEq

namespace ChainVerification

def broken (res : ChainVerification) (entry : Entry) (kind : BreakKind) :
    ChainVerification :=
  { res with valid := false, breakSeq := entry.seq, breakKind := kind }

end ChainVerification

section Walk

variable (hmac : Hmac) (key : List UInt8)

/-- The loop of `verifyChain`; `last` is the row that was walked last. -/
def verifyRows : ChainVerification → Option Entry → List Entry → ChainVerification
  | res, _, [] => res
  | res, last, entry :: rows =>
    if entry.chained = false then verifyRows res last rows
    else
      match last with
      | none =>
        let res := { res with oldestTS := entry.timestamp }
        if computeMAC hmac key entry ≠ entry.mac then
          res.broken entry .mac
        else verifyRows { res with checked := res.checked + 1 } (some entry) rows
      | some previous =>
        if entry.seq ≠ previous.seq + 1 then res.broken entry .gap
        else if entry.prevMAC ≠ previous.mac then res.broken entry .link
        else if computeMAC hmac key entry ≠ entry.mac then
          res.broken entry .mac
        else verifyRows { res with checked := res.checked + 1 } (some entry) rows

def verifyChain (rows : List Entry) : ChainVerification :=
  let res : ChainVerification := ⟨!key.isEmpty, 0, true, 0, .none, Time.zero⟩
  if key = [] then res
  else verifyRows hmac key res none rows

def Entry.Follows (previous entry : Entry) : Prop :=
  entry.seq = previous.seq + 1 ∧ entry.prevMAC = previous.mac

/-- Every row has its tag and follows the one before it. -/
def Linked (rows : List Entry) : Prop :=
  rows.IsChain Entry.Follows ∧
    ∀ entry ∈ rows, computeMAC hmac key entry = entry.mac

end Walk

section Verified

variable {hmac : Hmac} {key : List UInt8} {res : ChainVerification}
  {last : Option Entry} {entry : Entry} {rows : List Entry}

/-- The row follows the last one that was walked, and has its tag. -/
def Accepted (hmac : Hmac) (key : List UInt8) (last : Option Entry) (entry : Entry) : Prop :=
  (∀ previous ∈ last, Entry.Follows previous entry) ∧ computeMAC hmac key entry = entry.mac

theorem verifyRows_cons (chained : entry.chained = true) :
    ((verifyRows hmac key res last (entry :: rows)).valid = false ∧
      ¬ Accepted hmac key last entry) ∨
    (Accepted hmac key last entry ∧ ∃ oldest, verifyRows hmac key res last (entry :: rows) =
        verifyRows hmac key
          { res with checked := res.checked + 1, oldestTS := oldest }
          (some entry) rows) := by
  cases last with
  | none =>
    simp only [verifyRows, chained, Bool.true_eq_false, if_false]
    by_cases tagged : computeMAC hmac key entry = entry.mac
    · rw [if_neg (not_not.mpr tagged)]
      exact .inr ⟨⟨fun _ wrong => (Option.not_mem_none _ wrong).elim, tagged⟩, entry.timestamp, rfl⟩
    · rw [if_pos tagged]
      exact .inl ⟨rfl, fun accepted => tagged accepted.2⟩
  | some previous =>
    simp only [verifyRows, chained, Bool.true_eq_false, if_false]
    by_cases next : entry.seq = previous.seq + 1
    · rw [if_neg (not_not.mpr next)]
      by_cases link : entry.prevMAC = previous.mac
      · rw [if_neg (not_not.mpr link)]
        by_cases tagged : computeMAC hmac key entry = entry.mac
        · rw [if_neg (not_not.mpr tagged)]
          refine .inr ⟨⟨?_, tagged⟩, res.oldestTS, rfl⟩
          intro other same
          cases Option.mem_some.mp same
          exact ⟨next, link⟩
        · rw [if_pos tagged]
          exact .inl ⟨rfl, fun accepted => tagged accepted.2⟩
      · rw [if_pos link]
        exact .inl ⟨rfl, fun accepted => link (accepted.1 _ rfl).2⟩
    · rw [if_pos next]
      exact .inl ⟨rfl, fun accepted => next (accepted.1 _ rfl).1⟩

theorem isChain_last {kept : List Entry} :
    (last.toList ++ entry :: kept).IsChain Entry.Follows ↔
      (∀ previous ∈ last, Entry.Follows previous entry) ∧
        (entry :: kept).IsChain Entry.Follows := by
  cases last with
  | none => simp
  | some previous => simp

/-- The walk succeeds on rows whose chained ones are linked, and on no others;
it then has counted them. -/
theorem verifyRows_valid (clean : res.valid = true) :
    ((verifyRows hmac key res last rows).valid = true ↔
      (last.toList ++ rows.filter Entry.chained).IsChain Entry.Follows ∧
        ∀ entry ∈ rows.filter Entry.chained, computeMAC hmac key entry = entry.mac) ∧
    ((verifyRows hmac key res last rows).valid = true →
      (verifyRows hmac key res last rows).checked =
        res.checked + (rows.filter Entry.chained).length) := by
  induction rows generalizing res last with
  | nil =>
    refine ⟨⟨fun _ => ⟨?_, fun _ wrong => by cases wrong⟩, fun _ => clean⟩, fun _ => rfl⟩
    cases last with
    | none => exact .nil
    | some previous => exact .singleton previous
  | cons entry rows induction =>
    cases chained : entry.chained with
    | false =>
      rw [List.filter_cons_of_neg (by simp [chained]), verifyRows.eq_def]
      simp only [chained, if_true]
      exact induction clean
    | true =>
      rw [List.filter_cons_of_pos chained, isChain_last]
      rcases verifyRows_cons chained with ⟨stopped, refused⟩ | ⟨accepted, oldest, continued⟩
      · rw [stopped]
        refine ⟨⟨fun wrong => Bool.noConfusion wrong, ?_⟩, fun wrong => Bool.noConfusion wrong⟩
        rintro ⟨⟨follows, _⟩, tagged⟩
        exact (refused ⟨follows, tagged entry List.mem_cons_self⟩).elim
      · rw [continued]
        obtain ⟨validity, count⟩ := @induction
          { res with checked := res.checked + 1, oldestTS := oldest }
          (some entry) clean
        refine ⟨validity.trans ?_, ?_⟩
        · simp only [List.mem_cons, forall_eq_or_imp]
          constructor
          · rintro ⟨chain, tagged⟩
            exact ⟨⟨accepted.1, chain⟩, accepted.2, tagged⟩
          · rintro ⟨⟨_, chain⟩, _, tagged⟩
            exact ⟨chain, tagged⟩
        · intro valid
          rw [count valid, List.length_cons]
          exact Nat.succ_add_eq_add_succ _ _

/-- `verifyChain` reports a valid chain for exactly the tables whose chained
rows are linked, and counts them. -/
theorem verifyChain_valid (keyed : key ≠ []) :
    (verifyChain hmac key rows).valid = true ↔
      Linked hmac key (rows.filter Entry.chained) := by
  simp only [verifyChain, if_neg keyed]
  exact (verifyRows_valid rfl).1

theorem verifyChain_checked (keyed : key ≠ []) (valid : (verifyChain hmac key rows).valid = true) :
    (verifyChain hmac key rows).checked = (rows.filter Entry.chained).length := by
  simp only [verifyChain, if_neg keyed] at valid ⊢
  rw [(verifyRows_valid rfl).2 valid]
  exact Nat.zero_add _

end Verified

end ProxiPort.AuditLog
