import Mathlib.Data.List.Chain
import ProxiPort.AuditLog.Chain
import ProxiPort.Foundation.Run

/-!
# The table of the audit log

`server/auditlog/sqlite.go`: one process after the other opens the database,
with the key or without one, and saves entries.  `Save` holds `writeMtx` from
reading the head of the chain to advancing it, so a call is one step.  An entry
is an object of its process; `Save` fills in its links, also when the insertion
then fails.
-/

namespace ProxiPort.AuditLog

open Concurrency List

structure SQLiteProvider where
  hmacKey : List UInt8
  lastSeq : Int64
  lastMAC : Text
  deriving DecidableEq

/-- The row ids that SQLite gives out are the positive `int64`. -/
def maxRows : Nat := 2 ^ 63 - 1

def insert (failure : Option String) (row : Entry) (table : List Entry) :
    Except String (List Entry) :=
  match failure with
  | some err => .error err
  | none =>
    if table.length < maxRows then .ok (table ++ [row])
    else .error "database or disk is full"

def headRow (table : List Entry) : Option Entry :=
  table.find? fun row => table.all fun other => decide (other.seq ≤ row.seq)

def loadChainHead (hmacKey : List UInt8) (failure : Option String)
    (table : List Entry) : Except String SQLiteProvider :=
  if hmacKey = [] then .ok ⟨hmacKey, 0, .empty⟩
  else
    match failure with
    | some err => .error ("load audit chain head: " ++ err)
    | none =>
      match headRow table with
      | none => .ok ⟨hmacKey, 0, .empty⟩
      | some head => .ok ⟨hmacKey, head.seq, head.mac⟩

structure OpenFaults where
  database : Option String
  head : Option String

def newSQLiteProvider (hmacKey : List UInt8) (faults : OpenFaults)
    (table : List Entry) : Except String SQLiteProvider :=
  match faults.database with
  | some err => .error err
  | none => loadChainHead hmacKey faults.head table

section Save

variable (hmac : Hmac)

def SQLiteProvider.link (provider : SQLiteProvider) (entry : Entry) : Entry :=
  let linked : Entry :=
    { entry with seq := provider.lastSeq + 1, prevMAC := provider.lastMAC }
  { linked with mac := computeMAC hmac provider.hmacKey linked }

/-- `Save`: the error, the provider, the entry and the table afterwards. -/
def SQLiteProvider.save (provider : SQLiteProvider) (failure : Option String)
    (entry : Entry) (table : List Entry) : Option String × SQLiteProvider × Entry × List Entry :=
  let keyed := provider.hmacKey ≠ []
  let entry := if keyed then provider.link hmac entry else entry
  match insert failure entry table with
  | .error err => (some err, provider, entry, table)
  | .ok table =>
    let provider :=
      if keyed then
        { provider with lastSeq := entry.seq, lastMAC := entry.mac }
      else provider
    (none, provider, entry, table)

def verify (hmacKey : List UInt8) (rows : List Entry) : ChainVerification :=
  if hmacKey = [] then ⟨false, 0, false, 0, .none, Time.zero⟩
  else verifyChain hmac hmacKey rows

end Save

/-- A process: its provider and the links of the entries it has made. -/
structure Process where
  provider : SQLiteProvider
  entries : List Links

structure State where
  table : List Entry
  process : Option Process

inductive Input where
  /-- A process starts, with the key or without one. -/
  | start (keyed : Bool) (faults : OpenFaults)
  /-- `AuditLog.Entry`. -/
  | entry
  /-- An entry is saved with some audited fields. -/
  | save (index : Nat) (audited : Audited) (failure : Option String)

/-- A row that was inserted, and whether its process had the key. -/
structure Saved where
  keyed : Bool
  row : Entry

def Process.save (hmac : Hmac) (process : Process) (table : List Entry)
    (index : Nat) (links : Links) (audited : Audited)
    (failure : Option String) : State × List Saved :=
  let (err, provider, entry, table) := process.provider.save hmac failure ⟨audited, links⟩ table
  (⟨table, some ⟨provider, process.entries.set index entry.toLinks⟩⟩,
    if err = none then [⟨!process.provider.hmacKey.isEmpty, entry⟩] else [])

def step (hmac : Hmac) (key : List UInt8) (state : State) : Input → Option (State × List Saved)
  | .start keyed faults =>
    match newSQLiteProvider (if keyed then key else []) faults state.table with
    | .error _ => some (⟨state.table, none⟩, [])
    | .ok provider => some (⟨state.table, some ⟨provider, []⟩⟩, [])
  | .entry => do
    let process ← state.process
    return (⟨state.table, some ⟨process.provider, process.entries ++ [Links.unset]⟩⟩, [])
  | .save index audited failure => do
    let process ← state.process
    let links ← process.entries[index]?
    return process.save hmac state.table index links audited failure

def auditDatabase (hmac : Hmac) (key : List UInt8) : System State Input Saved := ⟨step hmac key⟩

def savedWithKey (history : List Saved) : List Entry := (history.filter Saved.keyed).map Saved.row

variable {hmac : Hmac} {key : List UInt8} {saved table : List Entry}
  {row : Entry}

def headMAC (saved : List Entry) : Text := (saved.getLast?.map fun row => row.mac).getD .empty

/-- The table holds the rows of a chain, numbered from one, and rows without a
place in it. -/
structure Holds (hmac : Hmac) (key : List UInt8) (saved table : List Entry) :
    Prop where
  chained : table.filter Entry.chained = saved
  unchained : ∀ row ∈ table, row.chained = false → row.mac = .empty
  fits : table.length ≤ maxRows
  numbered : ∀ {index row}, saved[index]? = some row → row.seq = Int64.ofNat (index + 1)
  linked : Linked hmac key saved

theorem toInt_ofNat {number : Nat} (fits : number ≤ maxRows) :
    (Int64.ofNat number).toInt = number :=
  Int64.toInt_ofNat_of_lt (Nat.lt_of_le_of_lt fits (by decide))

theorem seq_of_unchained (unchained : row.chained = false) : row.seq = 0 := by
  simpa [Entry.chained] using unchained

namespace Holds

section

variable (held : Holds hmac key saved table)
include held

theorem length_le : saved.length ≤ maxRows := by
  rw [← held.chained]
  exact le_trans (length_filter_le _ _) held.fits

theorem seq_toInt {index : Nat} (found : saved[index]? = some row) : row.seq.toInt = index + 1 := by
  have inside : index < saved.length := (List.getElem?_eq_some_iff.mp found).1
  have bound := held.length_le
  rw [held.numbered found, toInt_ofNat (by omega)]
  push_cast
  rfl

theorem mem_cases (member : row ∈ table) :
    row.seq = 0 ∧ row.mac = .empty ∨
      ∃ index : Nat, saved[index]? = some row := by
  cases chained : row.chained with
  | false =>
    exact .inl ⟨seq_of_unchained chained, held.unchained row member chained⟩
  | true =>
    right
    apply List.mem_iff_getElem?.mp
    rw [← held.chained]
    exact mem_filter.mpr ⟨member, chained⟩

theorem seq_le (member : row ∈ table) : row.seq.toInt ≤ saved.length := by
  rcases held.mem_cases member with ⟨zero, _⟩ | ⟨index, found⟩
  · rw [zero]
    exact Int.natCast_nonneg _
  · have inside : index < saved.length := (List.getElem?_eq_some_iff.mp found).1
    rw [held.seq_toInt found]
    omega

theorem mem_table (member : row ∈ saved) : row ∈ table := by
  rw [← held.chained] at member
  exact mem_of_mem_filter member

theorem headRow_some (found : headRow table = some row) :
    row.seq = Int64.ofNat saved.length ∧ row.mac = headMAC saved := by
  have member : row ∈ table := mem_of_find?_eq_some found
  have greatest : ∀ other ∈ table, other.seq ≤ row.seq := by
    simpa using find?_some found
  rcases eq_nil_or_concat' saved with rfl | ⟨front, last, rfl⟩
  · rcases held.mem_cases member with unchained | ⟨index, place⟩
    · exact unchained
    · cases place
  · have place : (front ++ [last])[front.length]? = some last := by simp
    have above := Int64.le_iff_toInt_le.mp (greatest last (held.mem_table (by simp)))
    have below := held.seq_le member
    rw [held.seq_toInt place] at above
    rw [length_append, length_singleton] at below
    rcases held.mem_cases member with ⟨zero, _⟩ | ⟨index, rowPlace⟩
    · rw [zero, Int64.toInt_zero] at above
      omega
    · have number := held.seq_toInt rowPlace
      have same : index = front.length := by omega
      rw [same, place] at rowPlace
      cases rowPlace
      refine ⟨?_, by simp [headMAC]⟩
      rw [held.numbered place, length_append, length_singleton]

theorem headRow_none (missing : headRow table = none) : saved = [] := by
  rcases eq_nil_or_concat' saved with rfl | ⟨front, last, rfl⟩
  · rfl
  · have place : (front ++ [last])[front.length]? = some last := by simp
    have member : last ∈ table := held.mem_table (by simp)
    have refused := find?_eq_none.mp missing last member
    refine (refused ?_).elim
    simp only [all_eq_true, decide_eq_true_eq]
    intro other known
    apply Int64.le_iff_toInt_le.mpr
    have below := held.seq_le known
    rw [held.seq_toInt place]
    rw [length_append, length_singleton] at below
    exact_mod_cast below

theorem loadChainHead_ok (keyed : key ≠ []) {failure : Option String} {provider : SQLiteProvider}
    (loaded : loadChainHead key failure table = .ok provider) :
    provider = ⟨key, Int64.ofNat saved.length, headMAC saved⟩ := by
  simp only [loadChainHead, if_neg keyed] at loaded
  split at loaded
  · cases loaded
  · split at loaded
    · rename_i missing
      cases loaded
      rw [held.headRow_none missing]
      rfl
    · rename_i head found
      cases loaded
      obtain ⟨seq, mac⟩ := held.headRow_some found
      rw [seq, mac]

theorem follows {last : Entry} (ends : last ∈ saved.getLast?)
    (seq : row.seq = Int64.ofNat (saved.length + 1))
    (link : row.prevMAC = headMAC saved) : last.Follows row := by
  have place : saved[saved.length - 1]? = some last := by
    rw [← List.getLast?_eq_getElem?]
    exact ends
  have inside : saved.length - 1 < saved.length := (List.getElem?_eq_some_iff.mp place).1
  constructor
  · rw [seq, held.numbered place, Nat.sub_add_cancel (by omega)]
    exact Int64.ofNat_add _ _
  · rw [link, headMAC, Option.mem_def.mp ends]
    rfl

theorem insert_linked (room : table.length < maxRows)
    (seq : row.seq = Int64.ofNat (saved.length + 1)) (link : row.prevMAC = headMAC saved)
    (tagged : computeMAC hmac key row = row.mac) :
    Holds hmac key (saved ++ [row]) (table ++ [row]) := by
  have count : saved.length ≤ table.length := by
    rw [← held.chained]
    exact length_filter_le _ _
  have chained : row.chained = true := by
    have number : row.seq.toInt = saved.length + 1 := by
      rw [seq, toInt_ofNat (by omega)]
      push_cast
      rfl
    have nonzero : row.seq ≠ 0 := by
      intro zero
      rw [zero, Int64.toInt_zero] at number
      omega
    simpa [Entry.chained] using nonzero
  constructor
  · rw [filter_append, held.chained, filter_cons_of_pos chained, filter_nil]
  · intro other member unchained
    rcases mem_append.mp member with known | new
    · exact held.unchained other known unchained
    · rw [mem_singleton.mp new, chained] at unchained
      cases unchained
  · rw [length_append, length_singleton]
    exact room
  · intro index other found
    rcases Nat.lt_or_ge index saved.length with inside | outside
    · rw [List.getElem?_append_left inside] at found
      exact held.numbered found
    · rw [List.getElem?_append_right outside, List.getElem?_singleton] at found
      split at found
      · cases found
        rw [seq]
        congr 1
        omega
      · cases found
  · refine ⟨isChain_append.mpr ⟨held.linked.1, .singleton row, ?_⟩, ?_⟩
    · intro last ends other first
      cases Option.mem_some.mp first
      exact held.follows ends seq link
    · intro other member
      rcases mem_append.mp member with known | new
      · exact held.linked.2 other known
      · rw [mem_singleton.mp new]
        exact tagged

theorem insert_unlinked (room : table.length < maxRows) (unset : row.toLinks = Links.unset) :
    Holds hmac key saved (table ++ [row]) := by
  have unchained : row.chained = false := by
    simp [Entry.chained, unset, Links.unset]
  refine ⟨?_, ?_, ?_, held.numbered, held.linked⟩
  · rw [filter_append, held.chained, filter_cons_of_neg (by simp [unchained]), filter_nil,
      append_nil]
  · intro other member plain
    rcases mem_append.mp member with known | new
    · exact held.unchained other known plain
    · rw [mem_singleton.mp new, unset]
      rfl
  · rw [length_append, length_singleton]
    exact room

end

end Holds

/-- A process with the key knows the end of the chain; the entries of a
process without one have no links. -/
def Process.InStep (key : List UInt8) (saved : List Entry) (process : Process) : Prop :=
  process.provider = ⟨key, Int64.ofNat saved.length, headMAC saved⟩ ∨
    process.provider.hmacKey = [] ∧ ∀ links ∈ process.entries, links = Links.unset

structure Consistent (hmac : Hmac) (key : List UInt8) (saved : List Entry)
    (state : State) : Prop where
  table : Holds hmac key saved state.table
  process : ∀ process ∈ state.process, process.InStep key saved

theorem savedWithKey_append (history shown : List Saved) :
    savedWithKey (history ++ shown) =
      savedWithKey history ++ savedWithKey shown := by
  simp [savedWithKey]

theorem insert_cases (failure : Option String) (row : Entry) (table : List Entry) :
    (∃ err, insert failure row table = .error err) ∨ table.length < maxRows ∧
        insert failure row table = .ok (table ++ [row]) := by
  cases failure with
  | some err => exact .inl ⟨err, rfl⟩
  | none =>
    simp only [insert]
    split
    · rename_i room
      exact .inr ⟨room, rfl⟩
    · exact .inl ⟨_, rfl⟩

variable {shown : List Saved} {state : State} {failure : Option String}
  {audited : Audited}

theorem save_keyed {entries : List Links} {index : Nat} {links : Links}
    (keyed : key ≠ []) (held : Holds hmac key saved table) (saving : Process.save hmac
      ⟨⟨key, Int64.ofNat saved.length, headMAC saved⟩, entries⟩ table index
      links audited failure = (state, shown)) :
    Consistent hmac key (saved ++ savedWithKey shown) state := by
  let provider : SQLiteProvider := ⟨key, Int64.ofNat saved.length, headMAC saved⟩
  have present : key.isEmpty = false := by simpa using keyed
  simp only [Process.save, SQLiteProvider.save, keyed, ne_eq, not_false_eq_true, if_true] at saving
  rcases insert_cases failure (provider.link hmac ⟨audited, links⟩) table with
    ⟨err, failed⟩ | ⟨room, inserted⟩
  · rw [failed] at saving
    cases saving
    refine ⟨?_, ?_⟩
    · simpa [savedWithKey] using held
    · intro process same
      cases Option.mem_some.mp same
      left
      simp [savedWithKey]
  · rw [inserted] at saving
    cases saving
    have seq : (provider.link hmac ⟨audited, links⟩).seq =
        Int64.ofNat (saved.length + 1) := (Int64.ofNat_add _ _).symm
    have shownRow : savedWithKey (if (none : Option String) = none then
          [⟨!key.isEmpty, provider.link hmac ⟨audited, links⟩⟩] else []) =
          [provider.link hmac ⟨audited, links⟩] := by
      simp [savedWithKey, present]
    rw [shownRow]
    refine ⟨held.insert_linked room seq rfl rfl, ?_⟩
    intro process same
    cases Option.mem_some.mp same
    left
    have newHead : headMAC (saved ++ [provider.link hmac ⟨audited, links⟩]) =
        (provider.link hmac ⟨audited, links⟩).mac := by simp [headMAC]
    rw [newHead, length_append, length_singleton, ← seq]

theorem save_keyless {process : Process} {index : Nat} {links : Links}
    (held : Holds hmac key saved table) (keyless : process.provider.hmacKey = [])
    (unset : ∀ links ∈ process.entries, links = Links.unset)
    (found : process.entries[index]? = some links)
    (saving : process.save hmac table index links audited failure = (state, shown)) :
    Consistent hmac key (saved ++ savedWithKey shown) state := by
  have linksUnset : links = Links.unset := unset links (List.mem_of_getElem? found)
  have entriesUnset : ∀ other ∈ process.entries.set index links, other = Links.unset := by
    intro other member
    rcases mem_or_eq_of_mem_set member with known | rfl
    · exact unset other known
    · exact linksUnset
  simp only [Process.save, SQLiteProvider.save, keyless, ne_eq,
    not_true_eq_false, if_false] at saving
  rcases insert_cases failure ⟨audited, links⟩ table with
    ⟨err, failed⟩ | ⟨room, inserted⟩
  · rw [failed] at saving
    cases saving
    refine ⟨by simpa [savedWithKey] using held, ?_⟩
    intro process same
    cases Option.mem_some.mp same
    exact .inr ⟨keyless, entriesUnset⟩
  · rw [inserted] at saving
    cases saving
    refine ⟨?_, ?_⟩
    · simpa [savedWithKey] using held.insert_unlinked room linksUnset
    · intro process same
      cases Option.mem_some.mp same
      exact .inr ⟨keyless, entriesUnset⟩

theorem step_consistent {next : State} {input : Input} (keyed : key ≠ [])
    (consistent : Consistent hmac key saved state)
    (stepped : step hmac key state input = some (next, shown)) :
    Consistent hmac key (saved ++ savedWithKey shown) next := by
  cases input with
  | start withKey faults =>
    simp only [step] at stepped
    split at stepped
    · cases stepped
      simpa [savedWithKey] using (⟨consistent.table, by simp⟩ : Consistent hmac key saved
          ⟨state.table, none⟩)
    · rename_i provider opened
      cases stepped
      have started : Process.InStep key saved ⟨provider, []⟩ := by
        simp only [newSQLiteProvider] at opened
        split at opened
        · cases opened
        · cases withKey with
          | false =>
            cases opened
            exact .inr ⟨rfl, forall_mem_nil _⟩
          | true =>
            exact .inl (consistent.table.loadChainHead_ok keyed opened)
      simpa [savedWithKey] using (⟨consistent.table, by simpa using started⟩ : Consistent hmac key
          saved ⟨state.table, some ⟨provider, []⟩⟩)
  | entry =>
    simp only [step, Option.bind_eq_bind, Option.bind_eq_some_iff] at stepped
    obtain ⟨process, running, result⟩ := stepped
    cases result
    have inStep := consistent.process process running
    have extended : Process.InStep key saved
        ⟨process.provider, process.entries ++ [Links.unset]⟩ := by
      rcases inStep with head | ⟨keyless, unset⟩
      · exact .inl head
      · refine .inr ⟨keyless, ?_⟩
        intro links member
        rcases mem_append.mp member with known | new
        · exact unset links known
        · exact mem_singleton.mp new
    simpa [savedWithKey] using (⟨consistent.table, by simpa using extended⟩ : Consistent hmac key
        saved ⟨state.table, some ⟨process.provider, process.entries ++ [Links.unset]⟩⟩)
  | save index audited failure =>
    simp only [step, Option.bind_eq_bind, Option.bind_eq_some_iff] at stepped
    obtain ⟨process, running, links, found, result⟩ := stepped
    have saving := Option.some.inj result
    rcases consistent.process process running with head | ⟨keyless, unset⟩
    · obtain ⟨provider, entries⟩ := process
      cases head
      exact save_keyed keyed consistent.table saving
    · exact save_keyless consistent.table keyless unset found saving

/-- A database in which no row has a place in the chain, before a process has
opened it. -/
structure PreChain (state : State) : Prop where
  unset : ∀ row ∈ state.table, row.toLinks = Links.unset
  fits : state.table.length ≤ maxRows
  closed : state.process = none

theorem PreChain.consistent (before : PreChain state) : Consistent hmac key [] state := by
  have unchained : ∀ row ∈ state.table, row.chained = false := by
    intro row member
    simp [Entry.chained, before.unset row member, Links.unset]
  refine ⟨⟨?_, ?_, before.fits, ?_, .nil, forall_mem_nil _⟩, ?_⟩
  · rw [filter_eq_nil_iff]
    intro row member
    rw [unchained row member]
    exact Bool.false_ne_true
  · intro row member _
    rw [before.unset row member]
    rfl
  · intro index row found
    cases found
  · intro process running
    rw [before.closed] at running
    cases running

theorem run_consistent (keyed : key ≠ []) {start : State} {history : List Saved}
    (before : PreChain start)
    (run : Run (auditDatabase hmac key) Unrestricted start history state) :
    Consistent hmac key (savedWithKey history) state := by
  refine run.invariant (fun history state => Consistent hmac key (savedWithKey history) state)
    before.consistent ?_
  intro history shown state next input consistent _ stepped
  rw [savedWithKey_append]
  exact step_consistent keyed consistent stepped

end ProxiPort.AuditLog
