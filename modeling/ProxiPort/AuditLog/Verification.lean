import ProxiPort.AuditLog.Provider

/-!
# What a valid chain says

`Verify` reports a valid chain for every table that the processes leave behind,
and it reports one for no rows but those that are a part of the chain, without
a gap.  Nothing ties the two ends of the chain down, and rows with the number
zero are not looked at.
-/

namespace ProxiPort.AuditLog

open Concurrency List

variable {hmac : Hmac} {key : List UInt8} {saved table : List Entry}
  {row : Entry}

def Ordered (rows : List Entry) : Prop := rows.Pairwise fun row later => row.seq ≤ later.seq

instance decidableOrdered (rows : List Entry) : Decidable (Ordered rows) :=
  inferInstanceAs (Decidable (List.Pairwise _ rows))

instance Entry.decidableSame (entry other : Entry) : Decidable (entry.Same other) :=
  decidable_of_iff (unixNano entry.timestamp = unixNano other.timestamp ∧
      { entry with timestamp := other.timestamp } = other)
    ⟨fun ⟨times, fields⟩ => ⟨times, fields⟩, fun same => ⟨same.timestamp, same.fields⟩⟩

theorem drop_of_found {index : Nat} (found : saved[index]? = some row) :
    saved.drop index = row :: saved.drop (index + 1) := by
  obtain ⟨inside, same⟩ := List.getElem?_eq_some_iff.mp found
  rw [List.drop_eq_getElem_cons inside, same]

theorem Entry.Same.seq {other : Entry} (same : row.Same other) : row.seq = other.seq := by
  rw [← same.fields]

namespace Holds

section

variable (held : Holds hmac key saved table)

include held

theorem index_succ {other : Entry} {index otherIndex : Nat} (found : saved[index]? = some row)
    (otherFound : saved[otherIndex]? = some other)
    (next : other.seq = row.seq + 1) : otherIndex = index + 1 := by
  have bound := held.length_le
  have inside : index < saved.length := (List.getElem?_eq_some_iff.mp found).1
  have otherInside : otherIndex < saved.length := (List.getElem?_eq_some_iff.mp otherFound).1
  rw [held.numbered found, held.numbered otherFound] at next
  have numbers : Int64.ofNat (otherIndex + 1) = Int64.ofNat (index + 1 + 1) :=
    next.trans (Int64.ofNat_add _ _).symm
  have residues := congrArg (fun value : Int64 => value.toUInt64.toNat) numbers
  simp only [Int64.toUInt64_ofNat', UInt64.toNat_ofNat'] at residues
  rw [maxRows] at bound
  omega

theorem eq_of_seq {other : Entry} (member : row ∈ saved)
    (otherMember : other ∈ saved) (same : row.seq = other.seq) : row = other := by
  obtain ⟨index, found⟩ := List.mem_iff_getElem?.mp member
  obtain ⟨otherIndex, otherFound⟩ := List.mem_iff_getElem?.mp otherMember
  have number := held.seq_toInt found
  rw [same, held.seq_toInt otherFound] at number
  have sameIndex : otherIndex = index := by omega
  rw [sameIndex, found] at otherFound
  exact Option.some.inj otherFound

theorem ascending : saved.Pairwise fun row later => row.seq < later.seq := by
  apply List.pairwise_iff_getElem.mpr
  intro index later inside laterInside before
  apply Int64.lt_iff_toInt_lt.mpr
  rw [held.seq_toInt (List.getElem?_eq_getElem inside),
    held.seq_toInt (List.getElem?_eq_getElem laterInside)]
  omega

theorem ordered : Ordered saved := held.ascending.imp Int64.le_of_lt

variable {rows : List Entry}

/-- However ties are broken, the chained rows are read in the order in which
they were saved. -/
theorem filter_ordered (read : rows.Perm table) (ordered : Ordered rows) :
    rows.filter Entry.chained = saved := by
  have permuted : (rows.filter Entry.chained).Perm saved := by
    rw [← held.chained]
    exact read.filter _
  apply List.Perm.eq_of_pairwise _ (ordered.sublist filter_sublist) held.ordered permuted
  intro row other member otherMember below above
  apply held.eq_of_seq (permuted.mem_iff.mp member) otherMember
  apply Int64.toInt_inj.mp
  have lower := Int64.le_iff_toInt_le.mp below
  have upper := Int64.le_iff_toInt_le.mp above
  omega

theorem forall₂_drop {original : Entry} {index : Nat}
    (found : saved[index]? = some original) (same : row.Same original)
    (chain : (row :: rows).IsChain Entry.Follows)
    (known : ∀ row ∈ rows, ∃ original ∈ saved, row.Same original) :
    List.Forall₂ Entry.Same (row :: rows) ((saved.drop index).take (rows.length + 1)) := by
  induction rows generalizing row original index with
  | nil =>
    rw [drop_of_found found]
    exact .cons same .nil
  | cons next rows induction =>
    obtain ⟨follows, rest⟩ := isChain_cons_cons.mp chain
    obtain ⟨nextOriginal, member, nextSame⟩ := known next mem_cons_self
    obtain ⟨nextIndex, nextFound⟩ := List.mem_iff_getElem?.mp member
    -- The numbers of the originals are those of the rows.
    have successor : nextIndex = index + 1 := by
      have number : nextOriginal.seq = original.seq + 1 := by
        rw [← nextSame.seq, ← same.seq]
        exact follows.1
      exact held.index_succ found nextFound number
    rw [successor] at nextFound
    rw [drop_of_found found, take_succ_cons]
    exact .cons same (induction nextFound nextSame rest
      fun row member => known row (mem_cons_of_mem _ member))

theorem exists_part (chain : rows.IsChain Entry.Follows)
    (known : ∀ row ∈ rows, ∃ original ∈ saved, row.Same original) :
    ∃ part, part <:+: saved ∧ List.Forall₂ Entry.Same rows part := by
  cases rows with
  | nil => exact ⟨[], nil_infix, .nil⟩
  | cons row rows =>
    obtain ⟨original, member, same⟩ := known row mem_cons_self
    obtain ⟨index, found⟩ := List.mem_iff_getElem?.mp member
    refine ⟨(saved.drop index).take (rows.length + 1), ?_, held.forall₂_drop found same chain
        fun row member => known row (mem_cons_of_mem _ member)⟩
    exact (List.take_prefix _ _).isInfix.trans (drop_suffix _ _).isInfix

end

end Holds

/-- What is assumed of HMAC-SHA256 when rows are read back that somebody
without the key may have changed: it does not collide on the serialised rows,
and nobody has found a tag that `Save` has not written. -/
structure Trusted (hmac : Hmac) (key : List UInt8) (saved rows : List Entry) :
    Prop where
  injective : ∀ original ∈ saved, ∀ row ∈ rows,
    computeMAC hmac key original = computeMAC hmac key row → original.serialize = row.serialize
  unforgeable : ∀ row ∈ rows, computeMAC hmac key row = row.mac →
    ∃ original ∈ saved, original.mac = row.mac

instance decidableTrusted (hmac : Hmac) (key : List UInt8)
    (saved rows : List Entry) : Decidable (Trusted hmac key saved rows) :=
  decidable_of_iff ((∀ original ∈ saved, ∀ row ∈ rows,
      computeMAC hmac key original = computeMAC hmac key row → original.serialize = row.serialize) ∧
      ∀ row ∈ rows, computeMAC hmac key row = row.mac → ∃ original ∈ saved, original.mac = row.mac)
    ⟨fun ⟨injective, unforgeable⟩ => ⟨injective, unforgeable⟩,
      fun trusted => ⟨trusted.injective, trusted.unforgeable⟩⟩

variable {rows : List Entry}

theorem Holds.part_of_valid (held : Holds hmac key saved table)
    (keyed : key ≠ []) (trusted : Trusted hmac key saved rows)
    (valid : (verifyChain hmac key rows).valid = true) :
    ∃ part, part <:+: saved ∧ List.Forall₂ Entry.Same (rows.filter Entry.chained) part := by
  obtain ⟨chain, tagged⟩ := (verifyChain_valid keyed).mp valid
  apply held.exists_part chain
  intro row member
  have there := mem_of_mem_filter member
  obtain ⟨original, known, tags⟩ := trusted.unforgeable row there (tagged row member)
  refine ⟨original, known, Entry.same_of_serialize ?_ tags.symm⟩
  apply (trusted.injective original known row there _).symm
  rw [held.linked.2 original known, tags, tagged row member]

/-- Over one database, whatever entries are saved, whichever insertions fail
and however often the server is started again, with the key or without it:
the table verifies and counts the rows that were saved with the key, and rows
that verify are a part of those, in order and unmodified. -/
theorem verify_iff_saved (keyed : key ≠ []) {start state : State}
    {history : List Saved} (before : PreChain start)
    (run : Run (auditDatabase hmac key) Unrestricted start history state) :
    (∀ rows, rows.Perm state.table → Ordered rows → (verify hmac key rows).valid = true ∧
        (verify hmac key rows).checked = (savedWithKey history).length) ∧
    ∀ rows, Trusted hmac key (savedWithKey history) rows →
      (verifyChain hmac key rows).valid = true →
      ∃ part, part <:+: savedWithKey history ∧
        List.Forall₂ Entry.Same (rows.filter Entry.chained) part := by
  have held := (run_consistent keyed before run).table
  constructor
  · intro rows read ordered
    have same := held.filter_ordered read ordered
    have valid : (verifyChain hmac key rows).valid = true := by
      rw [verifyChain_valid keyed, same]
      exact held.linked
    rw [verify, if_neg keyed]
    refine ⟨valid, ?_⟩
    rw [verifyChain_checked keyed valid, same]
  · intro rows trusted valid
    exact held.part_of_valid keyed trusted valid

/-- A row that was saved with the key is gone, or there is a row that no call
of `Save` has written. -/
def Tampered (saved table rows : List Entry) : Prop :=
  (∃ original ∈ saved, ∀ row ∈ rows, ¬ row.Same original) ∨
    ∃ row ∈ rows, ∀ original ∈ table, ¬ row.Same original

instance decidableTampered (saved table rows : List Entry) :
    Decidable (Tampered saved table rows) :=
  inferInstanceAs (Decidable (_ ∨ _))

/-- What the walk can see: a row of the chain that was not saved, a row of the
chain that is there twice, or one that is gone from between two that are
left. -/
inductive Detectable (saved rows : List Entry) : Prop where
  | foreign {row : Entry} (member : row ∈ rows) (chained : row.chained = true)
      (unknown : ∀ original ∈ saved, ¬ row.Same original)
  | doubled (repeated : ¬ ((rows.filter Entry.chained).map fun row => row.seq).Nodup)
  | gap {original before after : Entry} (known : original ∈ saved)
      (gone : ∀ row ∈ rows, ¬ row.Same original)
      (lower : before ∈ rows) (lowerChained : before.chained = true)
      (below : before.seq < original.seq) (upper : after ∈ rows) (above : original.seq < after.seq)

theorem Entry.Same.computeMAC_eq {other : Entry} (same : row.Same other) :
    computeMAC hmac key row = computeMAC hmac key other := by
  rw [← same.fields]
  simp only [computeMAC, Entry.serialize, Entry.texts, same.timestamp]

theorem Entry.Same.follows {original next nextOriginal : Entry}
    (same : row.Same original) (nextSame : next.Same nextOriginal)
    (follows : original.Follows nextOriginal) : row.Follows next := by
  rw [← same.fields, ← nextSame.fields] at follows
  exact follows

variable {part : List Entry}

theorem seq_map_of_same (same : List.Forall₂ Entry.Same rows part) :
    (rows.map fun row => row.seq) = part.map fun row => row.seq := by
  induction same with
  | nil => rfl
  | cons first _ induction =>
    rw [map_cons, map_cons, induction, first.seq]

theorem exists_of_forall₂ (same : List.Forall₂ Entry.Same rows part) :
    (∀ row ∈ rows, ∃ original ∈ part, row.Same original) ∧
      ∀ original ∈ part, ∃ row ∈ rows, row.Same original := by
  induction same with
  | nil => exact ⟨forall_mem_nil _, forall_mem_nil _⟩
  | cons first _ induction =>
    simp only [mem_cons, forall_eq_or_imp, exists_eq_or_imp]
    refine ⟨⟨.inl first, ?_⟩, .inl first, ?_⟩
    · intro row member
      exact .inr (induction.1 row member)
    · intro original member
      exact .inr (induction.2 original member)

namespace Holds

section

variable (held : Holds hmac key saved table)
include held

theorem nodup_seq : (saved.map fun row => row.seq).Nodup :=
  pairwise_map.mpr (held.ascending.imp Int64.ne_of_lt)

theorem not_detectable {rows part : List Entry} (inside : part <:+: saved)
    (same : List.Forall₂ Entry.Same (rows.filter Entry.chained) part) :
    ¬ Detectable saved rows := by
  obtain ⟨found, present⟩ := exists_of_forall₂ same
  intro detectable
  cases detectable with
  | foreign member chained unknown =>
    obtain ⟨original, known, sameRow⟩ := found _ (mem_filter.mpr ⟨member, chained⟩)
    exact unknown original (inside.subset known) sameRow
  | doubled repeated =>
    apply repeated
    rw [seq_map_of_same same]
    exact held.nodup_seq.sublist (inside.sublist.map _)
  | @gap original before after known gone lower lowerChained below upper above =>
      have aboveZero : after.chained = true := by
        obtain ⟨index, place⟩ := List.mem_iff_getElem?.mp known
        have number := held.seq_toInt place
        have later := Int64.lt_iff_toInt_lt.mp above
        have nonzero : after.seq ≠ 0 := by
          intro zero
          rw [zero, Int64.toInt_zero] at later
          omega
        simpa [Entry.chained] using nonzero
      obtain ⟨first, firstKnown, firstSame⟩ := found before (mem_filter.mpr ⟨lower, lowerChained⟩)
      obtain ⟨last, lastKnown, lastSame⟩ := found after (mem_filter.mpr ⟨upper, aboveZero⟩)
      rw [firstSame.seq] at below
      rw [lastSame.seq] at above
      obtain ⟨front, back, rfl⟩ := inside
      obtain ⟨upTo, _, behind⟩ := pairwise_append.mp held.ascending
      obtain ⟨_, _, ahead⟩ := pairwise_append.mp upTo
      -- The row that is gone is before the part, in it or behind it.
      rcases mem_append.mp known with inFront | inBack
      · rcases mem_append.mp inFront with inFront | inPart
        · exact Int64.lt_asymm below (ahead original inFront first firstKnown)
        · obtain ⟨row, member, sameRow⟩ := present original inPart
          exact gone row (mem_of_mem_filter member) sameRow
      · exact Int64.lt_asymm above (behind last (mem_append_right front lastKnown) original inBack)

/-- Between two rows of the chain that are read one after the other no saved
row is missing, so the second follows the first. -/
theorem follows_of_adjacent {rows front back : List Entry} {next : Entry}
    (ordered : Ordered rows) (undetectable : ¬ Detectable saved rows)
    (split : rows.filter Entry.chained = front ++ row :: next :: back)
    (member : row ∈ rows) (chained : row.chained = true)
    (nextMember : next ∈ rows) {original nextOriginal : Entry}
    (known : original ∈ saved) (same : row.Same original)
    (nextKnown : nextOriginal ∈ saved) (nextSame : next.Same nextOriginal) : row.Follows next := by
  obtain ⟨index, place⟩ := List.mem_iff_getElem?.mp known
  obtain ⟨nextIndex, nextPlace⟩ := List.mem_iff_getElem?.mp nextKnown
  have number : row.seq.toInt = index + 1 := by
    rw [same.seq, held.seq_toInt place]
  have nextNumber : next.seq.toInt = nextIndex + 1 := by
    rw [nextSame.seq, held.seq_toInt nextPlace]
  have kept : Ordered (front ++ row :: next :: back) := by
    rw [← split]
    exact ordered.sublist filter_sublist
  obtain ⟨_, rest, ahead⟩ := pairwise_append.mp kept
  obtain ⟨behindRow, rest⟩ := pairwise_cons.mp rest
  obtain ⟨behindNext, _⟩ := pairwise_cons.mp rest
  have before : index < nextIndex := by
    have weak := Int64.le_iff_toInt_le.mp (behindRow next mem_cons_self)
    have different : row.seq.toInt ≠ next.seq.toInt := by
      intro equal
      apply undetectable
      refine .doubled ?_
      rw [split, map_append, map_cons, map_cons, Int64.toInt_inj.mp equal]
      intro distinct
      have tail := (nodup_append.mp distinct).2.1
      exact (nodup_cons.mp tail).1 mem_cons_self
    omega
  have nextInside : nextIndex < saved.length := (List.getElem?_eq_some_iff.mp nextPlace).1
  by_cases adjacent : nextIndex = index + 1
  · apply same.follows nextSame
    have follows := List.isChain_iff_getElem.mp held.linked.1 index (by omega)
    rw [(List.getElem?_eq_some_iff.mp place).2] at follows
    rw [adjacent] at nextPlace
    rwa [(List.getElem?_eq_some_iff.mp nextPlace).2] at follows
  · have middlePlace : saved[index + 1]? = some saved[index + 1] :=
      List.getElem?_eq_getElem (by omega)
    have middleNumber := held.seq_toInt middlePlace
    refine (undetectable (.gap (List.mem_of_getElem? middlePlace) ?_ member
      chained (Int64.lt_iff_toInt_lt.mpr (by omega)) nextMember
      (Int64.lt_iff_toInt_lt.mpr (by omega)))).elim
    -- A row that stands for the one between would be read between the two.
    intro other inRows otherSame
    have otherNumber : other.seq.toInt = index + 1 + 1 := by
      rw [otherSame.seq, middleNumber]
      push_cast
      rfl
    have nonzero : other.seq ≠ 0 := by
      intro zero
      rw [zero, Int64.toInt_zero] at otherNumber
      omega
    have inKept : other ∈ front ++ row :: next :: back := by
      rw [← split]
      exact mem_filter.mpr ⟨inRows, by simpa [Entry.chained] using nonzero⟩
    rcases mem_append.mp inKept with inFront | inRest
    · have below := Int64.le_iff_toInt_le.mp (ahead other inFront row mem_cons_self)
      omega
    · rcases mem_cons.mp inRest with rfl | inRest
      · omega
      · rcases mem_cons.mp inRest with rfl | inBack
        · omega
        · have above := Int64.le_iff_toInt_le.mp (behindNext other inBack)
          omega

theorem linked_of_not_detectable {rows : List Entry} (ordered : Ordered rows)
    (undetectable : ¬ Detectable saved rows) : Linked hmac key (rows.filter Entry.chained) := by
  have found : ∀ row ∈ rows.filter Entry.chained, ∃ original ∈ saved, row.Same original := by
    intro row member
    obtain ⟨inRows, chained⟩ := mem_filter.mp member
    by_contra unknown
    exact undetectable (.foreign inRows chained
      fun original known same => unknown ⟨original, known, same⟩)
  constructor
  · apply isChain_iff_forall_rel_of_append_cons_cons.mpr
    intro row next front back split
    have member : row ∈ rows.filter Entry.chained := by simp [split]
    have nextMember : next ∈ rows.filter Entry.chained := by simp [split]
    obtain ⟨original, known, same⟩ := found row member
    obtain ⟨nextOriginal, nextKnown, nextSame⟩ := found next nextMember
    obtain ⟨inRows, chained⟩ := mem_filter.mp member
    exact held.follows_of_adjacent ordered undetectable split inRows chained
      (mem_of_mem_filter nextMember) known same nextKnown nextSame
  · intro row member
    obtain ⟨original, known, same⟩ := found row member
    rw [same.computeMAC_eq, held.linked.2 original known, ← same.fields]

end

end Holds

/-- A change to the rows is noticed when the walk can see it, and otherwise it
is not: rows may go at either end of the chain, and rows with the number zero
may come. -/
theorem tampering_noticed_iff (keyed : key ≠ []) {start state : State}
    {history : List Saved} (before : PreChain start)
    (run : Run (auditDatabase hmac key) Unrestricted start history state)
    {rows : List Entry} (ordered : Ordered rows)
    (trusted : Trusted hmac key (savedWithKey history) rows) :
    (Tampered (savedWithKey history) state.table rows → (verify hmac key rows).valid = false) ↔
    (Tampered (savedWithKey history) state.table rows →
      Detectable (savedWithKey history) rows) := by
  have held := (run_consistent keyed before run).table
  have noticed : (verify hmac key rows).valid = false ↔ Detectable (savedWithKey history) rows := by
    rw [verify, if_neg keyed, ← not_iff_not, Bool.not_eq_false]
    constructor
    · intro valid
      obtain ⟨part, inside, same⟩ := held.part_of_valid keyed trusted valid
      exact held.not_detectable inside same
    · intro undetectable
      exact (verifyChain_valid keyed).mpr (held.linked_of_not_detectable ordered undetectable)
  rw [noticed]

def openTag : Hmac := fun _ message => .replicate 32 (message.getD 7 0)

def sampleKey : List UInt8 := List.replicate 32 1

def newDatabase : State := ⟨[], none⟩

theorem newDatabase_preChain : PreChain newDatabase := ⟨forall_mem_nil _, Nat.zero_le _, rfl⟩

def sampleAudited (timestamp : Time) : Audited :=
  ⟨timestamp, .empty, .empty, .empty, .empty, .empty, .empty, .empty, .empty, .empty⟩

/-- A process with the key saves an entry, an insertion fails, and a process
without the key and one with it save an entry each. -/
def threeProcesses : List Input :=
  [.start true ⟨none, none⟩, .entry, .save 0 (sampleAudited 5) none,
    .entry, .save 1 (sampleAudited 6) (some "locked"),
    .start false ⟨none, none⟩, .entry, .save 0 (sampleAudited 7) none,
    .start true ⟨none, none⟩, .entry, .save 0 (sampleAudited 8) none,
    .save 0 (sampleAudited 9) none]

def savedThree (outcome : State × List Saved) : Bool :=
  decide ((savedWithKey outcome.2).length = 3 ∧ outcome.1.table.length = 4)

theorem verify_iff_saved_threeProcesses :
    ∃ state history,
      Run (auditDatabase openTag sampleKey) Unrestricted newDatabase history
        state ∧ (savedWithKey history).length = 3 ∧
      (∀ rows, rows.Perm state.table → Ordered rows → (verify openTag sampleKey rows).valid = true ∧
          (verify openTag sampleKey rows).checked = (savedWithKey history).length) ∧
      ∀ rows, Trusted openTag sampleKey (savedWithKey history) rows →
        (verifyChain openTag sampleKey rows).valid = true →
        ∃ part, part <:+: savedWithKey history ∧
          List.Forall₂ Entry.Same (rows.filter Entry.chained) part := by
  obtain ⟨state, history, run, checked⟩ := Run.exists_unrestricted
    (auditDatabase openTag sampleKey) newDatabase threeProcesses savedThree (by decide +kernel)
  exact ⟨state, history, run, (of_decide_eq_true checked).1,
    verify_iff_saved (by decide) newDatabase_preChain run⟩

def withoutMiddle (table : List Entry) : List Entry :=
  table.filter (fun row => row.seq == 0) ++
    table.filter (fun row => row.seq != 0 && row.seq != 2)

def middleGone (outcome : State × List Saved) : Bool :=
  decide (Ordered (withoutMiddle outcome.1.table) ∧
    Trusted openTag sampleKey (savedWithKey outcome.2) (withoutMiddle outcome.1.table) ∧
    Tampered (savedWithKey outcome.2) outcome.1.table (withoutMiddle outcome.1.table))

theorem tampering_noticed_iff_middle :
    ∃ state history,
      Run (auditDatabase openTag sampleKey) Unrestricted newDatabase history state ∧
      Tampered (savedWithKey history) state.table (withoutMiddle state.table) ∧
      ((Tampered (savedWithKey history) state.table (withoutMiddle state.table) →
        (verify openTag sampleKey (withoutMiddle state.table)).valid = false) ↔
      (Tampered (savedWithKey history) state.table (withoutMiddle state.table) →
        Detectable (savedWithKey history) (withoutMiddle state.table))) := by
  obtain ⟨state, history, run, checked⟩ := Run.exists_unrestricted
    (auditDatabase openTag sampleKey) newDatabase threeProcesses middleGone (by decide +kernel)
  obtain ⟨ordered, trusted, tampered⟩ := of_decide_eq_true checked
  exact ⟨state, history, run, tampered, tampering_noticed_iff (by decide)
    newDatabase_preChain run ordered trusted⟩

def oneProcess : List Input :=
  [.start true ⟨none, none⟩, .entry, .save 0 (sampleAudited 5) none,
    .save 0 (sampleAudited 6) none, .save 0 (sampleAudited 7) none]

def middleOnly (table : List Entry) : List Entry :=
  ⟨sampleAudited 100, Links.unset⟩ :: table.filter fun row => row.seq == 2

def unnoticed (outcome : State × List Saved) : Bool :=
  decide (Ordered (middleOnly outcome.1.table) ∧ Trusted openTag sampleKey (savedWithKey outcome.2)
      (middleOnly outcome.1.table) ∧
    ((∃ original ∈ savedWithKey outcome.2,
      ∀ row ∈ middleOnly outcome.1.table, ¬ row.Same original) ∧
    ∃ row ∈ middleOnly outcome.1.table, ∀ original ∈ outcome.1.table, ¬ row.Same original) ∧
    (verify openTag sampleKey (middleOnly outcome.1.table)).valid = true)

/-- Of three rows the first and the last are deleted and a row that was never
saved is added, and the chain is reported as valid. -/
theorem tampering_unnoticed :
    ∃ state history rows,
      Run (auditDatabase openTag sampleKey) Unrestricted newDatabase history state ∧ Ordered rows ∧
      Trusted openTag sampleKey (savedWithKey history) rows ∧
      ((∃ original ∈ savedWithKey history, ∀ row ∈ rows, ¬ row.Same original) ∧
      ∃ row ∈ rows, ∀ original ∈ state.table, ¬ row.Same original) ∧
      (verify openTag sampleKey rows).valid = true := by
  obtain ⟨state, history, run, checked⟩ := Run.exists_unrestricted
    (auditDatabase openTag sampleKey) newDatabase oneProcess unnoticed (by decide +kernel)
  exact ⟨state, history, middleOnly state.table, run, of_decide_eq_true checked⟩

end ProxiPort.AuditLog
