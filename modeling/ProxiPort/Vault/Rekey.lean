import Mathlib.Data.List.Forall2
import ProxiPort.Vault.KeyConsistency

/-!
# Re-keying a legacy vault

`rekeyLegacyVault` of `server/vault/manager.go` over `ReKey` of
`server/vault/sqlite.go`, statement by statement.  The statements run inside a
transaction: they change a working copy of the tables, which a commit publishes
and a rollback drops.  Every statement and every draw from the random source can
fail.
-/

namespace ProxiPort.Vault

open Enc

/-- The tables of the vault; the ids of the values are a primary key. -/
structure Tables where
  database : Database
  distinct : (database.values.map StoredValue.id).Nodup

/-- The tables, and the working copy of the transaction that is open. -/
structure Store where
  committed : Tables
  pending : Option Tables

namespace Store

def beginx (store : Store) : Store :=
  { store with pending := some store.committed }

def working (store : Store) : Tables := store.pending.getD store.committed

def exec (statement : Tables → Tables) (store : Store) : Store :=
  { store with pending := some (statement store.working) }

def rollback (store : Store) : Store :=
  { store with pending := none }

def commit (store : Store) : Store := ⟨store.working, none⟩

end Store

def StoredValue.withValue (row : StoredValue) (value : String) :
    StoredValue :=
  { row with input := { row.input with value := value } }

def setValue (id : Int) (value : String) (row : StoredValue) : StoredValue :=
  if row.id = id then row.withValue value else row

theorem setValue_id (id : Int) (value : String) (row : StoredValue) :
    (setValue id value row).id = row.id := by
  simp only [setValue]
  split
  · rfl
  · rfl

def Tables.updateValue (id : Int) (value : String) (tables : Tables) : Tables where
  database := { tables.database with
    values := tables.database.values.map (setValue id value) }
  distinct := by
    have same : (tables.database.values.map (setValue id value)).map
        StoredValue.id = tables.database.values.map StoredValue.id := by
      rw [List.map_map]
      exact List.map_congr_left fun row _ => setValue_id id value row
    rw [same]
    exact tables.distinct

/-- The update of verifier and descriptor in every row of the status. -/
def Tables.updateStatus (encCheck kdf : String) (tables : Tables) : Tables where
  database := { tables.database with
    status := tables.database.status.map fun row =>
      { row with encCheckValue := encCheck, kdf := kdf } }
  distinct := tables.distinct

/-- What a call cannot foresee: the draws from the random source, and which
statements fail.  A failure of the rollback or of the final `VACUUM` is only
logged. -/
structure Faults where
  salt : Except String (Vector UInt8 argon2SaltLen)
  verifier : Except String (Vector UInt8 32)
  nonce : Except String Nonce
  beginx : Option String
  select : Option String
  draws : Nat → Except String Nonce
  updateValue : Nat → Option String
  updateStatus : Option String
  rowsAffected : Option String
  commit : Option String

section ReKey

variable (server : Server)

def wrapDrawn (draw : Except String Nonce) (text : String) : Except String String :=
  match draw with
  | .ok nonce => wrap server nonce text
  | .error err =>
    if text = "" ∨ server.envelope.enabled = false then .ok text
    else .error ("envelope encrypt: " ++ err)

def transformDrawn (oldKey newKey : List UInt8) (draw : Except String Nonce)
    (oldValue : String) : Except String String :=
  match draw with
  | .ok nonce => transform server oldKey newKey nonce oldValue
  | .error err =>
    if oldValue = "" then .ok ""
    else
      match aes256DecryptByKeyFromBase64String server.crypto oldValue oldKey with
      | .error err =>
        .error ("re-key: failed to decrypt a stored value: " ++ err)
      | .ok _ => .error err

def reKeyText (oldKey newKey : List UInt8) (first second : Except String Nonce)
    (text : String) : Except String String := do
  let oldValue ← unwrap server text
  let newValue ← transformDrawn server oldKey newKey first oldValue
  wrapDrawn server second newValue

def reKeyRows (oldKey newKey : List UInt8) (faults : Faults) :
    Nat → List StoredValue → Store → Except String Unit × Store
  | _, [], store => (.ok (), store)
  | index, row :: rows, store =>
    match reKeyText server oldKey newKey (faults.draws (2 * index))
        (faults.draws (2 * index + 1)) row.input.value with
    | .error err => (.error err, store.rollback)
    | .ok storedValue =>
      match faults.updateValue index with
      | some err => (.error err, store.rollback)
      | none => reKeyRows oldKey newKey faults (index + 1) rows
          (store.exec (.updateValue row.id storedValue))

/-- The statements after the loop. -/
def reKeyStatus (faults : Faults) (newKDF newEncCheck : String)
    (store : Store) : Except String Unit × Store :=
  match wrapDrawn server (faults.draws 0) newEncCheck with
  | .error err => (.error err, store.rollback)
  | .ok wrappedEncCheck =>
    match faults.updateStatus with
    | some err => (.error err, store.rollback)
    | none =>
      let store := store.exec (.updateStatus wrappedEncCheck newKDF)
      match faults.rowsAffected with
      | some err => (.error err, store.rollback)
      | none =>
        if store.working.database.status.isNone then
          (.error "re-key: vault status row is missing", store.rollback)
        else
          match faults.commit with
          | some err => (.error err, store.rollback)
          | none => (.ok (), store.commit)

def reKeyStatements (oldKey newKey : List UInt8) (faults : Faults)
    (newKDF newEncCheck : String) (store : Store) : Except String Unit × Store :=
  match faults.beginx with
  | some err => (.error err, store)
  | none =>
    let store := store.beginx
    match faults.select with
    | some err => (.error err, store.rollback)
    | none =>
      match reKeyRows server oldKey newKey faults 1 store.working.database.values store with
      | (.error err, store) => (.error err, store)
      | (.ok (), store) =>
        reKeyStatus server faults newKDF newEncCheck store

/-- `NewStatusFor` when its bytes are drawn. -/
def newStatusDrawn (pass : String) (faults : Faults) :
    Except String (String × String × List UInt8) := do
  let salt ← faults.salt
  let verifier ← faults.verifier
  let nonce ← faults.nonce
  newStatusFor server.crypto pass salt verifier nonce

/-- `rekeyLegacyVault`: the new key, and the store afterwards. -/
def rekeyLegacyVault (pass : String) (oldKey : List UInt8) (faults : Faults)
    (store : Store) : Except String (List UInt8) × Store :=
  match newStatusDrawn server pass faults with
  | .error err => (.error err, store)
  | .ok (newKDF, newEncCheck, newKey) =>
    match reKeyStatements server oldKey newKey faults newKDF newEncCheck store with
    | (.error err, store) => (.error err, store)
    | (.ok (), store) => (.ok newKey, store)

end ReKey

variable {server : Server} {oldKey newKey : List UInt8} {faults : Faults}
  {newKDF newEncCheck err : String} {store after : Store} {index : Nat}
  {rows : List StoredValue}

theorem reKeyRows_error (failed : reKeyRows server oldKey newKey faults index rows store =
      (.error err, after)) :
    after = store.rollback := by
  induction rows generalizing index store with
  | nil => cases failed
  | cons row rows induction =>
    simp only [reKeyRows] at failed
    split at failed
    · cases failed
      rfl
    · split at failed
      · cases failed
        rfl
      · exact (induction failed).trans rfl

theorem reKeyRows_committed {result : Except String Unit}
    (ran : reKeyRows server oldKey newKey faults index rows store = (result, after)) :
    after.committed = store.committed := by
  induction rows generalizing index store with
  | nil =>
    cases ran
    rfl
  | cons row rows induction =>
    simp only [reKeyRows] at ran
    split at ran
    · cases ran
      rfl
    · split at ran
      · cases ran
        rfl
      · exact (induction ran).trans rfl

theorem reKeyStatus_error (failed : reKeyStatus server faults newKDF newEncCheck store =
      (.error err, after)) :
    after = store.rollback := by
  simp only [reKeyStatus] at failed
  split at failed
  · cases failed
    rfl
  · split at failed
    · cases failed
      rfl
    · split at failed
      · cases failed
        rfl
      · split at failed
        · cases failed
          rfl
        · split at failed
          · cases failed
            rfl
          · cases failed

/-- A `ReKey` that fails leaves the tables as they were, and no transaction. -/
theorem reKeyStatements_error (idle : store.pending = none)
    (failed : reKeyStatements server oldKey newKey faults newKDF newEncCheck
      store = (.error err, after)) :
    after = store := by
  have dropped : store.rollback = store := by
    obtain ⟨committed, pending⟩ := store
    cases idle
    rfl
  simp only [reKeyStatements] at failed
  split at failed
  · cases failed
    rfl
  · split at failed
    · cases failed
      exact dropped
    · split at failed
      · rename_i rowsFailed
        cases failed
        exact (reKeyRows_error rowsFailed).trans dropped
      · rename_i treated
        have kept := reKeyRows_committed treated
        rw [reKeyStatus_error failed, Store.rollback, kept]
        exact dropped

def Faults.nonces (faults : Faults) (index : Nat) : Nonce :=
  match faults.draws index with
  | .ok nonce => nonce
  | .error _ => Vector.replicate _ 0

theorem wrap_of_wrapDrawn {text stored : String}
    (wrapped : wrapDrawn server (faults.draws index) text = .ok stored) :
    wrap server (faults.nonces index) text = .ok stored := by
  simp only [wrapDrawn] at wrapped
  simp only [Faults.nonces]
  split at wrapped
  · exact wrapped
  · split at wrapped
    · rename_i plain
      cases wrapped
      rcases plain with empty | disabled
      · rw [wrap, if_pos empty, empty]
      · by_cases empty : text = ""
        · rw [wrap, if_pos empty, empty]
        · rw [wrap, if_neg empty, Envelope.encrypt, disabled]
          rfl
    · cases wrapped

theorem transform_of_transformDrawn {oldValue newValue : String}
    (transformed : transformDrawn server oldKey newKey (faults.draws index)
      oldValue = .ok newValue) :
    transform server oldKey newKey (faults.nonces index) oldValue = .ok newValue := by
  simp only [transformDrawn] at transformed
  simp only [Faults.nonces]
  split at transformed
  · exact transformed
  · split at transformed
    · rename_i empty
      cases transformed
      rw [transform, if_pos empty]
    · split at transformed
      all_goals cases transformed

variable {row : StoredValue}

theorem reKeyValue_of_reKeyText {first second : Nat} {storedValue : String}
    (treated : reKeyText server oldKey newKey (faults.draws first)
      (faults.draws second) row.input.value = .ok storedValue) :
    reKeyValue server oldKey newKey (faults.nonces first)
      (faults.nonces second) row = .ok (row.withValue storedValue) := by
  simp only [reKeyText, Outcome.bind_eq_ok_iff] at treated
  obtain ⟨oldValue, unwrapped, newValue, transformed, wrapped⟩ := treated
  simp only [reKeyValue, Outcome.bind_eq_ok_iff]
  exact ⟨oldValue, unwrapped, newValue, transform_of_transformDrawn transformed, storedValue,
    wrap_of_wrapDrawn wrapped, rfl⟩

variable {before : List StoredValue}

theorem map_setValue (distinct : ((before ++ row :: rows).map StoredValue.id).Nodup)
    (value : String) :
    (before ++ row :: rows).map (setValue row.id value) =
      before ++ row.withValue value :: rows := by
  have others : ∀ other ∈ before ++ rows, setValue row.id value other =
      other := by
    intro other member
    have apart : other.id ≠ row.id := by
      rw [List.map_append, List.map_cons] at distinct
      have absent := (List.nodup_middle.mp distinct).notMem
      intro same
      rw [← same, ← List.map_append] at absent
      exact absent (List.mem_map_of_mem member)
    rw [setValue, if_neg apart]
  have kept : ∀ list, list ⊆ before ++ rows → list.map (setValue row.id value) = list := by
    intro list inside
    rw [List.map_congr_left fun other member => others other (inside member)]
    exact List.map_id' list
  rw [List.map_append, List.map_cons, kept before (List.subset_append_left before rows),
    kept rows (List.subset_append_right before rows), setValue, if_pos rfl]

theorem reKeyRows_ok (selected : store.working.database.values = before ++ rows)
    (succeeded : reKeyRows server oldKey newKey faults index rows store = (.ok (), after)) :
    ∃ values, Outcome.traverse (fun index => reKeyValue server oldKey newKey
        (faults.nonces (2 * index)) (faults.nonces (2 * index + 1))) index
        rows = .ok values ∧
      after.working.database =
        { store.working.database with values := before ++ values } := by
  induction rows generalizing before index store with
  | nil =>
    cases succeeded
    refine ⟨[], rfl, ?_⟩
    rw [← selected]
  | cons row rows induction =>
    simp only [reKeyRows] at succeeded
    split at succeeded
    · cases succeeded
    · rename_i storedValue treated
      split at succeeded
      · cases succeeded
      · have distinct := store.working.distinct
        rw [selected] at distinct
        have updated : (store.exec (.updateValue row.id storedValue)).working.database.values =
              (before ++ [row.withValue storedValue]) ++ rows := by
          rw [List.append_assoc, List.singleton_append,
            ← map_setValue distinct storedValue, ← selected]
          rfl
        obtain ⟨values, traversed, result⟩ := induction updated succeeded
        refine ⟨row.withValue storedValue :: values, ?_, ?_⟩
        · simp only [Outcome.traverse, Outcome.bind_eq_ok_iff]
          exact ⟨_, reKeyValue_of_reKeyText treated, values, traversed, rfl⟩
        · rw [result, List.append_assoc]
          rfl

theorem reKeyStatus_ok (succeeded : reKeyStatus server faults newKDF newEncCheck store =
      (.ok (), after)) :
    ∃ wrapped row, wrap server (faults.nonces 0) newEncCheck = .ok wrapped ∧
      store.working.database.status = some row ∧
      after.pending = none ∧
      after.committed.database = { store.working.database with
        status := some { row with encCheckValue := wrapped, kdf := newKDF } } := by
  simp only [reKeyStatus] at succeeded
  split at succeeded
  · cases succeeded
  · rename_i wrapped drawn
    split at succeeded
    · cases succeeded
    · split at succeeded
      · cases succeeded
      · split at succeeded
        · cases succeeded
        · rename_i present
          split at succeeded
          · cases succeeded
          · cases succeeded
            obtain ⟨row, status⟩ : ∃ row, store.working.database.status = some row := by
              rw [← Option.ne_none_iff_exists']
              simpa [Store.exec, Store.working, Tables.updateStatus] using present
            refine ⟨wrapped, row, wrap_of_wrapDrawn drawn, status, rfl, ?_⟩
            simp only [Store.commit, Store.exec, Store.working,
              Tables.updateStatus, Option.getD_some]
            rw [← Store.working, status]
            rfl

/-- A `ReKey` that succeeds has ended its transaction and computed `reKey`. -/
theorem reKeyStatements_ok
    (succeeded : reKeyStatements server oldKey newKey faults newKDF newEncCheck
      store = (.ok (), after)) :
    after.pending = none ∧ reKey server oldKey newKey faults.nonces newKDF newEncCheck
        store.committed.database = .ok after.committed.database := by
  simp only [reKeyStatements] at succeeded
  split at succeeded
  · cases succeeded
  · split at succeeded
    · cases succeeded
    · split at succeeded
      · cases succeeded
      · rename_i treated
        obtain ⟨values, traversed, rowsDone⟩ := reKeyRows_ok (List.nil_append _).symm treated
        obtain ⟨wrapped, row, checkWrapped, status, idle, result⟩ := reKeyStatus_ok succeeded
        refine ⟨idle, ?_⟩
        rw [rowsDone] at status result
        simp only [reKey, Outcome.bind_eq_ok_iff]
        refine ⟨values, traversed, wrapped, checkWrapped, ?_⟩
        have sameStatus : store.committed.database.status = some row := status
        rw [sameStatus, result]
        rfl

/-- The two rows differ in their text only, and the texts stand for the same
plaintext under the old and under the new key; an empty text stays empty. -/
def SamePlaintext (server : Server) (oldKey newKey : List UInt8)
    (before after : StoredValue) : Prop :=
  after = before.withValue after.input.value ∧ ∃ oldText newText,
      unwrap server before.input.value = .ok oldText ∧
      unwrap server after.input.value = .ok newText ∧
      (oldText = "" ∧ newText = "" ∨ ∃ plaintext,
          aes256DecryptByKeyFromBase64String server.crypto oldText oldKey = .ok plaintext ∧
          aes256DecryptByKeyFromBase64String server.crypto newText newKey = .ok plaintext)

/-- Every value stands for the plaintext it had, and the status verifies the
new key. -/
structure Rekeyed (server : Server) (oldKey newKey : List UInt8)
    (before after : Database) : Prop where
  values : List.Forall₂ (SamePlaintext server oldKey newKey) before.values after.values
  sequence : after.sequence = before.sequence
  status : ∃ dbStatus, getStatus server after = .ok dbStatus ∧
    verify server.crypto dbStatus newKey = true

theorem unwrap_empty : unwrap server "" = .ok "" := rfl

theorem reKeyValue_samePlaintext (laws : server.crypto.Laws)
    {first second : Nonce} {treated : StoredValue}
    (succeeded : reKeyValue server oldKey newKey first second row = .ok treated) :
    SamePlaintext server oldKey newKey row treated := by
  simp only [reKeyValue, Outcome.bind_eq_ok_iff] at succeeded
  obtain ⟨oldText, unwrapped, newText, transformed, stored, wrapped, result⟩ := succeeded
  cases result
  refine ⟨rfl, oldText, newText, unwrapped, ?_⟩
  by_cases empty : oldText = ""
  · rw [transform, if_pos empty] at transformed
    cases transformed
    rw [wrap, if_pos rfl] at wrapped
    cases wrapped
    exact ⟨unwrap_empty, .inl ⟨empty, rfl⟩⟩
  · rw [transform, if_neg empty] at transformed
    split at transformed
    · cases transformed
    · rename_i plaintext decrypted
      exact ⟨unwrap_wrap laws ⟨first, plaintext, transformed⟩ wrapped,
        .inr ⟨plaintext, decrypted, aes256Decrypt_encrypt laws transformed⟩⟩

theorem reKey_rekeyed (laws : server.crypto.Laws) {nonces : Nat → Nonce} {before after : Database}
    (verifier : Sealed server.crypto newKey newEncCheck)
    (succeeded : reKey server oldKey newKey nonces newKDF newEncCheck before = .ok after) :
    Rekeyed server oldKey newKey before after := by
  simp only [reKey, Outcome.bind_eq_ok_iff] at succeeded
  obtain ⟨values, traversed, wrapped, checkWrapped, rest⟩ := succeeded
  cases status : before.status with
  | none =>
    rw [status] at rest
    cases rest
  | some row =>
    rw [status] at rest
    cases rest
    refine ⟨?_, rfl, { row with encCheckValue := newEncCheck, kdf := newKDF }, ?_, ?_⟩
    · refine (Outcome.forall₂_traverse traversed).imp ?_
      rintro row treated ⟨position, succeeded⟩
      exact reKeyValue_samePlaintext laws succeeded
    · simp only [getStatus, unwrap_wrap laws verifier checkWrapped]
      rfl
    · rw [verify_iff]
      refine ⟨verifier.shape.1, ?_, verifier.decrypts laws⟩
      intro noKey
      have length := verifier.length
      rw [noKey] at length
      cases length

theorem newStatusDrawn_sealed {pass : String} (generated : newStatusDrawn server pass faults =
      .ok (newKDF, newEncCheck, newKey)) :
    Sealed server.crypto newKey newEncCheck := by
  simp only [newStatusDrawn, Outcome.bind_eq_ok_iff] at generated
  obtain ⟨salt, _, verifier, _, nonce, _, generated⟩ := generated
  simp only [newStatusFor] at generated
  split at generated
  · cases generated
  · rename_i encCheck encrypted
    cases generated
    exact ⟨nonce, verifier.toList, encrypted⟩

/-- What a call of `rekeyLegacyVault` may leave behind: the store as it was
next to an error, or the vault under the key that is returned. -/
structure LeavesAtomic (server : Server) (oldKey : List UInt8) (store : Store)
    (result : Except String (List UInt8) × Store) : Prop where
  failed : ∀ {err after}, result = (.error err, after) → after = store
  succeeded : ∀ {newKey after}, result = (.ok newKey, after) → after.pending = none ∧
      Rekeyed server oldKey newKey store.committed.database after.committed.database

/-- Whatever the vault holds and whichever step fails, a legacy vault is
re-keyed as a whole or not at all. -/
theorem rekeyLegacyVault_atomic (laws : server.crypto.Laws) (pass : String)
    (oldKey : List UInt8) (faults : Faults) {store : Store} (idle : store.pending = none) :
    LeavesAtomic server oldKey store (rekeyLegacyVault server pass oldKey faults store) := by
  constructor
  · intro err after failed
    simp only [rekeyLegacyVault] at failed
    split at failed
    · cases failed
      rfl
    · split at failed
      · rename_i statementsFailed
        cases failed
        exact reKeyStatements_error idle statementsFailed
      · cases failed
  · intro newKey after succeeded
    simp only [rekeyLegacyVault] at succeeded
    split at succeeded
    · cases succeeded
    · rename_i generated
      split at succeeded
      · cases succeeded
      · rename_i statementsDone
        cases succeeded
        obtain ⟨ended, rekeyed⟩ := reKeyStatements_ok statementsDone
        exact ⟨ended, reKey_rekeyed laws (newStatusDrawn_sealed generated) rekeyed⟩

def wrappingServer : Server :=
  { plainServer with envelope := ⟨List.replicate 32 7⟩ }

def legacyKey : List UInt8 := List.replicate 32 1

def legacyText (payload : List UInt8) : String :=
  match aes256EncryptByKeyToBase64String plainCrypto (Vector.replicate _ 0) payload legacyKey with
  | .ok text => text
  | .error _ => ""

def wrappedText (text : String) : String :=
  match wrap wrappingServer (Vector.replicate _ 0) text with
  | .ok stored => stored
  | .error _ => ""

def legacyTables : Tables where
  database :=
    { status := some ⟨dbStatusInit, legacyText [0], ""⟩
      values := [⟨1, ⟨"client", "", "wrapped", wrappedText (legacyText [1, 2]), "text"⟩⟩,
          ⟨2, ⟨"client", "", "empty", "", "text"⟩⟩]
      sequence := 2 }
  distinct := by decide

def noFaults : Faults where
  salt := .ok (Vector.replicate _ 2)
  verifier := .ok (Vector.replicate _ 3)
  nonce := .ok (Vector.replicate _ 4)
  beginx := none
  select := none
  draws := fun _ => .ok (Vector.replicate _ 5)
  updateValue := fun _ => none
  updateStatus := none
  rowsAffected := none
  commit := none

theorem rekeyLegacyVault_mixed :
    (rekeyLegacyVault wrappingServer "passphrase" legacyKey noFaults
      ⟨legacyTables, none⟩).1.isOk = true ∧
    LeavesAtomic wrappingServer legacyKey ⟨legacyTables, none⟩
      (rekeyLegacyVault wrappingServer "passphrase" legacyKey noFaults ⟨legacyTables, none⟩) := by
  have laws : wrappingServer.crypto.Laws := plainCrypto_laws
  constructor
  · decide +kernel
  · exact rekeyLegacyVault_atomic laws "passphrase" legacyKey noFaults rfl

end ProxiPort.Vault
