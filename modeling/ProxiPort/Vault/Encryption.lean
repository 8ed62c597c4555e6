import ProxiPort.Vault.Manager

/-!
# Databases encrypted under one key

What it means that the status and the values of the vault belong to one key,
and that every database call of the vault keeps it that way.
-/

namespace ProxiPort.Vault

open Concurrency Enc

variable {server : Server}

variable {key : List UInt8} {nonce : Nonce}

theorem unwrap_wrap (laws : server.crypto.Laws) {text stored : String}
    (ciphertext : Sealed server.crypto key text) (wrapped : wrap server nonce text = .ok stored) :
    unwrap server stored = .ok text := by
  obtain ⟨present, plain⟩ := ciphertext.shape
  rw [wrap, if_neg present] at wrapped
  exact Envelope.decrypt_encrypt laws wrapped (.inr (isEncrypted_of_plain plain))

theorem unwrap_wrapExisting (laws : server.crypto.Laws)
    (enabled : server.envelope.enabled = true) {stored text after : String}
    (read : unwrap server stored = .ok text)
    (wrapped : wrapExisting server nonce stored = .ok after) : unwrap server after = .ok text := by
  by_cases kept : stored = "" ∨ isEncrypted stored = true
  · rw [wrapExisting, if_pos kept] at wrapped
    cases wrapped
    exact read
  · rw [wrapExisting, if_neg kept] at wrapped
    have plain : isEncrypted stored = false := eq_false_of_ne_true (not_or.mp kept).2
    have same : stored = text := by
      simpa [unwrap, Envelope.decrypt, plain] using read
    rw [← same]
    exact Envelope.decrypt_encrypt laws wrapped (.inl enabled)

/-- A text as stored is a ciphertext under a key. -/
def SealedRow (server : Server) (key : List UInt8) (stored : String) : Prop :=
  ∃ text, unwrap server stored = .ok text ∧ Sealed server.crypto key text

/-- The database is initialised, some passphrase gives the key under its
status, and the verifier and all values are encrypted under that key. -/
structure EncryptedUnder (server : Server) (database : Database)
    (dbStatus : DbStatus) (key : List UInt8) : Prop where
  status : getStatus server database = .ok dbStatus
  initialised : dbStatus.statusName = dbStatusInit
  keyFor : KeyFor server.crypto server.unicode dbStatus key
  values : ∀ row ∈ database.values, SealedRow server key row.input.value

def Database.Blank (database : Database) : Prop := database.status = none ∧ database.values = []

variable {database after : Database} {dbStatus : DbStatus}

theorem setStatus_encryptedUnder (laws : server.crypto.Laws) (empty : database.values = [])
    (initialised : dbStatus.statusName = dbStatusInit)
    (keyFor : KeyFor server.crypto server.unicode dbStatus key)
    (set : setStatus server nonce dbStatus database = .ok after) :
    EncryptedUnder server after dbStatus key := by
  simp only [setStatus, Outcome.bind_eq_ok_iff] at set
  obtain ⟨encCheck, wrapped, result⟩ := set
  cases result
  refine ⟨?_, initialised, keyFor, ?_⟩
  · simp only [getStatus, unwrap_wrap laws keyFor.check wrapped]
    rfl
  · intro row member
    rw [empty] at member
    cases member

theorem getStatus_of_row {database : Database} {row : DbStatus}
    (status : database.status = some row) (read : getStatus server database = .ok dbStatus) :
    ∃ encCheck, unwrap server row.encCheckValue = .ok encCheck ∧
      dbStatus = { row with encCheckValue := encCheck } := by
  simp only [getStatus, status, Outcome.bind_eq_ok_iff] at read
  obtain ⟨encCheck, unwrapped, result⟩ := read
  cases result
  exact ⟨encCheck, unwrapped, rfl⟩

variable {nonces : Nat → Nonce}

theorem wrapExistingSecrets_blank (blank : database.Blank)
    (wrapped : wrapExistingSecrets server nonces database = .ok after) : after.Blank := by
  obtain ⟨noStatus, noValues⟩ := blank
  simp only [wrapExistingSecrets, noStatus, noValues] at wrapped
  split at wrapped
  · cases wrapped
    exact ⟨rfl, rfl⟩
  · cases wrapped
    exact ⟨noStatus, noValues⟩

theorem wrapExistingSecrets_encryptedUnder (laws : server.crypto.Laws)
    (encrypted : EncryptedUnder server database dbStatus key)
    (wrapped : wrapExistingSecrets server nonces database = .ok after) :
    EncryptedUnder server after dbStatus key := by
  cases enabled : server.envelope.enabled with
  | false =>
    simp only [wrapExistingSecrets, enabled, Bool.false_eq_true, if_false] at wrapped
    cases wrapped
    exact encrypted
  | true =>
    simp only [wrapExistingSecrets, enabled, if_true, Outcome.bind_eq_ok_iff] at wrapped
    obtain ⟨values, traversed, rest⟩ := wrapped
    have valuesSealed : ∀ row ∈ values, SealedRow server key row.input.value := by
      intro row member
      obtain ⟨old, known, position, treated⟩ := Outcome.mem_traverse traversed member
      simp only [wrapExistingValue, Outcome.bind_eq_ok_iff] at treated
      obtain ⟨value, wrappedValue, result⟩ := treated
      cases result
      obtain ⟨text, unwrapped, ciphertext⟩ := encrypted.values old known
      exact ⟨text, unwrap_wrapExisting laws enabled unwrapped wrappedValue, ciphertext⟩
    cases status : database.status with
    | none =>
      have read := encrypted.status
      rw [getStatus, status] at read
      cases read
      exact absurd encrypted.initialised (by decide)
    | some row =>
      simp only [status, Outcome.bind_eq_ok_iff] at rest
      obtain ⟨encCheck, wrappedCheck, result⟩ := rest
      cases result
      obtain ⟨check, unwrapped, rfl⟩ := getStatus_of_row status encrypted.status
      refine ⟨?_, encrypted.initialised, encrypted.keyFor, valuesSealed⟩
      simp only [getStatus, unwrap_wrapExisting laws enabled unwrapped wrappedCheck]
      rfl

theorem reKeyValue_sealed (laws : server.crypto.Laws)
    {oldKey newKey : List UInt8} {first second : Nonce} {row after : StoredValue}
    (old : SealedRow server oldKey row.input.value)
    (treated : reKeyValue server oldKey newKey first second row = .ok after) :
    SealedRow server newKey after.input.value := by
  simp only [reKeyValue, Outcome.bind_eq_ok_iff] at treated
  obtain ⟨oldValue, unwrapped, newValue, transformed, storedValue, wrapped, result⟩ := treated
  cases result
  obtain ⟨text, read, ciphertext⟩ := old
  rw [read] at unwrapped
  cases unwrapped
  obtain ⟨plain, decrypted⟩ := ciphertext.decrypts laws
  simp only [transform, if_neg ciphertext.shape.1, decrypted] at transformed
  have newCiphertext : Sealed server.crypto newKey newValue := ⟨first, plain, transformed⟩
  exact ⟨newValue, unwrap_wrap laws newCiphertext wrapped, newCiphertext⟩

theorem reKey_encryptedUnder (laws : server.crypto.Laws)
    {oldKey newKey : List UInt8} {newKDF newEncCheck : String}
    (encrypted : EncryptedUnder server database dbStatus oldKey)
    (keyFor : KeyFor server.crypto server.unicode
      { dbStatus with encCheckValue := newEncCheck, kdf := newKDF } newKey)
    (rekeyed : reKey server oldKey newKey nonces newKDF newEncCheck database = .ok after) :
    EncryptedUnder server after
      { dbStatus with encCheckValue := newEncCheck, kdf := newKDF }
      newKey := by
  simp only [reKey, Outcome.bind_eq_ok_iff] at rekeyed
  obtain ⟨values, traversed, encCheck, wrapped, rest⟩ := rekeyed
  cases status : database.status with
  | none =>
    rw [status] at rest
    cases rest
  | some row =>
    rw [status] at rest
    cases rest
    obtain ⟨check, unwrapped, rfl⟩ := getStatus_of_row status encrypted.status
    refine ⟨?_, encrypted.initialised, keyFor, ?_⟩
    · simp only [getStatus, unwrap_wrap laws keyFor.check wrapped]
      rfl
    · intro row member
      obtain ⟨old, known, position, treated⟩ := Outcome.mem_traverse traversed member
      exact reKeyValue_sealed laws (encrypted.values old known) treated

variable {val : InputValue}

theorem mem_save {idToUpdate id : Int}
    (saved : save server nonce idToUpdate val database = .ok (id, after)) :
    after.status = database.status ∧ ∃ storedValue, wrap server nonce val.value = .ok storedValue ∧
        ∀ row ∈ after.values, row ∈ database.values ∨ row.input.value = storedValue := by
  simp only [save, Outcome.bind_eq_ok_iff] at saved
  obtain ⟨storedValue, wrapped, rest⟩ := saved
  split at rest
  · split at rest
    · cases rest
    · cases rest
      refine ⟨rfl, storedValue, wrapped, ?_⟩
      exact forall_mem_concat (fun _ => .inl) (.inr rfl)
  · split at rest
    · cases rest
    · cases rest
      refine ⟨rfl, storedValue, wrapped, ?_⟩
      intro row member
      obtain ⟨old, known, rfl⟩ := List.mem_map.mp member
      split
      · exact .inr rfl
      · exact .inl known

theorem save_encryptedUnder (laws : server.crypto.Laws) {idToUpdate id : Int}
    (encrypted : EncryptedUnder server database dbStatus key)
    (ciphertext : Sealed server.crypto key val.value)
    (saved : save server nonce idToUpdate val database = .ok (id, after)) :
    EncryptedUnder server after dbStatus key := by
  obtain ⟨status, storedValue, wrapped, rows⟩ := mem_save saved
  refine ⟨?_, encrypted.initialised, encrypted.keyFor, ?_⟩
  · rw [← encrypted.status, getStatus, status]
    rfl
  · intro row member
    rcases rows row member with old | new
    · exact encrypted.values row old
    · rw [new]
      exact ⟨val.value, unwrap_wrap laws ciphertext wrapped, ciphertext⟩

end ProxiPort.Vault
