import ProxiPort.Vault.Encryption

/-!
# The key in memory and the status in the database

An unlocked vault holds a key; the database holds a verifier for it and values
that are encrypted under it.  `Init` and `UnLock` check the stored status, and
write the status and the key later, in sections of their own.  As long as
nobody else has changed the status in between, key, status and values fit
together in every state.
-/

namespace ProxiPort.Vault

open Concurrency Enc

variable {server : Server}

variable {dbStatus : DbStatus} {key : List UInt8}

theorem deriveKey_eq_ok {pass : String} {legacy : Bool}
    (derived : deriveKey server.crypto server.unicode dbStatus pass = .ok (key, legacy)) :
    pass ≠ "" ∧ (legacy = true ↔ Go.trimSpace dbStatus.kdf = "") := by
  simp only [deriveKey] at derived
  split at derived
  · cases derived
  · rename_i present
    refine ⟨present, ?_⟩
    split at derived
    · rename_i blank
      cases derived
      exact iff_of_true rfl blank
    · rename_i current
      split at derived
      · cases derived
      · split at derived
        · cases derived
        · cases derived
          exact iff_of_false Bool.false_ne_true current

/-- A status of the current kind and a key for it that was verified. -/
structure CurrentKey (server : Server) (dbStatus : DbStatus)
    (key : List UInt8) : Prop where
  derived : ∃ pass, deriveKey server.crypto server.unicode dbStatus pass = .ok (key, false)
  verified : verify server.crypto dbStatus key = true

theorem CurrentKey.current (held : CurrentKey server dbStatus key) :
    Go.trimSpace dbStatus.kdf ≠ "" := by
  obtain ⟨pass, derived⟩ := held.derived
  intro blank
  exact Bool.false_ne_true ((deriveKey_eq_ok derived).2.mpr blank)

theorem KeyFor.currentKey (laws : server.crypto.Laws)
    (held : KeyFor server.crypto server.unicode dbStatus key)
    (current : Go.trimSpace dbStatus.kdf ≠ "") : CurrentKey server dbStatus key := by
  obtain ⟨pass, legacy, derived⟩ := held.derived
  have notLegacy : legacy = false := by
    apply eq_false_of_ne_true
    intro isLegacy
    exact current ((deriveKey_eq_ok derived).2.mp isLegacy)
  subst notLegacy
  exact ⟨⟨pass, derived⟩, held.verifies laws⟩

/-- What a call in flight has found out, about its own variables only. -/
def Thread.Asserts (server : Server) : Thread → Prop
  | .initStatus pass _ | .initOpen pass | .initGenerate pass => pass ≠ ""
  | .initSetStatus _ dbStatus key | .initSetKey dbStatus key =>
    dbStatus.statusName = dbStatusInit ∧ KeyFor server.crypto server.unicode dbStatus key ∧
      Go.trimSpace dbStatus.kdf ≠ ""
  | .rekeyLegacyVault pass _ dbStatus oldKey =>
    deriveKey server.crypto server.unicode dbStatus pass = .ok (oldKey, true) ∧
      verify server.crypto dbStatus oldKey = true
  | .unLockSetKey dbStatus key => CurrentKey server dbStatus key
  | _ => True

def Thread.holdsKey : Thread → Bool
  | .storeSave _ _ => true
  | _ => false

def Thread.assigned : Thread → Option (List UInt8)
  | .initSetKey _ key => some key
  | .unLockSetKey _ key => some key
  | .lockSetKey => some []
  | _ => none

inductive Stepped (server : Server) (manager : Manager) :
    Thread → Manager → Thread → Prop where
  | moves {thread after : Thread} (asserts : thread.Asserts server → after.Asserts server)
      (before : thread.holdsKey = false) (idle : after.holdsKey = false) :
      Stepped server manager thread manager after
  | opens {pass : String} {nonces : Nat → Nonce} {database : Database}
      (wrapped : wrapExistingSecrets server nonces manager.database = .ok database) :
      Stepped server manager (.initOpen pass)
        { manager with database := database, opened := true }
        (.initGenerate pass)
  | setsStatus {db : Provider} {dbStatus : DbStatus} {key : List UInt8}
      {nonce : Nonce} {database : Database}
      (set : setStatus server nonce dbStatus manager.database = .ok database) :
      Stepped server manager (.initSetStatus db dbStatus key)
        { manager with database := database } (.initSetKey dbStatus key)
  | rekeys {pass : String} {db : Provider} {dbStatus : DbStatus}
      {oldKey newKey : List UInt8} {salt : Vector UInt8 argon2SaltLen}
      {verifier : Vector UInt8 32} {nonce : Nonce} {nonces : Nat → Nonce}
      {newKDF newEncCheck : String} {database : Database}
      (generated : newStatusFor server.crypto pass salt verifier nonce =
        .ok (newKDF, newEncCheck, newKey))
      (rekeyed : reKey server oldKey newKey nonces newKDF newEncCheck
        manager.database = .ok database) :
      Stepped server manager (.rekeyLegacyVault pass db dbStatus oldKey)
        { manager with database := database }
        (.unLockSetKey
          { dbStatus with encCheckValue := newEncCheck, kdf := newKDF }
          newKey)
  | setsKey {thread : Thread} {key : List UInt8}
      (assigned : thread.assigned = some key) (free : manager.readers = 0) :
      Stepped server manager thread { manager with key := key } (.returned .done)
  | encrypts {request : Request} {db : Provider} {encValue : String}
      (ciphertext : Sealed server.crypto manager.key encValue) :
      Stepped server manager (.storeEncrypt request db)
        { manager with readers := manager.readers + 1 }
        (.storeSave { request with
          value := { request.value with value := encValue } } db)
  | saves {request : Request} {db : Provider} {nonce : Nonce} {id : Int} {database : Database}
      (saved : save server nonce request.existingID request.value
        manager.database = .ok (id, database)) :
      Stepped server manager (.storeSave request db)
        { manager with
          readers := manager.readers - 1, database := database }
        (.returned (.stored id))
  | abandons {request : Request} {db : Provider} {err : Err} :
      Stepped server manager (.storeSave request db)
        { manager with readers := manager.readers - 1 } (failed err)

variable {choice : Choice}

theorem callProvider_eq_ok {Value : Type} {db : Provider}
    {outcome : Except String Value} {value : Value}
    (called : callProvider db choice outcome = .ok value) : outcome = .ok value := by
  simp only [callProvider] at called
  split at called
  · cases called
  · cases called
  · cases called
  · cases called
    rfl

theorem checkPass_asserts (pass : String) (db : Provider) (dbStatus : DbStatus) :
    (checkPass server pass db dbStatus).Asserts server ∧
      (checkPass server pass db dbStatus).holdsKey = false := by
  simp only [checkPass]
  split
  · exact ⟨trivial, rfl⟩
  · split
    · exact ⟨trivial, rfl⟩
    · rename_i derived
      split
      · rename_i verified
        split
        · rename_i legacy
          subst legacy
          exact ⟨⟨derived, verified⟩, rfl⟩
        · rename_i notLegacy
          rw [eq_false_of_ne_true notLegacy] at derived
          exact ⟨⟨⟨pass, derived⟩, verified⟩, rfl⟩
      · exact ⟨trivial, rfl⟩

theorem checkConflict_asserts (request : Request) (db : Provider) (found : Option StoredValue) :
    (checkConflict request db found).Asserts server ∧
      (checkConflict request db found).holdsKey = false := by
  simp only [checkConflict]
  split
  · exact ⟨trivial, rfl⟩
  · split
    all_goals exact ⟨trivial, rfl⟩

variable {manager : Manager} {thread after : Thread}

theorem Stepped.quiet (before : thread.holdsKey = false)
    (asserts : after.Asserts server ∧ after.holdsKey = false) :
    Stepped server manager thread manager after :=
  .moves (fun _ => asserts.1) before asserts.2

variable {shown : List Empty}

theorem atomic_stepped {manager next : Manager}
    (ran : atomic server manager thread choice = some (next, after, shown)) :
    Stepped server manager thread next after := by
  cases thread with
  | init pass =>
    simp only [atomic] at ran
    split at ran <;> cases ran
    · exact .quiet rfl ⟨trivial, rfl⟩
    · rename_i valid
      refine .quiet rfl ⟨?_, rfl⟩
      rintro rfl
      exact absurd valid (by decide)
  | initStatus pass db =>
    simp only [atomic] at ran
    split at ran <;> cases ran
    · exact .quiet rfl ⟨trivial, rfl⟩
    · exact .quiet rfl ⟨trivial, rfl⟩
    · exact .moves id rfl rfl
  | initOpen pass =>
    simp only [atomic] at ran
    split at ran <;> cases ran
    · exact .quiet rfl ⟨trivial, rfl⟩
    · rename_i called
      exact .opens (callProvider_eq_ok called)
  | initGenerate pass =>
    simp only [atomic] at ran
    split at ran <;> cases ran
    · exact .quiet rfl ⟨trivial, rfl⟩
    · exact .quiet rfl ⟨trivial, rfl⟩
    · rename_i generated
      refine .moves ?_ rfl rfl
      intro present
      exact ⟨rfl, newStatusFor_keyFor present generated dbStatusInit⟩
  | initSetStatus db dbStatus key =>
    simp only [atomic] at ran
    split at ran <;> cases ran
    · exact .quiet rfl ⟨trivial, rfl⟩
    · rename_i called
      exact .setsStatus (callProvider_eq_ok called)
  | initSetKey | unLockSetKey | lockSetKey =>
    simp only [atomic] at ran
    split at ran <;> cases ran
    rename_i free
    exact .setsKey rfl free
  | unLock | lock | store =>
    simp only [atomic] at ran
    split at ran <;> cases ran
    all_goals exact .quiet rfl ⟨trivial, rfl⟩
  | unLockProvider | lockProvider | storeProvider | storeFindProvider =>
    cases ran
    exact .quiet rfl ⟨trivial, rfl⟩
  | unLockStatus pass db =>
    simp only [atomic] at ran
    split at ran <;> cases ran
    · exact .quiet rfl ⟨trivial, rfl⟩
    · exact .quiet rfl (checkPass_asserts _ _ _)
  | rekeyLegacyVault pass db dbStatus oldKey =>
    simp only [atomic] at ran
    split at ran <;> cases ran
    · exact .quiet rfl ⟨trivial, rfl⟩
    · rename_i called
      simp only [rekeyed] at called
      split at called
      · cases called
      · rename_i generated
        split at called <;> cases called
        rename_i rekeyed
        exact .rekeys generated (callProvider_eq_ok rekeyed)
  | lockStatus db =>
    simp only [atomic] at ran
    split at ran
    · cases ran
      exact .quiet rfl ⟨trivial, rfl⟩
    · split at ran <;> cases ran
      all_goals exact .quiet rfl ⟨trivial, rfl⟩
  | storeStatus request db =>
    simp only [atomic] at ran
    split at ran
    · cases ran
      exact .quiet rfl ⟨trivial, rfl⟩
    · cases ran
      exact .quiet rfl ⟨trivial, rfl⟩
    · split at ran <;> cases ran
      all_goals exact .quiet rfl ⟨trivial, rfl⟩
  | storeFind request db =>
    simp only [atomic] at ran
    split at ran
    · cases ran
      exact .quiet rfl ⟨trivial, rfl⟩
    · split at ran <;> cases ran
      · exact .quiet rfl ⟨trivial, rfl⟩
      · exact .quiet rfl (checkConflict_asserts _ _ _)
  | storeGet request db found =>
    simp only [atomic] at ran
    split at ran
    · cases ran
      exact .quiet rfl ⟨trivial, rfl⟩
    · cases ran
      exact .quiet rfl ⟨trivial, rfl⟩
    · split at ran <;> cases ran
      · exact .quiet rfl ⟨trivial, rfl⟩
      · exact .quiet rfl (checkConflict_asserts _ _ _)
  | storeEncrypt request db =>
    simp only [atomic] at ran
    split at ran <;> cases ran
    · exact .quiet rfl ⟨trivial, rfl⟩
    · exact .quiet rfl ⟨trivial, rfl⟩
    · rename_i encrypted
      exact .encrypts ⟨_, _, encrypted⟩
  | storeSave request db =>
    simp only [atomic] at ran
    split at ran <;> cases ran
    · exact .abandons
    · rename_i called
      exact .saves (callProvider_eq_ok called)
  | returned result => cases ran

/-- A call writes the status or the key only while the stored status is the
one it has read or written itself. -/
def StatusCurrent (server : Server) (config : Config Manager Thread)
    (thread : Thread) (_ : Choice) : Prop :=
  match thread with
  | .initSetStatus _ _ _ =>
    (getStatus server config.shared.database).toOption.map DbStatus.statusName ≠ some dbStatusInit
  | .initSetKey dbStatus _ | .rekeyLegacyVault _ _ dbStatus _
  | .unLockSetKey dbStatus _ =>
    getStatus server config.shared.database = .ok dbStatus
  | _ => True

instance (server : Server) (config : Config Manager Thread) (thread : Thread) (choice : Choice) :
    Decidable (StatusCurrent server config thread choice) := by
  unfold StatusCurrent
  split <;> infer_instance

/-- The vault as a server finds it when it starts: locked, and empty or
encrypted under one key. -/
structure AtRest (server : Server) (manager : Manager) : Prop where
  locked : manager.key = []
  unread : manager.readers = 0
  stored : manager.database.Blank ∨
    ∃ dbStatus key, EncryptedUnder server manager.database dbStatus key

structure Coherent (server : Server) (config : Config Manager Thread) :
    Prop where
  stored : config.shared.database.Blank ∨
    ∃ dbStatus key, EncryptedUnder server config.shared.database dbStatus key
  unlocked : config.shared.key ≠ [] → ∃ dbStatus,
    EncryptedUnder server config.shared.database dbStatus config.shared.key ∧
      Go.trimSpace dbStatus.kdf ≠ ""
  readers : config.shared.readers = config.threads.countP Thread.holdsKey
  asserts : ∀ thread ∈ config.threads, thread.Asserts server
  captured : ∀ request db, .storeSave request db ∈ config.threads →
    Sealed server.crypto config.shared.key request.value.value

theorem initial_coherent (start : AtRest server manager) : Coherent server (initial manager) := by
  refine ⟨start.stored, ?_, start.unread, ?_, ?_⟩
  · intro present
    exact absurd start.locked present
  · intro thread member
    cases member
  · intro request db member
    cases member

namespace Coherent

variable {config : Config Manager Thread} {index : Nat}
  {thread after : Thread}

section

variable (coherent : Coherent server config)

include coherent

variable {key : List UInt8}

/-- The database is encrypted under the key of any status that is read from it
and verified. -/
theorem encryptedUnder (laws : server.crypto.Laws) {dbStatus : DbStatus}
    {pass : String} {legacy : Bool} (read : getStatus server config.shared.database = .ok dbStatus)
    (derived : deriveKey server.crypto server.unicode dbStatus pass =
      .ok (key, legacy)) (verified : verify server.crypto dbStatus key = true) :
    EncryptedUnder server config.shared.database dbStatus key := by
  rcases coherent.stored with blank | ⟨stored, storedKey, encrypted⟩
  · rw [getStatus, blank.1] at read
    cases read
    exact absurd rfl (verify_iff.mp verified).1
  · have same : stored = dbStatus := by
      have status := encrypted.status
      rw [read] at status
      exact (Except.ok.inj status).symm
    subst same
    rw [encrypted.keyFor.key_eq laws derived verified]
    exact encrypted

theorem advance (found : config.threads[index]? = some thread)
    {manager : Manager} (stored : manager.database.Blank ∨
      ∃ dbStatus key, EncryptedUnder server manager.database dbStatus key)
    (unlocked : manager.key ≠ [] → ∃ dbStatus,
      EncryptedUnder server manager.database dbStatus manager.key ∧ Go.trimSpace dbStatus.kdf ≠ "")
    (readers : manager.readers + (if thread.holdsKey then 1 else 0) =
      config.shared.readers + (if after.holdsKey then 1 else 0))
    (asserts : after.Asserts server) (captured : ∀ request db,
      .storeSave request db ∈ config.threads ∨ .storeSave request db = after →
      Sealed server.crypto manager.key request.value.value) :
    Coherent server ⟨manager, config.threads.set index after⟩ := by
  refine ⟨stored, unlocked, ?_, ?_, ?_⟩
  · have count := Program.countP_set found after Thread.holdsKey
    have before := coherent.readers
    simp only
    omega
  · exact forall_mem_set coherent.asserts asserts
  · intro request db member
    exact captured request db (List.mem_or_eq_of_mem_set member)

theorem captured_or (idle : after.holdsKey = false) (request : Request)
    (db : Provider) (held : .storeSave request db ∈ config.threads ∨
      .storeSave request db = after) :
    Sealed server.crypto config.shared.key request.value.value := by
  rcases held with old | rfl
  · exact coherent.captured request db old
  · cases idle

theorem unlocked_of_captured {request : Request} {db : Provider}
    (member : .storeSave request db ∈ config.threads) :
    ∃ dbStatus, EncryptedUnder server config.shared.database dbStatus
      config.shared.key ∧ Go.trimSpace dbStatus.kdf ≠ "" := by
  apply coherent.unlocked
  intro empty
  have length := (coherent.captured request db member).length
  rw [empty] at length
  cases length

/-- The key a call is about to write is the one the database is encrypted
under, if the status is still the one the call knows. -/
theorem assigned (laws : server.crypto.Laws) (member : thread ∈ config.threads)
    {choice : Choice} (current : StatusCurrent server config thread choice)
    (assigned : thread.assigned = some key) (present : key ≠ []) :
    ∃ dbStatus, EncryptedUnder server config.shared.database dbStatus key ∧
      Go.trimSpace dbStatus.kdf ≠ "" := by
  have known : ∀ dbStatus, getStatus server config.shared.database = .ok dbStatus →
      CurrentKey server dbStatus key →
      ∃ dbStatus, EncryptedUnder server config.shared.database dbStatus key ∧
          Go.trimSpace dbStatus.kdf ≠ "" := by
    intro dbStatus read held
    obtain ⟨pass, derived⟩ := held.derived
    exact ⟨dbStatus, coherent.encryptedUnder laws read derived held.verified, held.current⟩
  have asserts := coherent.asserts thread member
  cases thread with
  | initSetKey dbStatus newKey =>
    cases assigned
    obtain ⟨_, keyFor, isCurrent⟩ := asserts
    exact known dbStatus current (keyFor.currentKey laws isCurrent)
  | unLockSetKey dbStatus newKey =>
    cases assigned
    exact known dbStatus current asserts
  | lockSetKey =>
    cases assigned
    exact absurd rfl present
  | _ => cases assigned

end

end Coherent

variable {config : Config Manager Thread}

theorem Stepped.coherent (laws : server.crypto.Laws) {index : Nat}
    (coherent : Coherent server config) (found : config.threads[index]? = some thread)
    (current : StatusCurrent server config thread choice)
    (stepped : Stepped server config.shared thread manager after) :
    Coherent server ⟨manager, config.threads.set index after⟩ := by
  have member : thread ∈ config.threads := List.mem_of_getElem? found
  have asserts := coherent.asserts thread member
  cases stepped with
  | moves carries before idle =>
    refine coherent.advance found coherent.stored coherent.unlocked ?_
      (carries asserts) (coherent.captured_or idle)
    rw [before, idle]
  | opens wrapped =>
    refine coherent.advance found ?_ ?_ rfl asserts (coherent.captured_or rfl)
    · rcases coherent.stored with blank | ⟨dbStatus, key, encrypted⟩
      · exact .inl (wrapExistingSecrets_blank blank wrapped)
      · exact .inr ⟨dbStatus, key, wrapExistingSecrets_encryptedUnder laws encrypted wrapped⟩
    · intro present
      obtain ⟨dbStatus, encrypted, isCurrent⟩ := coherent.unlocked present
      exact ⟨dbStatus, wrapExistingSecrets_encryptedUnder laws encrypted wrapped, isCurrent⟩
  | @setsStatus db dbStatus key nonce database set =>
    obtain ⟨initialised, keyFor, isCurrent⟩ := asserts
    -- the status is still not initialised, so there is nothing to lose
    have notEncrypted : ∀ stored storedKey, ¬ EncryptedUnder server config.shared.database stored
          storedKey := by
      intro stored storedKey encrypted
      apply current
      rw [encrypted.status, ← encrypted.initialised]
      rfl
    have empty : config.shared.database.values = [] := by
      rcases coherent.stored with blank | ⟨stored, storedKey, encrypted⟩
      · exact blank.2
      · exact absurd encrypted (notEncrypted stored storedKey)
    refine coherent.advance found ?_ ?_ rfl
      ⟨initialised, keyFor, isCurrent⟩ (coherent.captured_or rfl)
    · exact .inr ⟨dbStatus, key, setStatus_encryptedUnder laws empty initialised keyFor set⟩
    · intro present
      obtain ⟨stored, encrypted, _⟩ := coherent.unlocked present
      exact absurd encrypted (notEncrypted stored _)
  | @rekeys pass db dbStatus oldKey newKey salt verifier nonce nonces newKDF
      newEncCheck database generated rekeyed =>
      obtain ⟨derived, verified⟩ := asserts
      obtain ⟨present, legacy⟩ := deriveKey_eq_ok derived
      obtain ⟨keyFor, isCurrent⟩ : KeyFor server.crypto server.unicode
          { dbStatus with encCheckValue := newEncCheck, kdf := newKDF }
          newKey ∧ Go.trimSpace newKDF ≠ "" :=
        newStatusFor_keyFor present generated dbStatus.statusName
      have encrypted := coherent.encryptedUnder laws current derived verified
      refine coherent.advance found ?_ ?_ rfl
        (keyFor.currentKey laws isCurrent) (coherent.captured_or rfl)
      · exact .inr ⟨_, _, reKey_encryptedUnder laws encrypted keyFor rekeyed⟩
      · intro keyPresent
        obtain ⟨stored, unlocked, notBlank⟩ := coherent.unlocked keyPresent
        -- an unlocked vault is never a legacy one
        have same := encrypted.status.symm.trans unlocked.status
        cases same
        exact absurd (legacy.mp rfl) notBlank
  | setsKey assigned free =>
    have notHolding : thread.holdsKey = false := by
      cases thread <;> first | rfl | cases assigned
    refine coherent.advance found coherent.stored ?_ ?_ trivial ?_
    · exact coherent.assigned laws member current assigned
    · rw [notHolding]
      rfl
    · intro request db held
      rcases held with old | impossible
      · have none := coherent.readers.symm.trans free
        exact absurd rfl (List.countP_eq_zero.mp none _ old)
      · cases impossible
  | encrypts ciphertext =>
    refine coherent.advance found coherent.stored coherent.unlocked rfl
      trivial ?_
    intro request db held
    rcases held with old | same
    · exact coherent.captured request db old
    · cases same
      exact ciphertext
  | saves saved =>
    obtain ⟨dbStatus, encrypted, isCurrent⟩ := coherent.unlocked_of_captured member
    have after := save_encryptedUnder laws encrypted (coherent.captured _ _ member) saved
    have busy : 0 < config.shared.readers := by
      rw [coherent.readers]
      exact List.countP_pos_iff.mpr ⟨_, member, rfl⟩
    refine coherent.advance found (.inr ⟨dbStatus, _, after⟩)
      (fun _ => ⟨dbStatus, after, isCurrent⟩) ?_ trivial (coherent.captured_or rfl)
    exact Nat.sub_add_cancel busy
  | abandons =>
    have busy : 0 < config.shared.readers := by
      rw [coherent.readers]
      exact List.countP_pos_iff.mpr ⟨_, member, rfl⟩
    refine coherent.advance found coherent.stored coherent.unlocked ?_
      trivial (coherent.captured_or rfl)
    exact Nat.sub_add_cancel busy

theorem step_coherent (laws : server.crypto.Laws)
    {config next : Config Manager Thread} {move : Move Call Choice Empty}
    (coherent : Coherent server config) (admitted : OnAdvance (StatusCurrent server) config move)
    (stepped : (program server).system.step config move = some (next, shown)) :
    Coherent server next := by
  cases Program.step_cases stepped with
  | spawn call =>
    have fresh : (Thread.enter call).Asserts server ∧ (Thread.enter call).holdsKey = false := by
      cases call <;> exact ⟨trivial, rfl⟩
    refine ⟨coherent.stored, coherent.unlocked, ?_, ?_, ?_⟩
    · simp [program, coherent.readers, fresh.2]
    · exact forall_mem_concat coherent.asserts fresh.1
    · intro request db member
      rcases mem_or_eq_of_mem_concat member with old | same
      · exact coherent.captured request db old
      · have holds := fresh.2
        rw [← show Thread.storeSave request db = Thread.enter call from same] at holds
        cases holds
  | advance found ran =>
    exact (atomic_stepped ran).coherent laws coherent found (admitted.condition found)
  | @environment event => cases event

theorem run_coherent (laws : server.crypto.Laws) (start : AtRest server manager)
    {history : List Empty} (run : Run (program server).system (OnAdvance (StatusCurrent server))
      (initial manager) history config) :
    Coherent server config :=
  run.stateInvariant (Coherent server) (initial_coherent start) (fun coherent admitted stepped =>
      step_coherent laws coherent admitted stepped)

/-- An unlocked vault holds the one key its status verifies, and every value
decrypts under the key that the right passphrase gives. -/
structure KeyConsistent (server : Server) (manager : Manager) : Prop where
  unlocked : manager.isLocked = false → ∃ dbStatus,
    getStatus server manager.database = .ok dbStatus ∧
      verify server.crypto dbStatus manager.key = true ∧
      ∀ pass key legacy, deriveKey server.crypto server.unicode dbStatus pass = .ok (key, legacy) →
        verify server.crypto dbStatus key = true → key = manager.key
  decrypts : ∀ row ∈ manager.database.values, ∃ dbStatus,
    getStatus server manager.database = .ok dbStatus ∧ (∃ pass key legacy,
        deriveKey server.crypto server.unicode dbStatus pass = .ok (key, legacy) ∧
        verify server.crypto dbStatus key = true) ∧
      ∀ pass key legacy, deriveKey server.crypto server.unicode dbStatus pass = .ok (key, legacy) →
        verify server.crypto dbStatus key = true →
        ∃ text plaintext, unwrap server row.input.value = .ok text ∧
          aes256DecryptByKeyFromBase64String server.crypto text key = .ok plaintext

theorem Coherent.keyConsistent (laws : server.crypto.Laws) (coherent : Coherent server config) :
    KeyConsistent server config.shared := by
  refine ⟨?_, ?_⟩
  · intro isUnlocked
    have present : config.shared.key ≠ [] := by
      intro empty
      simp [Manager.isLocked, empty] at isUnlocked
    obtain ⟨dbStatus, encrypted, _⟩ := coherent.unlocked present
    exact ⟨dbStatus, encrypted.status, encrypted.keyFor.verifies laws, fun _ _ _ derived verified =>
        encrypted.keyFor.key_eq laws derived verified⟩
  · intro row member
    rcases coherent.stored with blank | ⟨dbStatus, key, encrypted⟩
    · rw [blank.2] at member
      cases member
    · obtain ⟨pass, legacy, derived⟩ := encrypted.keyFor.derived
      refine ⟨dbStatus, encrypted.status,
        ⟨pass, key, legacy, derived, encrypted.keyFor.verifies laws⟩, ?_⟩
      intro otherPass other otherLegacy otherDerived verified
      obtain rfl := encrypted.keyFor.key_eq laws otherDerived verified
      obtain ⟨text, unwrapped, ciphertext⟩ := encrypted.values row member
      obtain ⟨plaintext, decrypted⟩ := ciphertext.decrypts laws
      exact ⟨text, plaintext, unwrapped, decrypted⟩

/-- As long as calls write the status and the key only while the stored status
is the one they know, the vault is consistent in every state. -/
theorem vault_keyConsistent (laws : server.crypto.Laws) {manager : Manager}
    (start : AtRest server manager) {history : List Empty} {config : Config Manager Thread}
    (run : Run (program server).system (OnAdvance (StatusCurrent server))
      (initial manager) history config) :
    KeyConsistent server config.shared :=
  (run_coherent laws start run).keyConsistent laws

def plainCrypto : Crypto where
  gcmSeal := fun key _ plaintext => 0 :: key ++ plaintext
  gcmOpen := fun key _ ciphertext =>
    if (0 :: key).isPrefixOf ciphertext then
      some (ciphertext.drop (key.length + 1))
    else none
  sha256 := fun data => (data ++ List.replicate 32 0).take 32
  argon2id := fun password salt _ _ _ =>
    (salt ++ password ++ List.replicate 32 0).take 32

theorem plainCrypto_laws : plainCrypto.Laws where
  gcmOpen_gcmSeal := by
    intro key nonce plaintext
    have start : (0 :: key).isPrefixOf (0 :: key ++ plaintext) = true := by
      rw [ List.isPrefixOf_iff_prefix]
      exact List.prefix_append _ _
    have rest : (0 :: key ++ plaintext).drop (key.length + 1) = plaintext := by
      simp
    simp only [plainCrypto, start, if_true, rest]
  gcmOpen_other := by
    intro key other nonce plaintext size otherSize different
    have start : (0 :: other).isPrefixOf (0 :: key ++ plaintext) = false := by
      apply eq_false_of_ne_true
      intro isPrefix
      rw [ List.isPrefixOf_iff_prefix] at isPrefix
      have shorter := List.prefix_append (0 :: key) plaintext
      have equal := (List.prefix_of_prefix_length_le shorter isPrefix
        (by simp [size, otherSize])).eq_of_length (by simp [size, otherSize])
      exact different (List.cons.inj equal).2
    simp only [plainCrypto, start, Bool.false_eq_true, if_false]
  gcmSeal_ne_nil := by
    intro key nonce plaintext
    exact List.cons_ne_nil _ _
  sha256_length := by
    intro data
    simp [plainCrypto]
  argon2id_length := by
    intro password salt timeCost memKiB threads
    simp only [plainCrypto, List.length_take, List.length_append, List.length_replicate]
    omega

def plainServer : Server where
  crypto := plainCrypto
  unicode := Go.Unicode.ascii
  envelope := ⟨[]⟩

def emptyVault : Manager := ⟨⟨none, [], 0⟩, false, [], 0⟩

theorem emptyVault_atRest : AtRest plainServer emptyVault := ⟨rfl, rfl, .inl ⟨rfl, rfl⟩⟩

def draws (byte : UInt8) : Choice where
  failure := none
  salt := Vector.replicate _ byte
  verifier := Vector.replicate _ byte
  nonces := fun _ => Vector.replicate _ byte

def advances (index count : Nat) (byte : UInt8) : List (Move Call Choice Empty) :=
  List.replicate count (.advance index (draws byte))

def note : Request := ⟨0, ⟨"client", "", "name", "text", "text"⟩, []⟩

theorem vault_keyConsistent_inSequence :
    ∃ config history, Run (program plainServer).system
        (OnAdvance (StatusCurrent plainServer)) (initial emptyVault) history
        config ∧
      (config.shared.isLocked = false ∧ config.shared.database.values.length = 1) ∧
      KeyConsistent plainServer config.shared :=
  Run.exists_reaching_follows (List.flatten [[.spawn (.init "password-a")], advances 0 6 1,
      [.spawn .lock], advances 1 4 2, [.spawn (.unLock "password-a")], advances 2 4 3,
      [.spawn (.store note)], advances 3 7 4])
    (by decide +kernel) (by decide +kernel)
    fun run _ => vault_keyConsistent plainCrypto_laws emptyVault_atRest run

/-- The vault is open under a key that its status refuses, and its only value
cannot be decrypted with the key that the status accepts. -/
def underOtherKey (manager : Manager) : Bool :=
  match getStatus plainServer manager.database, manager.database.values with
  | .ok dbStatus, [row] =>
    match deriveKey plainServer.crypto plainServer.unicode dbStatus "password-b" with
    | .ok (key, false) =>
      !manager.isLocked &&
      !verify plainServer.crypto dbStatus manager.key &&
      verify plainServer.crypto dbStatus key &&
      decide (aes256DecryptByKeyFromBase64String plainServer.crypto row.input.value key =
          .error "cipher: message authentication failed")
    | _ => false
  | _, _ => false

/-- Both calls find the vault uninitialised.  The second one writes its status
over that of the first, the first one its key over that of the second, and a
value stored then cannot be decrypted with the passphrase that the status
accepts. -/
theorem vault_key_of_other_status :
    ∃ config history,
      Run (program plainServer).system Unrestricted (initial emptyVault) history config ∧
      config.shared.isLocked = false ∧
      ∃ dbStatus row key, getStatus plainServer config.shared.database = .ok dbStatus ∧
        verify plainServer.crypto dbStatus config.shared.key = false ∧
        config.shared.database.values = [row] ∧
        deriveKey plainServer.crypto plainServer.unicode dbStatus "password-b" = .ok (key, false) ∧
        verify plainServer.crypto dbStatus key = true ∧
        aes256DecryptByKeyFromBase64String plainServer.crypto row.input.value key =
            .error "cipher: message authentication failed" := by
  obtain ⟨config, history, run, outcome⟩ :=
    Run.exists_unrestricted (program plainServer).system (initial emptyVault)
      (List.flatten [[.spawn (.init "password-a"), .spawn (.init "password-b")],
        advances 0 4 1, advances 1 4 2, advances 0 1 1, advances 1 2 2,
        advances 0 1 1, [.spawn (.store note)], advances 2 7 3])
      (fun outcome => underOtherKey outcome.1.shared)
      (by decide +kernel)
  refine ⟨config, history, run, ?_⟩
  simp only [underOtherKey] at outcome
  split at outcome
  · rename_i dbStatus row read values
    split at outcome
    · rename_i key derived
      simp only [Bool.and_eq_true, Bool.not_eq_true', decide_eq_true_eq] at outcome
      obtain ⟨⟨⟨isUnlocked, other⟩, verified⟩, decrypted⟩ := outcome
      exact ⟨isUnlocked, dbStatus, row, key, read, other, values, derived, verified, decrypted⟩
    · cases outcome
  · cases outcome

end ProxiPort.Vault
