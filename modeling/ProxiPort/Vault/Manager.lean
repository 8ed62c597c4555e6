import ProxiPort.Foundation.Outcome
import ProxiPort.Foundation.Threads
import ProxiPort.Vault.Pass

/-!
# The vault

`server/vault/manager.go` over `server/vault/sqlite.go` and
`server/vault/dbProvider.go`.  The key of the vault is held in memory under a
read-write lock, the status and the values are rows of a database; nothing
covers both.  Every database call and every critical section of the two locks
is a section of its own.  Dates, users and the row id of the status are left
out.
-/

namespace ProxiPort.Vault

open Concurrency Enc

structure InputValue where
  clientID : String
  requiredGroup : String
  key : String
  value : String
  type : String
  deriving DecidableEq, Repr

structure StoredValue where
  id : Int
  input : InputValue
  deriving DecidableEq, Repr

/-- The vault database; ids are given out in ascending order. -/
structure Database where
  status : Option DbStatus
  values : List StoredValue
  sequence : Nat
  deriving DecidableEq, Repr

structure Server where
  crypto : Crypto
  unicode : Go.Unicode
  envelope : Envelope

section SqliteProvider

variable (server : Server)

def wrap (nonce : Nonce) (text : String) : Except String String :=
  if text = "" then .ok ""
  else server.envelope.encrypt server.crypto nonce text

def unwrap (text : String) : Except String String := server.envelope.decrypt server.crypto text

def getStatus (database : Database) : Except String DbStatus :=
  match database.status with
  | none => .ok ⟨"", "", ""⟩
  | some row => do
    let encCheckValue ← unwrap server row.encCheckValue
    return { row with encCheckValue := encCheckValue }

def setStatus (nonce : Nonce) (newStatus : DbStatus) (database : Database) :
    Except String Database := do
  let encCheck ← wrap server nonce newStatus.encCheckValue
  return { database with
    status := some { newStatus with encCheckValue := encCheck } }

def readValue (row : Option StoredValue) : Except String (Option StoredValue) :=
  match row with
  | none => .ok none
  | some row => do
    let value ← unwrap server row.input.value
    return some { row with input := { row.input with value := value } }

def getByID (id : Int) (database : Database) : Except String (Option StoredValue) :=
  readValue server (database.values.find? fun row => row.id = id)

def findByKeyAndClientID (key clientID : String) (database : Database) :
    Except String (Option StoredValue) :=
  readValue server (database.values.find? fun row =>
    row.input.key = key && row.input.clientID = clientID)

/-- `Save`, under the unique index on client and key. -/
def save (nonce : Nonce) (idToUpdate : Int) (val : InputValue)
    (database : Database) : Except String (Int × Database) := do
  let storedValue ← wrap server nonce val.value
  let stored := { val with value := storedValue }
  let taken := database.values.any fun row =>
    row.input.clientID = val.clientID && row.input.key = val.key && row.id ≠ idToUpdate
  if idToUpdate = 0 then
    if taken then
      throw "UNIQUE constraint failed: values.client_id, values.key"
    let id := database.sequence + 1
    return (id, { database with
      values := database.values ++ [⟨id, stored⟩], sequence := id })
  if taken && database.values.any (fun row => row.id = idToUpdate) then
    throw "UNIQUE constraint failed: values.client_id, values.key"
  return (idToUpdate, { database with
    values := database.values.map fun row =>
      if row.id = idToUpdate then { row with input := stored } else row })

/-- The migration of one column value to the envelope. -/
def wrapExisting (nonce : Nonce) (text : String) : Except String String :=
  if text = "" ∨ isEncrypted text = true then .ok text
  else server.envelope.encrypt server.crypto nonce text

def wrapExistingValue (nonce : Nonce) (row : StoredValue) : Except String StoredValue := do
  let value ← wrapExisting server nonce row.input.value
  return { row with input := { row.input with value := value } }

def wrapExistingSecrets (nonces : Nat → Nonce) (database : Database) : Except String Database :=
  if server.envelope.enabled then do
    let values ← Outcome.traverse
      (fun index => wrapExistingValue server (nonces index)) 1 database.values
    match database.status with
    | none => return { database with values := values }
    | some row =>
      let encCheck ← wrapExisting server (nonces 0) row.encCheckValue
      return { database with
        status := some { row with encCheckValue := encCheck }
        values := values }
  else .ok database

/-- The `transform` of `rekeyLegacyVault`. -/
def transform (oldKey newKey : List UInt8) (nonce : Nonce)
    (oldValue : String) : Except String String :=
  if oldValue = "" then .ok ""
  else
    match aes256DecryptByKeyFromBase64String server.crypto oldValue oldKey with
    | .error err =>
      .error ("re-key: failed to decrypt a stored value: " ++ err)
    | .ok plain =>
      aes256EncryptByKeyToBase64String server.crypto nonce plain newKey

def reKeyValue (oldKey newKey : List UInt8) (first second : Nonce)
    (row : StoredValue) : Except String StoredValue := do
  let oldValue ← unwrap server row.input.value
  let newValue ← transform server oldKey newKey first oldValue
  let storedValue ← wrap server second newValue
  return { row with input := { row.input with value := storedValue } }

def reKey (oldKey newKey : List UInt8) (nonces : Nat → Nonce)
    (newKDF newEncCheck : String) (database : Database) :
    Except String Database := do
  let values ← Outcome.traverse (fun index => reKeyValue server oldKey newKey
    (nonces (2 * index)) (nonces (2 * index + 1))) 1 database.values
  let wrappedEncCheck ← wrap server (nonces 0) newEncCheck
  match database.status with
  | none => throw "re-key: vault status row is missing"
  | some row => return { database with
      status := some
        { row with encCheckValue := wrappedEncCheck, kdf := newKDF }
      values := values }

end SqliteProvider

inductive Provider where
  | notInit
  | sqlite
  deriving DecidableEq, Repr

/-- The database, whether `dbFactory.Init` has opened it, the key in memory
and the number of calls that hold the lock on it for reading. -/
structure Manager where
  database : Database
  opened : Bool
  key : List UInt8
  readers : Nat
  deriving DecidableEq, Repr

inductive Err where
  | api (error : APIError)
  | apis (errors : List APIError)
  | plain (text : String)
  deriving DecidableEq, Repr

def errDatabaseNotInitialised : Err := .api ⟨"", "vault is not initialized yet", 409⟩

def wrongPasswordError : Err := .api ⟨"wrong password provided", "", 401⟩

def conflict (message : String) : Err := .api ⟨message, "", 409⟩

structure Request where
  existingID : Int
  value : InputValue
  groups : List String
  deriving DecidableEq, Repr

inductive Call where
  | init (pass : String)
  | unLock (pass : String)
  | lock
  | store (request : Request)

inductive Result where
  | done
  | stored (id : Int)
  | failed (err : Err)
  deriving DecidableEq, Repr

inductive Thread where
  | init (pass : String)
  | initStatus (pass : String) (db : Provider)
  | initOpen (pass : String)
  | initGenerate (pass : String)
  | initSetStatus (db : Provider) (dbStatus : DbStatus) (key : List UInt8)
  | initSetKey (dbStatus : DbStatus) (key : List UInt8)
  | unLock (pass : String)
  | unLockProvider (pass : String)
  | unLockStatus (pass : String) (db : Provider)
  | rekeyLegacyVault (pass : String) (db : Provider) (dbStatus : DbStatus) (oldKey : List UInt8)
  | unLockSetKey (dbStatus : DbStatus) (key : List UInt8)
  | lock
  | lockProvider
  | lockStatus (db : Provider)
  | lockSetKey
  | store (request : Request)
  | storeProvider (request : Request)
  | storeStatus (request : Request) (db : Provider)
  | storeFindProvider (request : Request)
  | storeFind (request : Request) (db : Provider)
  | storeGet (request : Request) (db : Provider) (found : Option StoredValue)
  | storeEncrypt (request : Request) (db : Provider)
  | storeSave (request : Request) (db : Provider)
  | returned (result : Result)
  deriving DecidableEq, Repr

/-- What a section does not decide itself: a failure of the database or of the
random source, and the random bytes it draws. -/
structure Choice where
  failure : Option String
  salt : Vector UInt8 argon2SaltLen
  verifier : Vector UInt8 32
  nonces : Nat → Nonce

namespace Manager

def isLocked (manager : Manager) : Bool := manager.key.isEmpty

def getDbProvider (manager : Manager) : Provider :=
  if manager.opened then .sqlite else .notInit

end Manager

/-- A call of the provider, which can fail for reasons of its own. -/
def callProvider {Value : Type} (db : Provider) (choice : Choice)
    (outcome : Except String Value) : Except Err Value :=
  match db, choice.failure, outcome with
  | .notInit, _, _ => .error errDatabaseNotInitialised
  | .sqlite, some err, _ => .error (.plain err)
  | .sqlite, none, .error err => .error (.plain err)
  | .sqlite, none, .ok value => .ok value

/-- `isDatabaseInitialized` after `GetDbProvider`. -/
def isDatabaseInitialized (server : Server) (database : Database)
    (db : Provider) (choice : Choice) : Except Err Bool :=
  match callProvider db choice (getStatus server database) with
  | .error err =>
    if err = errDatabaseNotInitialised then .ok false else .error err
  | .ok dbStatus => .ok (dbStatus.statusName = dbStatusInit)

def validate (value : InputValue) : List APIError :=
  (if value.key = "" then [⟨"key is required", "", 400⟩] else []) ++
  (if value.value = "" then [⟨"value is required", "", 400⟩] else []) ++
  (if value.type = "" then [⟨"value type is required", "", 400⟩]
  else if value.type ∈ ["text", "secret", "markdown", "string"] then []
  else [⟨"unknown or invalid value value type " ++ value.type, "", 400⟩])

/-- `checkGroupAccess` for a value that was found. -/
def checkGroupAccess (value : StoredValue) (groups : List String) : Option APIError :=
  if value.input.requiredGroup = "" ∨ value.input.requiredGroup ∈ groups then
    none
  else some ⟨"your group doesn't allow access to this value", "", 403⟩

def failed (err : Err) : Thread := .returned (.failed err)

/-- `UnLock` between its `GetStatus` and the next section. -/
def checkPass (server : Server) (pass : String) (db : Provider) (dbStatus : DbStatus) : Thread :=
  if dbStatus.statusName = "" ∨ dbStatus.statusName = dbStatusNotInit then
    failed (conflict "vault is not yet initialized")
  else
    match deriveKey server.crypto server.unicode dbStatus pass with
    | .error err => failed (.plain err)
    | .ok (key, legacy) =>
      if verify server.crypto dbStatus key then
        if legacy then .rekeyLegacyVault pass db dbStatus key
        else .unLockSetKey dbStatus key
      else failed wrongPasswordError

/-- `Store` after its look-ups. -/
def checkConflict (request : Request) (db : Provider) (found : Option StoredValue) : Thread :=
  match found with
  | none => .storeEncrypt request db
  | some storedValue =>
    if request.existingID = 0 ∨ storedValue.id ≠ request.existingID then
      failed (conflict ("another key '" ++ request.value.key ++
        "' exists for this client '" ++ request.value.clientID ++ "'"))
    else .storeEncrypt request db

/-- `rekeyLegacyVault`: the new status, the new key and the new database. -/
def rekeyed (server : Server) (pass : String) (db : Provider)
    (dbStatus : DbStatus) (oldKey : List UInt8) (choice : Choice) (database : Database) :
    Except Err (DbStatus × List UInt8 × Database) :=
  match newStatusFor server.crypto pass choice.salt choice.verifier (choice.nonces 0) with
  | .error err => .error (.plain err)
  | .ok (newKDF, newEncCheck, newKey) =>
    match callProvider db choice (reKey server oldKey newKey
        (fun index => choice.nonces (index + 1)) newKDF newEncCheck database) with
    | .error err => .error err
    | .ok database => .ok ({ dbStatus with encCheckValue := newEncCheck, kdf := newKDF },
          newKey, database)

namespace Thread

def enter : Call → Thread
  | .init pass => .init pass
  | .unLock pass => .unLock pass
  | .lock => .lock
  | .store request => .store request

end Thread

/-- One section.  A section that takes the lock for writing waits for the
calls that hold it for reading. -/
def atomic (server : Server) (manager : Manager) (thread : Thread)
    (choice : Choice) : Option (Manager × Thread × List Empty) :=
  let next (after : Thread) : Option (Manager × Thread × List Empty) := some (manager, after, [])
  match thread with
  | .init pass =>
    match validatePass pass with
    | .error error => next (failed (.api error))
    | .ok () => next (.initStatus pass manager.getDbProvider)
  | .initStatus pass db =>
    match isDatabaseInitialized server manager.database db choice with
    | .error err => next (failed err)
    | .ok true => next (failed (conflict "vault is already initialized"))
    | .ok false => next (.initOpen pass)
  | .initOpen pass =>
    match callProvider .sqlite choice
        (wrapExistingSecrets server choice.nonces manager.database) with
    | .error err => next (failed err)
    | .ok database => some ({ manager with
        database := database, opened := true }, .initGenerate pass, [])
  | .initGenerate pass =>
    match choice.failure, newStatusFor server.crypto pass choice.salt
        choice.verifier (choice.nonces 0) with
    | some err, _ => next (failed (.plain err))
    | none, .error err => next (failed (.plain err))
    | none, .ok (kdf, encCheck, key) => next (.initSetStatus
        manager.getDbProvider ⟨dbStatusInit, encCheck, kdf⟩ key)
  | .initSetStatus db dbStatus key =>
    match callProvider db choice (setStatus server (choice.nonces 0) dbStatus manager.database) with
    | .error err => next (failed err)
    | .ok database => some ({ manager with database := database }, .initSetKey dbStatus key, [])
  | .initSetKey _ key =>
    if manager.readers = 0 then
      some ({ manager with key := key }, .returned .done, [])
    else none
  | .unLock pass =>
    if manager.isLocked then next (.unLockProvider pass)
    else next (failed (conflict "vault is already unlocked"))
  | .unLockProvider pass => next (.unLockStatus pass manager.getDbProvider)
  | .unLockStatus pass db =>
    match callProvider db choice (getStatus server manager.database) with
    | .error err => next (failed err)
    | .ok dbStatus => next (checkPass server pass db dbStatus)
  | .rekeyLegacyVault pass db dbStatus oldKey =>
    match rekeyed server pass db dbStatus oldKey choice manager.database with
    | .error err => next (failed err)
    | .ok (newStatus, newKey, database) =>
      some ({ manager with database := database }, .unLockSetKey newStatus newKey, [])
  | .unLockSetKey _ key =>
    if manager.readers = 0 then
      some ({ manager with key := key }, .returned .done, [])
    else none
  | .lock =>
    if manager.isLocked then
      next (failed (conflict "vault is already locked"))
    else next .lockProvider
  | .lockProvider => next (.lockStatus manager.getDbProvider)
  | .lockStatus db =>
    match callProvider db choice (getStatus server manager.database) with
    | .error err => next (failed err)
    | .ok dbStatus =>
      if dbStatus.statusName = "" ∨ dbStatus.statusName = dbStatusNotInit then
        next (failed (conflict "vault is not yet initialized"))
      else next .lockSetKey
  | .lockSetKey =>
    if manager.readers = 0 then
      some ({ manager with key := [] }, .returned .done, [])
    else none
  | .store request =>
    if manager.isLocked then next (failed (conflict "vault is locked"))
    else next (.storeProvider request)
  | .storeProvider request =>
    next (.storeStatus request manager.getDbProvider)
  | .storeStatus request db =>
    match isDatabaseInitialized server manager.database db choice with
    | .error err => next (failed err)
    | .ok false => next (failed (conflict "vault is not initialized"))
    | .ok true =>
      match validate request.value with
      | [] => next (.storeFindProvider request)
      | errors => next (failed (.apis errors))
  | .storeFindProvider request =>
    next (.storeFind request manager.getDbProvider)
  | .storeFind request db =>
    match callProvider db choice (findByKeyAndClientID server
        request.value.key request.value.clientID manager.database) with
    | .error err => next (failed err)
    | .ok found =>
      if request.existingID > 0 then next (.storeGet request db found)
      else next (checkConflict request db found)
  | .storeGet request db found =>
    match callProvider db choice (getByID server request.existingID manager.database) with
    | .error err => next (failed err)
    | .ok none => next (failed (.api ⟨"cannot find entry by the provided existingID", "", 404⟩))
    | .ok (some value) =>
      match checkGroupAccess value request.groups with
      | some error => next (failed (.api error))
      | none => next (checkConflict request db found)
  | .storeEncrypt request db =>
    match choice.failure, aes256EncryptByKeyToBase64String server.crypto
        (choice.nonces 0) (Go.bytes request.value.value) manager.key with
    | some err, _ => next (failed (.plain err))
    | none, .error err => next (failed (.plain err))
    | none, .ok encValue =>
      some ({ manager with readers := manager.readers + 1 }, .storeSave { request with
          value := { request.value with value := encValue } } db, [])
  | .storeSave request db =>
    let released := { manager with readers := manager.readers - 1 }
    match callProvider db choice (save server (choice.nonces 0)
        request.existingID request.value manager.database) with
    | .error err => some (released, failed err, [])
    | .ok (id, database) => some ({ released with database := database },
        .returned (.stored id), [])
  | .returned _ => none

def program (server : Server) : Program Manager Thread Call Choice Empty Empty where
  enter := Thread.enter
  atomic := atomic server
  environment := fun _ event => nomatch event

def initial (manager : Manager) : Config Manager Thread := ⟨manager, []⟩

end ProxiPort.Vault
