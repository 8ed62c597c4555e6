import ProxiPort.Foundation.Keyed
import ProxiPort.Foundation.Threads
import ProxiPort.Go.Time
import ProxiPort.Go.Unicode
import ProxiPort.Users.User

/-!
# Agent credentials in a file

`server/clientsauth/file.go` with the callers it has: the handlers of
`server/api_handler_clientsauth.go` and the agent login of
`server/client_listener.go`, which replaces a plaintext credential by its hash.
Every change reads the whole file, changes one entry and writes the whole file
back; nothing is locked.  Every file read, file write and cache access is a
section of its own.
-/

namespace ProxiPort.ClientsAuth

open Concurrency

structure ClientAuth where
  id : String
  password : String
  deriving DecidableEq, Repr

abbrev Pairs := List ClientAuth

structure Item where
  clientAuth : ClientAuth
  expiration : Time
  deriving DecidableEq, Repr

/-- The cache key is the id with a fixed text before it. -/
def Item.key (item : Item) : String := item.clientAuth.id

/-- The file, which may have been left unreadable by a failed write, and the
cache in front of it. -/
structure FileProvider where
  clock : Time
  file : Option Pairs
  cache : List Item

/-- The settings of the server and `bcrypt.CompareHashAndPassword`. -/
structure Settings where
  fileName : String
  authWrite : Bool
  unicode : Go.Unicode
  compareHashAndPassword : String → String → Bool

def validateStorableCredential (clientAuth : ClientAuth) : Except String Unit :=
  if clientAuth.id = "" then
    .error "refusing to store a client auth credential with an empty id"
  else if clientAuth.password = "" then
    .error "refusing to store a client auth credential with an empty password"
  else .ok ()

def bcryptPrefixes : List String := ["$2a$", "$2b$", "$2y$"]

def isHashed (stored : String) : Bool :=
  bcryptPrefixes.any fun start => start.toList.isPrefixOf stored.toList

def hashPassword (generated : Except String String) (password : String) : Except String String :=
  if password = "" then .error "refusing to hash an empty credential"
  else if isHashed password then .ok password
  else generated

def verifyPassword (settings : Settings) (stored provided : String) : Bool :=
  if stored = "" || provided = "" then false
  else if isHashed stored then settings.compareHashAndPassword stored provided
  else stored = provided

namespace FileProvider

def cacheGet (provider : FileProvider) (id : String) : Option ClientAuth :=
  ((Keyed.lookup Item.key id provider.cache).filter
    fun item => provider.clock ≤ item.expiration).map Item.clientAuth

/-- `cache.Add` for an hour, after it has found no live item. -/
def cacheAdd (provider : FileProvider) (clientAuth : ClientAuth) :
    FileProvider :=
  let item := ⟨clientAuth, provider.clock + 3600 * second⟩
  { provider with cache := Keyed.put Item.key item provider.cache }

def uncache (provider : FileProvider) (id : String) : FileProvider :=
  { provider with cache := Keyed.remove Item.key id provider.cache }

def store (provider : FileProvider) (pairs : Option Pairs) : FileProvider :=
  { provider with file := pairs }

def load (settings : Settings) (provider : FileProvider)
    (read : Except String Unit) : Except String Pairs :=
  match read, provider.file with
  | .error err, _ => .error ("failed to read proxiport clients auth file " ++
      Go.quote settings.unicode settings.fileName ++ ": " ++ err)
  | .ok (), none => .error "unexpected end of JSON input"
  | .ok (), some pairs => .ok pairs

end FileProvider

def decodeFailure (err : String) : String := "failed to decode proxiport clients auth file: " ++ err

def encodeFailure (err : String) : String := "failed to encode proxiport clients auth file: " ++ err

/-- How a write of the file ends.  Opening the file truncates it, so a write
that fails after that leaves nothing to decode. -/
inductive Written where
  | complete
  | notOpened (err : String)
  | truncated (err : String)
  deriving DecidableEq, Repr

/-- `save`: the file afterwards and the error. -/
def save (file : Option Pairs) (pairs : Pairs) : Written → Option Pairs × Except String Unit
  | .complete => (some pairs, .ok ())
  | .notOpened err => (file, .error ("failed to open proxiport clients auth file: " ++ err))
  | .truncated err => (none, .error ("failed to write proxiport clients auth: " ++ err))

inductive Call where
  | handleGetClientAuth (clientAuthID : String)
  | handlePostClientsAuth (newClient : ClientAuth)
  | handleDeleteClientAuth (clientAuthID forceStr : String)
  | authUser (clientAuthID password : String)

inductive Caller where
  | handleGetClientAuth
  | handleDeleteClientAuth (force : Bool)
  | authUser (password : String)
  deriving DecidableEq, Repr

inductive Result where
  | found (id : String)
  | created
  | deleted
  | authenticated (logged : Option String)
  | refused (err : String)
  | failed (error : APIError)
  deriving DecidableEq, Repr

inductive Thread where
  | handlePostClientsAuth (newClient : ClientAuth)
  | handleDeleteClientAuth (clientAuthID forceStr : String)
  | authUser (clientAuthID password : String)
  | get (id : String) (caller : Caller)
  | getLoad (id : String) (caller : Caller)
  | getCache (clientAuth : ClientAuth) (caller : Caller)
  | boundClients (clientAuthID : String) (force : Bool)
  | maybeUpgradeClientAuthHash (clientAuth : ClientAuth)
  | add (clientAuth : ClientAuth)
  | addSave (clientAuth : ClientAuth) (pairs : Pairs)
  | update (clientAuth : ClientAuth)
  | updateUncache (clientAuth : ClientAuth) (pairs : Pairs)
  | updateSave (clientAuth : ClientAuth) (pairs : Pairs)
  | delete (id : String)
  | deleteUncache (id : String) (pairs : Pairs)
  | deleteSave (id : String) (pairs : Pairs)
  | returned (result : Result)
  deriving DecidableEq, Repr

/-- What a section does not decide itself: the ban list, the salted hash, the
number of clients bound to a credential, and the outcome of file accesses. -/
inductive Choice where
  | proceed
  | banned (banned : Bool)
  | generated (hash : Except String String)
  | clients (deletions : List (Except String Unit))
  | read (outcome : Except String Unit)
  | write (outcome : Written)

/-- Time passes, and the cache drops expired items. -/
inductive Event where
  | tick (now : Time)
  | janitor

inductive Output where
  | got (id : String) (password : Option String)
  | added (id password : String)
  | updated (id password : String)
  | deleted (id : String)
  deriving DecidableEq, Repr

def serverError (err : String) : Result := .failed ⟨"", err, 500⟩

def minCredentialsLength : Nat := 3

def allowClientAuthWrite (settings : Settings) : Option APIError :=
  if settings.authWrite then none
  else some ⟨"Client authentication has been attached in read-only mode.", "", 405⟩

/-- `handlePostClientsAuth` up to the provider. -/
def postClientsAuth (settings : Settings) (newClient : ClientAuth)
    (generated : Except String String) : Thread :=
  match allowClientAuthWrite settings with
  | some error => .returned (.failed error)
  | none =>
    if newClient.id.utf8ByteSize < minCredentialsLength then
      .returned (.failed ⟨"Invalid or missing ID.", "Min size is 3.", 400⟩)
    else if newClient.password.utf8ByteSize < minCredentialsLength then
      .returned (.failed ⟨"Invalid or missing password.", "Min size is 3.", 400⟩)
    else
      match hashPassword generated newClient.password with
      | .error err => .returned (serverError err)
      | .ok hashed =>
        let newClient := { newClient with password := hashed }
        match validateStorableCredential newClient with
        | .error err => .returned (serverError err)
        | .ok () => .add newClient

/-- `handleDeleteClientAuth` up to its `Get`. -/
def deleteClientAuth (settings : Settings) (clientAuthID forceStr : String) : Thread :=
  match allowClientAuthWrite settings with
  | some error => .returned (.failed error)
  | none =>
    if clientAuthID = "" then
      .returned (.failed ⟨"Missing 'client_auth_id' route param.", "", 400⟩)
    else if forceStr = "" then
      .get clientAuthID (.handleDeleteClientAuth false)
    else
      match Go.parseBool forceStr with
      | none => .returned (.failed ⟨"Invalid force param " ++ forceStr ++ ".", "", 400⟩)
      | some force => .get clientAuthID (.handleDeleteClientAuth force)

/-- The rest of `handleDeleteClientAuth` before its `Delete`: one outcome of
`ForceDelete` for each client that is bound to the credential. -/
def deleteBoundClients (clientAuthID : String) (force : Bool)
    (deletions : List (Except String Unit)) : Thread :=
  if force = false ∧ 0 < deletions.length then
    .returned (.failed ⟨"Client Auth expected to have no active or " ++
      "disconnected bound client(s), got " ++ toString deletions.length ++
      ".", "", 409⟩)
  else
    match deletions.findSome? fun deletion =>
      match deletion with
      | .error err => some err
      | .ok () => none with
    | some err => .returned (serverError err)
    | none => .delete clientAuthID

def getFailed (caller : Caller) (err : String) : Thread :=
  match caller with
  | .authUser _ => .returned (.refused err)
  | _ => .returned (serverError err)

/-- Where the caller of `Get` goes on with its result.  `authUser` ends with
the check of `maybeUpgradeClientAuthHash`. -/
def afterGet (settings : Settings) (id : String) (found : Option ClientAuth) : Caller → Thread
  | .handleGetClientAuth =>
    match found with
    | none => .returned (.failed ⟨"Client Auth with ID " ++ Go.quote settings.unicode id ++
          " not found", "", 404⟩)
    | some clientAuth => .returned (.found clientAuth.id)
  | .handleDeleteClientAuth force =>
    match found with
    | none => .returned (.failed ⟨"Client Auth with ID=" ++ Go.quote settings.unicode id ++
          " not found.", "", 404⟩)
    | some _ => .boundClients id force
  | .authUser password =>
    let invalid : Thread := .returned
      (.refused ("invalid authentication for client auth id: " ++ id))
    if password = "" then invalid
    else
      match found with
      | none => invalid
      | some clientAuth =>
        if verifyPassword settings clientAuth.password password = false then
          invalid
        else if clientAuth.password = "" ∨ isHashed clientAuth.password = true then
          .returned (.authenticated none)
        else .maybeUpgradeClientAuthHash { clientAuth with id := id }

/-- `maybeUpgradeClientAuthHash` up to its `Update`; errors are logged. -/
def upgradeHash (clientAuth : ClientAuth) (generated : Except String String) : Thread :=
  match hashPassword generated clientAuth.password with
  | .error err => .returned (.authenticated (some err))
  | .ok hashed =>
    let clientAuth := { clientAuth with password := hashed }
    match validateStorableCredential clientAuth with
    | .error err => .returned (.authenticated (some err))
    | .ok () => .update clientAuth

def FileProvider.finish (provider : FileProvider) (pairs : Pairs)
    (outcome : Written) (output : Output) (done : Result)
    (failed : String → Result) : FileProvider × Thread × List Output :=
  match save provider.file pairs outcome with
  | (file, .ok ()) => (provider.store file, .returned done, [output])
  | (file, .error err) =>
    (provider.store file, .returned (failed (encodeFailure err)), [])

namespace Thread

def enter : Call → Thread
  | .handleGetClientAuth clientAuthID =>
    .get clientAuthID .handleGetClientAuth
  | .handlePostClientsAuth newClient => .handlePostClientsAuth newClient
  | .handleDeleteClientAuth clientAuthID forceStr =>
    .handleDeleteClientAuth clientAuthID forceStr
  | .authUser clientAuthID password => .authUser clientAuthID password

end Thread

def atomic (settings : Settings) (provider : FileProvider) :
    Thread → Choice → Option (FileProvider × Thread × List Output)
  | .handlePostClientsAuth newClient, .generated hash =>
    some (provider, postClientsAuth settings newClient hash, [])
  | .handleDeleteClientAuth clientAuthID forceStr, .proceed =>
    some (provider, deleteClientAuth settings clientAuthID forceStr, [])
  | .authUser clientAuthID password, .banned banned =>
    if banned then
      some (provider, .returned (.refused "too many requests, please try later"), [])
    else some (provider, .get clientAuthID (.authUser password), [])
  | .get id caller, .proceed =>
    match provider.cacheGet id with
    | some clientAuth =>
      some (provider, afterGet settings id (some clientAuth) caller,
        [.got id (some clientAuth.password)])
    | none => some (provider, .getLoad id caller, [])
  | .getLoad id caller, .read outcome =>
    match provider.load settings outcome with
    | .error err =>
      some (provider, getFailed caller (decodeFailure err), [])
    | .ok pairs =>
      match Keyed.lookup ClientAuth.id id pairs with
      | none => some (provider, afterGet settings id none caller, [.got id none])
      | some clientAuth => some (provider, .getCache clientAuth caller, [])
  | .getCache clientAuth caller, .proceed =>
    match provider.cacheGet clientAuth.id with
    | some _ => some (provider, getFailed caller
        ("Item client-auth-" ++ clientAuth.id ++ " already exists"), [])
    | none => some (provider.cacheAdd clientAuth,
        afterGet settings clientAuth.id (some clientAuth) caller,
        [.got clientAuth.id (some clientAuth.password)])
  | .boundClients clientAuthID force, .clients deletions =>
    some (provider, deleteBoundClients clientAuthID force deletions, [])
  | .maybeUpgradeClientAuthHash clientAuth, .generated hash =>
    some (provider, upgradeHash clientAuth hash, [])
  | .add clientAuth, .read outcome =>
    match provider.load settings outcome with
    | .error err =>
      some (provider, .returned (serverError (decodeFailure err)), [])
    | .ok pairs =>
      match Keyed.lookup ClientAuth.id clientAuth.id pairs with
      | some _ => some (provider, .returned (.failed ⟨"Client Auth with ID " ++
            Go.quote settings.unicode clientAuth.id ++
            " already exist.", "", 409⟩), [])
      | none => some (provider, .addSave clientAuth (Keyed.put ClientAuth.id clientAuth pairs), [])
  | .addSave clientAuth pairs, .write outcome =>
    some (provider.finish pairs outcome
      (.added clientAuth.id clientAuth.password) .created serverError)
  | .update clientAuth, .read outcome =>
    match provider.load settings outcome with
    | .error err => some (provider, .returned (.authenticated (some (decodeFailure err))), [])
    | .ok pairs =>
      match Keyed.lookup ClientAuth.id clientAuth.id pairs with
      | none => some (provider, .returned (.authenticated (some ("client auth with ID " ++
            Go.quote settings.unicode clientAuth.id ++
            " not found"))), [])
      | some _ => some (provider, .updateUncache clientAuth
          (Keyed.put ClientAuth.id clientAuth pairs), [])
  | .updateUncache clientAuth pairs, .proceed =>
    some (provider.uncache clientAuth.id, .updateSave clientAuth pairs, [])
  | .updateSave clientAuth pairs, .write outcome =>
    some (provider.finish pairs outcome
      (.updated clientAuth.id clientAuth.password) (.authenticated none)
      fun err => .authenticated (some err))
  | .delete id, .read outcome =>
    match provider.load settings outcome with
    | .error err =>
      some (provider, .returned (serverError (decodeFailure err)), [])
    | .ok pairs => some (provider, .deleteUncache id (Keyed.remove ClientAuth.id id pairs), [])
  | .deleteUncache id pairs, .proceed =>
    some (provider.uncache id, .deleteSave id pairs, [])
  | .deleteSave id pairs, .write outcome =>
    some (provider.finish pairs outcome (.deleted id) .deleted serverError)
  | _, _ => none

def environment (provider : FileProvider) : Event → Option (FileProvider × List Output)
  | .tick now =>
    if provider.clock ≤ now then some ({ provider with clock := now }, [])
    else none
  | .janitor => some ({ provider with cache := provider.cache.filter fun item =>
          provider.clock ≤ item.expiration }, [])

def program (settings : Settings) : Program FileProvider Thread Call Choice Event Output where
  enter := Thread.enter
  atomic := atomic settings
  environment := environment

def initial (clock : Time) (pairs : Pairs) : Config FileProvider Thread :=
  { shared :=
      { clock := clock
        file := some pairs
        cache := [] }
    threads := [] }

end ProxiPort.ClientsAuth
