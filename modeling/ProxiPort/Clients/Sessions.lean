import Mathlib.Data.Finset.Insert
import Mathlib.Logic.Function.Basic
import ProxiPort.Clients.StartClient

/-!
# Sessions of clients

The activities that share the client objects of the repository, cut at every
access to such an object, to the map of the repository and to the store:
`handleWebsocket` of `server/client_listener.go` with `StartClient` and the
teardown at its end, the pings of `server/client_status_check.go`, the
heartbeats of agents, `ForceDelete`, and the operations that end in a `Save`.
-/

namespace ProxiPort.Clients

open Concurrency Ports Keyed

deriving instance Inhabited for Description
deriving instance Inhabited for Client

/-- A pointer to a client object.  The id of a client never changes, so it is a
part of the address. -/
structure Address where
  id : String
  number : Nat
  deriving DecidableEq, Repr

/-- The client objects, the map and the store of the `ClientRepository`, the
ports, the locks of `StartClient`, and the SSH connections, which are numbered
as they are accepted.  A row also says which connection its client had when it
was saved; the code never reads that. -/
structure Repository where
  objects : Address → Client
  allocated : Nat
  clientState : Table Address.id
  stored : Table Client.id
  distributor : PortDistributor
  startLocks : Finset String
  accepted : Nat
  closed : Finset Nat

namespace Repository

def client (repo : Repository) (address : Address) : Client :=
  { repo.objects address with id := address.id }

def write (repo : Repository) (address : Address) (client : Client) :
    Repository :=
  { repo with objects := Function.update repo.objects address client }

def getByID (repo : Repository) (keep : Option Int) (now : Time) (id : String) : Option Address :=
  (repo.clientState.get id).filter fun address =>
    !(repo.client address).obsolete keep now

def getActiveByID (repo : Repository) (id : String) : Option Address :=
  (repo.clientState.get id).filter fun address =>
    (repo.client address).isConnected

def isClientAuthIDInUse (repo : Repository) (keep : Option Int) (now : Time)
    (clientAuthID clientID : String) : Bool :=
  repo.clientState.entries.any fun address =>
    !(repo.client address).obsolete keep now && (repo.client address).clientAuthID = clientAuthID &&
      address.id ≠ clientID

def setDisconnectedAt (repo : Repository) (address : Address) (time : Option Time) : Repository :=
  repo.write address { repo.client address with disconnectedAt := time }

def setLastHeartbeatAt (repo : Repository) (address : Address) (time : Option Time) : Repository :=
  repo.write address { repo.client address with lastHeartbeatAt := time }

def saveRow (repo : Repository) (address : Address) : Repository :=
  { repo with stored := repo.stored.put (repo.client address) }

def updateClient (repo : Repository) (address : Address) : Repository :=
  { repo with clientState := repo.clientState.put address }

def deleteRow (repo : Repository) (id : String) : Repository :=
  { repo with stored := repo.stored.remove id }

def removeClient (repo : Repository) (id : String) : Repository :=
  { repo with clientState := repo.clientState.remove id }

def lock (repo : Repository) (id : String) : Repository :=
  { repo with startLocks := insert id repo.startLocks }

def unlock (repo : Repository) (id : String) : Repository :=
  { repo with startLocks := repo.startLocks.erase id }

def drop (repo : Repository) (sshConn : Nat) : Repository :=
  { repo with closed := insert sshConn repo.closed }

def close (repo : Repository) (address : Address) : Repository :=
  match (repo.client address).connection with
  | none => repo
  | some sshConn => repo.drop sshConn

def rowOwner (repo : Repository) (id : String) : Option Nat :=
  (repo.stored.get id).bind Client.connection

def entryOwner (repo : Repository) (id : String) : Option Nat :=
  (repo.clientState.get id).bind fun address =>
    (repo.client address).connection

end Repository

/-- A change of a client object that has nothing to do with its session:
`SetAllowedUserGroups`, `SetUpdatesStatus`, `SetIPAddresses`, `SetAttributes`
and everything that adds or removes tunnels. -/
structure Edit where
  apply : Client → Client
  connection : ∀ client, (apply client).connection = client.connection
  disconnectedAt : ∀ client, (apply client).disconnectedAt = client.disconnectedAt
  clientAuthID : ∀ client, (apply client).clientAuthID = client.clientAuthID

def Edit.setAllowedUserGroups (groups : List String) : Edit where
  apply client := { client with allowedUserGroups := groups }
  connection _ := rfl
  disconnectedAt _ := rfl
  clientAuthID _ := rfl

def Edit.removeTunnelByID (tunnelID : String) : Edit where
  apply client := { client with
    tunnels := client.tunnels.filter fun tunnel => tunnel.id ≠ tunnelID }
  connection _ := rfl
  disconnectedAt _ := rfl
  clientAuthID _ := rfl

/-- The sections of `StartClient`.  The pointer is nil for a client that was
not found. -/
inductive Start where
  | locking
  | lookingUp
  | checking (client : Address)
  | releasing (client : Address) (kept : List Remote)
  | checkingAuthID (existing : Option Address) (kept : List Remote)
  | registering (existing : Option Address) (kept : List Remote)
  | connecting (client : Address) (kept : List Remote)
  | tunnelling (client : Address) (kept : List Remote)
  | storing (client : Address)
  | updating (client : Address)

inductive Teardown where
  | marking
  | lookingUp
  | storing
  | updating
  | deletingRow
  | removing

inductive Ping where
  | reading
  | waiting (sshConn : Nat)
  | failed (sshConn : Nat)
  | closing (sshConn : Nat)

/-- The sections of `SetLastHeartbeatAt` and of `SetHeartbeatNow`, which clears
`DisconnectedAt` once more. -/
inductive Beat where
  | clearing (again : Bool)
  | stamping (again : Bool)
  | reviving

inductive Deletion where
  | checking
  | closing
  | deletingRow
  | removing

inductive Editing where
  | changing (edit : Edit)
  | storing
  | updating

/-- A call and how far it has come.  `requested` is a connection request on a
connection that is already there. -/
inductive Thread where
  | arriving (call : StartCall)
  | starting (call : StartCall) (point : Start)
  | refused (err : Err)
  | waiting (client : Address) (sshConn : Nat)
  | comparing (client : Address) (sshConn : Nat)
  | requested (clientID : String) (sshConn : Nat)
  | tearing (client : Address) (cause : Nat) (point : Teardown)
  | pingDue (clientID : String)
  | pinging (client : Address) (point : Ping)
  | heartbeat (clientID : String)
  | beating (client : Address) (point : Beat)
  | deletionDue (clientID : String)
  | deleting (client : Address) (point : Deletion)
  | deleted (clientID : String)
  | editDue (clientID : String) (edit : Edit)
  | editing (client : Address) (point : Editing)
  | finished

def Thread.isEnded : Thread → Bool
  | .finished | .refused _ | .deleted _ => true
  | _ => false

/-- What a section does not decide: the time, whether the store or the
connection fails, whether a ping is answered. -/
structure Choice where
  now : Time
  failure : Option String
  answered : Bool

/-- What the end of a connection, or a ping over it, can do to a client. -/
inductive Effect where
  | disconnects
  | overwrites
  | deletes
  | closes
  deriving DecidableEq, Repr

/-- Something that is done because of a connection, and the connection of the
object, row or entry that it is done to. -/
structure Action where
  effect : Effect
  cause : Nat
  victim : Option Nat
  deriving DecidableEq, Repr

inductive Call where
  | handleWebsocket (call : StartCall)
  | newConnection (clientID : String) (sshConn : Nat)
  | ping (clientID : String)
  | setLastHeartbeat (clientID : String)
  | forceDelete (clientID : String)
  | edit (clientID : String) (edit : Edit)
  | editHeld (client : Address) (edit : Edit)

def StartCall.refuse (call : StartCall) (repo : Repository) (err : Err) : Repository × Thread :=
  (repo.unlock call.clientID, .refused err)

/-- `NewClientFromConnRequest`, on a new object if there is none. -/
def StartCall.register (call : StartCall) (repo : Repository)
    (clientHost : String) : Option Address → Repository × Address
  | none =>
    let address := ⟨call.clientID, repo.allocated⟩
    ({ repo with allocated := repo.allocated + 1 }.write address
      (call.newClientFromConnRequest none clientHost), address)
  | some address =>
    (repo.write address (call.newClientFromConnRequest
      (some (repo.client address)) clientHost), address)

def StartCall.host (call : StartCall) : String := call.clientHost.toOption.getD ""

def startSection (keep : Option Int) (repo : Repository) (call : StartCall)
    (choice : Choice) : Start → Option (Repository × Thread)
  | .locking =>
    if call.clientID ∈ repo.startLocks then none
    else some (repo.lock call.clientID, .starting call .lookingUp)
  | .lookingUp =>
    match call.clientHost with
    | .error err => some (call.refuse repo (call.addressError err))
    | .ok _ =>
      match repo.getByID keep choice.now call.clientID with
      | none => some (repo, .starting call (.checkingAuthID none []))
      | some client => some (repo, .starting call (.checking client))
  | .checking client =>
    match call.checkExisting (repo.client client) with
    | .error err => some (call.refuse repo err)
    | .ok kept => some (repo, .starting call (.releasing client kept))
  | .releasing client kept =>
    some (repo.write client (repo.client client).releaseTunnels,
      .starting call (.checkingAuthID (some client) kept))
  | .checkingAuthID existing kept =>
    if !call.authMultiuseCreds && repo.isClientAuthIDInUse keep choice.now
        call.clientAuthID call.clientID then
      some (call.refuse repo call.authIDInUseError)
    else some (repo, .starting call (.registering existing kept))
  | .registering existing kept =>
    match call.register repo call.host existing with
    | (repo, client) => some (repo, .starting call (.connecting client kept))
  | .connecting client kept =>
    some (repo.setDisconnectedAt client none, .starting call (.tunnelling client kept))
  | .tunnelling client kept =>
    match call.startTunnels kept ⟨repo.client client, repo.distributor⟩ with
    | (tunnelling, result) =>
      let repo := { repo.write client tunnelling.client with
        distributor := tunnelling.distributor }
      match result with
      | .error err => some (call.refuse repo err)
      | .ok _ => some (repo, .starting call (.storing client))
  | .storing client =>
    match choice.failure with
    | some err => some (call.refuse repo (StartCall.saveError err))
    | none => some (repo.saveRow client, .starting call (.updating client))
  | .updating client =>
    some ((repo.updateClient client).unlock call.clientID, .waiting client call.sshConn)

def teardownSection (keep : Option Int) (repo : Repository)
    (client : Address) (cause : Nat) (choice : Choice) :
    Teardown → Repository × Thread × List Action
  | .marking =>
    if keep = some 0 then (repo, .tearing client cause .deletingRow, [])
    else (repo.setDisconnectedAt client (some choice.now), .tearing client cause .lookingUp,
      [⟨.disconnects, cause, (repo.client client).connection⟩])
  | .lookingUp =>
    match repo.getByID keep choice.now client.id with
    | none => (repo, .finished, [])
    | some _ => (repo, .tearing client cause .storing, [])
  | .storing =>
    match choice.failure with
    | some _ => (repo, .finished, [])
    | none => (repo.saveRow client, .tearing client cause .updating,
        [⟨.overwrites, cause, repo.rowOwner client.id⟩])
  | .updating => (repo.updateClient client, .finished,
      [⟨.overwrites, cause, repo.entryOwner client.id⟩])
  | .deletingRow =>
    match choice.failure with
    | some _ => (repo, .finished, [])
    | none => (repo.deleteRow client.id, .tearing client cause .removing,
        [⟨.deletes, cause, repo.rowOwner client.id⟩])
  | .removing => (repo.removeClient client.id, .finished,
      [⟨.deletes, cause, repo.entryOwner client.id⟩])

/-- A round of `PingClients`.  A client that is connected has a connection. -/
def pingSection (repo : Repository) (client : Address) (choice : Choice) :
    Ping → Repository × Thread × List Action
  | .reading =>
    match (repo.client client).connection with
    | none => (repo, .finished, [])
    | some sshConn => (repo, .pinging client (.waiting sshConn), [])
  | .waiting sshConn =>
    if choice.answered then (repo, .beating client (.clearing true), [])
    else (repo, .pinging client (.failed sshConn), [])
  | .failed sshConn => (repo.setDisconnectedAt client (some choice.now),
      .pinging client (.closing sshConn),
      [⟨.disconnects, sshConn, (repo.client client).connection⟩])
  | .closing sshConn => (repo.close client, .finished,
      [⟨.closes, sshConn, (repo.client client).connection⟩])

def beatSection (repo : Repository) (client : Address) (choice : Choice) :
    Beat → Repository × Thread
  | .clearing again =>
    (repo.setDisconnectedAt client none, .beating client (.stamping again))
  | .stamping again => (repo.setLastHeartbeatAt client (some choice.now),
      if again then .beating client .reviving else .finished)
  | .reviving => (repo.setDisconnectedAt client none, .finished)

def deletionSection (repo : Repository) (client : Address)
    (choice : Choice) : Deletion → Repository × Thread
  | .checking =>
    if (repo.client client).isConnected then
      (repo, .deleting client .closing)
    else (repo, .deleting client .deletingRow)
  | .closing =>
    match choice.failure with
    | some _ => (repo, .finished)
    | none => (repo.close client, .deleting client .deletingRow)
  | .deletingRow =>
    match choice.failure with
    | some _ => (repo, .finished)
    | none => (repo.deleteRow client.id, .deleting client .removing)
  | .removing => (repo.removeClient client.id, .deleted client.id)

def editSection (repo : Repository) (client : Address) (choice : Choice) :
    Editing → Repository × Thread
  | .changing edit => (repo.write client (edit.apply (repo.client client)),
      .editing client .storing)
  | .storing =>
    match choice.failure with
    | some _ => (repo, .finished)
    | none => (repo.saveRow client, .editing client .updating)
  | .updating => (repo.updateClient client, .finished)

def withClient (repo : Repository) (found : Option Address)
    (next : Address → Thread) : Repository × Thread :=
  match found with
  | none => (repo, .finished)
  | some client => (repo, next client)

def silent (outcome : Repository × Thread) : Repository × Thread × List Action :=
  (outcome.1, outcome.2, [])

def atomic (keep : Option Int) (repo : Repository) (thread : Thread)
    (choice : Choice) : Option (Repository × Thread × List Action) :=
  match thread with
  | .arriving call => some (silent ({ repo with accepted := repo.accepted + 1 },
        .starting { call with sshConn := repo.accepted } .locking))
  | .starting call point => (startSection keep repo call choice point).map silent
  | .waiting client sshConn =>
    if sshConn ∈ repo.closed then
      some (silent (repo, .comparing client sshConn))
    else none
  | .comparing client sshConn =>
    if (repo.client client).connection = some sshConn then
      some (silent (repo, .tearing client sshConn .marking))
    else some (silent (repo, .finished))
  | .requested clientID sshConn => some (silent (withClient repo
      (repo.getActiveByID clientID) (.tearing · sshConn .marking)))
  | .tearing client cause point =>
    some (teardownSection keep repo client cause choice point)
  | .pingDue clientID => some (silent (withClient repo
      (repo.getActiveByID clientID) (.pinging · .reading)))
  | .pinging client point => some (pingSection repo client choice point)
  | .heartbeat clientID => some (silent (withClient repo
      (repo.getByID keep choice.now clientID) (.beating · (.clearing false))))
  | .beating client point => some (silent (beatSection repo client choice point))
  | .deletionDue clientID => some (silent (withClient repo
      (repo.getByID keep choice.now clientID) (.deleting · .checking)))
  | .deleting client point => some (silent (deletionSection repo client choice point))
  | .editDue clientID edit => some (silent (withClient repo
      (repo.getByID keep choice.now clientID) (.editing · (.changing edit))))
  | .editing client point => some (silent (editSection repo client choice point))
  | .refused _ | .deleted _ | .finished => none

def program (keep : Option Int) : Program Repository Thread Call Choice Nat Action where
  enter
    | .handleWebsocket call => .arriving call
    | .newConnection clientID sshConn => .requested clientID sshConn
    | .ping clientID => .pingDue clientID
    | .setLastHeartbeat clientID => .heartbeat clientID
    | .forceDelete clientID => .deletionDue clientID
    | .edit clientID edit => .editDue clientID edit
    | .editHeld client edit => .editing client (.changing edit)
  atomic := atomic keep
  environment repo sshConn :=
    if sshConn < repo.accepted then some (repo.drop sshConn, []) else none

theorem environment_drop {keep : Option Int} {repo after : Repository}
    {sshConn : Nat} {shown : List Action}
    (ran : (program keep).environment repo sshConn = some (after, shown)) :
    after = repo.drop sshConn ∧ shown = [] := by
  simp only [program] at ran
  split at ran <;> cases ran
  exact ⟨rfl, rfl⟩

def restored (now : Time) (row : Client) : Client :=
  { row with
    connection := none
    disconnectedAt := some (row.disconnectedAt.getD now) }

def loaded (rows : Table Client.id) (now : Time) (distributor : PortDistributor) : Repository where
  objects := fun address =>
    match rows.get address.id with
    | none => default
    | some row => restored now row
  allocated := 1
  clientState :=
    { entries := rows.entries.map fun row => ⟨row.id, 0⟩
      distinct := by
        rw [List.map_map]
        exact rows.distinct }
  stored :=
    { entries := rows.entries.map (restored now)
      distinct := by
        rw [List.map_map]
        exact rows.distinct }
  distributor := distributor
  startLocks := ∅
  accepted := 0
  closed := ∅

def initial (rows : Table Client.id) (now : Time)
    (distributor : PortDistributor) : Config Repository Thread :=
  ⟨loaded rows now distributor, []⟩

def noon : Choice := ⟨100, none, false⟩

def newcomer (clientID clientAuthID : String) : StartCall :=
  { comesBack [] with clientID := clientID, clientAuthID := clientAuthID }

def sections (thread count : Nat) : List (Move Call Choice Nat) :=
  List.replicate count (.advance thread noon)

namespace Repository

variable {repo : Repository} {address other : Address} {client : Client}

@[simp] theorem client_write_self :
    (repo.write address client).client address =
      { client with id := address.id } := by
  simp [write, Repository.client]

theorem client_write_of_ne (different : other ≠ address) :
    (repo.write address client).client other = repo.client other := by
  simp [write, Repository.client, Function.update_of_ne different]

theorem getByID_eq_some {keep : Option Int} {now : Time} {id : String}
    (found : repo.getByID keep now id = some address) : repo.clientState.get id = some address := by
  simp only [getByID, Option.filter_eq_some_iff] at found
  exact found.1

end Repository

end ProxiPort.Clients
