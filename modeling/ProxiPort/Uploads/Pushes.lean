import ProxiPort.Go.Files
import ProxiPort.Uploads.Staged

/-!
# Pushing a file to agents

`server/upload.go`.  A request of `handleFileUploads` checks that its staging
file is not being collected, writes the payload there and reads it back for the
checksum; `sendFileToClients` then runs in a goroutine of its own, with one more
goroutine for each client, and removes the file when all of them are done.  The
steps of all requests interleave; each access to the registry of staged uploads
or to the file system is one step.  An agent reads the file over SFTP
(`client_listener_sftp.go`) and compares the checksum (`client/upload.go`).
-/

namespace ProxiPort.Uploads

open Concurrency Go

structure Settings where
  uploadDir : String
  md5 : List UInt8 → List UInt8

def genFilePath (settings : Settings) (uuid : String) : String :=
  Path.joinPath settings.uploadDir (Path.base uuid ++ "_proxiport_filepush")

def hasSeparator (id : String) : Bool :=
  id.toList.any fun character => character = '/' || character = '\\'

inductive Phase where
  /-- `IsStaged`. -/
  | checking
  /-- `CreateFile` opens the file. -/
  | creating
  /-- `CreateFile` copies the payload through its handle. -/
  | writing (file offset : Nat)
  /-- The file is opened again. -/
  | opening
  /-- `Md5HashFromReader`. -/
  | summing (file : Nat) (read : List UInt8)
  /-- `sendFileToClients` waits for its goroutines and removes the file. -/
  | sending (md5Checksum : List UInt8)
  | ended
  deriving DecidableEq

namespace Phase

def isActive : Phase → Bool
  | checking | ended => false
  | creating | writing _ _ | opening | summing _ _ | sending _ => true

def isSending : Phase → Bool
  | sending _ => true
  | checking | ended | creating | writing _ _ | opening | summing _ _ => false

end Phase

/-- A request of `handleFileUploads`. -/
structure Push where
  id : String
  sourceFilePath : String
  payload : List UInt8
  phase : Phase

/-- What a call of `sendFileToClient` does next; from `Allow` on it has the
function that takes the permission away again. -/
inductive Errand where
  /-- The goroutine does not run yet, or has done nothing yet. -/
  | waiting
  | allowing
  | connecting (grant : Nat)
  /-- The agent has the request and opens the file. -/
  | asking (grant : Nat)
  /-- The agent reads. -/
  | collecting (grant file : Nat) (read : List UInt8)
  | releasing (grant : Nat)
  | done
  deriving DecidableEq

def Errand.grant : Errand → Option Nat
  | waiting | allowing | done => none
  | connecting grant => some grant
  | asking grant => some grant
  | collecting grant _ _ => some grant
  | releasing grant => some grant

/-- A call of `sendFileToClient`, for one client of a push. -/
structure Sender where
  push : Nat
  clientID : String
  errand : Errand
  deriving DecidableEq

structure Server where
  staged : State
  files : Files
  pushes : List Push
  senders : List Sender

inductive PushInput where
  | check
  | create
  | write (count : Nat)
  | close
  | open
  | sum (count : Nat)
  /-- An error before the file is sent. -/
  | fail
  | remove (succeeds : Bool)

inductive SenderInput where
  | start (enabled : Bool)
  | allow
  | connect (connected : Bool)
  | request
  | read (count : Nat)
  /-- The request fails, or the agent does not want the file. -/
  | lose
  | release

inductive Input where
  | upload (id : String) (payload : List UInt8) (clientIDs : List String)
  | push (index : Nat) (input : PushInput)
  | sender (index : Nat) (input : SenderInput)

inductive Event where
  | truncated (push : Nat)
  | removed (push : Nat)
  /-- An agent has read the whole file and the checksum is that of the
  request. -/
  | received (push : Nat) (clientID : String) (bytes : List UInt8)
  /-- The file is not there, or has another checksum. -/
  | missed (push : Nat) (clientID : String)
  /-- The agent is not permitted to read the file. -/
  | refused (push : Nat) (clientID : String)
  deriving DecidableEq

section Steps

variable (settings : Settings)

def Server.allDone (state : Server) (push : Nat) : Bool :=
  state.senders.all fun sender => sender.push ≠ push || sender.errand = .done

def pushStep (state : Server) (index : Nat) (push : Push) :
    PushInput → Option (Phase × Files × List Event)
  | .check =>
    match push.phase with
    | .checking =>
      if state.staged.registry.isStaged push.sourceFilePath then
        some (.ended, state.files, [])
      else some (.creating, state.files, [])
    | _ => none
  | .create =>
    match push.phase with
    | .creating =>
      let (files, file) := state.files.create push.sourceFilePath
      some (.writing file 0, files, [.truncated index])
    | _ => none
  | .write count =>
    match push.phase with
    | .writing file offset =>
      if offset < push.payload.length then
        let bytes := (push.payload.drop offset).take (count + 1)
        some (.writing file (offset + bytes.length), state.files.writeAt file offset bytes, [])
      else none
    | _ => none
  | .close =>
    match push.phase with
    | .writing _ offset =>
      if offset < push.payload.length then none
      else some (.opening, state.files, [])
    | _ => none
  | .open =>
    match push.phase with
    | .opening =>
      match state.files.names push.sourceFilePath with
      | none => some (.ended, state.files, [])
      | some file => some (.summing file [], state.files, [])
    | _ => none
  | .sum count =>
    match push.phase with
    | .summing file read =>
      let bytes := state.files.readAt file read.length (count + 1)
      if bytes = [] then
        some (.sending (settings.md5 read), state.files, [])
      else some (.summing file (read ++ bytes), state.files, [])
    | _ => none
  | .fail =>
    match push.phase with
    | .creating | .writing _ _ | .opening | .summing _ _ =>
      some (.ended, state.files, [])
    | _ => none
  | .remove succeeds =>
    match push.phase with
    | .sending _ =>
      if state.allDone index then
        if succeeds then
          some (.ended, state.files.remove push.sourceFilePath, [.removed index])
        else some (.ended, state.files, [])
      else none
    | _ => none

def Server.fileSystem (state : Server) (clientID : String) : StagedUploadFS :=
  ⟨clientID, state.staged.registry, fun path =>
    (state.files.names path).map fun file => ⟨true, state.files.contents file⟩⟩

def senderStep (state : Server) (sender : Sender) (push : Push) :
    SenderInput → Option (Errand × State × List Event)
  | .start enabled =>
    match sender.errand with
    | .waiting =>
      if push.phase.isSending then
        some (if enabled then .allowing else .done, state.staged, [])
      else none
    | _ => none
  | .allow =>
    match sender.errand with
    | .allowing =>
      some (.connecting state.staged.grants.length,
        state.staged.step (.allow sender.clientID push.sourceFilePath), [])
    | _ => none
  | .connect connected =>
    match sender.errand with
    | .connecting grant =>
      some (if connected then .asking grant else .releasing grant, state.staged, [])
    | _ => none
  | .request =>
    match sender.errand with
    | .asking grant =>
      match (state.fileSystem sender.clientID).resolveRequest (.fileread push.sourceFilePath) with
      | .error _ => some (.releasing grant, state.staged, [.refused sender.push sender.clientID])
      | .ok path =>
        match state.files.names path with
        | none => some (.releasing grant, state.staged, [.missed sender.push sender.clientID])
        | some file => some (.collecting grant file [], state.staged, [])
    | _ => none
  | .read count =>
    match sender.errand, push.phase with
    | .collecting grant file read, .sending md5Checksum =>
      let bytes := state.files.readAt file read.length (count + 1)
      if bytes = [] then
        some (.releasing grant, state.staged, [if settings.md5 read = md5Checksum then
            .received sender.push sender.clientID read
          else .missed sender.push sender.clientID])
      else some (.collecting grant file (read ++ bytes), state.staged, [])
    | _, _ => none
  | .lose =>
    match sender.errand with
    | .asking grant => some (.releasing grant, state.staged, [])
    | .collecting grant _ _ => some (.releasing grant, state.staged, [])
    | _ => none
  | .release =>
    match sender.errand with
    | .releasing grant =>
      some (.done, state.staged.step (.release grant), [])
    | _ => none

def Server.step (state : Server) : Input → Option (Server × List Event)
  | .upload id payload clientIDs =>
    if hasSeparator id then some (state, [])
    else
      some ({ state with
        pushes := state.pushes ++ [⟨id, genFilePath settings id, payload, .checking⟩]
        senders := state.senders ++ clientIDs.map fun clientID =>
          ⟨state.pushes.length, clientID, .waiting⟩ }, [])
  | .push index input => do
    let push ← state.pushes[index]?
    let (phase, files, shown) ← pushStep settings state index push input
    return ({ state with
      files := files
      pushes := state.pushes.set index { push with phase := phase } }, shown)
  | .sender index input => do
    let sender ← state.senders[index]?
    let push ← state.pushes[sender.push]?
    let (errand, staged, shown) ← senderStep settings state sender push input
    return ({ state with
      staged := staged
      senders := state.senders.set index { sender with errand := errand } }, shown)

end Steps

def fileUploads (settings : Settings) : System Server Input Event := ⟨Server.step settings⟩

/-- No request yet; the directory may hold files of former runs. -/
def Server.started (files : Files) : Server := ⟨.initial, files, [], []⟩

/-- A push uses a staging file and has agents still to collect it. -/
def Server.Collects (state : Server) (index : Nat) (path : String) : Prop :=
  ∃ push, state.pushes[index]? = some push ∧ push.sourceFilePath = path ∧
    push.phase.isActive = true ∧
    ∃ sender ∈ state.senders, sender.push = index ∧ sender.errand ≠ .done

/-- No staging file is truncated or removed while another push has agents still
to collect it, and agents get the payload of the push that asks them to collect
it. -/
structure Undisturbed (state : Server) (shown : List Event) : Prop where
  truncated : ∀ {index push}, .truncated index ∈ shown → state.pushes[index]? = some push →
    ∀ other, other ≠ index → ¬ state.Collects other push.sourceFilePath
  removed : ∀ {index push}, .removed index ∈ shown → state.pushes[index]? = some push →
    ∀ other, other ≠ index → ¬ state.Collects other push.sourceFilePath
  received : ∀ {index clientID bytes}, .received index clientID bytes ∈ shown →
    ∃ push, state.pushes[index]? = some push ∧ bytes = push.payload
  found : ∀ {index clientID}, .missed index clientID ∉ shown
  permitted : ∀ {index clientID push}, .refused index clientID ∈ shown →
    state.pushes[index]? = some push →
    clientID = "" ∨ Path.isAbs push.sourceFilePath = false

end ProxiPort.Uploads
