import ProxiPort.Uploads.Pushes

/-!
# Pushes that share a staging file

`IsStaged` sees the permissions that `sendFileToClient` has registered, which
happens in other goroutines and after the payload was written; and the last of
them is taken back before the file is removed.  Two pushes with one upload id can
therefore both pass the check.
-/

namespace ProxiPort.Uploads

open Concurrency Go List

/-- A push passes its check only when no push of the same file is past its check
and not yet at its end. -/
def ChecksAlone (state : Server) : Input → Prop
  | .push index .check => ∀ push ∈ state.pushes[index]?,
      state.staged.registry.isStaged push.sourceFilePath = false →
      ∀ other ∈ state.pushes, other.sourceFilePath = push.sourceFilePath →
        other.phase.isActive = false
  | _ => True

instance decidableChecksAlone (state : Server) : ∀ input, Decidable (ChecksAlone state input)
  | .push index .check => inferInstanceAs (Decidable
      (∀ push ∈ state.pushes[index]?, _ → ∀ other ∈ _, _ → _))
  | .push _ .create | .push _ (.write _) | .push _ .close | .push _ .open
  | .push _ (.sum _) | .push _ .fail | .push _ (.remove _)
  | .upload _ _ _ | .sender _ _ => .isTrue trivial

variable {settings : Settings} {state : Server}

section

variable (settings : Settings) (state : Server) (index : Nat) (push : Push)

inductive PushStepped : PushInput → Phase → Files → List Event → Prop where
  | conflict (here : push.phase = .checking) : PushStepped .check .ended state.files []
  | passed (here : push.phase = .checking)
      (free : state.staged.registry.isStaged push.sourceFilePath = false) :
      PushStepped .check .creating state.files []
  | created (here : push.phase = .creating) : PushStepped .create
        (.writing (state.files.create push.sourceFilePath).2 0)
        (state.files.create push.sourceFilePath).1 [.truncated index]
  | wrote {file offset count : Nat} (here : push.phase = .writing file offset)
      (more : offset < push.payload.length) :
      PushStepped (.write count) (.writing file
          (offset + ((push.payload.drop offset).take (count + 1)).length))
        (state.files.writeAt file offset ((push.payload.drop offset).take (count + 1))) []
  | closed {file offset : Nat} (here : push.phase = .writing file offset)
      (whole : push.payload.length ≤ offset) :
      PushStepped .close .opening state.files []
  | opened {file : Nat} (here : push.phase = .opening)
      (named : state.files.names push.sourceFilePath = some file) :
      PushStepped .open (.summing file []) state.files []
  | summed {file count : Nat} {read : List UInt8} (here : push.phase = .summing file read) :
      PushStepped (.sum count) (.summing file (read ++
          state.files.readAt file read.length (count + 1))) state.files []
  | sent {file count : Nat} {read : List UInt8} (here : push.phase = .summing file read)
      (atEnd : state.files.readAt file read.length (count + 1) = []) :
      PushStepped (.sum count) (.sending (settings.md5 read)) state.files []
  | failed {input : PushInput} (active : push.phase.isActive = true)
      (unsent : push.phase.isSending = false) :
      PushStepped input .ended state.files []
  | left {succeeds : Bool} (done : state.allDone index = true) :
      PushStepped (.remove succeeds) .ended state.files []
  | removed {succeeds : Bool} {md5Checksum : List UInt8} (here : push.phase = .sending md5Checksum)
      (done : state.allDone index = true) :
      PushStepped (.remove succeeds) .ended
        (state.files.remove push.sourceFilePath) [.removed index]

end

variable {files : Files} {phase : Phase} {shown : List Event}

theorem pushStep_stepped {index : Nat} {push : Push} {input : PushInput}
    (stepped : pushStep settings state index push input = some (phase, files, shown)) :
    PushStepped settings state index push input phase files shown := by
  obtain ⟨id, sourceFilePath, payload, before⟩ := push
  cases input with
  | check =>
    simp only [pushStep] at stepped
    split at stepped
    · split at stepped
      · cases stepped
        exact .conflict rfl
      · rename_i free
        cases stepped
        exact .passed rfl (eq_false_of_ne_true free)
    · cases stepped
  | create =>
    simp only [pushStep] at stepped
    split at stepped
    · cases stepped
      exact .created rfl
    · cases stepped
  | write count =>
    simp only [pushStep] at stepped
    split at stepped
    · split at stepped
      · rename_i more
        cases stepped
        exact .wrote rfl more
      · cases stepped
    · cases stepped
  | close =>
    simp only [pushStep] at stepped
    split at stepped
    · split at stepped
      · cases stepped
      · rename_i whole
        cases stepped
        exact .closed rfl (Nat.le_of_not_lt whole)
    · cases stepped
  | «open» =>
    simp only [pushStep] at stepped
    split at stepped
    · split at stepped
      · cases stepped
        exact .failed rfl rfl
      · rename_i named
        cases stepped
        exact .opened rfl named
    · cases stepped
  | sum count =>
    simp only [pushStep] at stepped
    split at stepped
    · split at stepped
      · rename_i atEnd
        cases stepped
        exact .sent rfl atEnd
      · cases stepped
        exact .summed rfl
    · cases stepped
  | fail =>
    simp only [pushStep] at stepped
    split at stepped
    on_goal 5 => cases stepped
    all_goals
      cases stepped
      exact .failed rfl rfl
  | remove succeeds =>
    simp only [pushStep] at stepped
    split at stepped
    · split at stepped
      · rename_i done
        split at stepped
        · cases stepped
          exact .removed rfl done
        · cases stepped
          exact .left done
      · cases stepped
    · cases stepped

section

variable (settings : Settings) (state : Server) (sender : Sender) (push : Push)

inductive SenderStepped : Errand → State → List Event → Prop where
  | started {errand : Errand} (sending : push.phase.isSending = true)
      (next : errand = .allowing ∨ errand = .done) :
      SenderStepped errand state.staged []
  | allowed (here : sender.errand = .allowing) :
      SenderStepped (.connecting state.staged.grants.length)
        (state.staged.step (.allow sender.clientID push.sourceFilePath)) []
  | moved {grant : Nat} {errand : Errand} (here : sender.errand.grant = some grant)
      (next : errand = .asking grant ∨ errand = .releasing grant) :
      SenderStepped errand state.staged []
  | refused {grant : Nat} {err : String} (here : sender.errand = .asking grant)
      (refusal : (state.fileSystem sender.clientID).resolveRequest
        (.fileread push.sourceFilePath) = .error err) :
      SenderStepped (.releasing grant) state.staged [.refused sender.push sender.clientID]
  | missed {grant : Nat} {path : String} (here : sender.errand = .asking grant)
      (resolved : (state.fileSystem sender.clientID).resolveRequest
        (.fileread push.sourceFilePath) = .ok path)
      (absent : state.files.names path = none) :
      SenderStepped (.releasing grant) state.staged [.missed sender.push sender.clientID]
  | found {grant file : Nat} {path : String} (here : sender.errand = .asking grant)
      (resolved : (state.fileSystem sender.clientID).resolveRequest
        (.fileread push.sourceFilePath) = .ok path)
      (named : state.files.names path = some file) :
      SenderStepped (.collecting grant file []) state.staged []
  | read {grant file count : Nat} {read : List UInt8}
      (here : sender.errand = .collecting grant file read) :
      SenderStepped (.collecting grant file (read ++
          state.files.readAt file read.length (count + 1))) state.staged []
  | collected {grant file count : Nat} {read md5Checksum : List UInt8}
      (here : sender.errand = .collecting grant file read)
      (sending : push.phase = .sending md5Checksum)
      (atEnd : state.files.readAt file read.length (count + 1) = []) :
      SenderStepped (.releasing grant) state.staged [if settings.md5 read = md5Checksum then
          .received sender.push sender.clientID read
        else .missed sender.push sender.clientID]
  | released {grant : Nat} (here : sender.errand = .releasing grant) :
      SenderStepped .done (state.staged.step (.release grant)) []

end

variable {errand : Errand}

theorem senderStep_stepped {sender : Sender} {push : Push} {input : SenderInput}
    {staged : State} (stepped : senderStep settings state sender push input =
      some (errand, staged, shown)) :
    SenderStepped settings state sender push errand staged shown := by
  obtain ⟨number, clientID, before⟩ := sender
  cases input with
  | start enabled =>
    simp only [senderStep] at stepped
    split at stepped
    · split at stepped
      · rename_i sending
        cases stepped
        cases enabled with
        | true => exact .started sending (.inl rfl)
        | false => exact .started sending (.inr rfl)
      · cases stepped
    · cases stepped
  | allow =>
    simp only [senderStep] at stepped
    split at stepped
    · cases stepped
      exact .allowed rfl
    · cases stepped
  | connect connected =>
    simp only [senderStep] at stepped
    split at stepped
    · cases stepped
      cases connected with
      | true => exact .moved rfl (.inl rfl)
      | false => exact .moved rfl (.inr rfl)
    · cases stepped
  | request =>
    simp only [senderStep] at stepped
    split at stepped
    · split at stepped
      · rename_i refusal
        cases stepped
        exact .refused rfl refusal
      · rename_i resolved
        split at stepped
        · rename_i absent
          cases stepped
          exact .missed rfl resolved absent
        · rename_i named
          cases stepped
          exact .found rfl resolved named
    · cases stepped
  | read count =>
    simp only [senderStep] at stepped
    split at stepped
    · rename_i sending
      split at stepped
      · rename_i atEnd
        cases stepped
        exact .collected rfl sending atEnd
      · cases stepped
        exact .read rfl
    · cases stepped
  | lose =>
    simp only [senderStep] at stepped
    split at stepped
    · cases stepped
      exact .moved rfl (.inr rfl)
    · cases stepped
      exact .moved rfl (.inr rfl)
    · cases stepped
  | release =>
    simp only [senderStep] at stepped
    split at stepped
    · cases stepped
      exact .released rfl
    · cases stepped

/-- The whole payload is in the file that the name leads to. -/
structure Stored (files : Files) (path : String) (payload : List UInt8)
    (file : Nat) : Prop where
  named : files.names path = some file
  content : files.contents file = payload

section

variable (settings : Settings) (files : Files) (path : String)
  (payload : List UInt8)

inductive Prepared : Phase → Prop where
  | checking : Prepared .checking
  | creating : Prepared .creating
  | writing {file offset : Nat} (named : files.names path = some file)
      (content : files.contents file = payload.take offset) (within : offset ≤ payload.length) :
      Prepared (.writing file offset)
  | opening {file : Nat} (stored : Stored files path payload file) : Prepared .opening
  | summing {file : Nat} {read : List UInt8}
      (stored : Stored files path payload file) (start : read <+: payload) :
      Prepared (.summing file read)
  | sending {file : Nat} (stored : Stored files path payload file) :
      Prepared (.sending (settings.md5 payload))
  | ended : Prepared .ended

end

variable {payload : List UInt8} {path : String}

theorem Prepared.of_inactive (inactive : phase.isActive = false) :
    Prepared settings files path payload phase := by
  cases phase with
  | checking => exact .checking
  | ended => exact .ended
  | creating | writing | opening | summing | sending => cases inactive

theorem Stored.frame {files after : Files} {file : Nat} (stored : Stored files path payload file)
    (same : Files.SameAt files after path) : Stored after path payload file :=
  ⟨same.name.trans stored.named, (same.content stored.named).trans stored.content⟩

theorem Prepared.frame {files after : Files} (prepared : Prepared settings files path payload phase)
    (same : Files.SameAt files after path) : Prepared settings after path payload phase := by
  cases prepared with
  | checking => exact .checking
  | creating => exact .creating
  | writing named content within =>
    exact .writing (same.name.trans named) ((same.content named).trans content) within
  | opening stored => exact .opening (stored.frame same)
  | summing stored start => exact .summing (stored.frame same) start
  | sending stored => exact .sending (stored.frame same)
  | ended => exact .ended

theorem prefix_append_readAt {file count : Nat} {payload read : List UInt8}
    (content : files.contents file = payload) (start : read <+: payload) :
    read ++ files.readAt file read.length count <+: payload := by
  obtain ⟨rest, rfl⟩ := start
  rw [Files.readAt, content, drop_left]
  exact (prefix_append_right_inj _).mpr (List.take_prefix _ _)

theorem eq_of_readAt_nil {file count : Nat} {payload read : List UInt8}
    (content : files.contents file = payload) (start : read <+: payload)
    (atEnd : files.readAt file read.length (count + 1) = []) : read = payload := by
  obtain ⟨rest, rfl⟩ := start
  rw [Files.readAt, content, drop_left] at atEnd
  cases rest with
  | nil => exact (append_nil _).symm
  | cons first rest => cases atEnd

theorem take_append_take_drop (payload : List UInt8) (offset count : Nat) :
    payload.take offset ++ (payload.drop offset).take count =
      payload.take (offset + ((payload.drop offset).take count).length) := by
  rw [take_add, length_take, append_cancel_left_eq, take_eq_take_iff]
  omega

namespace PushStepped

variable {index : Nat} {push : Push} {input : PushInput} {phase : Phase}
  {files : Files} {shown : List Event}

section

variable
  (stepped : PushStepped settings state index push input phase files shown)

include stepped

theorem sameAt (prepared : Prepared settings state.files push.sourceFilePath push.payload
      push.phase) {path : String}
    (other : push.phase.isActive = true → path ≠ push.sourceFilePath) :
    Files.SameAt state.files files path := by
  cases stepped with
  | created here =>
    exact Files.create_sameAt (other (by rw [here]; rfl))
  | wrote here more =>
    rw [here] at prepared
    cases prepared with
    | writing named content within =>
      exact Files.setContent_sameAt named _ (other (by rw [here]; rfl))
  | removed here done =>
    exact Files.remove_sameAt (other (by rw [here]; rfl))
  | _ => exact .refl _ _

theorem prepared (before : Prepared settings state.files push.sourceFilePath push.payload
      push.phase) :
    Prepared settings files push.sourceFilePath push.payload phase := by
  cases stepped with
  | conflict | failed | left | removed => exact .ended
  | passed here free => exact .creating
  | created here =>
    exact .writing Files.create_named Files.create_empty (Nat.zero_le _)
  | @wrote file offset count here more =>
    rw [here] at before
    cases before with
    | writing named content within =>
      have length : (push.payload.take offset).length = offset := length_take_of_le within
      refine .writing named ?_ ?_
      · have appended := Files.contents_writeAt_end content
          ((push.payload.drop offset).take (count + 1))
        rw [length] at appended
        exact appended.trans (take_append_take_drop _ _ _)
      · rw [length_take, length_drop]
        omega
  | closed here whole =>
    rw [here] at before
    cases before with
    | writing named content within =>
      rw [take_of_length_le whole] at content
      exact .opening ⟨named, content⟩
  | opened here named =>
    rw [here] at before
    cases before with
    | opening stored =>
      cases named.symm.trans stored.named
      exact .summing stored nil_prefix
  | summed here =>
    rw [here] at before
    cases before with
    | summing stored start =>
      exact .summing stored (prefix_append_readAt stored.content start)
  | sent here atEnd =>
    rw [here] at before
    cases before with
    | summing stored start =>
      rw [eq_of_readAt_nil stored.content start atEnd]
      exact .sending stored

theorem active (isActive : phase.isActive = true) :
    push.phase.isActive = true ∨ input = .check ∧
        state.staged.registry.isStaged push.sourceFilePath = false := by
  cases stepped with
  | passed here free => exact .inr ⟨rfl, free⟩
  | created here | wrote here | closed here | opened here | summed here
  | sent here => exact .inl (by rw [here]; rfl)
  | conflict | failed | left | removed => cases isActive

theorem allDone (sending : push.phase.isSending = true) : state.allDone index = true := by
  cases stepped with
  | left done => exact done
  | removed here done => exact done
  | conflict here | passed here | created here | wrote here | closed here
  | opened here | summed here | sent here => rw [here] at sending; cases sending
  | failed active unsent => rw [unsent] at sending; cases sending

end

end PushStepped

/-- A call of `Allow` whose permission was not taken away again. -/
def Holds (staged : State) (grant : Nat) (clientID path : String) : Prop :=
  staged.grants[grant]? = some
    (if clientID = "" ∨ path = "" then none else some ⟨clientID, path, false⟩)

section Holds

variable {staged : State} {grant : Nat} {clientID path : String}

theorem holds_allow (staged : State) (clientID path : String) :
    Holds (staged.step (.allow clientID path)) staged.grants.length clientID
      path := by
  simp only [Holds, State.step]
  split
  all_goals rw [List.getElem?_concat_length]

theorem Holds.allow (held : Holds staged grant clientID path) (otherID otherPath : String) :
    Holds (staged.step (.allow otherID otherPath)) grant clientID path := by
  have bound := (List.getElem?_eq_some_iff.mp held).1
  simp only [Holds, State.step]
  split
  all_goals rwa [List.getElem?_append_left bound]

theorem Holds.release (held : Holds staged grant clientID path) {other : Nat}
    (different : other ≠ grant) : Holds (staged.step (.release other)) grant clientID path := by
  simp only [Holds, State.step]
  split
  · split
    · exact held
    · rwa [List.getElem?_set_ne different]
  · exact held

theorem allowed_eq_released_add (staged : State) (clientID path : String) :
    staged.allowed clientID path = staged.released clientID path +
      staged.grants.countP fun grant => grant.any fun grant =>
        grant.clientID = clientID && grant.path = path && !grant.released := by
  rw [State.allowed, State.released, countP_eq_countP_filter_add staged.grants _
      fun grant => grant.any (·.released), countP_filter,
    countP_filter]
  congr 1
  all_goals
    apply countP_congr
    intro grant _
    cases grant with
    | none => simp
    | some grant => simp

theorem Holds.isAllowed (held : Holds staged grant clientID path)
    (counts : Counts staged) (client : clientID ≠ "") (named : path ≠ "") :
    staged.registry.isAllowed clientID path = true := by
  rw [Holds, if_neg (not_or.mpr ⟨client, named⟩)] at held
  rw [counts.isAllowed_iff, State.Granted, allowed_eq_released_add]
  apply Nat.lt_add_of_pos_right
  exact countP_pos_iff.mpr ⟨_, List.mem_of_getElem? held, by simp⟩

end Holds

structure Sound (settings : Settings) (state : Server) : Prop where
  counts : Counts state.staged
  clean : ∀ push ∈ state.pushes, Path.clean push.sourceFilePath = push.sourceFilePath
  alone : ∀ {first second : Nat} {push other : Push}, state.pushes[first]? = some push →
    state.pushes[second]? = some other → push.phase.isActive = true →
    other.phase.isActive = true →
    push.sourceFilePath = other.sourceFilePath → first = second
  prepared : ∀ push ∈ state.pushes, Prepared settings state.files push.sourceFilePath push.payload
      push.phase
  known : ∀ sender ∈ state.senders, sender.push < state.pushes.length
  sending : ∀ {sender push}, sender ∈ state.senders →
    state.pushes[sender.push]? = some push → sender.errand ≠ .waiting →
    sender.errand ≠ .done → push.phase.isSending = true
  held : ∀ {sender push grant}, sender ∈ state.senders → state.pushes[sender.push]? = some push →
    sender.errand.grant = some grant →
    Holds state.staged grant sender.clientID push.sourceFilePath
  distinct : ∀ {first second : Nat} {sender other : Sender} {grant : Nat},
    state.senders[first]? = some sender →
    state.senders[second]? = some other →
    sender.errand.grant = some grant → other.errand.grant = some grant →
    first = second
  reading : ∀ {sender push grant file read}, sender ∈ state.senders →
    state.pushes[sender.push]? = some push →
    sender.errand = .collecting grant file read →
    state.files.names push.sourceFilePath = some file ∧ read <+: push.payload

theorem started_sound (files : Files) : Sound settings (Server.started files) where
  counts := initial_counts
  clean := forall_mem_nil _
  alone := fun found => by cases found
  prepared := forall_mem_nil _
  known := forall_mem_nil _
  sending := fun member => by cases member
  held := fun member => by cases member
  distinct := fun found => by cases found
  reading := fun member => by cases member

theorem Errand.begun_of_grant {grant : Nat} (holds : errand.grant = some grant) :
    errand ≠ .waiting ∧ errand ≠ .done := by
  constructor
  all_goals
    rintro rfl
    cases holds

namespace Sound

theorem upload (sound : Sound settings state) (id : String)
    (payload : List UInt8) (clientIDs : List String) :
    Sound settings { state with
      pushes := state.pushes ++ [⟨id, genFilePath settings id, payload, .checking⟩]
      senders := state.senders ++ clientIDs.map fun clientID =>
        ⟨state.pushes.length, clientID, .waiting⟩ } := by
  have cleanPath : Path.clean (genFilePath settings id) = genFilePath settings id := by
    apply Path.clean_joinPath
    intro blank
    have characters := congrArg String.toList blank
    simp at characters
  -- The call is one of before, or a new one that has not begun.
  have old : ∀ {sender}, sender ∈ state.senders ++ clientIDs.map (fun clientID =>
        ⟨state.pushes.length, clientID, .waiting⟩) →
      sender.errand ≠ .waiting → sender ∈ state.senders := by
    intro sender member begun
    rcases mem_append.mp member with before | new
    · exact before
    · obtain ⟨clientID, _, rfl⟩ := mem_map.mp new
      exact (begun rfl).elim
  have samePush : ∀ {sender push}, sender ∈ state.senders →
      (state.pushes ++ [⟨id, genFilePath settings id, payload,
        .checking⟩])[sender.push]? = some push →
      state.pushes[sender.push]? = some push := by
    intro sender push member found
    rwa [List.getElem?_append_left (sound.known sender member)] at found
  have isOld : ∀ {place : Nat} {sender : Sender} {grant : Nat},
      (state.senders ++ clientIDs.map (fun clientID =>
        ⟨state.pushes.length, clientID, .waiting⟩))[place]? = some sender →
      sender.errand.grant = some grant →
      state.senders[place]? = some sender := by
    intro place sender grant found holds
    by_cases before : place < state.senders.length
    · rwa [List.getElem?_append_left before] at found
    · rw [List.getElem?_append_right (Nat.le_of_not_lt before)] at found
      obtain ⟨clientID, _, rfl⟩ := mem_map.mp (List.mem_of_getElem? found)
      cases holds
  refine ⟨sound.counts, ?_, ?_, ?_, ?_, ?_, ?_, ?_, ?_⟩
  · exact forall_mem_concat sound.clean cleanPath
  · intro first second push other foundFirst foundSecond active otherActive
    rcases getElem?_concat_cases foundFirst with oldFirst | rfl
    · rcases getElem?_concat_cases foundSecond with oldSecond | rfl
      · exact sound.alone oldFirst oldSecond active otherActive
      · cases otherActive
    · cases active
  · exact forall_mem_concat sound.prepared .checking
  · intro sender member
    rw [length_append]
    rcases mem_append.mp member with before | new
    · exact Nat.lt_add_right _ (sound.known sender before)
    · obtain ⟨clientID, _, rfl⟩ := mem_map.mp new
      exact Nat.lt_succ_self _
  · intro sender push member found begun
    have before := old member begun
    exact sound.sending before (samePush before found) begun
  · intro sender push grant member found holds
    have before := old member (Errand.begun_of_grant holds).1
    exact sound.held before (samePush before found) holds
  · intro first second sender other grant foundFirst foundSecond holds otherHolds
    exact sound.distinct (isOld foundFirst holds) (isOld foundSecond otherHolds) holds otherHolds
  · intro sender push grant file read member found collects
    have holds := congrArg Errand.grant collects
    have before := old member (Errand.begun_of_grant holds).1
    exact sound.reading before (samePush before found) collects

variable {phase : Phase} {shown : List Event} {input : PushInput}

theorem sameAt_other (sound : Sound settings state) {index other : Nat}
    {push otherPush : Push} {files : Files} (found : state.pushes[index]? = some push)
    (stepped : PushStepped settings state index push input phase files shown)
    (foundOther : state.pushes[other]? = some otherPush)
    (active : otherPush.phase.isActive = true) (different : other ≠ index) :
    Files.SameAt state.files files otherPush.sourceFilePath := by
  apply stepped.sameAt (sound.prepared push (List.mem_of_getElem? found))
  intro pushActive samePath
  exact different (sound.alone foundOther found active pushActive samePath)

theorem isActive_of_isSending (sending : phase.isSending = true) : phase.isActive = true := by
  cases phase with
  | sending md5Checksum => rfl
  | _ => cases sending

theorem not_allDone {sender : Sender} (member : sender ∈ state.senders)
    (unfinished : sender.errand ≠ .done) : state.allDone sender.push = false := by
  apply eq_false_of_ne_true
  intro done
  have checked := all_eq_true.mp done sender member
  simp [unfinished] at checked

theorem push (sound : Sound settings state) {index : Nat} {push : Push}
    {files : Files} (found : state.pushes[index]? = some push)
    (admitted : ChecksAlone state (.push index input))
    (stepped : PushStepped settings state index push input phase files shown) :
    Sound settings { state with
      files := files
      pushes := state.pushes.set index { push with phase := phase } } := by
  have here := List.mem_of_getElem? found
  -- A goroutine that is at work belongs to another push.
  have working : ∀ {sender after}, sender ∈ state.senders →
      (state.pushes.set index { push with phase := phase })[sender.push]? = some after →
      sender.errand ≠ .waiting → sender.errand ≠ .done →
      sender.push ≠ index ∧ state.pushes[sender.push]? = some after := by
    intro sender after member foundAfter begun unfinished
    rcases getElem?_set_cases foundAfter with ⟨same, rfl⟩ | old
    · rw [← same] at found stepped
      have done := stepped.allDone (sound.sending member found begun unfinished)
      rw [not_allDone member unfinished] at done
      cases done
    · exact old
  refine ⟨sound.counts, ?_, ?_, ?_, ?_, ?_, ?_, sound.distinct, ?_⟩
  · exact forall_mem_set sound.clean (sound.clean push here)
  · -- Only a check makes a push active, and it passes alone.
    have fresh : ∀ {other otherPush}, other ≠ index →
        state.pushes[other]? = some otherPush → phase.isActive = true →
        otherPush.phase.isActive = true →
        push.sourceFilePath ≠ otherPush.sourceFilePath := by
      intro other otherPush different foundOther active otherActive samePath
      rcases stepped.active active with before | ⟨rfl, free⟩
      · exact different (sound.alone foundOther found otherActive before samePath.symm)
      · have inactive := admitted push found free otherPush
          (List.mem_of_getElem? foundOther) samePath.symm
        rw [inactive] at otherActive
        cases otherActive
    intro first second one other foundFirst foundSecond active otherActive samePath
    rcases getElem?_set_cases foundFirst with ⟨rfl, rfl⟩ | ⟨apart, old⟩
    · rcases getElem?_set_cases foundSecond with ⟨same, _⟩ | ⟨apart, old⟩
      · exact same.symm
      · exact (fresh apart old active otherActive samePath).elim
    · rcases getElem?_set_cases foundSecond with ⟨rfl, rfl⟩ | ⟨_, oldSecond⟩
      · exact (fresh apart old otherActive active samePath.symm).elim
      · exact sound.alone old oldSecond active otherActive samePath
  · intro other member
    obtain ⟨place, foundOther⟩ := List.mem_iff_getElem?.mp member
    rcases getElem?_set_cases foundOther with ⟨_, rfl⟩ | ⟨apart, old⟩
    · exact stepped.prepared (sound.prepared push here)
    · have before := sound.prepared other (List.mem_of_getElem? old)
      cases active : other.phase.isActive with
      | false => exact .of_inactive active
      | true =>
        exact before.frame (sound.sameAt_other found stepped old active apart)
  · intro sender member
    rw [length_set]
    exact sound.known sender member
  · intro sender after member foundAfter begun unfinished
    have old := (working member foundAfter begun unfinished).2
    exact sound.sending member old begun unfinished
  · intro sender after grant member foundAfter holds
    rcases getElem?_set_cases foundAfter with ⟨same, rfl⟩ | ⟨_, old⟩
    · rw [← same] at found
      have held := sound.held member found holds
      exact held
    · exact sound.held member old holds
  · intro sender after grant file read member foundAfter collects
    have holds := congrArg Errand.grant collects
    obtain ⟨begun, unfinished⟩ := Errand.begun_of_grant holds
    obtain ⟨apart, old⟩ := working member foundAfter begun unfinished
    obtain ⟨named, start⟩ := sound.reading member old collects
    have active := isActive_of_isSending (sound.sending member old begun unfinished)
    have same := sound.sameAt_other found stepped old active apart
    exact ⟨same.name.trans named, start⟩

end Sound

namespace SenderStepped

variable {sender : Sender} {push : Push} {errand : Errand} {staged : State}
  {shown : List Event}

section

variable
  (stepped : SenderStepped settings state sender push errand staged shown)

include stepped

theorem counts (before : Counts state.staged) : Counts staged := by
  cases stepped with
  | allowed | released => exact step_counts before _
  | _ => exact before

theorem holds {grant : Nat} {clientID path : String} (held : Holds state.staged grant clientID path)
    (other : sender.errand.grant ≠ some grant) : Holds staged grant clientID path := by
  cases stepped with
  | allowed here => exact held.allow _ _
  | @released own here =>
    apply held.release
    rintro rfl
    rw [here] at other
    exact other rfl
  | _ => exact held

theorem grant {grant : Nat} (held : errand.grant = some grant) :
    (sender.errand.grant = some grant ∧ staged = state.staged) ∨
      (grant = state.staged.grants.length ∧
        Holds staged grant sender.clientID push.sourceFilePath) := by
  cases stepped with
  | allowed here =>
    cases held
    exact .inr ⟨rfl, holds_allow _ _ _⟩
  | started sending next =>
    rcases next with rfl | rfl
    all_goals cases held
  | moved here next =>
    rcases next with rfl | rfl
    all_goals
      cases held
      exact .inl ⟨here, rfl⟩
  | refused here | missed here | found here | read here | collected here =>
    cases held
    exact .inl ⟨by rw [here]; rfl, rfl⟩
  | released here => cases held

theorem begun :
    push.phase.isSending = true ∨
      (sender.errand ≠ .waiting ∧ sender.errand ≠ .done) := by
  cases stepped with
  | started sending next => exact .inl sending
  | collected here sending atEnd => exact .inl (by rw [sending]; rfl)
  | allowed here | refused here | missed here | found here | read here
  | released here => exact .inr (by simp [here])
  | moved here next => exact .inr (Errand.begun_of_grant here)

end

end SenderStepped

namespace Sound

theorem resolved_path (sound : Sound settings state) {push : Push}
    (member : push ∈ state.pushes) {clientID path : String}
    (resolved : (state.fileSystem clientID).resolveRequest
      (.fileread push.sourceFilePath) = .ok path) :
    path = push.sourceFilePath := by
  rw [((resolve_iff _ _ _).mp resolved).1, sound.clean push member]

theorem stored (sound : Sound settings state) {push : Push}
    (member : push ∈ state.pushes) (sending : push.phase.isSending = true) :
    push.phase = .sending (settings.md5 push.payload) ∧
      ∃ file, Stored state.files push.sourceFilePath push.payload file := by
  have prepared := sound.prepared push member
  generalize push.phase = phase at prepared sending
  cases prepared with
  | sending stored => exact ⟨rfl, _, stored⟩
  | _ => cases sending

variable {shown : List Event}

section

variable (sound : Sound settings state)
include sound

section

variable {sender : Sender} {push : Push} {errand : Errand} {staged : State}
  (foundPush : state.pushes[sender.push]? = some push)
  (stepped : SenderStepped settings state sender push errand staged shown)

include foundPush stepped

theorem collecting (member : sender ∈ state.senders)
    (sending : push.phase.isSending = true) {grant file : Nat} {read : List UInt8}
    (collects : errand = .collecting grant file read) :
    state.files.names push.sourceFilePath = some file ∧ read <+: push.payload := by
  have here := List.mem_of_getElem? foundPush
  cases stepped with
  | found asking resolved named =>
    cases collects
    rw [sound.resolved_path here resolved] at named
    exact ⟨named, nil_prefix⟩
  | read reads =>
    cases collects
    obtain ⟨named, start⟩ := sound.reading member foundPush reads
    obtain ⟨_, file, stored⟩ := sound.stored here sending
    cases named.symm.trans stored.named
    exact ⟨named, prefix_append_readAt stored.content start⟩
  | allowed | refused | missed | collected | released => cases collects
  | started sending next | moved holds next =>
    rcases next with rfl | rfl
    all_goals cases collects

theorem sends {index : Nat} (found : state.senders[index]? = some sender) :
    Sound settings { state with
      staged := staged
      senders := state.senders.set index { sender with errand := errand } } := by
  have here := List.mem_of_getElem? found
  have sending : push.phase.isSending = true := by
    rcases stepped.begun with sending | ⟨begun, unfinished⟩
    · exact sending
    · exact sound.sending here foundPush begun unfinished
  -- A permission that is new is held by nobody else.
  have fresh : ∀ {other grant}, other ∈ state.senders →
      other.errand.grant = some grant → grant < state.staged.grants.length := by
    intro other grant member holds
    have bound := sound.known other member
    have foundOther : state.pushes[other.push]? = some state.pushes[other.push] :=
      List.getElem?_eq_getElem bound
    exact (List.getElem?_eq_some_iff.mp (sound.held member foundOther holds)).1
  refine ⟨stepped.counts sound.counts, sound.clean, sound.alone, sound.prepared, ?_, ?_, ?_, ?_, ?_⟩
  · exact forall_mem_set sound.known (sound.known sender here)
  · intro other otherPush member foundOther begun unfinished
    rcases mem_or_eq_of_mem_set member with old | rfl
    · exact sound.sending old foundOther begun unfinished
    · cases foundPush.symm.trans foundOther
      exact sending
  · intro other otherPush grant member foundOther holds
    obtain ⟨place, foundPlace⟩ := List.mem_iff_getElem?.mp member
    rcases getElem?_set_cases foundPlace with ⟨_, rfl⟩ | ⟨apart, old⟩
    · cases foundPush.symm.trans foundOther
      rcases stepped.grant holds with ⟨before, same⟩ | ⟨_, held⟩
      · have held := sound.held here foundPush before
        rw [same]
        exact held
      · exact held
    · apply stepped.holds (sound.held (List.mem_of_getElem? old) foundOther holds)
      intro same
      exact apart (sound.distinct old found holds same)
  · have apart : ∀ {place other grant}, place ≠ index → state.senders[place]? = some other →
        errand.grant = some grant → other.errand.grant ≠ some grant := by
      intro place other grant different old holds otherHolds
      rcases stepped.grant holds with ⟨before, _⟩ | ⟨rfl, _⟩
      · exact different (sound.distinct old found otherHolds before)
      · exact Nat.lt_irrefl _ (fresh (List.mem_of_getElem? old) otherHolds)
    intro first second one other grant foundFirst foundSecond holds otherHolds
    rcases getElem?_set_cases foundFirst with ⟨rfl, rfl⟩ | ⟨different, old⟩
    · rcases getElem?_set_cases foundSecond with ⟨same, _⟩ | ⟨different, old⟩
      · exact same.symm
      · exact (apart different old holds otherHolds).elim
    · rcases getElem?_set_cases foundSecond with ⟨rfl, rfl⟩ | ⟨_, oldSecond⟩
      · exact (apart different old otherHolds holds).elim
      · exact sound.distinct old oldSecond holds otherHolds
  · intro other otherPush grant file read member foundOther collects
    rcases mem_or_eq_of_mem_set member with old | rfl
    · exact sound.reading old foundOther collects
    · cases foundPush.symm.trans foundOther
      exact sound.collecting foundPush stepped here sending collects

end

variable {push : Push}

theorem not_collects {index other : Nat} (found : state.pushes[index]? = some push)
    (active : push.phase.isActive = true) (different : other ≠ index) :
    ¬ state.Collects other push.sourceFilePath := by
  rintro ⟨otherPush, foundOther, samePath, otherActive, _⟩
  exact different (sound.alone foundOther found otherActive active samePath)

theorem push_undisturbed {index : Nat} {input : PushInput} {phase : Phase}
    {files : Files} (found : state.pushes[index]? = some push)
    (stepped : PushStepped settings state index push input phase files shown) :
    Undisturbed state shown := by
  have quiet : Undisturbed state [] := by
    constructor <;> simp
  cases stepped with
  | created here =>
    constructor
    · intro shownIndex shownPush member foundPush other different
      cases mem_singleton.mp member
      cases found.symm.trans foundPush
      exact sound.not_collects found (by rw [here]; rfl) different
    all_goals simp
  | removed here done =>
    constructor
    case removed =>
      intro shownIndex shownPush member foundPush other different
      cases mem_singleton.mp member
      cases found.symm.trans foundPush
      exact sound.not_collects found (by rw [here]; rfl) different
    all_goals simp
  | _ => exact quiet

theorem sender_undisturbed {sender : Sender} (member : sender ∈ state.senders)
    (foundPush : state.pushes[sender.push]? = some push) {errand : Errand} {staged : State}
    (stepped : SenderStepped settings state sender push errand staged shown) :
    Undisturbed state shown := by
  have quiet : Undisturbed state [] := by
    constructor <;> simp
  have here := List.mem_of_getElem? foundPush
  cases stepped with
  | @refused grant err asking refusal =>
    constructor
    case permitted =>
      intro index clientID shownPush refused foundShown
      cases mem_singleton.mp refused
      cases foundPush.symm.trans foundShown
      by_cases client : sender.clientID = ""
      · exact .inl client
      right
      apply eq_false_of_ne_true
      intro absolute
      have named : push.sourceFilePath ≠ "" := fun blank => by
        rw [blank] at absolute
        cases absolute
      have holds := sound.held member foundPush (by rw [asking]; rfl)
      have resolved := (resolve_iff (state.fileSystem sender.clientID)
        push.sourceFilePath push.sourceFilePath).mpr ⟨(sound.clean push here).symm, absolute,
          holds.isAllowed sound.counts client named⟩
      cases refusal.symm.trans resolved
    all_goals simp
  | missed asking resolved absent =>
    have sending := sound.sending member foundPush (by simp [asking]) (by simp [asking])
    obtain ⟨_, file, stored⟩ := sound.stored here sending
    rw [sound.resolved_path here resolved, stored.named] at absent
    cases absent
  | collected reads sending atEnd =>
    obtain ⟨named, start⟩ := sound.reading member foundPush reads
    obtain ⟨sums, file, stored⟩ := sound.stored here (by rw [sending]; rfl)
    cases named.symm.trans stored.named
    have whole := eq_of_readAt_nil stored.content start atEnd
    cases sending.symm.trans sums
    rw [if_pos (congrArg settings.md5 whole)]
    constructor
    case received =>
      intro index clientID bytes received
      cases mem_singleton.mp received
      exact ⟨push, foundPush, whole⟩
    all_goals simp
  | _ => exact quiet

theorem step {input : Input} {next : Server}
    (stepped : state.step settings input = some (next, shown)) :
    (ChecksAlone state input → Sound settings next) ∧ Undisturbed state shown := by
  cases input with
  | upload id payload clientIDs =>
    have quiet : Undisturbed state [] := by
      constructor <;> simp
    simp only [Server.step] at stepped
    split at stepped
    · cases stepped
      exact ⟨fun _ => sound, quiet⟩
    · cases stepped
      exact ⟨fun _ => sound.upload id payload clientIDs, quiet⟩
  | push index input =>
    simp only [Server.step, Option.bind_eq_bind, Option.bind_eq_some_iff] at stepped
    obtain ⟨push, found, ⟨phase, files, events⟩, moved, result⟩ := stepped
    cases result
    have stepped := pushStep_stepped moved
    exact ⟨fun admitted => sound.push found admitted stepped, sound.push_undisturbed found stepped⟩
  | sender index input =>
    simp only [Server.step, Option.bind_eq_bind, Option.bind_eq_some_iff] at stepped
    obtain ⟨sender, found, push, foundPush, ⟨errand, staged, events⟩, moved, result⟩ := stepped
    cases result
    have stepped := senderStep_stepped moved
    exact ⟨fun _ => sound.sends foundPush stepped found,
      sound.sender_undisturbed (List.mem_of_getElem? found) foundPush stepped⟩

end

end Sound

theorem run_sound {history : List Event}
    (run : Run (fileUploads settings) ChecksAlone (Server.started files)
      history state) : Sound settings state :=
  run.stateInvariant (Sound settings) (started_sound files)
    fun sound admitted stepped => (sound.step stepped).1 admitted

/-- As long as pushes pass their checks alone, none of them truncates or removes
a file that agents of another one have still to collect, and the agents of each
push get its payload. -/
theorem pushes_undisturbed (settings : Settings) (files : Files)
    {state next : Server} {history shown : List Event} {input : Input}
    (run : Run (fileUploads settings) ChecksAlone (Server.started files) history state)
    (stepped : (fileUploads settings).step state input = some (next, shown)) :
    Undisturbed state shown :=
  ((run_sound run).step stepped).2

def sampleSettings : Settings := ⟨"/var/lib/proxiport/filepush", fun bytes => bytes⟩

def twoUploads : List Input := [.upload "conf" [1, 2, 3] ["a"], .upload "conf" [4, 5, 6] ["b"]]

def writes (index : Nat) : List Input :=
  [.push index .create, .push index (.write 1), .push index (.write 1), .push index .close]

def sums (index : Nat) : List Input :=
  [.push index .open, .push index (.sum 1), .push index (.sum 1), .push index (.sum 1)]

def reads (sender : Nat) : List Input :=
  [.sender sender (.start true), .sender sender .allow,
    .sender sender (.connect true), .sender sender .request,
    .sender sender (.read 1), .sender sender (.read 1)]

def finishes (push sender : Nat) : List Input :=
  [.sender sender (.read 1), .sender sender .release,
    .push push (.remove true)]

/-- Whether an input is possible and shows the given events, in a state that
passes a check. -/
def showsNext (input : Input) (expected : List Event)
    (check : Server → Bool) (outcome : Server × List Event) : Bool :=
  check outcome.1 && ((fileUploads sampleSettings).step outcome.1 input).any
      fun result => result.2 = expected

variable {expected : List Event}

theorem exists_step_of_showsNext {input : Input} {check : Server → Bool}
    {outcome : Server × List Event} (passed : showsNext input expected check outcome = true) :
    check outcome.1 = true ∧ ∃ next, (fileUploads sampleSettings).step outcome.1 input =
        some (next, expected) := by
  simp only [showsNext, Bool.and_eq_true, Option.any_eq_true, decide_eq_true_eq] at passed
  obtain ⟨checked, ⟨next, shown⟩, stepped, same⟩ := passed
  exact ⟨checked, next, same ▸ stepped⟩

def oneAfterTheOther : List Input :=
  List.flatten [twoUploads, [.push 0 .check], writes 0, sums 0, reads 0,
    finishes 0 0, [.push 1 .check], writes 1, sums 1, reads 1]

theorem pushes_undisturbed_oneAfterTheOther :
    ∃ state next history,
      Run (fileUploads sampleSettings) ChecksAlone (Server.started .none) history state ∧
      (fileUploads sampleSettings).step state (.sender 1 (.read 1)) =
        some (next, [.received 1 "b" [4, 5, 6]]) ∧
      Undisturbed state [.received 1 "b" [4, 5, 6]] := by
  obtain ⟨state, history, run, passed⟩ := Run.exists_ofExecute
    (fileUploads sampleSettings) ChecksAlone (Server.started .none) oneAfterTheOther
    (showsNext (.sender 1 (.read 1)) [.received 1 "b" [4, 5, 6]] fun _ => true)
    (by decide +kernel) (by decide +kernel)
  obtain ⟨_, next, stepped⟩ := exists_step_of_showsNext passed
  exact ⟨state, next, history, run, stepped, pushes_undisturbed sampleSettings .none run stepped⟩

def bothChecked : List Input :=
  List.flatten [twoUploads, [.push 0 .check, .push 1 .check], writes 0]

def overwritten : List Input := List.flatten [bothChecked, writes 1, sums 0, reads 0]

instance decidableCollects (state : Server) (index : Nat) (path : String) :
    Decidable (state.Collects index path) :=
  inferInstanceAs (Decidable (∃ push, push ∈ state.pushes[index]? ∧ _ ∧ _ ∧ ∃ sender ∈ _, _ ∧ _))

def isCollectedBy (index other : Nat) (state : Server) : Bool :=
  state.pushes[index]?.any fun push =>
    decide (state.Collects other push.sourceFilePath)

def hasOtherPayload (index : Nat) (bytes : List UInt8) (state : Server) :
    Bool :=
  state.pushes[index]?.all fun push => push.payload ≠ bytes

theorem exists_disturbed (inputs : List Input) {input : Input} (check : Server → Bool)
    (disturbs : ∀ state, check state = true → ¬ Undisturbed state expected)
    (passed : (((fileUploads sampleSettings).execute (Server.started .none)
      inputs).any (showsNext input expected check)) = true) :
    ∃ state next history, Run (fileUploads sampleSettings) Unrestricted (Server.started .none)
        history state ∧
      (fileUploads sampleSettings).step state input = some (next, expected) ∧
      ¬ Undisturbed state expected := by
  obtain ⟨state, history, run, shows⟩ := Run.exists_unrestricted
    (fileUploads sampleSettings) (Server.started .none) inputs _ passed
  obtain ⟨checked, next, stepped⟩ := exists_step_of_showsNext shows
  exact ⟨state, next, history, run, stepped, disturbs state checked⟩

theorem collects_of_isCollectedBy {state : Server} {index other : Nat}
    (collected : isCollectedBy index other state = true) :
    ∃ push, state.pushes[index]? = some push ∧ state.Collects other push.sourceFilePath := by
  simpa only [isCollectedBy, Option.any_eq_true, decide_eq_true_eq] using collected

/-- Two pushes with one id: the second truncates the file that the agent of the
first has still to collect, this agent gets the payload of the second with a
matching checksum, and the first then removes the file that the agent of the
second has still to collect. -/
theorem pushes_collide :
    (∃ state next history,
      Run (fileUploads sampleSettings) Unrestricted (Server.started .none) history state ∧
      (fileUploads sampleSettings).step state (.push 1 .create) = some (next, [.truncated 1]) ∧
      ¬ Undisturbed state [.truncated 1]) ∧
    (∃ state next history, Run (fileUploads sampleSettings) Unrestricted (Server.started .none)
        history state ∧
      (fileUploads sampleSettings).step state (.sender 0 (.read 1)) =
        some (next, [.received 0 "a" [4, 5, 6]]) ∧
      ¬ Undisturbed state [.received 0 "a" [4, 5, 6]]) ∧
    ∃ state next history, Run (fileUploads sampleSettings) Unrestricted (Server.started .none)
        history state ∧
      (fileUploads sampleSettings).step state (.push 0 (.remove true)) = some (next, [.removed 0]) ∧
      ¬ Undisturbed state [.removed 0] := by
  refine ⟨?_, ?_, ?_⟩
  · refine exists_disturbed bothChecked (isCollectedBy 1 0) ?_ (by decide +kernel)
    intro state collected undisturbed
    obtain ⟨push, found, collects⟩ := collects_of_isCollectedBy collected
    exact undisturbed.truncated (mem_singleton_self _) found 0 Nat.zero_ne_one collects
  · refine exists_disturbed overwritten (hasOtherPayload 0 [4, 5, 6]) ?_ (by decide +kernel)
    intro state other undisturbed
    obtain ⟨push, found, same⟩ := undisturbed.received (mem_singleton_self _)
    rw [hasOtherPayload, found] at other
    exact of_decide_eq_true other same.symm
  · refine exists_disturbed (overwritten ++ [.sender 0 (.read 1), .sender 0 .release])
      (isCollectedBy 0 1) ?_ (by decide +kernel)
    intro state collected undisturbed
    obtain ⟨push, found, collects⟩ := collects_of_isCollectedBy collected
    exact undisturbed.removed (mem_singleton_self _) found 1 Nat.one_ne_zero collects

end ProxiPort.Uploads
