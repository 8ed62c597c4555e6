import ProxiPort.Clients.Sessions

/-!
# One `StartClient` for each client at a time

Every section of `StartClient` by what it does, and what the lock of the client
id gives: from `NewClientFromConnRequest` to its end, a call finds the client
object with its own connection and its own auth id.
-/

namespace ProxiPort.Clients

open Concurrency List Keyed

namespace Start

def address : Start → Option Address
  | .locking | .lookingUp => none
  | .checking client | .releasing client _ | .connecting client _
  | .tunnelling client _ | .storing client | .updating client => some client
  | .checkingAuthID existing _ | .registering existing _ => existing

def taken : Start → Option Address
  | .connecting client _ | .tunnelling client _ | .storing client
  | .updating client => some client
  | _ => none

theorem address_of_taken {point : Start} {client : Address}
    (taken : point.taken = some client) : point.address = some client := by
  cases point with
  | connecting other kept | tunnelling other kept | storing other
  | updating other => exact taken
  | locking | lookingUp | checking other | releasing other kept
  | checkingAuthID existing kept | registering existing kept => cases taken

end Start

variable {keep : Option Int} {repo changed : Repository} {choice : Choice}

section

variable (keep : Option Int) (repo : Repository) (call : StartCall)
  (choice : Choice)

inductive StartStep : Start → Repository → Thread → Prop where
  | locks (free : call.clientID ∉ repo.startLocks) :
      StartStep .locking (repo.lock call.clientID) (.starting call .lookingUp)
  | misses (absent : repo.getByID keep choice.now call.clientID = none) :
      StartStep .lookingUp repo (.starting call (.checkingAuthID none []))
  | finds {client : Address} (found : repo.getByID keep choice.now call.clientID = some client) :
      StartStep .lookingUp repo (.starting call (.checking client))
  | accepts {client : Address} {kept : List Remote} : StartStep (.checking client) repo
        (.starting call (.releasing client kept))
  | releases {client : Address} {kept : List Remote} : StartStep (.releasing client kept)
        (repo.write client (repo.client client).releaseTunnels)
        (.starting call (.checkingAuthID (some client) kept))
  | passes {existing : Option Address} {kept : List Remote}
      (unused : (!call.authMultiuseCreds && repo.isClientAuthIDInUse keep
        choice.now call.clientAuthID call.clientID) = false) :
      StartStep (.checkingAuthID existing kept) repo (.starting call (.registering existing kept))
  | refuses {point : Start} {err : Err} (started : point ≠ .locking) (early : point.taken = none) :
      StartStep point (repo.unlock call.clientID) (.refused err)
  | registers {existing : Option Address} {kept : List Remote} :
      StartStep (.registering existing kept) (call.register repo call.host existing).1
        (.starting call (.connecting (call.register repo call.host existing).2 kept))
  | connects {client : Address} {kept : List Remote} :
      StartStep (.connecting client kept) (repo.setDisconnectedAt client none)
        (.starting call (.tunnelling client kept))
  | tunnels {client : Address} {kept : List Remote} {after : Client}
      {distributor : Ports.PortDistributor} (only : OnlyTunnels (repo.client client) after) :
      StartStep (.tunnelling client kept)
        { repo.write client after with distributor := distributor }
        (.starting call (.storing client))
  | tunnelsFail {client : Address} {kept : List Remote} {after : Client}
      {distributor : Ports.PortDistributor} {err : Err}
      (only : OnlyTunnels (repo.client client) after) (failed : (call.startTunnels kept
        ⟨repo.client client, repo.distributor⟩).2 = .error err) :
      StartStep (.tunnelling client kept) ({ repo.write client after with
          distributor := distributor }.unlock call.clientID)
        (.refused err)
  | stores {client : Address} : StartStep (.storing client)
        (repo.saveRow client) (.starting call (.updating client))
  | storeFails {client : Address} {err : String} (failed : choice.failure = some err) :
      StartStep (.storing client) (repo.unlock call.clientID) (.refused (StartCall.saveError err))
  | updates {client : Address} : StartStep (.updating client)
        ((repo.updateClient client).unlock call.clientID) (.waiting client call.sshConn)

end

variable {point : Start} {call : StartCall} {after : Thread}

theorem startStep_of_section
    (ran : startSection keep repo call choice point = some (changed, after)) :
    StartStep keep repo call choice point changed after := by
  cases point with
  | locking =>
    simp only [startSection] at ran
    split at ran
    · cases ran
    · rename_i free
      cases ran
      exact .locks free
  | lookingUp =>
    simp only [startSection] at ran
    split at ran
    · cases ran
      exact .refuses nofun rfl
    · split at ran
      · rename_i absent
        cases ran
        exact .misses absent
      · rename_i found
        cases ran
        exact .finds found
  | checking client =>
    simp only [startSection] at ran
    split at ran
    · cases ran
      exact .refuses nofun rfl
    · cases ran
      exact .accepts
  | releasing client kept =>
    cases ran
    exact .releases
  | checkingAuthID existing kept =>
    simp only [startSection] at ran
    split at ran
    · cases ran
      exact .refuses nofun rfl
    · rename_i unused
      cases ran
      exact .passes (Bool.eq_false_iff.mpr unused)
  | registering existing kept =>
    cases ran
    exact .registers
  | connecting client kept =>
    cases ran
    exact .connects
  | tunnelling client kept =>
    simp only [startSection] at ran
    have only := startTunnels_client call kept ⟨repo.client client, repo.distributor⟩
    split at ran
    · rename_i failed
      cases ran
      exact .tunnelsFail only failed
    · cases ran
      exact .tunnels only
  | storing client =>
    simp only [startSection] at ran
    split at ran
    · rename_i failed
      cases ran
      exact .storeFails failed
    · cases ran
      exact .stores
  | updating client =>
    cases ran
    exact .updates

structure SameOwners (repo changed : Repository) : Prop where
  connection : ∀ address, (changed.client address).connection = (repo.client address).connection
  clientAuthID : ∀ address, (changed.client address).clientAuthID =
    (repo.client address).clientAuthID

theorem SameOwners.refl (repo : Repository) : SameOwners repo repo := ⟨fun _ => rfl, fun _ => rfl⟩

variable {address : Address}

theorem SameOwners.write {client : Client}
    (connection : client.connection = (repo.client address).connection)
    (clientAuthID : client.clientAuthID = (repo.client address).clientAuthID) :
    SameOwners repo (repo.write address client) := by
  refine ⟨fun other => ?_, fun other => ?_⟩
  · by_cases same : other = address
    · subst same
      rw [Repository.client_write_self]
      exact connection
    · rw [Repository.client_write_of_ne same]
  · by_cases same : other = address
    · subst same
      rw [Repository.client_write_self]
      exact clientAuthID
    · rw [Repository.client_write_of_ne same]

variable {distributor : Ports.PortDistributor} {client : Address}

theorem SameOwners.startsTunnels {after : Client} (only : OnlyTunnels (repo.client client) after) :
    SameOwners repo
      { repo.write client after with distributor := distributor } := by
  have same : SameOwners repo (repo.write client after) := .write only.connection only.clientAuthID
  exact ⟨same.connection, same.clientAuthID⟩

theorem SameOwners.unlock (same : SameOwners repo changed) (id : String) :
    SameOwners repo (changed.unlock id) :=
  ⟨same.connection, same.clientAuthID⟩

def Thread.inside : Thread → Option String
  | .starting _ .locking => none
  | .starting call _ => some call.clientID
  | _ => none

def Thread.setsDisconnectedAt (repo : Repository) : Thread → Option Address
  | .starting call (.registering existing _) =>
    some (call.register repo call.host existing).2
  | .starting _ (.connecting client _) | .tearing client _ .marking
  | .pinging client (.failed _) | .beating client (.clearing _)
  | .beating client .reviving => some client
  | _ => none

def Thread.savesRow : Thread → Option Address
  | .starting _ (.storing client) | .tearing client _ .storing
  | .editing client .storing => some client
  | _ => none

def Thread.updatesEntry : Thread → Option Address
  | .starting _ (.updating client) | .tearing client _ .updating
  | .editing client .updating => some client
  | _ => none

variable {thread after : Thread} {shown : List Action}

/-- What the sections outside `StartClient` write. -/
inductive Writes (repo : Repository) (thread : Thread) : Repository → Prop where
  | nothing : Writes repo thread repo
  | accepts : Writes repo thread { repo with accepted := repo.accepted + 1 }
  | sets {client : Address} {time : Option Time}
      (sets : thread.setsDisconnectedAt repo = some client) :
      Writes repo thread (repo.setDisconnectedAt client time)
  | stamps {client : Address} {time : Option Time} :
      Writes repo thread (repo.setLastHeartbeatAt client time)
  | edits {client : Address} (edit : Edit) :
      Writes repo thread (repo.write client (edit.apply (repo.client client)))
  | saves {client : Address} (saves : thread.savesRow = some client) :
      Writes repo thread (repo.saveRow client)
  | updates {client : Address} (updates : thread.updatesEntry = some client) :
      Writes repo thread (repo.updateClient client)
  | deletesRow {id : String} : Writes repo thread (repo.deleteRow id)
  | removes {id : String} : Writes repo thread (repo.removeClient id)
  | closes {client : Address} : Writes repo thread (repo.close client)

theorem teardownSection_writes (keep : Option Int) (repo : Repository)
    (client : Address) (cause : Nat) (choice : Choice) (point : Teardown) :
    Writes repo (.tearing client cause point)
        (teardownSection keep repo client cause choice point).1 ∧
      (teardownSection keep repo client cause choice point).2.1.inside =
        none := by
  cases point with
  | marking =>
    simp only [teardownSection]
    split
    · exact ⟨.nothing, rfl⟩
    · exact ⟨.sets rfl, rfl⟩
  | lookingUp =>
    simp only [teardownSection]
    split
    all_goals exact ⟨.nothing, rfl⟩
  | storing =>
    simp only [teardownSection]
    split
    · exact ⟨.nothing, rfl⟩
    · exact ⟨.saves rfl, rfl⟩
  | updating => exact ⟨.updates rfl, rfl⟩
  | deletingRow =>
    simp only [teardownSection]
    split
    · exact ⟨.nothing, rfl⟩
    · exact ⟨.deletesRow, rfl⟩
  | removing => exact ⟨.removes, rfl⟩

theorem pingSection_writes (repo : Repository) (client : Address) (choice : Choice) (point : Ping) :
    Writes repo (.pinging client point) (pingSection repo client choice point).1 ∧
      (pingSection repo client choice point).2.1.inside = none := by
  cases point with
  | reading | waiting =>
    simp only [pingSection]
    split
    all_goals exact ⟨.nothing, rfl⟩
  | failed sshConn => exact ⟨.sets rfl, rfl⟩
  | closing sshConn => exact ⟨.closes, rfl⟩

theorem beatSection_writes (point : Beat) :
    Writes repo (.beating address point)
        (beatSection repo address choice point).1 ∧
      (beatSection repo address choice point).2.inside = none := by
  cases point with
  | clearing | reviving => exact ⟨.sets rfl, rfl⟩
  | stamping again =>
    cases again with
    | false | true => exact ⟨.stamps, rfl⟩

theorem deletionSection_writes (point : Deletion) :
    Writes repo (.deleting address point)
        (deletionSection repo address choice point).1 ∧
      (deletionSection repo address choice point).2.inside = none := by
  cases point with
  | checking =>
    simp only [deletionSection]
    split
    all_goals exact ⟨.nothing, rfl⟩
  | closing =>
    simp only [deletionSection]
    split
    · exact ⟨.nothing, rfl⟩
    · exact ⟨.closes, rfl⟩
  | deletingRow =>
    simp only [deletionSection]
    split
    · exact ⟨.nothing, rfl⟩
    · exact ⟨.deletesRow, rfl⟩
  | removing => exact ⟨.removes, rfl⟩

theorem editSection_writes (point : Editing) :
    Writes repo (.editing address point)
        (editSection repo address choice point).1 ∧
      (editSection repo address choice point).2.inside = none := by
  cases point with
  | changing edit => exact ⟨.edits edit, rfl⟩
  | storing =>
    simp only [editSection]
    split
    · exact ⟨.nothing, rfl⟩
    · exact ⟨.saves rfl, rfl⟩
  | updating => exact ⟨.updates rfl, rfl⟩

/-- One section of a thread.  Outside `StartClient` it does not enter it. -/
inductive AtomicStep (keep : Option Int) (repo : Repository) (choice : Choice)
    (changed : Repository) (after : Thread) : Thread → Prop where
  | starts {call : StartCall} {point : Start}
      (stepped : StartStep keep repo call choice point changed after) :
      AtomicStep keep repo choice changed after (.starting call point)
  | other {thread : Thread} (outside : thread.inside = none)
      (writes : Writes repo thread changed ∧ after.inside = none) :
      AtomicStep keep repo choice changed after thread

theorem atomicStep_of_atomic (ran : atomic keep repo thread choice = some (changed, after, shown)) :
    AtomicStep keep repo choice changed after thread := by
  cases thread with
  | arriving call =>
    cases ran
    exact .other rfl ⟨.accepts, rfl⟩
  | starting call point =>
    obtain ⟨⟨_, _⟩, ranHere, result⟩ := Option.map_eq_some_iff.mp ran
    cases result
    exact .starts (startStep_of_section ranHere)
  | waiting client sshConn =>
    simp only [atomic] at ran
    split at ran
    · cases ran
      exact .other rfl ⟨.nothing, rfl⟩
    · cases ran
  | comparing client sshConn =>
    simp only [atomic] at ran
    split at ran
    all_goals
      cases ran
      exact .other rfl ⟨.nothing, rfl⟩
  | requested clientID sshConn | pingDue clientID | heartbeat clientID
  | deletionDue clientID | editDue clientID edit =>
    cases ran
    unfold withClient
    split
    all_goals exact .other rfl ⟨.nothing, rfl⟩
  | tearing client cause point =>
    have writes := teardownSection_writes keep repo client cause choice point
    rw [Option.some.inj ran] at writes
    exact .other rfl writes
  | pinging client point =>
    have writes := pingSection_writes repo client choice point
    rw [Option.some.inj ran] at writes
    exact .other rfl writes
  | beating client point =>
    cases ran
    exact .other rfl (beatSection_writes point)
  | deleting client point =>
    cases ran
    exact .other rfl (deletionSection_writes point)
  | editing client point =>
    cases ran
    exact .other rfl (editSection_writes point)
  | refused err | deleted clientID | finished => cases ran

/-- A section that leaves the locks and the owners alone, after which the thread
holds no lock. -/
structure Aside (repo changed : Repository) (after : Thread) : Prop where
  startLocks : changed.startLocks = repo.startLocks
  owners : SameOwners repo changed
  outside : after.inside = none

theorem Aside.still (repo : Repository) (outside : after.inside = none) : Aside repo repo after :=
  ⟨rfl, .refl repo, outside⟩

theorem Aside.sameObjects (startLocks : changed.startLocks = repo.startLocks)
    (objects : changed.objects = repo.objects) (outside : after.inside = none) :
    Aside repo changed after where
  startLocks := startLocks
  owners := by
    refine ⟨fun address => ?_, fun address => ?_⟩
    all_goals rw [Repository.client, Repository.client, objects]
  outside := outside

theorem Aside.write {client : Client}
    (connection : client.connection = (repo.client address).connection)
    (clientAuthID : client.clientAuthID =
      (repo.client address).clientAuthID) (outside : after.inside = none) :
    Aside repo (repo.write address client) after :=
  ⟨rfl, .write connection clientAuthID, outside⟩

theorem Aside.close (repo : Repository) (address : Address) (outside : after.inside = none) :
    Aside repo (repo.close address) after := by
  simp only [Repository.close]
  split
  · exact .still repo outside
  · exact .sameObjects rfl rfl outside

theorem Writes.aside (writes : Writes repo thread changed)
    (outside : after.inside = none) : Aside repo changed after := by
  cases writes with
  | nothing => exact .still repo outside
  | sets | stamps => exact .write rfl rfl outside
  | edits edit =>
    exact .write (edit.connection _) (edit.clientAuthID _) outside
  | closes => exact .close repo _ outside
  | accepts | saves | updates | deletesRow | removes =>
    exact .sameObjects rfl rfl outside

section

variable {existing : Option Address} {own : Address}
  (registered : call.register repo call.host existing = (changed, own))
include registered

theorem register_frame :
    changed.clientState = repo.clientState ∧ changed.stored = repo.stored ∧
      changed.accepted = repo.accepted ∧ changed.closed = repo.closed := by
  cases existing with
  | none | some =>
    cases registered
    exact ⟨rfl, rfl, rfl, rfl⟩

theorem register_self :
    changed.client own =
      { call.newClientFromConnRequest (existing.map repo.client) call.host with id := own.id } := by
  cases existing with
  | none | some =>
    cases registered
    exact Repository.client_write_self

theorem register_of_ne (different : address ≠ own) :
    changed.client address = repo.client address := by
  cases existing with
  | none | some =>
    cases registered
    exact Repository.client_write_of_ne different

theorem register_id (named : ∀ client ∈ existing, client.id = call.clientID) :
    own.id = call.clientID := by
  cases existing with
  | none =>
    cases registered
    rfl
  | some =>
    cases registered
    exact named _ rfl

end

theorem StartStep.owners (stepped : StartStep keep repo call choice point changed after) :
    (SameOwners repo changed ∧ ∀ {call' point'}, after = .starting call' point' →
        ∀ client ∈ point'.taken, client ∈ point.taken) ∨
      ∃ existing kept own, point = .registering existing kept ∧
        call.register repo call.host existing = (changed, own) ∧
        after = .starting call (.connecting own kept) := by
  cases stepped with
  | registers => exact .inr ⟨_, _, _, rfl, rfl, rfl⟩
  | releases =>
    refine .inl ⟨.write rfl rfl, ?_⟩
    rintro _ _ ⟨⟩
    exact nofun
  | connects =>
    refine .inl ⟨.write rfl rfl, ?_⟩
    rintro _ _ ⟨⟩
    exact fun _ taken => taken
  | tunnels only =>
    refine .inl ⟨.startsTunnels only, ?_⟩
    rintro _ _ ⟨⟩
    exact fun _ taken => taken
  | tunnelsFail only =>
    exact .inl ⟨.unlock (.startsTunnels only) _, nofun⟩
  | stores =>
    refine .inl ⟨⟨fun _ => rfl, fun _ => rfl⟩, ?_⟩
    rintro _ _ ⟨⟩
    exact fun _ taken => taken
  | locks | misses | finds | accepts | passes =>
    refine .inl ⟨⟨fun _ => rfl, fun _ => rfl⟩, ?_⟩
    rintro _ _ ⟨⟩
    exact nofun
  | refuses | storeFails | updates =>
    exact .inl ⟨⟨fun _ => rfl, fun _ => rfl⟩, nofun⟩

theorem StartStep.lock (stepped : StartStep keep repo call choice point changed after) :
    (after.inside = (Thread.starting call point).inside ∧ changed.startLocks = repo.startLocks) ∨
    ((Thread.starting call point).inside = none ∧ after.inside = some call.clientID ∧
      call.clientID ∉ repo.startLocks ∧
      changed.startLocks = insert call.clientID repo.startLocks) ∨
    ((Thread.starting call point).inside = some call.clientID ∧ after.inside = none ∧
      changed.startLocks = repo.startLocks.erase call.clientID) := by
  cases stepped with
  | locks free => exact .inr (.inl ⟨rfl, rfl, free, rfl⟩)
  | @registers existing =>
    refine .inl ⟨rfl, ?_⟩
    cases existing with
    | none | some => rfl
  | refuses started early =>
    refine .inr (.inr ⟨?_, rfl, rfl⟩)
    simp [Thread.inside]
  | tunnelsFail | storeFails | updates => exact .inr (.inr ⟨rfl, rfl, rfl⟩)
  | _ => exact .inl ⟨rfl, rfl⟩

theorem StartStep.named {call call' : StartCall} {point point' : Start}
    (stepped : StartStep keep repo call choice point changed (.starting call' point'))
    (named : ∀ client ∈ point.address, client.id = call.clientID) :
    call' = call ∧ ∀ client ∈ point'.address, client.id = call.clientID := by
  cases stepped with
  | locks | misses => exact ⟨rfl, nofun⟩
  | finds found =>
    refine ⟨rfl, ?_⟩
    rintro client ⟨⟩
    exact (Table.get_eq_some_iff.mp (Repository.getByID_eq_some found)).2
  | registers =>
    refine ⟨rfl, ?_⟩
    rintro client ⟨⟩
    exact register_id rfl named
  | _ => exact ⟨rfl, named⟩

def Thread.isInside (id : String) (thread : Thread) : Bool := thread.inside = some id

/-- At most one thread is inside `StartClient` for a client, and what it has
made its own stays so. -/
structure Exclusive (config : Config Repository Thread) : Prop where
  turns : ∀ id, config.threads.countP (Thread.isInside id) =
    if id ∈ config.shared.startLocks then 1 else 0
  named : ∀ {call point}, Thread.starting call point ∈ config.threads →
    ∀ client ∈ point.address, client.id = call.clientID
  held : ∀ {call point}, Thread.starting call point ∈ config.threads → ∀ client ∈ point.taken,
      (config.shared.client client).connection = some call.sshConn ∧
      (config.shared.client client).clientAuthID = call.clientAuthID

theorem exclusive_initial (rows : Table Client.id) (now : Time)
    (distributor : Ports.PortDistributor) : Exclusive (initial rows now distributor) where
  turns := fun _ => rfl
  named := nofun
  held := nofun

variable {config : Config Repository Thread}

theorem Exclusive.inside_unique (exclusive : Exclusive config) {first second : Thread} {id : String}
    (firstMember : first ∈ config.threads) (secondMember : second ∈ config.threads)
    (firstInside : first.inside = some id)
    (secondInside : second.inside = some id) : first = second := by
  have once : config.threads.countP (Thread.isInside id) ≤ 1 := by
    rw [exclusive.turns id]
    split
    · exact Nat.le_refl 1
    · exact Nat.zero_le 1
  refine eq_of_countP_le_one once firstMember secondMember ?_ ?_
  · simp [Thread.isInside, firstInside]
  · simp [Thread.isInside, secondInside]

theorem inside_of_address (address : point.address = some client) :
    (Thread.starting call point).inside = some call.clientID := by
  cases point with
  | locking => cases address
  | lookingUp | checking other | releasing other kept
  | checkingAuthID existing kept | registering existing kept
  | connecting other kept | tunnelling other kept | storing other
  | updating other => rfl

theorem Exclusive.eq_of_address (exclusive : Exclusive config)
    {call other : StartCall} {point otherPoint : Start} {otherClient : Address}
    (member : .starting call point ∈ config.threads)
    (otherMember : .starting other otherPoint ∈ config.threads)
    (address : point.address = some client) (otherAddress : otherPoint.address = some otherClient)
    (sameID : otherClient.id = client.id) :
    Thread.starting other otherPoint = .starting call point := by
  have inside : (Thread.starting other otherPoint).inside = some call.clientID := by
    rw [inside_of_address otherAddress,
      ← exclusive.named otherMember otherClient otherAddress, sameID,
      exclusive.named member client address]
  exact exclusive.inside_unique otherMember member inside (inside_of_address address)

variable {index : Nat}

theorem turns_advance (exclusive : Exclusive config) (found : config.threads[index]? = some thread)
    (lock : (after.inside = thread.inside ∧ changed.startLocks = config.shared.startLocks) ∨
      ∃ clientID, (thread.inside = none ∧ after.inside = some clientID ∧
          clientID ∉ config.shared.startLocks ∧
          changed.startLocks = insert clientID config.shared.startLocks) ∨
        (thread.inside = some clientID ∧ after.inside = none ∧ changed.startLocks =
            config.shared.startLocks.erase clientID)) (id : String) :
    (config.threads.set index after).countP (Thread.isInside id) =
      if id ∈ changed.startLocks then 1 else 0 := by
  have count := Program.countP_set found after (Thread.isInside id)
  have before := exclusive.turns id
  rcases lock with ⟨same, locks⟩ |
    ⟨clientID, ⟨outside, inside, free, locks⟩ | ⟨inside, outside, locks⟩⟩
  · have tests : Thread.isInside id after = Thread.isInside id thread := by
      rw [Thread.isInside, Thread.isInside, same]
    rw [tests] at count
    rw [locks, ← before]
    omega
  · have leaves : Thread.isInside id thread = false := by
      simp [Thread.isInside, outside]
    rw [leaves] at count
    by_cases same : id = clientID
    · have enters : Thread.isInside id after = true := by
        simp [Thread.isInside, inside, same]
      rw [same, if_neg free, ← same] at before
      rw [enters] at count
      rw [locks, if_pos (by simp [same]), ← Nat.zero_add 1, ← before]
      exact count
    · have stays : Thread.isInside id after = false := by
        simp [Thread.isInside, inside, Ne.symm same]
      rw [stays] at count
      simp only [locks, Finset.mem_insert, same, false_or]
      exact count.trans before
  · have leaves : Thread.isInside id after = false := by
      simp [Thread.isInside, outside]
    rw [leaves] at count
    by_cases same : id = clientID
    · have was : Thread.isInside id thread = true := by
        simp [Thread.isInside, inside, same]
      rw [was] at count
      have atMost : config.threads.countP (Thread.isInside id) ≤ 1 := by
        rw [before]
        split
        · exact Nat.le_refl 1
        · exact Nat.zero_le 1
      rw [locks, if_neg (by simp [same])]
      simp only [if_true, Bool.false_eq_true, if_false] at count
      omega
    · have stays : Thread.isInside id thread = false := by
        simp [Thread.isInside, inside, Ne.symm same]
      rw [stays] at count
      simp only [locks, Finset.mem_erase, ne_eq, same, not_false_eq_true, true_and]
      exact count.trans before

section

variable {index : Nat} (exclusive : Exclusive config)
  (found : config.threads[index]? = some (.starting call point))
  (stepped : StartStep keep config.shared call choice point changed after)

include exclusive found stepped

theorem held_startStep {other : StartCall} {otherPoint : Start}
    (here : .starting other otherPoint ∈ config.threads.set index after)
    {client : Address} (taken : client ∈ otherPoint.taken) :
    (changed.client client).connection = some other.sshConn ∧
      (changed.client client).clientAuthID = other.clientAuthID := by
  have member := List.mem_of_getElem? found
  have named := exclusive.named member
  rcases stepped.owners with ⟨owners, before⟩ | ⟨existing, kept, own, rfl, registered, rfl⟩
  · rw [owners.connection, owners.clientAuthID]
    rcases mem_or_eq_of_mem_set here with old | rfl
    · exact exclusive.held old client taken
    · obtain ⟨rfl, _⟩ := stepped.named named
      exact exclusive.held member client (before rfl client taken)
  · have mine := register_id registered named
    rcases mem_or_eq_of_mem_set here with old | same
    · -- The other call would be inside for the same client.
      have different : client ≠ own := by
        rintro rfl
        have works := Start.address_of_taken taken
        have theirs := exclusive.named old _ works
        have inside : (Thread.starting other otherPoint).inside = some call.clientID := by
          rw [inside_of_address works, ← theirs, mine]
        cases exclusive.inside_unique old member inside rfl
        cases taken
      rw [register_of_ne registered different]
      exact exclusive.held old client taken
    · cases same
      cases taken
      rw [register_self registered]
      exact ⟨rfl, rfl⟩

theorem Exclusive.advance_start : Exclusive ⟨changed, config.threads.set index after⟩ where
  turns := by
    refine turns_advance exclusive found ?_
    rcases stepped.lock with same | locked | unlocked
    · exact .inl same
    · exact .inr ⟨_, .inl locked⟩
    · exact .inr ⟨_, .inr unlocked⟩
  named := by
    intro other otherPoint here
    rcases mem_or_eq_of_mem_set here with old | rfl
    · exact exclusive.named old
    · obtain ⟨rfl, named⟩ := stepped.named (exclusive.named (List.mem_of_getElem? found))
      exact named
  held := fun here _ taken => held_startStep exclusive found stepped here taken

end

theorem address_of_outside (outside : (Thread.starting call point).inside = none) :
    point.address = none := by
  cases point with
  | locking => rfl
  | lookingUp | checking other | releasing other kept
  | checkingAuthID existing kept | registering existing kept
  | connecting other kept | tunnelling other kept | storing other
  | updating other => cases outside

section

variable (exclusive : Exclusive config)
include exclusive

theorem Exclusive.advance_aside (found : config.threads[index]? = some thread)
    (outside : thread.inside = none) (aside : Aside config.shared changed after)
    : Exclusive ⟨changed, config.threads.set index after⟩ where
  turns := turns_advance exclusive found (.inl ⟨aside.outside.trans outside.symm, aside.startLocks⟩)
  named := by
    intro call point here
    rcases mem_or_eq_of_mem_set here with old | rfl
    · exact exclusive.named old
    · rw [address_of_outside aside.outside]
      exact nofun
  held := by
    intro call point here client taken
    rw [aside.owners.connection, aside.owners.clientAuthID]
    rcases mem_or_eq_of_mem_set here with old | rfl
    · exact exclusive.held old client taken
    · have address := Start.address_of_taken taken
      rw [address_of_outside aside.outside] at address
      cases address

theorem Exclusive.advance
    (found : config.threads[index]? = some thread) (ran : atomic keep config.shared thread choice =
      some (changed, after, shown)) :
    Exclusive ⟨changed, config.threads.set index after⟩ := by
  cases atomicStep_of_atomic ran with
  | starts stepped => exact exclusive.advance_start found stepped
  | other outside writes =>
    exact exclusive.advance_aside found outside (writes.1.aside writes.2)

theorem Exclusive.spawn {thread : Thread}
    (outside : thread.inside = none) : Exclusive ⟨config.shared, config.threads ++ [thread]⟩ where
  turns := by
    intro id
    have leaves : Thread.isInside id thread = false := by
      simp [Thread.isInside, outside]
    rw [countP_append, exclusive.turns id]
    simp [leaves]
  named := by
    intro call point here
    rcases mem_or_eq_of_mem_concat here with old | rfl
    · exact exclusive.named old
    · rw [address_of_outside outside]
      exact nofun
  held := by
    intro call point here client taken
    rcases mem_or_eq_of_mem_concat here with old | rfl
    · exact exclusive.held old client taken
    · have address := Start.address_of_taken taken
      rw [address_of_outside outside] at address
      cases address

theorem step_exclusive {next : Config Repository Thread} {move : Move Call Choice Nat}
    (stepped : (program keep).system.step config move = some (next, shown)) : Exclusive next := by
  cases Program.step_cases stepped with
  | spawn call =>
    cases call with
    | _ => exact exclusive.spawn rfl
  | advance found ran =>
    exact exclusive.advance found ran
  | environment ran =>
    obtain ⟨rfl, rfl⟩ := environment_drop ran
    exact ⟨exclusive.turns, exclusive.named, exclusive.held⟩

end

/-- Whatever a scheduler is allowed to do, the lock of `StartClient` excludes
other calls for the same client. -/
theorem run_exclusive {rows : Table Client.id} {now : Time}
    {admits : Config Repository Thread → Move Call Choice Nat → Prop}
    {history : List Action} (run : Run (program keep).system admits
      (initial rows now distributor) history config) : Exclusive config :=
  run.stateInvariant Exclusive (exclusive_initial rows now distributor)
    (fun exclusive _ stepped => step_exclusive exclusive stepped)

theorem run_exclusive_twoStarts :
    ∃ config history, Run (program none).system Unrestricted
        (initial .empty 0 (Ports.PortDistributor.new ∅)) history config ∧
      "a" ∈ config.shared.startLocks ∧ Exclusive config :=
  Run.exists_reaching_follows (List.flatten [[.spawn (.handleWebsocket (newcomer "a" "x")),
      .spawn (.handleWebsocket (newcomer "a" "y"))], sections 0 3, sections 1 1])
    (by decide +kernel) (System.admitsAlong_unrestricted _ _ _) fun run _ => run_exclusive run

end ProxiPort.Clients
