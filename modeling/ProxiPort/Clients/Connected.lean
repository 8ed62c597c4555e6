import ProxiPort.Clients.Exclusion

/-!
# Connected clients

A client is connected while it has no `DisconnectedAt`.  Somebody has to be in
charge of setting it when the connection ends: the `StartClient` that has taken
the client over, then its handler.  Heartbeats clear `DisconnectedAt` as a side
effect, a failed `StartClient` leaves a client that nobody watches, and a `Save`
can bring back an object that has left the repository.
-/

namespace ProxiPort.Clients

open Concurrency Ports List Keyed

/-- The client and the connection whose end a thread waits for. -/
def Thread.watches : Thread → Option (Address × Nat)
  | .starting call point => point.taken.map fun client =>
    (client, call.sshConn)
  | .waiting client sshConn => some (client, sshConn)
  | _ => none

/-- The client and the connection whose end a thread waits for or has begun to
handle. -/
def Thread.inCharge : Thread → Option (Address × Nat)
  | .starting call point => point.taken.map fun client =>
    (client, call.sshConn)
  | .waiting client sshConn | .comparing client sshConn
  | .tearing client sshConn .marking
  | .tearing client sshConn .deletingRow
  | .tearing client sshConn .removing => some (client, sshConn)
  | _ => none

variable {thread : Thread}

theorem inCharge_of_watches {watch : Address × Nat} (watches : thread.watches = some watch) :
    thread.inCharge = some watch := by
  cases thread with
  | starting | waiting => exact watches
  | _ => cases watches

/-- The client that a teardown has marked and may still save. -/
def Thread.savesLater : Thread → Option Address
  | .tearing client _ .lookingUp | .tearing client _ .storing
  | .tearing client _ .updating => some client
  | _ => none

def Teardown.deletes : Teardown → Option Bool
  | .marking => none
  | .lookingUp | .storing | .updating => some false
  | .deletingRow | .removing => some true

def Thread.deletes : Thread → Option Bool
  | .tearing _ _ point => point.deletes
  | _ => none

variable {client : Address}

theorem deletes_of_savesLater (saves : thread.savesLater = some client) :
    thread.deletes = some false := by
  cases thread with
  | tearing other cause point =>
    cases point with
    | lookingUp | storing | updating => rfl
    | marking | deletingRow | removing => cases saves
  | _ => cases saves

/-- An object that is in the map, or that a teardown may put there. -/
def Visible (config : Config Repository Thread) (address : Address) : Prop :=
  config.shared.clientState.get address.id = some address ∨
    ∃ thread ∈ config.threads, thread.savesLater = some address

/-- Every open connection is watched, and somebody is in charge of every client
that is connected. -/
structure Attended (keep : Option Int) (config : Config Repository Thread) :
    Prop where
  watched : ∀ {address sshConn}, (config.shared.client address).connection = some sshConn →
    sshConn ∉ config.shared.closed →
      ∃ thread ∈ config.threads, thread.watches = some (address, sshConn)
  charged : ∀ {address}, Visible config address →
    (config.shared.client address).disconnectedAt = none →
      ∃ sshConn, (config.shared.client address).connection = some sshConn ∧
        ∃ thread ∈ config.threads, thread.inCharge = some (address, sshConn)
  mode : ∀ {thread}, thread ∈ config.threads →
    ∀ deletes ∈ thread.deletes, decide (keep = some 0) = deletes

def Thread.clears : Thread → Option Address
  | .beating client (.clearing _) | .beating client .reviving => some client
  | _ => none

def Thread.needsStore : Thread → Bool
  | .starting _ (.storing _) | .tearing _ _ .deletingRow => true
  | _ => false

def Thread.reenters : Thread → Option Address
  | .editing client .updating => some client
  | _ => none

def Thread.startsTunnels : Thread → Option (StartCall × Address × List Remote)
  | .starting call (.tunnelling client kept) => some (call, client, kept)
  | _ => none

def Repository.isAlive (repo : Repository) (address : Address) : Bool :=
  (repo.client address).isConnected || (repo.client address).connection.any fun sshConn =>
      sshConn ∉ repo.closed

/-- Heartbeats are for clients that are alive, nothing fails a `StartClient`
that has taken its client over or a teardown that deletes its client, and an
edit saves only an object that is in the map. -/
def InOrder (config : Config Repository Thread) (thread : Thread) (choice : Choice) : Prop :=
  (∀ client ∈ thread.clears, config.shared.isAlive client = true) ∧
  (thread.needsStore = true → choice.failure = none) ∧
  (∀ client ∈ thread.reenters, config.shared.clientState.get client.id = some client) ∧
  ∀ start ∈ thread.startsTunnels, (start.1.startTunnels start.2.2 ⟨config.shared.client start.2.1,
      config.shared.distributor⟩).2.isOk = true

instance (config : Config Repository Thread) (thread : Thread)
    (choice : Choice) : Decidable (InOrder config thread choice) :=
  inferInstanceAs (Decidable ((∀ client ∈ _, _) ∧ (_ → _) ∧ (∀ client ∈ _, _) ∧ ∀ start ∈ _, _))

variable {keep : Option Int} {config : Config Repository Thread}
  {repo changed : Repository} {choice : Choice} {index : Nat}
  {thread after : Thread}

/-- No client object gets another connection, is connected or gets into the
map, and no connection is opened. -/
structure Calm (repo changed : Repository) : Prop where
  connection : ∀ address, (changed.client address).connection = (repo.client address).connection
  closed : repo.closed ⊆ changed.closed
  disconnectedAt : ∀ {address}, (changed.client address).disconnectedAt = none →
      (repo.client address).disconnectedAt = none
  entry : ∀ {address}, changed.clientState.get address.id = some address →
      repo.clientState.get address.id = some address

theorem Calm.refl (repo : Repository) : Calm repo repo :=
  ⟨fun _ => rfl, fun _ open_ => open_, id, id⟩

theorem Calm.sameObjects (objects : changed.objects = repo.objects)
    (closed : repo.closed ⊆ changed.closed) (entry : ∀ {address},
      changed.clientState.get address.id = some address →
        repo.clientState.get address.id = some address) :
    Calm repo changed where
  connection := by
    intro address
    rw [Repository.client, Repository.client, objects]
  closed := closed
  disconnectedAt := by
    intro address
    rw [Repository.client, Repository.client, objects]
    exact id
  entry := entry

theorem Calm.write {client : Client} {address : Address}
    (connection : client.connection = (repo.client address).connection)
    (disconnectedAt : client.disconnectedAt = none → (repo.client address).disconnectedAt = none) :
    Calm repo (repo.write address client) where
  connection := by
    intro other
    by_cases same : other = address
    · subst same
      rw [Repository.client_write_self]
      exact connection
    · rw [Repository.client_write_of_ne same]
  closed := fun _ closed => closed
  disconnectedAt := by
    intro other
    by_cases same : other = address
    · subst same
      rw [Repository.client_write_self]
      exact disconnectedAt
    · rw [Repository.client_write_of_ne same]
      exact id
  entry := id

theorem Calm.close (repo : Repository) (address : Address) : Calm repo (repo.close address) := by
  simp only [Repository.close]
  split
  · exact .refl repo
  · exact .sameObjects rfl (Finset.subset_insert _ _) id

theorem Calm.removeClient (repo : Repository) (id : String) : Calm repo (repo.removeClient id) :=
  .sameObjects rfl (fun _ closed => closed) Table.get_of_get_remove

namespace Attended

variable (attended : Attended keep config)
include attended

section

variable (found : config.threads[index]? = some thread)
  (watches : ∀ watch ∈ thread.watches, watch.2 ∉ changed.closed → after.watches = some watch)
  (charges : ∀ charge ∈ thread.inCharge,
    (config.shared.client charge.1).connection = some charge.2 →
    Visible ⟨changed, config.threads.set index after⟩ charge.1 →
    (changed.client charge.1).disconnectedAt = none → after.inCharge = some charge)
  (mode : ∀ deletes ∈ after.deletes, decide (keep = some 0) = deletes)

include found watches charges mode

/-- A section that leaves every connection with its client: what has to be shown
is who is in charge of the clients that are connected afterwards. -/
theorem step (connection : ∀ address, (changed.client address).connection =
      (config.shared.client address).connection)
    (closed : config.shared.closed ⊆ changed.closed)
    (visible : ∀ {address}, Visible ⟨changed, config.threads.set index after⟩ address →
      (changed.client address).disconnectedAt = none →
      (Visible config address ∧ (config.shared.client address).disconnectedAt = none) ∨
      ∃ sshConn, (config.shared.client address).connection = some sshConn ∧
        ∃ thread ∈ config.threads.set index after, thread.inCharge = some (address, sshConn)) :
    Attended keep ⟨changed, config.threads.set index after⟩ where
  watched := by
    intro address sshConn has open_
    rw [connection] at has
    refine exists_mem_set found ?_ (attended.watched has fun was => open_ (closed was))
    intro watching
    exact watches (address, sshConn) watching open_
  charged := by
    intro address shown connected
    rcases visible shown connected with ⟨wasVisible, wasConnected⟩ |
      ⟨sshConn, has, thread, member, inCharge⟩
    · obtain ⟨sshConn, has, holder⟩ := attended.charged wasVisible wasConnected
      refine ⟨sshConn, (connection address).trans has, exists_mem_set found ?_ holder⟩
      intro inCharge
      exact charges (address, sshConn) inCharge has shown connected
    · exact ⟨sshConn, (connection address).trans has, thread, member, inCharge⟩
  mode := forall_mem_set (fun _ there => attended.mode there) mode _

theorem frame (calm : Calm config.shared changed) (saves : ∀ client ∈ after.savesLater,
      thread.savesLater = some client ∨ (changed.client client).disconnectedAt ≠ none) :
    Attended keep ⟨changed, config.threads.set index after⟩ := by
  refine attended.step found watches charges mode calm.connection calm.closed ?_
  rintro address (entry | ⟨saver, member, saving⟩) connected
  · exact .inl ⟨.inl (calm.entry entry), calm.disconnectedAt connected⟩
  · rcases mem_or_eq_of_mem_set member with there | rfl
    · exact .inl ⟨.inr ⟨saver, there, saving⟩, calm.disconnectedAt connected⟩
    · rcases saves address saving with before | marked
      · exact .inl ⟨.inr ⟨thread, List.mem_of_getElem? found, before⟩,
          calm.disconnectedAt connected⟩
      · exact absurd connected marked

end

theorem aside (found : config.threads[index]? = some thread)
    (calm : Calm config.shared changed) (idle : thread.inCharge = none)
    (saves : after.savesLater = none) (mode : after.deletes = none) :
    Attended keep ⟨changed, config.threads.set index after⟩ := by
  refine attended.frame found ?_ (forall_mem_of_eq_none idle)
    (forall_mem_of_eq_none mode) calm (forall_mem_of_eq_none saves)
  intro watch watching
  cases idle.symm.trans (inCharge_of_watches watching)

theorem starts {call : StartCall} {point next : Start}
    (found : config.threads[index]? = some (.starting call point))
    (calm : Calm config.shared changed) (same : next.taken = point.taken) :
    Attended keep ⟨changed, config.threads.set index (.starting call next)⟩ := by
  have watches : (Thread.starting call next).watches = (Thread.starting call point).watches := by
    rw [Thread.watches, Thread.watches, same]
  have inCharge : (Thread.starting call next).inCharge = (Thread.starting call point).inCharge := by
    rw [Thread.inCharge, Thread.inCharge, same]
  refine attended.frame found ?_ ?_ (forall_mem_of_eq_none rfl) calm (forall_mem_of_eq_none rfl)
  · intro watch watching _
    exact watches.trans watching
  · intro charge charging _ _ _
    exact inCharge.trans charging

end Attended

namespace Attended

variable (attended : Attended keep config)
include attended

variable {call : StartCall}

theorem register {existing : Option Address} {kept : List Remote} {own : Address}
    (registered : call.register config.shared call.host existing = (changed, own))
    (found : config.threads[index]? = some (.starting call (.registering existing kept))) :
    Attended keep ⟨changed, config.threads.set index (.starting call (.connecting own kept))⟩ := by
  have present := mem_set (List.getElem?_eq_some_iff.mp found).1
    (Thread.starting call (.connecting own kept))
  obtain ⟨clientState, _, _, closed⟩ := register_frame registered
  constructor
  · intro address sshConn has open_
    by_cases mine : address = own
    · subst mine
      rw [register_self registered] at has
      cases has
      exact ⟨_, present, rfl⟩
    · rw [register_of_ne registered mine] at has
      rw [closed] at open_
      exact exists_mem_set found nofun (attended.watched has open_)
  · intro address shown connected
    by_cases mine : address = own
    · subst mine
      refine ⟨call.sshConn, ?_, _, present, rfl⟩
      rw [register_self registered]
      rfl
    · rw [register_of_ne registered mine] at connected ⊢
      have wasVisible : Visible config address := by
        rcases shown with entry | ⟨saver, member, saving⟩
        · rw [clientState] at entry
          exact .inl entry
        · rcases mem_or_eq_of_mem_set member with there | rfl
          · exact .inr ⟨saver, there, saving⟩
          · cases saving
      obtain ⟨sshConn, has, holder⟩ := attended.charged wasVisible connected
      exact ⟨sshConn, has, exists_mem_set found nofun holder⟩
  · exact forall_mem_set (fun _ there => attended.mode there) (forall_mem_of_eq_none rfl) _

section

variable (found : config.threads[index]? = some thread)
  (watches : ∀ watch ∈ thread.watches, after.watches = some watch)
  (charges : ∀ charge ∈ thread.inCharge, after.inCharge = some charge)
  (saves : after.savesLater = none) (mode : after.deletes = none)

include found watches charges saves mode

theorem clear (somebody : (config.shared.client client).disconnectedAt ≠ none → ∃ sshConn,
        (config.shared.client client).connection = some sshConn ∧
        ∃ thread ∈ config.threads, thread.inCharge = some (client, sshConn)) :
    Attended keep ⟨config.shared.setDisconnectedAt client none,
      config.threads.set index after⟩ := by
  have owners : SameOwners config.shared
      (config.shared.setDisconnectedAt client none) := .write rfl rfl
  refine attended.step found (fun watch watching _ => watches watch watching)
    (fun charge charging _ _ _ => charges charge charging)
    (forall_mem_of_eq_none mode) owners.connection (fun _ closed => closed) ?_
  intro address shown connected
  have wasVisible : Visible config address := by
    rcases shown with entry | ⟨saver, member, saving⟩
    · exact .inl entry
    · rcases mem_or_eq_of_mem_set member with there | rfl
      · exact .inr ⟨saver, there, saving⟩
      · cases saves.symm.trans saving
  by_cases before : (config.shared.client address).disconnectedAt = none
  · exact .inl ⟨wasVisible, before⟩
  · by_cases mine : address = client
    · subst mine
      obtain ⟨sshConn, has, holder⟩ := somebody before
      exact .inr ⟨sshConn, has, exists_mem_set found (charges _) holder⟩
    · rw [Repository.setDisconnectedAt, Repository.client_write_of_ne mine] at connected
      exact absurd connected before

theorem enter (entries : changed.clientState = config.shared.clientState.put client)
    (objects : changed.objects = config.shared.objects)
    (closed : changed.closed = config.shared.closed)
    (somebody : (config.shared.client client).disconnectedAt = none → ∃ sshConn,
        (config.shared.client client).connection = some sshConn ∧
        ∃ thread ∈ config.threads, thread.inCharge = some (client, sshConn)) :
    Attended keep ⟨changed, config.threads.set index after⟩ := by
  have same : ∀ address, changed.client address = config.shared.client address := by
    intro address
    rw [Repository.client, Repository.client, objects]
  refine attended.step found (fun watch watching _ => watches watch watching)
    (fun charge charging _ _ _ => charges charge charging)
    (forall_mem_of_eq_none mode) (fun address => by rw [same])
    (fun _ wasClosed => closed ▸ wasClosed) ?_
  intro address shown connected
  rw [same] at connected
  rcases shown with entry | ⟨saver, member, saving⟩
  · rw [entries] at entry
    rcases Table.get_put_cases entry with ⟨_, rfl⟩ | ⟨_, before⟩
    · obtain ⟨sshConn, has, holder⟩ := somebody connected
      exact .inr ⟨sshConn, has, exists_mem_set found (charges _) holder⟩
    · exact .inl ⟨.inl before, connected⟩
  · rcases mem_or_eq_of_mem_set member with there | rfl
    · exact .inl ⟨.inr ⟨saver, there, saving⟩, connected⟩
    · cases saves.symm.trans saving

end

theorem start {point : Start} (exclusive : Exclusive config)
    (found : config.threads[index]? = some (.starting call point))
    (inOrder : InOrder config (.starting call point) choice)
    (stepped : StartStep keep config.shared call choice point changed after) :
    Attended keep ⟨changed, config.threads.set index after⟩ := by
  have member := List.mem_of_getElem? found
  cases stepped with
  | releases => exact attended.starts found (.write rfl id) rfl
  | tunnels only =>
    have calm : Calm config.shared (config.shared.write _ _) :=
      .write only.connection fun connected =>
        only.disconnectedAt.symm.trans connected
    exact attended.starts found ⟨calm.connection, calm.closed, calm.disconnectedAt, calm.entry⟩ rfl
  | refuses started early =>
    have idle : (Thread.starting call point).inCharge = none := by
      rw [Thread.inCharge, early]
      rfl
    exact attended.aside found (.sameObjects rfl (fun _ open_ => open_) id) idle rfl rfl
  | registers => exact attended.register rfl found
  | @connects client kept =>
    refine attended.clear found (fun _ watching => watching) (fun _ charging => charging) rfl rfl ?_
    intro _
    exact ⟨call.sshConn, (exclusive.held member client rfl).1, _, member, rfl⟩
  | @updates client =>
    refine attended.enter found (fun _ watching => watching)
      (fun _ charging => charging) rfl rfl rfl rfl rfl ?_
    intro _
    exact ⟨call.sshConn, (exclusive.held member client rfl).1, _, member, rfl⟩
  | tunnelsFail only failed =>
    have started := inOrder.2.2.2 _ rfl
    rw [failed] at started
    cases started
  | storeFails failed =>
    cases failed.symm.trans (inOrder.2.1 rfl)
  | _ =>
    exact attended.starts found (.sameObjects rfl (fun _ open_ => open_) id)
      rfl

end Attended

namespace Attended

variable (attended : Attended keep config)
include attended

theorem lookUp {found' : Option Address} {next : Address → Thread}
    (found : config.threads[index]? = some thread) (idle : thread.inCharge = none)
    (saves : ∀ client, (next client).savesLater = none)
    (mode : ∀ client, (next client).deletes = none) :
    Attended keep ⟨(withClient config.shared found' next).1, config.threads.set index
        (withClient config.shared found' next).2⟩ := by
  cases found' with
  | none => exact attended.aside found (.refl config.shared) idle rfl rfl
  | some client =>
    exact attended.aside found (.refl config.shared) idle (saves client) (mode client)

theorem wake {sshConn : Nat} (found : config.threads[index]? = some (.waiting client sshConn))
    (closed : sshConn ∈ config.shared.closed) :
    Attended keep ⟨config.shared, config.threads.set index (.comparing client sshConn)⟩ := by
  refine attended.frame found ?_ ?_ (forall_mem_of_eq_none rfl)
    (.refl config.shared) (forall_mem_of_eq_none rfl)
  · rintro watch ⟨⟩ open_
    exact absurd closed open_
  · intro charge charging _ _ _
    exact charging

theorem goes (found : config.threads[index]? = some thread)
    (calm : Calm config.shared changed) (unwatching : thread.watches = none)
    (same : after.inCharge = thread.inCharge)
    (saves : ∀ client ∈ after.savesLater, thread.savesLater = some client)
    (mode : ∀ deletes ∈ after.deletes, decide (keep = some 0) = deletes) :
    Attended keep ⟨changed, config.threads.set index after⟩ := by
  refine attended.frame found (forall_mem_of_eq_none unwatching) ?_ mode calm ?_
  · intro charge charging _ _ _
    exact same.trans charging
  · intro client saving
    exact .inl (saves client saving)

theorem compare {sshConn : Nat}
    (found : config.threads[index]? = some (.comparing client sshConn)) :
    (∀ _ : (config.shared.client client).connection = some sshConn, Attended keep ⟨config.shared,
        config.threads.set index (.tearing client sshConn .marking)⟩) ∧
    ∀ _ : (config.shared.client client).connection ≠ some sshConn,
      Attended keep ⟨config.shared, config.threads.set index .finished⟩ := by
  constructor
  · intro _
    exact attended.goes found (.refl config.shared) rfl rfl
      (forall_mem_of_eq_none rfl) (forall_mem_of_eq_none rfl)
  · intro superseded
    refine attended.frame found (forall_mem_of_eq_none rfl) ?_
      (forall_mem_of_eq_none rfl) (.refl config.shared) (forall_mem_of_eq_none rfl)
    rintro charge ⟨⟩ has
    exact absurd has superseded

theorem teardown {cause : Nat} {point : Teardown}
    (found : config.threads[index]? = some (.tearing client cause point))
    (inOrder : InOrder config (.tearing client cause point) choice) :
    Attended keep ⟨(teardownSection keep config.shared client cause choice point).1,
        config.threads.set index (teardownSection keep config.shared client
          cause choice point).2.1⟩ := by
  have member := List.mem_of_getElem? found
  have mode := attended.mode member
  cases point with
  | marking =>
    simp only [teardownSection]
    split
    · rename_i zero
      refine attended.goes found (.refl config.shared) rfl rfl (forall_mem_of_eq_none rfl) ?_
      rintro _ ⟨⟩
      exact decide_eq_true zero
    · rename_i positive
      have marked : ((config.shared.setDisconnectedAt client
          (some choice.now)).client client).disconnectedAt = some choice.now := by
        rw [Repository.setDisconnectedAt, Repository.client_write_self]
      have isMarked : ((config.shared.setDisconnectedAt client
          (some choice.now)).client client).disconnectedAt ≠ none := by
        rw [marked]
        exact Option.some_ne_none _
      refine attended.frame found (forall_mem_of_eq_none rfl) ?_ ?_
        (.write rfl fun connected => absurd connected (Option.some_ne_none _)) ?_
      · rintro charge ⟨⟩ _ _ connected
        exact absurd connected isMarked
      · rintro _ ⟨⟩
        exact decide_eq_false positive
      · rintro other ⟨⟩
        exact .inr isMarked
  | lookingUp =>
    simp only [teardownSection]
    split
    · exact attended.aside found (.refl config.shared) rfl rfl rfl
    · exact attended.goes found (.refl config.shared) rfl rfl (fun _ saving => saving) mode
  | storing =>
    simp only [teardownSection]
    split
    · exact attended.aside found (.refl config.shared) rfl rfl rfl
    · exact attended.goes found (.sameObjects rfl (fun _ open_ => open_) id) rfl rfl
        (fun _ saving => saving) mode
  | updating =>
    refine attended.enter found (forall_mem_of_eq_none rfl)
      (forall_mem_of_eq_none rfl) rfl rfl rfl rfl rfl ?_
    intro connected
    exact attended.charged (.inr ⟨_, member, rfl⟩) connected
  | deletingRow =>
    have works := inOrder.2.1 rfl
    simp only [teardownSection, works]
    exact attended.goes found (.sameObjects rfl (fun _ open_ => open_) id) rfl rfl
      (forall_mem_of_eq_none rfl) mode
  | removing =>
    have deletes := mode true rfl
    refine attended.frame found (forall_mem_of_eq_none rfl) ?_
      (forall_mem_of_eq_none rfl) (.removeClient config.shared client.id)
      (forall_mem_of_eq_none rfl)
    -- Nothing puts the client back: no teardown saves.
    rintro charge ⟨⟩ _ (entry | ⟨saver, there, saving⟩)
    · cases entry.symm.trans Table.get_remove_self
    · rcases mem_or_eq_of_mem_set there with old | rfl
      · cases deletes.symm.trans (attended.mode old false (deletes_of_savesLater saving))
      · cases saving

theorem ping {point : Ping} (choice : Choice)
    (found : config.threads[index]? = some (.pinging client point)) :
    Attended keep ⟨(pingSection config.shared client choice point).1, config.threads.set index
        (pingSection config.shared client choice point).2.1⟩ := by
  cases point with
  | reading | waiting =>
    simp only [pingSection]
    split
    all_goals exact attended.aside found (.refl config.shared) rfl rfl rfl
  | failed sshConn =>
    exact attended.aside found (.write rfl fun connected =>
      absurd connected (Option.some_ne_none _)) rfl rfl rfl
  | closing sshConn =>
    exact attended.aside found (.close config.shared client) rfl rfl rfl

theorem somebody (alive : config.shared.isAlive client = true)
    (disconnected : (config.shared.client client).disconnectedAt ≠ none) :
    ∃ sshConn, (config.shared.client client).connection = some sshConn ∧ ∃ thread ∈ config.threads,
        thread.inCharge = some (client, sshConn) := by
  simp only [Repository.isAlive, Bool.or_eq_true, Option.any_eq_true, decide_eq_true_eq] at alive
  rcases alive with connected | ⟨sshConn, has, open_⟩
  · exact absurd (Option.isNone_iff_eq_none.mp connected) disconnected
  · obtain ⟨thread, member, watching⟩ := attended.watched has open_
    exact ⟨sshConn, has, thread, member, inCharge_of_watches watching⟩

theorem beat {point : Beat} (found : config.threads[index]? = some (.beating client point))
    (inOrder : InOrder config (.beating client point) choice) :
    Attended keep ⟨(beatSection config.shared client choice point).1, config.threads.set index
        (beatSection config.shared client choice point).2⟩ := by
  cases point with
  | clearing | reviving =>
    exact attended.clear found (forall_mem_of_eq_none rfl) (forall_mem_of_eq_none rfl) rfl rfl
      (attended.somebody (inOrder.1 client rfl))
  | stamping again =>
    refine attended.aside found (.write rfl id) rfl ?_ ?_
    all_goals
      cases again with
      | false => rfl
      | true => rfl

theorem delete {point : Deletion} (found : config.threads[index]? = some (.deleting client point)) :
    Attended keep ⟨(deletionSection config.shared client choice point).1, config.threads.set index
        (deletionSection config.shared client choice point).2⟩ := by
  cases point with
  | checking =>
    simp only [deletionSection]
    split
    all_goals exact attended.aside found (.refl config.shared) rfl rfl rfl
  | closing =>
    simp only [deletionSection]
    split
    · exact attended.aside found (.refl config.shared) rfl rfl rfl
    · exact attended.aside found (.close config.shared client) rfl rfl rfl
  | deletingRow =>
    simp only [deletionSection]
    split
    · exact attended.aside found (.refl config.shared) rfl rfl rfl
    · exact attended.aside found (.sameObjects rfl (fun _ open_ => open_) id) rfl rfl rfl
  | removing =>
    exact attended.aside found (.removeClient config.shared client.id) rfl
      rfl rfl

theorem edit {point : Editing} (found : config.threads[index]? = some (.editing client point))
    (inOrder : InOrder config (.editing client point) choice) :
    Attended keep ⟨(editSection config.shared client choice point).1, config.threads.set index
        (editSection config.shared client choice point).2⟩ := by
  cases point with
  | changing edit =>
    refine attended.aside found (.write (edit.connection _) ?_) rfl rfl rfl
    intro connected
    exact (edit.disconnectedAt _).symm.trans connected
  | storing =>
    simp only [editSection]
    split
    · exact attended.aside found (.refl config.shared) rfl rfl rfl
    · exact attended.aside found (.sameObjects rfl (fun _ open_ => open_) id) rfl rfl rfl
  | updating =>
    have registered := inOrder.2.2.1 client rfl
    refine attended.enter found (forall_mem_of_eq_none rfl)
      (forall_mem_of_eq_none rfl) rfl rfl rfl rfl rfl ?_
    intro connected
    exact attended.charged (.inl registered) connected

end Attended

variable {shown : List Action}

theorem Attended.advance (attended : Attended keep config) (exclusive : Exclusive config)
    (found : config.threads[index]? = some thread) (inOrder : InOrder config thread choice)
    (ran : atomic keep config.shared thread choice = some (changed, after, shown)) :
    Attended keep ⟨changed, config.threads.set index after⟩ := by
  cases thread with
  | arriving call =>
    cases ran
    exact attended.aside found (.sameObjects rfl (fun _ open_ => open_) id) rfl rfl rfl
  | starting call point =>
    obtain ⟨⟨_, _⟩, ranHere, result⟩ := Option.map_eq_some_iff.mp ran
    cases result
    exact attended.start exclusive found inOrder (startStep_of_section ranHere)
  | waiting client sshConn =>
    simp only [atomic] at ran
    split at ran
    · rename_i closed
      cases ran
      exact attended.wake found closed
    · cases ran
  | comparing client sshConn =>
    simp only [atomic] at ran
    split at ran
    · rename_i current
      cases ran
      exact (attended.compare found).1 current
    · rename_i superseded
      cases ran
      exact (attended.compare found).2 superseded
  | requested | pingDue | heartbeat | deletionDue | editDue =>
    cases ran
    exact attended.lookUp found rfl (fun _ => rfl) (fun _ => rfl)
  | tearing client cause point =>
    have kept : Attended keep _ := attended.teardown found inOrder
    rw [Option.some.inj ran] at kept
    exact kept
  | pinging client point =>
    have kept : Attended keep _ := attended.ping choice found
    rw [Option.some.inj ran] at kept
    exact kept
  | beating client point =>
    cases ran
    exact attended.beat found inOrder
  | deleting client point =>
    cases ran
    exact attended.delete found
  | editing client point =>
    cases ran
    exact attended.edit found inOrder
  | refused | deleted | finished => cases ran

theorem Attended.spawn (attended : Attended keep config)
    (saves : thread.savesLater = none) (mode : thread.deletes = none) :
    Attended keep ⟨config.shared, config.threads ++ [thread]⟩ where
  watched := by
    intro address sshConn has open_
    obtain ⟨watcher, member, watching⟩ := attended.watched has open_
    exact ⟨watcher, mem_append_left _ member, watching⟩
  charged := by
    intro address shown connected
    have before : Visible config address := by
      rcases shown with entry | ⟨saver, member, saving⟩
      · exact .inl entry
      · rcases mem_or_eq_of_mem_concat member with there | rfl
        · exact .inr ⟨saver, there, saving⟩
        · cases saves.symm.trans saving
    obtain ⟨sshConn, has, holder, member, inCharge⟩ := attended.charged before connected
    exact ⟨sshConn, has, holder, mem_append_left _ member, inCharge⟩
  mode := forall_mem_concat (fun _ there => attended.mode there) (forall_mem_of_eq_none mode) _

theorem step_attended {next : Config Repository Thread}
    {move : Move Call Choice Nat} (attended : Attended keep config)
    (exclusive : Exclusive config) (admitted : OnAdvance InOrder config move)
    (stepped : (program keep).system.step config move = some (next, shown)) :
    Attended keep next := by
  cases Program.step_cases stepped with
  | spawn call =>
    cases call with
    | _ => exact attended.spawn rfl rfl
  | advance found ran =>
    exact attended.advance exclusive found (admitted.condition found) ran
  | environment ran =>
    obtain ⟨rfl, rfl⟩ := environment_drop ran
    refine ⟨?_, attended.charged, attended.mode⟩
    intro address other has open_
    exact attended.watched has fun was =>
      open_ (Finset.mem_insert_of_mem was)

theorem attended_initial (keep : Option Int) (rows : Table Client.id)
    (now : Time) (distributor : PortDistributor) :
    Attended keep (initial rows now distributor) where
  watched := by
    intro address sshConn has
    simp only [initial, Repository.client, loaded] at has
    split at has
    all_goals cases has
  charged := by
    rintro address (entry | ⟨saver, member, _⟩) connected
    · obtain ⟨row, stored, rfl⟩ := mem_map.mp (Table.get_eq_some_iff.mp entry).1
      have found : rows.get row.id = some row := Table.get_eq_some_iff.mpr ⟨stored, rfl⟩
      simp [initial, Repository.client, loaded, found, restored] at connected
    · cases member
  mode := nofun

/-- A thread that is not in the middle of something: it has ended, or it waits
on an open connection. -/
def Thread.isIdle (repo : Repository) : Thread → Bool
  | .waiting _ sshConn => sshConn ∉ repo.closed
  | thread => thread.isEnded

/-- In every run that is in order, whenever nothing is in progress, a client of
the repository that is connected has a connection that has not ended. -/
theorem connected_has_open_connection (keep : Option Int) (rows : Table Client.id) (now : Time)
    (distributor : PortDistributor) {history : List Action} {config : Config Repository Thread}
    (run : Run (program keep).system (OnAdvance InOrder)
      (initial rows now distributor) history config)
    (idle : ∀ thread ∈ config.threads, thread.isIdle config.shared = true)
    (address : Address)
    (registered : address ∈ config.shared.clientState.entries)
    (connected : (config.shared.client address).isConnected = true) :
    ∃ sshConn, (config.shared.client address).connection = some sshConn ∧
      sshConn ∉ config.shared.closed := by
  have both := run.stateInvariant (fun config => Attended keep config ∧ Exclusive config)
    ⟨attended_initial keep rows now distributor, exclusive_initial rows now distributor⟩
    (fun held admitted stepped =>
      ⟨step_attended held.1 held.2 admitted stepped, step_exclusive held.2 stepped⟩)
  have entry : config.shared.clientState.get address.id = some address :=
    Table.get_eq_some_iff.mpr ⟨registered, rfl⟩
  obtain ⟨sshConn, has, thread, member, inCharge⟩ :=
    both.1.charged (.inl entry) (Option.isNone_iff_eq_none.mp connected)
  refine ⟨sshConn, has, ?_⟩
  have quiet := idle thread member
  cases thread with
  | waiting client other =>
    cases inCharge
    exact of_decide_eq_true quiet
  | refused | deleted | finished => cases inCharge
  | _ => cases quiet

theorem connected_has_open_connection_heartbeat :
    ∃ config history,
      Run (program none).system (OnAdvance InOrder)
        (initial .empty 0 (PortDistributor.new ∅)) history config ∧
      (config.shared.client ⟨"a", 1⟩).isConnected = true ∧
      ∃ sshConn, (config.shared.client ⟨"a", 1⟩).connection = some sshConn ∧
        sshConn ∉ config.shared.closed := by
  obtain ⟨config, history, run, outcome⟩ :=
    Run.exists_ofExecute (program none).system (OnAdvance InOrder)
      (initial .empty 0 (PortDistributor.new ∅))
      (List.flatten [[.spawn (.handleWebsocket (newcomer "a" "x"))],
        sections 0 9, [.spawn (.setLastHeartbeat "a")], sections 1 3])
      (fun outcome => decide ((∀ thread ∈ outcome.1.threads,
          thread.isIdle outcome.1.shared = true) ∧
        (⟨"a", 1⟩ : Address) ∈ outcome.1.shared.clientState.entries ∧
        (outcome.1.shared.client ⟨"a", 1⟩).isConnected = true))
      (by decide +kernel) (by decide +kernel)
  obtain ⟨idle, registered, connected⟩ := of_decide_eq_true outcome
  exact ⟨config, history, run, connected, connected_has_open_connection none
    .empty 0 (PortDistributor.new ∅) run idle _ registered connected⟩

/-- A heartbeat finds its client, the connection ends and the teardown runs, and
then the heartbeat clears `DisconnectedAt`.  Everything has ended, and the client
is connected over a connection that is closed. -/
theorem heartbeat_connects_again :
    ∃ config history, Run (program none).system Unrestricted
        (initial .empty 0 (PortDistributor.new ∅)) history config ∧
      (∀ thread ∈ config.threads, thread.isEnded = true) ∧
      config.shared.clientState.get "a" = some ⟨"a", 1⟩ ∧
      (config.shared.client ⟨"a", 1⟩).isConnected = true ∧
      (config.shared.client ⟨"a", 1⟩).connection = some 0 ∧
      0 ∈ config.shared.closed :=
  Run.exists_reaching_unrestricted (List.flatten [[.spawn (.handleWebsocket (newcomer "a" "x"))],
      sections 0 9, [.spawn (.setLastHeartbeat "a")], sections 1 1,
      [.environment 0], sections 0 6, sections 1 2])
    (by decide +kernel)

end ProxiPort.Clients
