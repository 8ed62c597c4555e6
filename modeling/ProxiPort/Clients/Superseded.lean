import ProxiPort.Clients.Exclusion

/-!
# Superseded connections

The handler of a connection compares it with that of the client and then tears
the client down; a ping reads the connection and later marks and closes.  A
`StartClient` that takes the client over in between is hit by what the older
connection set off.
-/

namespace ProxiPort.Clients

open Concurrency Ports List Keyed

def Thread.sshConn : Thread → Option Nat
  | .starting call _ => some call.sshConn
  | .waiting _ sshConn | .comparing _ sshConn | .tearing _ sshConn _ =>
    some sshConn
  | _ => none

def Thread.engaged : Thread → Option (Address × Nat)
  | .waiting client sshConn | .comparing client sshConn
  | .tearing client sshConn _ => some (client, sshConn)
  | _ => none

def Thread.holds : Thread → Option (Address × Nat)
  | .tearing client sshConn _ => some (client, sshConn)
  | .pinging client (.waiting sshConn) | .pinging client (.failed sshConn)
  | .pinging client (.closing sshConn) => some (client, sshConn)
  | _ => none

def Thread.target : Thread → Option Address
  | .starting _ point => point.address
  | _ => none

def Thread.saved : Thread → Option (Address × Nat)
  | .starting call (.updating client) => some (client, call.sshConn)
  | _ => none

def Thread.isOfConnection : Thread → Bool
  | .arriving _ | .starting _ _ | .refused _ | .waiting _ _ | .comparing _ _
  | .tearing _ _ _ | .pingDue _ | .pinging _ _ | .beating _ _ | .finished =>
    true
  | _ => false

/-- The object that a `StartClient` is about to take over, and whether it is a
new one. -/
def Thread.takes (repo : Repository) : Thread → Option (Address × Bool)
  | .starting call (.registering existing _) =>
    some ((call.register repo call.host existing).2, existing.isNone)
  | _ => none

/-- Handlers and pings only; an object is taken over only if none of them holds
it, and a new one is made only if no handler of the client is left. -/
def TakenOverFree (config : Config Repository Thread) (thread : Thread) (_ : Choice) : Prop :=
  thread.isOfConnection = true ∧ ∀ taken ∈ thread.takes config.shared, ∀ other ∈ config.threads,
      (∀ held ∈ other.holds, held.1 ≠ taken.1) ∧
      (taken.2 = true → ∀ engaged ∈ other.engaged, engaged.1.id ≠ taken.1.id)

def OfConnections (_ : Config Repository Thread) (thread : Thread) (_ : Choice) : Prop :=
  thread.isOfConnection = true

instance (config : Config Repository Thread) (thread : Thread)
    (choice : Choice) : Decidable (OfConnections config thread choice) :=
  inferInstanceAs (Decidable (thread.isOfConnection = true))

instance (config : Config Repository Thread) (thread : Thread)
    (choice : Choice) : Decidable (TakenOverFree config thread choice) :=
  inferInstanceAs (Decidable (_ ∧ ∀ taken ∈ _, ∀ other ∈ _,
    (∀ held ∈ _, _) ∧ (_ → ∀ engaged ∈ _, _)))

/-- What is done because of a connection is done to nothing, or to what still
belongs to that connection. -/
def Action.IsOwn (action : Action) : Prop :=
  action.victim = none ∨ action.victim = some action.cause

def Thread.hasConn (sshConn : Nat) (thread : Thread) : Bool := thread.sshConn = some sshConn

/-- Connections, objects, entries and rows belong together. -/
structure Settled (config : Config Repository Thread) : Prop where
  numbers : ∀ sshConn, config.threads.countP (Thread.hasConn sshConn) ≤
    if sshConn < config.shared.accepted then 1 else 0
  held : ∀ {thread}, thread ∈ config.threads → ∀ held ∈ thread.holds,
    (config.shared.client held.1).connection = some held.2
  entry : ∀ {thread}, thread ∈ config.threads → ∀ engaged ∈ thread.engaged, ∀ {registered},
      config.shared.clientState.get engaged.1.id = some registered → registered = engaged.1
  together : ∀ {first second}, first ∈ config.threads →
    second ∈ config.threads → ∀ one ∈ first.engaged,
      ∀ two ∈ second.engaged, two.1.id = one.1.id → two.1 = one.1
  targeted : ∀ {starter other}, starter ∈ config.threads →
    other ∈ config.threads → ∀ target ∈ starter.target,
      ∀ engaged ∈ other.engaged, engaged.1.id = target.id → engaged.1 = target
  row : ∀ {thread}, thread ∈ config.threads → ∀ engaged ∈ thread.engaged,
      (config.shared.client engaged.1).connection = some engaged.2 →
        ∀ {row}, config.shared.stored.get engaged.1.id = some row → row.connection = some engaged.2
  saved : ∀ {thread}, thread ∈ config.threads → ∀ saved ∈ thread.saved,
    ∀ {row}, config.shared.stored.get saved.1.id = some row → row.connection = some saved.2

theorem settled_initial (rows : Table Client.id) (now : Time) (distributor : PortDistributor) :
    Settled (initial rows now distributor) where
  numbers := fun _ => Nat.zero_le _
  held := nofun
  entry := nofun
  together := nofun
  targeted := nofun
  row := nofun
  saved := nofun

variable {keep : Option Int} {config : Config Repository Thread}
  {changed : Repository} {choice : Choice} {index : Nat}
  {thread after : Thread}

theorem numbers_advance (settled : Settled config) (found : config.threads[index]? = some thread)
    (accepted : changed.accepted = config.shared.accepted)
    (same : ∀ sshConn ∈ after.sshConn, thread.sshConn = some sshConn) (sshConn : Nat) :
    (config.threads.set index after).countP (Thread.hasConn sshConn) ≤
      if sshConn < changed.accepted then 1 else 0 := by
  have count := Program.countP_set found after (Thread.hasConn sshConn)
  have before := settled.numbers sshConn
  rw [accepted]
  have fewer : (if Thread.hasConn sshConn after then 1 else 0) ≤
      (if Thread.hasConn sshConn thread then 1 else 0) := by
    by_cases has : Thread.hasConn sshConn after = true
    · have had : Thread.hasConn sshConn thread = true :=
        decide_eq_true (same sshConn (of_decide_eq_true has))
      rw [has, had]
    · rw [if_neg has]
      exact Nat.zero_le _
  omega

theorem Settled.eq_of_sshConn (settled : Settled config) {first second : Thread} {sshConn : Nat}
    (firstMember : first ∈ config.threads) (secondMember : second ∈ config.threads)
    (firstHas : first.sshConn = some sshConn)
    (secondHas : second.sshConn = some sshConn) : first = second := by
  have once : config.threads.countP (Thread.hasConn sshConn) ≤ 1 := by
    refine Nat.le_trans (settled.numbers sshConn) ?_
    split
    · exact Nat.le_refl 1
    · exact Nat.zero_le 1
  exact eq_of_countP_le_one once firstMember secondMember
    (decide_eq_true firstHas) (decide_eq_true secondHas)

structure Shrinks (repo changed : Repository) : Prop where
  owners : SameOwners repo changed
  entries : ∀ {id registered}, changed.clientState.get id = some registered →
    repo.clientState.get id = some registered
  rows : ∀ {id row}, changed.stored.get id = some row → repo.stored.get id = some row

theorem Shrinks.refl (repo : Repository) : Shrinks repo repo := ⟨.refl repo, id, id⟩

theorem Settled.frame (settled : Settled config) (found : config.threads[index]? = some thread)
    (numbers : ∀ sshConn, (config.threads.set index after).countP (Thread.hasConn sshConn) ≤
        if sshConn < changed.accepted then 1 else 0)
    (shrinks : Shrinks config.shared changed)
    (engaged : ∀ engaged ∈ after.engaged, thread.engaged = some engaged)
    (holds : ∀ held ∈ after.holds, (config.shared.client held.1).connection = some held.2)
    (target : ∀ target ∈ after.target, thread.target = some target ∨
      config.shared.clientState.get target.id = some target)
    (saved : ∀ saved ∈ after.saved, ∀ {row}, config.shared.stored.get saved.1.id = some row →
        row.connection = some saved.2) :
    Settled ⟨changed, config.threads.set index after⟩ := by
  have member := List.mem_of_getElem? found
  -- Whoever is engaged afterwards was engaged before.
  have before : ∀ {other}, other ∈ config.threads.set index after →
      ∀ pair ∈ other.engaged, ∃ old ∈ config.threads, old.engaged = some pair := by
    intro other here pair isEngaged
    rcases mem_or_eq_of_mem_set here with there | rfl
    · exact ⟨other, there, isEngaged⟩
    · exact ⟨thread, member, engaged pair isEngaged⟩
  constructor
  · exact numbers
  · simp only [shrinks.owners.connection]
    exact forall_mem_set (fun _ there => settled.held there) holds _
  · intro other here pair isEngaged registered isThere
    obtain ⟨old, there, wasEngaged⟩ := before here pair isEngaged
    exact settled.entry there pair wasEngaged (shrinks.entries isThere)
  · intro first second firstHere secondHere one isOne two isTwo
    obtain ⟨_, firstThere, wasOne⟩ := before firstHere one isOne
    obtain ⟨_, secondThere, wasTwo⟩ := before secondHere two isTwo
    exact settled.together firstThere secondThere one wasOne two wasTwo
  · intro starter other starterHere otherHere aim isAim pair isEngaged sameID
    obtain ⟨old, there, wasEngaged⟩ := before otherHere pair isEngaged
    rcases mem_or_eq_of_mem_set starterHere with starterThere | rfl
    · exact settled.targeted starterThere there aim isAim pair wasEngaged sameID
    · rcases target aim isAim with was | registered
      · exact settled.targeted member there aim was pair wasEngaged sameID
      · rw [← sameID] at registered
        exact (settled.entry there pair wasEngaged registered).symm
  · intro other here pair isEngaged current row isRow
    rw [shrinks.owners.connection] at current
    obtain ⟨old, there, wasEngaged⟩ := before here pair isEngaged
    exact settled.row there pair wasEngaged current (shrinks.rows isRow)
  · intro other here pair isSaved row isRow
    exact forall_mem_set (fun _ there => settled.saved there) saved _ here pair
      isSaved (shrinks.rows isRow)

variable {client : Address}

section

variable (settled : Settled config) (alone : ∀ {other}, other ∈ config.threads →
    ∀ pair ∈ other.engaged, pair.1.id = client.id → pair.1 = client)

include settled alone

theorem Settled.saveRow (savers : ∀ {other}, other ∈ config.threads →
      ∀ pair ∈ other.saved, pair.1.id = client.id →
        (config.shared.client client).connection = some pair.2) :
    Settled ⟨config.shared.saveRow client, config.threads⟩ := by
  have rows : ∀ {id row}, (config.shared.saveRow client).stored.get id = some row →
        (id = client.id ∧ row = config.shared.client client) ∨
          config.shared.stored.get id = some row := by
    intro id row isRow
    exact (Table.get_put_cases isRow).imp_right And.right
  refine ⟨settled.numbers, settled.held, settled.entry, settled.together, settled.targeted, ?_, ?_⟩
  · intro other member pair isEngaged current row isRow
    rcases rows isRow with ⟨sameID, rfl⟩ | old
    · rw [← alone member pair isEngaged sameID]
      exact current
    · exact settled.row member pair isEngaged current old
  · intro other member pair isSaved row isRow
    rcases rows isRow with ⟨sameID, rfl⟩ | old
    · exact savers member pair isSaved sameID
    · exact settled.saved member pair isSaved old

theorem Settled.updateClient : Settled ⟨config.shared.updateClient client, config.threads⟩ := by
  refine ⟨settled.numbers, settled.held, ?_, settled.together,
    settled.targeted, settled.row, settled.saved⟩
  intro other member pair isEngaged registered isThere
  rcases Table.get_put_cases isThere with ⟨sameID, rfl⟩ | ⟨_, before⟩
  · exact (alone member pair isEngaged sameID).symm
  · exact settled.entry member pair isEngaged before

end

variable {pair : Address × Nat}

theorem sshConn_of_engaged (engaged : thread.engaged = some pair) :
    thread.sshConn = some pair.2 := by
  cases thread with
  | waiting | comparing | tearing =>
    cases engaged
    rfl
  | _ => cases engaged

theorem updating_of_saved (saved : thread.saved = some pair) :
    ∃ call, thread = .starting call (.updating pair.1) ∧ pair.2 = call.sshConn := by
  cases thread with
  | starting call point =>
    cases point with
    | updating client =>
      cases saved
      exact ⟨call, rfl, rfl⟩
    | _ => cases saved
  | _ => cases saved

variable {call : StartCall}

theorem Settled.register {existing : Option Address} {kept : List Remote} {own : Address}
    (settled : Settled config)
    (registered : call.register config.shared call.host existing = (changed, own))
    (found : config.threads[index]? = some (.starting call (.registering existing kept)))
    (free : TakenOverFree config (.starting call (.registering existing kept)) choice) :
    Settled ⟨changed, config.threads.set index (.starting call (.connecting own kept))⟩ := by
  have member := List.mem_of_getElem? found
  have unheld := free.2 _ rfl
  rw [registered] at unheld
  obtain ⟨clientState, stored, accepted, _⟩ := register_frame registered
  have old : ∀ {other},
      other ∈ config.threads.set index (.starting call (.connecting own kept)) →
      ∀ pair ∈ other.engaged, other ∈ config.threads := by
    intro other here pair isEngaged
    rcases mem_or_eq_of_mem_set here with there | rfl
    · exact there
    · cases isEngaged
  constructor
  · exact numbers_advance settled found accepted fun _ has => has
  · intro other here pair isHeld
    rcases mem_or_eq_of_mem_set here with there | rfl
    · rw [register_of_ne registered ((unheld other there).1 pair isHeld)]
      exact settled.held there pair isHeld
    · cases isHeld
  · intro other here pair isEngaged registered isThere
    rw [clientState] at isThere
    exact settled.entry (old here pair isEngaged) pair isEngaged isThere
  · intro first second firstHere secondHere one isOne two isTwo
    exact settled.together (old firstHere one isOne) (old secondHere two isTwo) one isOne two isTwo
  · intro starter other starterHere otherHere aim isAim pair isEngaged sameID
    have there := old otherHere pair isEngaged
    rcases mem_or_eq_of_mem_set starterHere with starterThere | rfl
    · exact settled.targeted starterThere there aim isAim pair isEngaged sameID
    · cases isAim
      cases existing with
      | none => exact absurd sameID ((unheld other there).2 rfl pair isEngaged)
      | some =>
        cases registered
        exact settled.targeted member there _ rfl pair isEngaged sameID
  · intro other here pair isEngaged current row isRow
    rw [stored] at isRow
    have there := old here pair isEngaged
    by_cases mine : pair.1 = own
    · -- The connection of the call belongs to no handler yet.
      rw [mine, register_self registered] at current
      have number : call.sshConn = pair.2 := Option.some.inj current
      have twice := settled.eq_of_sshConn there member
        (sshConn_of_engaged isEngaged) (congrArg some number)
      rw [twice] at isEngaged
      cases isEngaged
    · rw [register_of_ne registered mine] at current
      exact settled.row there pair isEngaged current isRow
  · rw [stored]
    exact forall_mem_set (fun _ there => settled.saved there) (forall_mem_of_eq_none rfl) _

theorem Settled.engage (settled : Settled config) (exclusive : Exclusive config)
    (found : config.threads[index]? = some (.starting call (.updating client)))
    (registered : ∀ {other}, config.shared.clientState.get client.id =
      some other → other = client) :
    Settled ⟨config.shared.unlock call.clientID,
      config.threads.set index (.waiting client call.sshConn)⟩ := by
  have member := List.mem_of_getElem? found
  have alone : ∀ {other}, other ∈ config.threads →
      ∀ pair ∈ other.engaged, pair.1.id = client.id → pair.1 = client :=
    fun there pair isEngaged =>
      settled.targeted member there client rfl pair isEngaged
  constructor
  · exact numbers_advance settled found rfl fun _ has => has
  · exact forall_mem_set (fun _ there => settled.held there) (forall_mem_of_eq_none rfl) _
  · refine forall_mem_set (fun _ there => settled.entry there) ?_ _
    rintro pair ⟨⟩
    exact registered
  · intro first second firstHere secondHere one isOne two isTwo sameID
    rcases mem_or_eq_of_mem_set firstHere with firstThere | rfl
    · rcases mem_or_eq_of_mem_set secondHere with secondThere | rfl
      · exact settled.together firstThere secondThere one isOne two isTwo sameID
      · cases isTwo
        exact (alone firstThere one isOne sameID.symm).symm
    · cases isOne
      rcases mem_or_eq_of_mem_set secondHere with secondThere | rfl
      · exact alone secondThere two isTwo sameID
      · cases isTwo
        rfl
  · intro starter other starterHere otherHere aim isAim pair isEngaged sameID
    rcases mem_or_eq_of_mem_set starterHere with starterThere | rfl
    · rcases mem_or_eq_of_mem_set otherHere with otherThere | rfl
      · exact settled.targeted starterThere otherThere aim isAim pair isEngaged sameID
      · cases isEngaged
        -- The lock leaves no other call for this client.
        cases starter with
        | starting other point =>
          have works : point.address = some aim := isAim
          cases exclusive.eq_of_address member starterThere rfl works sameID.symm
          exact Option.some.inj works
        | _ => cases isAim
    · cases isAim
  · refine forall_mem_set (fun _ there => settled.row there) ?_ _
    rintro pair ⟨⟩ current
    exact settled.saved member _ rfl
  · exact forall_mem_set (fun _ there => settled.saved there) (forall_mem_of_eq_none rfl) _

theorem Settled.start {point : Start} (settled : Settled config) (exclusive : Exclusive config)
    (found : config.threads[index]? = some (.starting call point))
    (free : TakenOverFree config (.starting call point) choice)
    (stepped : StartStep keep config.shared call choice point changed after) :
    Settled ⟨changed, config.threads.set index after⟩ := by
  have member := List.mem_of_getElem? found
  cases stepped with
  | locks | misses =>
    exact settled.frame found (numbers_advance settled found rfl fun _ has => has)
      ⟨⟨fun _ => rfl, fun _ => rfl⟩, id, id⟩ nofun nofun nofun nofun
  | @finds client isThere =>
    refine settled.frame found (numbers_advance settled found rfl fun _ has => has)
      ⟨⟨fun _ => rfl, fun _ => rfl⟩, id, id⟩ nofun nofun ?_ nofun
    rintro aim ⟨⟩
    have registered := Repository.getByID_eq_some isThere
    rw [← (Table.get_eq_some_iff.mp registered).2] at registered
    exact .inr registered
  | accepts | passes =>
    exact settled.frame found (numbers_advance settled found rfl fun _ has => has)
      ⟨⟨fun _ => rfl, fun _ => rfl⟩, id, id⟩ nofun nofun (fun _ isAim => .inl isAim) nofun
  | releases | connects =>
    exact settled.frame found (numbers_advance settled found rfl fun _ has => has)
      ⟨.write rfl rfl, id, id⟩ nofun nofun (fun _ isAim => .inl isAim) nofun
  | tunnels only =>
    exact settled.frame found (numbers_advance settled found rfl fun _ has => has)
      ⟨.startsTunnels only, id, id⟩ nofun nofun (fun _ isAim => .inl isAim)
      nofun
  | tunnelsFail only =>
    exact settled.frame found (numbers_advance settled found rfl nofun)
      ⟨.unlock (.startsTunnels only) _, id, id⟩ nofun nofun nofun nofun
  | refuses | storeFails =>
    exact settled.frame found (numbers_advance settled found rfl nofun)
      ⟨⟨fun _ => rfl, fun _ => rfl⟩, id, id⟩ nofun nofun nofun nofun
  | registers => exact settled.register rfl found free
  | @stores client =>
    have row : Settled ⟨config.shared.saveRow client, config.threads⟩ := by
      refine settled.saveRow ?_ ?_
      · intro other there pair isEngaged
        exact settled.targeted member there client rfl pair isEngaged
      · intro other there pair isSaved sameID
        obtain ⟨otherCall, rfl, _⟩ := updating_of_saved isSaved
        cases exclusive.eq_of_address member there rfl rfl sameID
    refine row.frame found (numbers_advance row found rfl fun _ has => has)
      ⟨⟨fun _ => rfl, fun _ => rfl⟩, id, id⟩ nofun nofun (fun _ isAim => .inl isAim) ?_
    rintro saved ⟨⟩ stored isRow
    rcases Table.get_put_cases isRow with ⟨_, rfl⟩ | ⟨apart, _⟩
    · exact (exclusive.held member client rfl).1
    · exact absurd rfl apart
  | @updates client =>
    have updated := settled.updateClient fun there pair isEngaged =>
        settled.targeted member there client rfl pair isEngaged
    refine updated.engage ⟨exclusive.turns, exclusive.named, exclusive.held⟩ found ?_
    intro other isThere
    rcases Table.get_put_cases isThere with ⟨_, same⟩ | ⟨apart, _⟩
    · exact same
    · exact absurd rfl apart

namespace Settled

variable (settled : Settled config)
include settled

section

variable (found : config.threads[index]? = some thread)
  (accepted : changed.accepted = config.shared.accepted)
  (shrinks : Shrinks config.shared changed)

include found accepted shrinks

theorem stay (sshConn : ∀ sshConn ∈ after.sshConn, thread.sshConn = some sshConn)
    (engaged : ∀ engaged ∈ after.engaged, thread.engaged = some engaged)
    (holds : ∀ held ∈ after.holds, (config.shared.client held.1).connection = some held.2)
    (target : after.target = none) (saved : after.saved = none) :
    Settled ⟨changed, config.threads.set index after⟩ := by
  refine settled.frame found (numbers_advance settled found accepted sshConn)
    shrinks engaged holds ?_ ?_
  · intro aim isAim
    cases target.symm.trans isAim
  · intro pair isSaved
    cases saved.symm.trans isSaved

theorem leave (sshConn : after.sshConn = none) (engaged : after.engaged = none)
    (holds : ∀ held ∈ after.holds, (config.shared.client held.1).connection = some held.2)
    (target : after.target = none) (saved : after.saved = none) :
    Settled ⟨changed, config.threads.set index after⟩ :=
  settled.stay found accepted shrinks
    (forall_mem_of_eq_none sshConn) (forall_mem_of_eq_none engaged) holds target saved

theorem finish : Settled ⟨changed, config.threads.set index .finished⟩ :=
  settled.leave found accepted shrinks rfl rfl (forall_mem_of_eq_none rfl) rfl rfl

end

variable {point : Teardown}

theorem teardown {cause : Nat} (exclusive : Exclusive config)
    (keep : Option Int) (choice : Choice) (found : config.threads[index]? =
      some (.tearing client cause point)) :
    Settled ⟨(teardownSection keep config.shared client cause choice
        point).1, config.threads.set index (teardownSection keep config.shared client cause choice
            point).2.1⟩ := by
  have member := List.mem_of_getElem? found
  have held : (config.shared.client client).connection = some cause :=
    settled.held member (client, cause) rfl
  have alone : ∀ {other}, other ∈ config.threads →
      ∀ pair ∈ other.engaged, pair.1.id = client.id → pair.1 = client :=
    fun there pair isEngaged sameID =>
      settled.together member there (client, cause) rfl pair isEngaged sameID
  -- The next section of a teardown has the same place and holds the same.
  have stays : ∀ {next state}, Settled state → state.threads = config.threads →
      SameOwners config.shared state.shared → Settled ⟨state.shared,
          state.threads.set index (.tearing client cause next)⟩ := by
    intro next state stateSettled threads owners
    rw [← threads] at found
    refine stateSettled.stay found rfl (.refl _) (fun _ has => has)
      (fun _ isEngaged => isEngaged) ?_ rfl rfl
    rintro pair ⟨⟩
    exact (owners.connection client).trans held
  cases point with
  | marking =>
    simp only [teardownSection]
    split
    · exact stays settled rfl (.refl _)
    · refine settled.stay found rfl ⟨.write rfl rfl, id, id⟩
        (fun _ has => has) (fun _ isEngaged => isEngaged) ?_ rfl rfl
      rintro pair ⟨⟩
      exact held
  | lookingUp =>
    simp only [teardownSection]
    split
    · exact settled.finish found rfl (.refl _)
    · exact stays settled rfl (.refl _)
  | storing =>
    simp only [teardownSection]
    split
    · exact settled.finish found rfl (.refl _)
    · refine stays (settled.saveRow alone ?_) rfl ⟨fun _ => rfl, fun _ => rfl⟩
      intro other there pair isSaved sameID
      obtain ⟨call, rfl, number⟩ := updating_of_saved isSaved
      have same : client = pair.1 := settled.targeted there member pair.1 rfl (client, cause) rfl
          sameID.symm
      rw [number, same]
      exact (exclusive.held there pair.1 rfl).1
  | updating =>
    exact (settled.updateClient alone).finish found rfl (.refl _)
  | deletingRow =>
    simp only [teardownSection]
    split
    · exact settled.finish found rfl (.refl _)
    · refine settled.stay found rfl ⟨⟨fun _ => rfl, fun _ => rfl⟩, id, Table.get_of_get_remove⟩
        (fun _ has => has) (fun _ isEngaged => isEngaged) ?_ rfl rfl
      rintro pair ⟨⟩
      exact held
  | removing =>
    exact settled.finish found rfl ⟨⟨fun _ => rfl, fun _ => rfl⟩, Table.get_of_get_remove, id⟩

theorem teardown_own {cause : Nat} (keep : Option Int) (choice : Choice)
    (member : .tearing client cause point ∈ config.threads) (action : Action)
    (shown : action ∈ (teardownSection keep config.shared client cause choice
      point).2.2) : action.IsOwn := by
  have held : (config.shared.client client).connection = some cause :=
    settled.held member (client, cause) rfl
  have row : config.shared.rowOwner client.id = none ∨
      config.shared.rowOwner client.id = some cause := by
    cases isRow : config.shared.stored.get client.id with
    | none => exact .inl (by rw [Repository.rowOwner, isRow]; rfl)
    | some row =>
      refine .inr ?_
      rw [Repository.rowOwner, isRow]
      exact settled.row member (client, cause) rfl held isRow
  have entry : config.shared.entryOwner client.id = none ∨
      config.shared.entryOwner client.id = some cause := by
    cases isThere : config.shared.clientState.get client.id with
    | none => exact .inl (by rw [Repository.entryOwner, isThere]; rfl)
    | some registered =>
      refine .inr ?_
      rw [Repository.entryOwner, isThere, settled.entry member (client, cause) rfl isThere]
      exact held
  cases point with
  | marking =>
    simp only [teardownSection] at shown
    split at shown
    · cases shown
    · cases mem_singleton.mp shown
      exact .inr held
  | lookingUp =>
    simp only [teardownSection] at shown
    split at shown
    all_goals cases shown
  | storing | deletingRow =>
    simp only [teardownSection] at shown
    split at shown
    · cases shown
    · cases mem_singleton.mp shown
      exact row
  | updating | removing =>
    cases mem_singleton.mp shown
    exact entry

theorem ping {point : Ping} (choice : Choice)
    (found : config.threads[index]? = some (.pinging client point)) :
    Settled ⟨(pingSection config.shared client choice point).1, config.threads.set index
        (pingSection config.shared client choice point).2.1⟩ := by
  have member := List.mem_of_getElem? found
  cases point with
  | reading =>
    simp only [pingSection]
    split
    · exact settled.finish found rfl (.refl _)
    · rename_i has
      refine settled.leave found rfl (.refl _) rfl rfl ?_ rfl rfl
      rintro pair ⟨⟩
      exact has
  | waiting sshConn =>
    simp only [pingSection]
    split
    · exact settled.leave found rfl (.refl _) rfl rfl (forall_mem_of_eq_none rfl) rfl rfl
    · refine settled.leave found rfl (.refl _) rfl rfl ?_ rfl rfl
      rintro pair ⟨⟩
      exact settled.held member (client, sshConn) rfl
  | failed sshConn =>
    refine settled.leave found rfl ⟨.write rfl rfl, id, id⟩ rfl rfl ?_ rfl rfl
    rintro pair ⟨⟩
    exact settled.held member (client, sshConn) rfl
  | closing sshConn =>
    simp only [pingSection, Repository.close]
    split
    · exact settled.finish found rfl (.refl _)
    · exact settled.finish found rfl ⟨⟨fun _ => rfl, fun _ => rfl⟩, id, id⟩

theorem ping_own {point : Ping} (choice : Choice)
    (member : .pinging client point ∈ config.threads) (action : Action)
    (shown : action ∈ (pingSection config.shared client choice point).2.2) : action.IsOwn := by
  cases point with
  | reading | waiting =>
    simp only [pingSection] at shown
    split at shown
    all_goals cases shown
  | failed sshConn | closing sshConn =>
    cases mem_singleton.mp shown
    exact .inr (settled.held member (client, sshConn) rfl)

theorem beat {point : Beat} (found : config.threads[index]? = some (.beating client point)) :
    Settled ⟨(beatSection config.shared client choice point).1, config.threads.set index
        (beatSection config.shared client choice point).2⟩ := by
  cases point with
  | clearing again =>
    exact settled.leave found rfl ⟨.write rfl rfl, id, id⟩ rfl rfl
      (forall_mem_of_eq_none rfl) rfl rfl
  | stamping again =>
    cases again with
    | false => exact settled.finish found rfl ⟨.write rfl rfl, id, id⟩
    | true =>
      exact settled.leave found rfl ⟨.write rfl rfl, id, id⟩ rfl rfl
        (forall_mem_of_eq_none rfl) rfl rfl
  | reviving => exact settled.finish found rfl ⟨.write rfl rfl, id, id⟩

theorem arrive (found : config.threads[index]? = some (.arriving call)) :
    Settled ⟨{ config.shared with accepted := config.shared.accepted + 1 },
      config.threads.set index (.starting
        { call with sshConn := config.shared.accepted } .locking)⟩ := by
  refine settled.frame found ?_ ⟨⟨fun _ => rfl, fun _ => rfl⟩, id, id⟩ nofun nofun
    nofun nofun
  intro sshConn
  have before := settled.numbers sshConn
  have none : Thread.hasConn sshConn (.arriving call) = false := rfl
  rw [Program.countP_set_of_false found _ none]
  change _ ≤ if sshConn < config.shared.accepted + 1 then 1 else 0
  by_cases mine : sshConn = config.shared.accepted
  · have counted : sshConn < config.shared.accepted + 1 := by omega
    rw [if_neg (by omega)] at before
    rw [if_pos counted]
    split
    all_goals omega
  · have other : Thread.hasConn sshConn (.starting
        { call with sshConn := config.shared.accepted } .locking) = false := by
      simp [Thread.hasConn, Thread.sshConn, Ne.symm mine]
    rw [other, if_neg Bool.false_ne_true, Nat.add_zero]
    refine Nat.le_trans before ?_
    split
    · rw [if_pos (by omega)]
    · exact Nat.zero_le _

end Settled

variable {shown : List Action}

theorem Settled.advance (settled : Settled config) (exclusive : Exclusive config)
    (found : config.threads[index]? = some thread) (free : TakenOverFree config thread choice)
    (ran : atomic keep config.shared thread choice = some (changed, after, shown)) :
    Settled ⟨changed, config.threads.set index after⟩ ∧ ∀ action ∈ shown, action.IsOwn := by
  have member := List.mem_of_getElem? found
  cases thread with
  | arriving call =>
    cases ran
    exact ⟨settled.arrive found, forall_mem_nil _⟩
  | starting call point =>
    obtain ⟨⟨_, _⟩, ranHere, result⟩ := Option.map_eq_some_iff.mp ran
    cases result
    exact ⟨settled.start exclusive found free (startStep_of_section ranHere), forall_mem_nil _⟩
  | waiting client sshConn =>
    simp only [atomic] at ran
    split at ran
    · cases ran
      exact ⟨settled.stay found rfl (.refl _) (fun _ has => has)
        (fun _ isEngaged => isEngaged) (forall_mem_of_eq_none rfl) rfl rfl, forall_mem_nil _⟩
    · cases ran
  | comparing client sshConn =>
    simp only [atomic] at ran
    split at ran
    · rename_i current
      cases ran
      refine ⟨settled.stay found rfl (.refl _) (fun _ has => has)
        (fun _ isEngaged => isEngaged) ?_ rfl rfl, forall_mem_nil _⟩
      rintro pair ⟨⟩
      exact current
    · cases ran
      exact ⟨settled.finish found rfl (.refl _), forall_mem_nil _⟩
  | tearing client cause point =>
    have kept := settled.teardown exclusive keep choice found
    have own := settled.teardown_own keep choice member
    rw [Option.some.inj ran] at kept own
    exact ⟨kept, own⟩
  | pingDue clientID =>
    cases ran
    refine ⟨?_, forall_mem_nil _⟩
    cases config.shared.getActiveByID clientID with
    | none => exact settled.finish found rfl (.refl _)
    | some client =>
      exact settled.leave found rfl (.refl _) rfl rfl (forall_mem_of_eq_none rfl) rfl rfl
  | pinging client point =>
    have kept := settled.ping choice found
    have own := settled.ping_own choice member
    rw [Option.some.inj ran] at kept own
    exact ⟨kept, own⟩
  | beating client point =>
    cases ran
    exact ⟨settled.beat found, forall_mem_nil _⟩
  | refused | finished => cases ran
  | _ => cases free.1

theorem Settled.spawn (settled : Settled config)
    (sshConn : thread.sshConn = none) (engaged : thread.engaged = none)
    (holds : thread.holds = none) (target : thread.target = none) (saved : thread.saved = none) :
    Settled ⟨config.shared, config.threads ++ [thread]⟩ := by
  -- A thread that holds nothing is not the one a condition is about.
  have old : ∀ {Held : Type} {held : Held} {role : Thread → Option Held}
      {other}, role thread = none → other ∈ config.threads ++ [thread] →
        role other = some held → other ∈ config.threads := by
    intro Held held role other fresh here has
    rcases mem_or_eq_of_mem_concat here with there | rfl
    · exact there
    · cases fresh.symm.trans has
  constructor
  · intro number
    have other : Thread.hasConn number thread = false := by
      simp [Thread.hasConn, sshConn]
    rw [countP_append, countP_singleton, other, if_neg Bool.false_ne_true]
    exact settled.numbers number
  · intro other here pair isHeld
    exact settled.held (old holds here isHeld) pair isHeld
  · intro other here pair isEngaged
    exact settled.entry (old engaged here isEngaged) pair isEngaged
  · intro first second firstHere secondHere one isOne two isTwo
    exact settled.together (old engaged firstHere isOne)
      (old engaged secondHere isTwo) one isOne two isTwo
  · intro starter other starterHere otherHere aim isAim pair isEngaged
    exact settled.targeted (old target starterHere isAim)
      (old engaged otherHere isEngaged) aim isAim pair isEngaged
  · intro other here pair isEngaged
    exact settled.row (old engaged here isEngaged) pair isEngaged
  · intro other here pair isSaved
    exact settled.saved (old saved here isSaved) pair isSaved

theorem step_settled {next : Config Repository Thread}
    {move : Move Call Choice Nat} (settled : Settled config) (exclusive : Exclusive config)
    (admitted : OnAdvance TakenOverFree config move)
    (stepped : (program keep).system.step config move = some (next, shown)) :
    Settled next ∧ ∀ action ∈ shown, action.IsOwn := by
  cases Program.step_cases stepped with
  | spawn call =>
    refine ⟨?_, nofun⟩
    cases call with
    | _ => exact settled.spawn rfl rfl rfl rfl rfl
  | advance found ran =>
    exact settled.advance exclusive found (admitted.condition found) ran
  | environment ran =>
    obtain ⟨rfl, rfl⟩ := environment_drop ran
    exact ⟨⟨settled.numbers, settled.held, settled.entry,
      settled.together, settled.targeted, settled.row, settled.saved⟩,
      nofun⟩

/-- In every run of handlers and pings in which clients are taken over only when
nobody holds them, nothing that a connection sets off is done to a client, a
row or an entry of another connection. -/
theorem superseded_connections_harmless (keep : Option Int) (rows : Table Client.id) (now : Time)
    (distributor : PortDistributor) {history : List Action} {config : Config Repository Thread}
    (run : Run (program keep).system (OnAdvance TakenOverFree)
      (initial rows now distributor) history config) :
    ∀ action ∈ history, action.IsOwn := by
  have all := run.invariant (fun history config => (∀ action ∈ history, action.IsOwn) ∧
      Settled config ∧ Exclusive config)
    ⟨nofun, settled_initial rows now distributor, exclusive_initial rows now distributor⟩ ?_
  · exact all.1
  · rintro history shown config next move ⟨own, settled, exclusive⟩ admitted stepped
    obtain ⟨settledNext, ownNow⟩ := step_settled settled exclusive admitted stepped
    refine ⟨?_, settledNext, step_exclusive exclusive stepped⟩
    intro action member
    rcases mem_append.mp member with earlier | here
    · exact own action earlier
    · exact ownNow action here

def reconnecting : StartCall :=
  { newcomer "a" "x" with
    description := { unknownMachine with sessionID := "s" } }

/-- A client comes back when its teardown is over, and its new connection does
not answer a ping. -/
theorem superseded_connections_harmless_inTurn :
    ∃ config history,
      Run (program none).system (OnAdvance TakenOverFree)
        (initial .empty 0 (PortDistributor.new ∅)) history config ∧
      history.map Action.cause = [0, 0, 0, 1, 1] ∧
      ∀ action ∈ history, action.IsOwn :=
  Run.exists_reaching_follows (List.flatten [[.spawn (.handleWebsocket reconnecting)], sections 0 9,
      [.environment 0], sections 0 6, [.spawn (.handleWebsocket reconnecting)], sections 1 11,
      [.spawn (.ping "a")], sections 2 5])
    (by decide +kernel) (by decide +kernel)
    fun run _ => superseded_connections_harmless none .empty 0 (PortDistributor.new ∅) run

/-- The handler of a connection that has ended has made its comparison when the
client comes back and is taken over in place.  Then the teardown marks it as
disconnected, over its new connection, which is open. -/
theorem superseded_connection_disconnects :
    ∃ config history,
      Run (program none).system (OnAdvance OfConnections)
        (initial .empty 0 (PortDistributor.new ∅)) history config ∧
      history = [⟨.disconnects, 0, some 1⟩] ∧
      config.shared.clientState.get "a" = some ⟨"a", 1⟩ ∧
      (config.shared.client ⟨"a", 1⟩).connection = some 1 ∧
      1 ∉ config.shared.closed ∧
      (config.shared.client ⟨"a", 1⟩).isConnected = false :=
  Run.exists_reaching (List.flatten [[.spawn (.handleWebsocket reconnecting)], sections 0 9,
      [.environment 0], sections 0 2, [.spawn (.handleWebsocket reconnecting)], sections 1 11,
      sections 0 1])
    (by decide +kernel) (by decide +kernel)

end ProxiPort.Clients
