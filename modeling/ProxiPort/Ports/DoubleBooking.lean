import ProxiPort.Ports.Distributor

/-!
# Open bookings stay out of the pools

The distributor hands out a port twice only after a refresh has put it back
into a pool.  Reservations are not kept per protocol, and a busy-port snapshot
may be older than the booking it is applied to, so a refresh does put booked
ports back.  `CoversBookings` is the exact condition on a refresh under which
it does not; along runs that keep it, no port is double-booked.
-/

namespace ProxiPort.Ports

open Concurrency List

/-- A snapshot that is about to rebuild a pool shows every allowed port that
is booked for the pool's protocol, or the port is still reserved. -/
def CoversBookings (world : World) (pool : Protocol) (busyPorts : Finset Int) : Prop :=
  ∀ booking ∈ world.bookings, pool ∈ booking.protocol.subProtocols →
    booking.port ∈ world.distributor.allowedPorts →
      booking.port ∈ busyPorts ∨ booking.port ∈ world.distributor.reserved

instance (world : World) (pool : Protocol) (busyPorts : Finset Int) :
    Decidable (CoversBookings world pool busyPorts) :=
  inferInstanceAs (Decidable (∀ booking ∈ _, _ → _ → _ ∨ _))

/-- A refresh takes the lock only while its snapshot covers the open
bookings. -/
def RefreshCovers (config : Config World Thread) (thread : Thread) (_ : Choice) : Prop :=
  match thread with
  | .refreshLocked pool busyPorts _ =>
    CoversBookings config.shared pool busyPorts
  | _ => True

instance (config : Config World Thread) :
    ∀ thread choice, Decidable (RefreshCovers config thread choice)
  | .refreshLocked pool busyPorts _, _ =>
    inferInstanceAs (Decidable (CoversBookings config.shared pool busyPorts))
  | .checkPool .., _ | .listBusy .., _ | .allocate _, _
  | .reserveLocked .., _ | .returned _, _ => .isTrue trivial

structure SoundHandOut (allowedPorts : Finset Int) (world : World)
    (protocol : Protocol) (port : Int) : Prop where
  notBooked : ∀ booking ∈ world.bookings, booking.port = port → ¬ booking.protocol.Overlaps protocol
  allowed : port ∈ allowedPorts
  free : ∀ pool ∈ protocol.subProtocols, ∃ ports,
    world.distributor.portsPools pool = some ports ∧ port ∈ ports

/-- The pools hold allowed ports only, and none that is booked for their own
protocol. -/
structure PoolsSound (allowedPorts : Finset Int) (world : World) : Prop where
  allowedPorts_eq : world.distributor.allowedPorts = allowedPorts
  pools_subset : ∀ {pool ports},
    world.distributor.portsPools pool = some ports → ports ⊆ allowedPorts
  pools_unbooked : ∀ booking ∈ world.bookings, ∀ pool ∈ booking.protocol.subProtocols, ∀ {ports},
      world.distributor.portsPools pool = some ports → booking.port ∉ ports

theorem PortDistributor.refresh_pool_self (distributor : PortDistributor)
    (pool : Protocol) (busyPorts : Finset Int) (port : Int) :
    (∃ ports, (distributor.refresh pool busyPorts).portsPools pool = some ports ∧ port ∈ ports) ↔
      port ∈ distributor.allowedPorts ∧ port ∉ busyPorts ∧ port ∉ distributor.reserved := by
  simp only [PortDistributor.refresh, Function.update_self,
    Option.some.injEq, exists_eq_left', Finset.mem_sdiff, Finset.mem_filter]
  tauto

theorem PortDistributor.refresh_pool_other (distributor : PortDistributor)
    {pool other : Protocol} (different : other ≠ pool) (busyPorts : Finset Int) :
    (distributor.refresh pool busyPorts).portsPools other = distributor.portsPools other :=
  Function.update_of_ne different _ _

variable {distributor : PortDistributor} {port : Int}

theorem PortDistributor.reserve_pool_subset {protocol pool : Protocol} {after : Finset Int}
    (found : (distributor.reserve protocol port).portsPools pool = some after) :
    ∃ before, distributor.portsPools pool = some before ∧ after ⊆ before := by
  simp only [PortDistributor.reserve] at found
  split at found
  · obtain ⟨before, beforeFound, rfl⟩ := Option.map_eq_some_iff.mp found
    exact ⟨before, beforeFound, Finset.erase_subset _ _⟩
  · exact ⟨after, found, Finset.Subset.refl _⟩

theorem PortDistributor.candidates_mem {protocols : List Protocol}
    {found : Option (Finset Int)} {ports : Finset Int}
    (result : distributor.candidates protocols found = some (some ports)) (member : port ∈ ports) :
    (∀ earlier, found = some earlier → port ∈ earlier) ∧ ∀ pool ∈ protocols, ∃ offered,
        distributor.portsPools pool = some offered ∧ port ∈ offered := by
  induction protocols generalizing found with
  | nil =>
    simp only [PortDistributor.candidates, Option.some.injEq] at result
    subst result
    refine ⟨?_, by simp⟩
    rintro earlier ⟨⟩
    exact member
  | cons protocol protocols induction =>
    rw [PortDistributor.candidates] at result
    cases pool : distributor.portsPools protocol with
    | none => simp [pool] at result
    | some offered =>
      simp only [pool] at result
      obtain ⟨inFirst, inRest⟩ := induction result
      -- the first pool is taken as it is, later ones are intersected
      have inBoth := inFirst _ rfl
      refine ⟨?_, ?_⟩
      · rintro earlier rfl
        exact (Finset.mem_inter.mp inBoth).1
      · intro candidate candidateMember
        rcases mem_cons.mp candidateMember with rfl | later
        · refine ⟨offered, pool, ?_⟩
          cases found with
          | none => exact inBoth
          | some earlier => exact (Finset.mem_inter.mp inBoth).2
        · exact inRest candidate later

def World.book (world : World) (protocol : Protocol) (port : Int) : World :=
  { world with
    distributor := world.distributor.reserve protocol port
    bookings := ⟨protocol, port⟩ :: world.bookings }

def World.refresh (world : World) (pool : Protocol) (busyPorts : Finset Int) : World :=
  { world with distributor := world.distributor.refresh pool busyPorts }

variable {world next : World} {shown : List Output} {choice : Choice}

theorem allocate_cases {protocol : Protocol} {after : Thread}
    (allocated : allocate world protocol choice = some (next, after, shown)) :
    (next = world ∧ shown = []) ∨ ∃ port, (∀ pool ∈ protocol.subProtocols, ∃ ports,
          world.distributor.portsPools pool = some ports ∧ port ∈ ports) ∧
        shown = [.handedOut protocol port] ∧
        next = world.book protocol port := by
  cases choice with
  | listingFails => simp [allocate] at allocated
  | proceed =>
    left
    simp only [allocate] at allocated
    split at allocated
    · split at allocated
      · simp only [Option.some.injEq, Prod.mk.injEq] at allocated
        exact ⟨allocated.1.symm, allocated.2.2.symm⟩
      · simp at allocated
    · simp only [Option.some.injEq, Prod.mk.injEq] at allocated
      exact ⟨allocated.1.symm, allocated.2.2.symm⟩
  | pop port =>
    right
    simp only [allocate] at allocated
    split at allocated
    · rename_i ports found
      split at allocated
      · rename_i member
        simp only [Option.some.injEq, Prod.mk.injEq] at allocated
        exact ⟨port, (PortDistributor.candidates_mem found member).2,
          allocated.2.2.symm, allocated.1.symm⟩
      · simp at allocated
    · simp at allocated

/-- Every section leaves the world alone, rebuilds one pool, or books a port;
a port that is shown as handed out was free in all its pools. -/
theorem atomic_cases {thread after : Thread}
    (ran : atomic world thread choice = some (next, after, shown)) :
    (next = world ∧ shown = []) ∨ (∃ pool busyPorts continuation,
        thread = .refreshLocked pool busyPorts continuation ∧
        next = world.refresh pool busyPorts ∧ shown = []) ∨
      ∃ protocol port, next = world.book protocol port ∧
        (shown = [] ∨ shown = [.handedOut protocol port] ∧ ∀ pool ∈ protocol.subProtocols, ∃ ports,
            world.distributor.portsPools pool = some ports ∧ port ∈ ports) := by
  cases thread with
  | checkPool pool remaining protocol =>
    left
    cases choice with
    | proceed =>
      simp only [atomic] at ran
      split at ran <;>
        simp only [Option.some.injEq, Prod.mk.injEq] at ran <;>
        exact ⟨ran.1.symm, ran.2.2.symm⟩
    | listingFails | pop => simp [atomic] at ran
  | listBusy pool continuation =>
    left
    cases choice with
    | proceed | listingFails =>
      simp only [atomic, Option.some.injEq, Prod.mk.injEq] at ran
      exact ⟨ran.1.symm, ran.2.2.symm⟩
    | pop => simp [atomic] at ran
  | refreshLocked pool busyPorts continuation =>
    right
    left
    cases choice with
    | proceed =>
      simp only [atomic, Option.some.injEq, Prod.mk.injEq] at ran
      exact ⟨pool, busyPorts, continuation, rfl, ran.1.symm, ran.2.2.symm⟩
    | listingFails | pop => simp [atomic] at ran
  | allocate protocol =>
    simp only [atomic] at ran
    rcases allocate_cases ran with unchanged | ⟨port, free, rfl, rfl⟩
    · exact .inl unchanged
    · exact .inr (.inr ⟨protocol, port, rfl, .inr ⟨rfl, free⟩⟩)
  | reserveLocked protocol port =>
    right
    right
    cases choice with
    | proceed =>
      simp only [atomic, Option.some.injEq, Prod.mk.injEq] at ran
      exact ⟨protocol, port, ran.1.symm, .inl ran.2.2.symm⟩
    | listingFails | pop => simp [atomic] at ran
  | returned result => cases choice <;> simp [atomic] at ran

theorem environment_shows_nothing {event : Event}
    (happened : environment world event = some (next, shown)) : shown = [] := by
  cases event <;>
    simp only [environment, Option.some.injEq, Prod.mk.injEq] at happened <;>
    exact happened.2.symm

namespace PoolsSound

variable {allowedPorts : Finset Int} {world : World}

section

variable (sound : PoolsSound allowedPorts world)
include sound

/-- A refresh keeps the pools sound exactly when its snapshot covers the open
bookings of the pool. -/
theorem refresh_iff (pool : Protocol) (busyPorts : Finset Int) :
    PoolsSound allowedPorts (world.refresh pool busyPorts) ↔
      CoversBookings world pool busyPorts := by
  constructor
  · intro soundAfter booking member inPool allowed
    by_contra uncovered
    obtain ⟨notBusy, notReserved⟩ := not_or.mp uncovered
    obtain ⟨ports, found, offered⟩ :=
      (world.distributor.refresh_pool_self pool busyPorts booking.port).mpr
        ⟨allowed, notBusy, notReserved⟩
    exact soundAfter.pools_unbooked booking member pool inPool found offered
  · intro covers
    refine ⟨sound.allowedPorts_eq, ?_, ?_⟩
    · intro other ports found port member
      by_cases same : other = pool
      · subst other
        have offered := (world.distributor.refresh_pool_self pool busyPorts port).mp
            ⟨ports, found, member⟩
        exact sound.allowedPorts_eq ▸ offered.1
      · rw [World.refresh, PortDistributor.refresh_pool_other _ same] at found
        exact sound.pools_subset found member
    · intro booking member other inPool ports found offered
      by_cases same : other = pool
      · subst other
        obtain ⟨allowed, notBusy, notReserved⟩ :=
          (world.distributor.refresh_pool_self pool busyPorts
            booking.port).mp ⟨ports, found, offered⟩
        rcases covers booking member inPool allowed with busy | reserved
        · exact notBusy busy
        · exact notReserved reserved
      · rw [World.refresh, PortDistributor.refresh_pool_other _ same] at found
        exact sound.pools_unbooked booking member other inPool found offered

theorem book (protocol : Protocol) (port : Int) :
    PoolsSound allowedPorts (world.book protocol port) := by
  refine ⟨sound.allowedPorts_eq, ?_, ?_⟩
  · intro pool ports found
    obtain ⟨before, beforeFound, subset⟩ := PortDistributor.reserve_pool_subset found
    exact subset.trans (sound.pools_subset beforeFound)
  · intro booking member pool inPool ports found
    rcases mem_cons.mp member with rfl | earlier
    · simp only [World.book, PortDistributor.reserve, if_pos inPool] at found
      obtain ⟨before, _, rfl⟩ := Option.map_eq_some_iff.mp found
      exact Finset.notMem_erase _ _
    · obtain ⟨before, beforeFound, subset⟩ := PortDistributor.reserve_pool_subset found
      intro offered
      exact sound.pools_unbooked booking earlier pool inPool beforeFound (subset offered)

theorem environment {next : World} {event : Event} {shown : List Output}
    (happened : environment world event = some (next, shown)) : PoolsSound allowedPorts next := by
  cases event with
  | bind | unbind =>
    simp only [Ports.environment, Option.some.injEq, Prod.mk.injEq] at happened
    obtain ⟨rfl, -⟩ := happened
    exact ⟨sound.allowedPorts_eq, sound.pools_subset, sound.pools_unbooked⟩
  | closeTunnel closed =>
    simp only [Ports.environment, Option.some.injEq, Prod.mk.injEq] at happened
    obtain ⟨rfl, -⟩ := happened
    refine ⟨sound.allowedPorts_eq, sound.pools_subset, ?_⟩
    intro booking member
    exact sound.pools_unbooked booking (mem_of_mem_erase member)

theorem handOut {protocol : Protocol} {port : Int} (free : ∀ pool ∈ protocol.subProtocols, ∃ ports,
      world.distributor.portsPools pool = some ports ∧ port ∈ ports) :
    SoundHandOut allowedPorts world protocol port := by
  refine ⟨?_, ?_, free⟩
  · rintro booking member rfl ⟨pool, inBooking, inProtocol⟩
    obtain ⟨ports, found, offered⟩ := free pool inProtocol
    exact sound.pools_unbooked booking member pool inBooking found offered
  · have nonempty : ∃ pool, pool ∈ protocol.subProtocols := by
      cases protocol <;> exact ⟨_, mem_cons_self⟩
    obtain ⟨pool, member⟩ := nonempty
    obtain ⟨ports, found, offered⟩ := free pool member
    exact sound.pools_subset found offered

end

end PoolsSound

variable {config : Config World Thread} {allowedPorts : Finset Int}

theorem step_poolsSound {next : Config World Thread} {move : Move Call Choice Event}
    (sound : PoolsSound allowedPorts config.shared) (covers : OnAdvance RefreshCovers config move)
    (stepped : program.system.step config move = some (next, shown)) :
    PoolsSound allowedPorts next.shared := by
  cases Program.step_cases stepped with
  | spawn call =>
    exact sound
  | advance found ran =>
    rcases atomic_cases ran with
      ⟨rfl, -⟩ | ⟨pool, busyPorts, continuation, rfl, rfl, -⟩ | ⟨protocol, port, rfl, -⟩
    · exact sound
    · exact (sound.refresh_iff pool busyPorts).mpr (covers.condition found)
    · exact sound.book protocol port
  | environment happened =>
    exact sound.environment happened

theorem run_poolsSound {connections : NetConnections} {history : List Output}
    (run : Run program.system (OnAdvance RefreshCovers)
      (initial allowedPorts connections) history config) :
    PoolsSound allowedPorts config.shared := by
  apply run.stateInvariant (fun config =>
    PoolsSound allowedPorts config.shared)
  · refine ⟨rfl, ?_, ?_⟩
    · intro pool ports found
      simp [initial, PortDistributor.new] at found
    · intro booking member
      simp [initial] at member
  · exact step_poolsSound

/-- In every run whose refreshes cover the open bookings, a port is handed out
only if it is allowed, free in every pool of the protocol, and not booked for
an overlapping protocol. -/
theorem getRandomPort_never_doubleBooks {allowedPorts : Finset Int}
    {connections : NetConnections} {history shown : List Output}
    {config next : Config World Thread} {move : Move Call Choice Event}
    (run : Run program.system (OnAdvance RefreshCovers)
      (initial allowedPorts connections) history config)
    (stepped : program.system.step config move = some (next, shown))
    {protocol : Protocol} {port : Int}
    (handed : .handedOut protocol port ∈ shown) :
    SoundHandOut allowedPorts config.shared protocol port := by
  have sound := run_poolsSound run
  cases Program.step_cases stepped with
  | spawn call =>
    simp at handed
  | advance found ran =>
    rcases atomic_cases ran with
      ⟨-, rfl⟩ | ⟨_, _, _, -, -, rfl⟩ | ⟨booked, taken, -, shownHere⟩
    · simp at handed
    · simp at handed
    · rcases shownHere with rfl | ⟨rfl, free⟩
      · simp at handed
      · simp only [mem_singleton, Output.handedOut.injEq] at handed
        obtain ⟨rfl, rfl⟩ := handed
        exact sound.handOut free
  | environment happened =>
    obtain rfl := environment_shows_nothing happened
    simp at handed

/-- `CoversBookings` cannot be weakened: after a refresh that fails it, the
next `GetRandomPort` for the pool may return a port that is booked for it. -/
theorem uncoveredRefresh_doubleBooks {index : Nat} {pool : Protocol}
    {busyPorts : Finset Int} {continuation : Continuation} (found : config.threads[index]? =
      some (.refreshLocked pool busyPorts continuation))
    (single : pool.subProtocols = [pool])
    (uncovered : ¬ CoversBookings config.shared pool busyPorts) :
    ∃ booking ∈ config.shared.bookings, booking.protocol.Overlaps pool ∧
      ∃ final, program.system.execute config [.advance index .proceed, .spawn (.getRandomPort pool),
          .advance config.threads.length .proceed,
          .advance config.threads.length (.pop booking.port)] =
        some (final, [.handedOut pool booking.port]) := by
  simp only [CoversBookings, not_forall, not_or] at uncovered
  obtain ⟨booking, member, inPool, allowed, notBusy, notReserved⟩ := uncovered
  have overlaps : booking.protocol.Overlaps pool := ⟨pool, inPool, by simp [single]⟩
  have offered := (config.shared.distributor.refresh_pool_self pool busyPorts
    booking.port).mpr ⟨allowed, notBusy, notReserved⟩
  obtain ⟨ports, rebuilt, portMember⟩ := offered
  have collected : (config.shared.distributor.refresh pool
      busyPorts).candidates [pool] none = some (some ports) := by
    simp [PortDistributor.candidates, rebuilt]
  refine ⟨booking, member, overlaps, ?_⟩
  simp [System.execute, Program.system, Program.step, program, found, atomic,
    Thread.enter, Thread.checkPools, single, rebuilt, allocate, collected, portMember]

def releasedEarly : Config World Thread :=
  ⟨⟨.new {5000}, fun _ => [], [⟨.tcp, 5000⟩]⟩, [.refreshLocked .tcp ∅ (.refreshAll [])]⟩

theorem uncoveredRefresh_doubleBooks_releasedEarly :
    ∃ booking ∈ [Booking.mk .tcp 5000], booking.protocol.Overlaps .tcp ∧
      ∃ final, program.system.execute releasedEarly [.advance 0 .proceed,
          .spawn (.getRandomPort .tcp), .advance 1 .proceed, .advance 1 (.pop booking.port)] =
        some (final, [.handedOut .tcp booking.port]) :=
  have found : releasedEarly.threads[0]? = some (.refreshLocked .tcp ∅ (.refreshAll [])) := rfl
  uncoveredRefresh_doubleBooks found rfl (by decide)

def firstHandOut : List (Move Call Choice Event) :=
  [.spawn (.getRandomPort .tcp), .advance 0 .proceed, .advance 0 .proceed, .advance 0 .proceed]

theorem getRandomPort_never_doubleBooks_firstHandOut :
    ∃ config next shown,
      program.system.step config (.advance 0 (.pop 5000)) = some (next, shown) ∧
      .handedOut .tcp 5000 ∈ shown ∧
      SoundHandOut {5000} config.shared .tcp 5000 := by
  obtain ⟨config, history, run, checked⟩ :=
    Run.exists_ofExecute program.system (OnAdvance RefreshCovers)
      (initial {5000} fun _ => []) firstHandOut (fun outcome =>
        (program.system.step outcome.1 (.advance 0 (.pop 5000))).any
          fun result => .handedOut .tcp 5000 ∈ result.2)
      (by decide +kernel) (by decide +kernel)
  obtain ⟨⟨next, shown⟩, stepped, handed⟩ := (Option.any_eq_true _ _).mp checked
  have member : .handedOut .tcp 5000 ∈ shown := by simpa using handed
  exact ⟨config, next, shown, stepped, member, getRandomPort_never_doubleBooks run stepped member⟩

/-- The tcp port 5000 is handed out and not bound yet when a foreign process
binds the same number for udp.  The udp half of a `Refresh` takes that for the
binding of the handed-out port and drops the reservation, so the tcp half of
the next `Refresh` offers the port again. -/
def crossProtocolRelease : List (Move Call Choice Event) :=
  List.flatten [firstHandOut,
    [.advance 0 (.pop 5000), .environment (.bind .udp ⟨"NONE", 5000⟩),
      .spawn .refresh, .advance 1 .proceed, .advance 1 .proceed,
      .advance 1 .proceed, .advance 1 .proceed,
      .spawn .refresh, .advance 2 .proceed, .advance 2 .proceed,
      .spawn (.getRandomPort .tcp), .advance 3 .proceed]]

theorem getRandomPort_doubleBooks :
    ¬ ∀ allowedPorts connections history shown config next move protocol port,
      Run program.system Unrestricted (initial allowedPorts connections) history config →
      program.system.step config move = some (next, shown) →
      .handedOut protocol port ∈ shown →
      SoundHandOut allowedPorts config.shared protocol port := by
  intro claim
  obtain ⟨config, history, run, checked⟩ :=
    Run.exists_unrestricted program.system (initial {5000} fun _ => []) crossProtocolRelease
      (fun outcome =>
        (⟨.tcp, 5000⟩ : Booking) ∈ outcome.1.shared.bookings &&
        (program.system.step outcome.1 (.advance 3 (.pop 5000))).any
          fun result => .handedOut .tcp 5000 ∈ result.2)
      (by decide +kernel)
  obtain ⟨booked, handedAgain⟩ := Bool.and_eq_true_iff.mp checked
  obtain ⟨⟨next, shown⟩, stepped, handed⟩ := (Option.any_eq_true _ _).mp handedAgain
  have sound := claim _ _ history shown config next _ .tcp 5000 run stepped (by simpa using handed)
  exact sound.notBooked ⟨.tcp, 5000⟩ (by simpa using booked) rfl (by decide)

end ProxiPort.Ports
