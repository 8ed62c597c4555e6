import ProxiPort.Ports.DoubleBooking

/-!
# When a port comes back

The distributor learns that a port it has handed out is free again only by
comparison: the reservation of a port is dropped by a refresh that sees the
port busy, and the next refresh that sees it free puts it back into the pool.
A port that no snapshot has shown busy since it was taken stays reserved and is
never offered again.

The runs below are those of the distributor with another record of what
happens: which port was taken, and with which snapshot a pool was rebuilt.
-/

namespace ProxiPort.Ports

open Concurrency List

inductive Record where
  /-- A port was handed out by `GetRandomPort` or set aside by `Reserve`. -/
  | taken (protocol : Protocol) (port : Int)
  /-- A pool was rebuilt from a snapshot of the busy ports. -/
  | refreshed (pool : Protocol) (busyPorts : Finset Int)
  deriving DecidableEq

def records : Thread → Choice → List Record
  | .allocate protocol, .pop port => [.taken protocol port]
  | .reserveLocked protocol port, _ => [.taken protocol port]
  | .refreshLocked pool busyPorts _, _ => [.refreshed pool busyPorts]
  | _, _ => []

def recorded : Program World Thread Call Choice Event Record where
  enter := Thread.enter
  atomic world thread choice := (atomic world thread choice).map fun (next, after, _) =>
      (next, after, records thread choice)
  environment world event := (environment world event).map fun (next, _) => (next, [])

/-- The port was taken, and no snapshot since has shown it busy. -/
def outstanding (port : Int) (history : List Record) : Bool := history.foldl (fun held record =>
    match record with
    | .taken _ taken => taken = port || held
    | .refreshed _ busyPorts => held && decide (port ∉ busyPorts)) false

/-- `GetRandomPort` can hand the port out for the protocol. -/
def PortDistributor.Available (distributor : PortDistributor)
    (protocol : Protocol) (port : Int) : Prop :=
  ∃ ports, distributor.candidates protocol.subProtocols none = some (some ports) ∧ port ∈ ports

/-- The record concerns the port's place in a pool. -/
def Record.Concerns (pool : Protocol) (port : Int) : Record → Prop
  | .taken protocol number => number = port ∧ pool ∈ protocol.subProtocols
  | .refreshed rebuilt _ => rebuilt = pool

/-- The latest refresh of a pool, with its snapshot and with everything that was
recorded before it; the port has not been taken from the pool since. -/
def LatestRefresh (history : List Record) (pool : Protocol) (port : Int)
    (before : List Record) (busyPorts : Finset Int) : Prop :=
  ∃ after, history = before ++ .refreshed pool busyPorts :: after ∧
    ∀ record ∈ after, ¬ record.Concerns pool port

def PortDistributor.Offers (distributor : PortDistributor) (pool : Protocol) (port : Int) : Prop :=
  ∃ ports, distributor.portsPools pool = some ports ∧ port ∈ ports

/-- A section records nothing and leaves the distributor alone, or it records
what it does to it. -/
inductive Recorded (distributor : PortDistributor) :
    List Record → PortDistributor → Prop where
  | nothing : Recorded distributor [] distributor
  | taken (protocol : Protocol) (port : Int) : Recorded distributor [.taken protocol port]
        (distributor.reserve protocol port)
  | refreshed (pool : Protocol) (busyPorts : Finset Int) :
      Recorded distributor [.refreshed pool busyPorts] (distributor.refresh pool busyPorts)

variable {shown : List Output} {choice : Choice}

theorem allocate_recorded {world next : World} {protocol : Protocol} {after : Thread}
    (allocated : allocate world protocol choice = some (next, after, shown)) :
    Recorded world.distributor (records (.allocate protocol) choice)
      next.distributor := by
  cases choice with
  | listingFails => cases allocated
  | proceed =>
    simp only [allocate] at allocated
    split at allocated
    · split at allocated
      · cases allocated
        exact .nothing
      · cases allocated
    · cases allocated
      exact .nothing
  | pop port =>
    simp only [allocate] at allocated
    split at allocated
    · split at allocated
      · cases allocated
        exact .taken protocol port
      · cases allocated
    · cases allocated

theorem atomic_recorded {world next : World} {thread after : Thread}
    (ran : atomic world thread choice = some (next, after, shown)) :
    Recorded world.distributor (records thread choice) next.distributor := by
  cases thread with
  | checkPool pool remaining protocol =>
    cases choice with
    | proceed =>
      simp only [atomic] at ran
      split at ran
      all_goals
        cases ran
        exact .nothing
    | listingFails | pop => cases ran
  | listBusy pool continuation =>
    cases choice with
    | proceed | listingFails =>
      cases ran
      exact .nothing
    | pop => cases ran
  | refreshLocked pool busyPorts continuation =>
    cases choice with
    | proceed =>
      cases ran
      exact .refreshed pool busyPorts
    | listingFails | pop => cases ran
  | allocate protocol => exact allocate_recorded ran
  | reserveLocked protocol port =>
    cases choice with
    | proceed =>
      cases ran
      exact .taken protocol port
    | listingFails | pop => cases ran
  | returned result => cases choice <;> cases ran

theorem step_recorded {config next : Config World Thread}
    {move : Move Call Choice Event} {shown : List Record}
    (stepped : recorded.system.step config move = some (next, shown)) :
    Recorded config.shared.distributor shown next.shared.distributor := by
  cases Program.step_cases stepped with
  | spawn call =>
    exact .nothing
  | advance _ ran =>
    simp only [recorded, Option.map_eq_some_iff] at ran
    obtain ⟨⟨world, control, output⟩, ran, result⟩ := ran
    cases result
    exact atomic_recorded ran
  | @environment event _ _ happened =>
    simp only [recorded, Option.map_eq_some_iff] at happened
    obtain ⟨⟨world, output⟩, happened, result⟩ := happened
    cases result
    cases event with
    | bind | unbind | closeTunnel =>
      cases happened
      exact .nothing

structure Described (allowedPorts : Finset Int) (history : List Record)
    (distributor : PortDistributor) : Prop where
  allowedPorts_eq : distributor.allowedPorts = allowedPorts
  reserved_iff : ∀ port, port ∈ distributor.reserved ↔ outstanding port history = true
  offers_iff : ∀ {pool port before busyPorts}, LatestRefresh history pool port before busyPorts →
      (distributor.Offers pool port ↔ port ∈ allowedPorts ∧ port ∉ busyPorts ∧
          outstanding port before = false)

theorem outstanding_concat (port : Int) (history : List Record) (record : Record) :
    outstanding port (history ++ [record]) =
      match record with
      | .taken _ taken => decide (taken = port) || outstanding port history
      | .refreshed _ busyPorts =>
        outstanding port history && decide (port ∉ busyPorts) := by
  rw [outstanding, foldl_append]
  rfl

variable {port : Int}

/-- The latest refresh of a longer history is the last record, or it was the
latest before and the last record does not concern the port. -/
theorem LatestRefresh.concat {history before : List Record} {record : Record}
    {pool : Protocol} {busyPorts : Finset Int}
    (latest : LatestRefresh (history ++ [record]) pool port before busyPorts) :
    (record = .refreshed pool busyPorts ∧ before = history) ∨
      (LatestRefresh history pool port before busyPorts ∧ ¬ record.Concerns pool port) := by
  obtain ⟨after, split, quiet⟩ := latest
  rcases eq_nil_or_concat after with rfl | ⟨earlier, last, rfl⟩
  · obtain ⟨same, final⟩ := append_inj' split rfl
    exact .inl ⟨(List.cons.inj final).1, same.symm⟩
  · have moved : history ++ [record] =
        (before ++ .refreshed pool busyPorts :: earlier) ++ [last] := by
      simpa using split
    obtain ⟨rfl, final⟩ := append_inj' moved rfl
    cases final
    refine .inr ⟨⟨earlier, rfl, fun record member =>
      quiet record (by simp [member])⟩, quiet _ (by simp)⟩

variable {distributor : PortDistributor}

theorem offers_reserve_iff {protocol pool : Protocol} {taken : Int}
    (elsewhere : ¬ (Record.taken protocol taken).Concerns pool port) :
    (distributor.reserve protocol taken).Offers pool port ↔ distributor.Offers pool port := by
  simp only [PortDistributor.Offers, PortDistributor.reserve]
  split
  · rename_i drawn
    have other : port ≠ taken := fun same => elsewhere ⟨same.symm, drawn⟩
    simp [Option.map_eq_some_iff, Finset.mem_erase, other]
  · rfl

variable {allowedPorts : Finset Int}

theorem Described.record {history shown : List Record} {next : PortDistributor}
    (described : Described allowedPorts history distributor)
    (step : Recorded distributor shown next) : Described allowedPorts (history ++ shown) next := by
  cases step with
  | nothing => rwa [append_nil]
  | taken protocol taken =>
    refine ⟨described.allowedPorts_eq, fun port => ?_, fun latest => ?_⟩
    · simp only [PortDistributor.reserve, Finset.mem_insert,
        outstanding_concat, described.reserved_iff, Bool.or_eq_true, decide_eq_true_eq]
      rw [eq_comm (a := port)]
    · rcases latest.concat with ⟨wrong, -⟩ | ⟨before, elsewhere⟩
      · cases wrong
      · rw [offers_reserve_iff elsewhere]
        exact described.offers_iff before
  | refreshed pool busyPorts =>
    refine ⟨described.allowedPorts_eq, fun port => ?_, fun latest => ?_⟩
    · simp only [PortDistributor.refresh, Finset.mem_filter,
        outstanding_concat, described.reserved_iff, Bool.and_eq_true, decide_eq_true_eq]
    · rcases latest.concat with ⟨same, rfl⟩ | ⟨before, elsewhere⟩
      · cases same
        rw [PortDistributor.Offers, PortDistributor.refresh_pool_self,
          described.reserved_iff, described.allowedPorts_eq, Bool.not_eq_true]
      · have unchanged := PortDistributor.refresh_pool_other distributor
            (fun same => elsewhere same.symm) busyPorts
        rw [PortDistributor.Offers, unchanged]
        exact described.offers_iff before

theorem run_described {connections : NetConnections} {history : List Record}
    {config : Config World Thread} (run : Run recorded.system Unrestricted
      (initial allowedPorts connections) history config) :
    Described allowedPorts history config.shared.distributor := by
  apply run.invariant (fun history config =>
    Described allowedPorts history config.shared.distributor)
  · refine ⟨rfl, fun port => ?_, fun latest => ?_⟩
    · simp [initial, PortDistributor.new, outstanding]
    · obtain ⟨after, split, -⟩ := latest
      exact absurd split.symm (by simp)
  · intro history shown config next move described _ stepped
    exact described.record (step_recorded stepped)

theorem PortDistributor.candidates_some {protocols : List Protocol}
    {ports : Finset Int} (member : port ∈ ports)
    (offered : ∀ pool ∈ protocols, distributor.Offers pool port) :
    ∃ found, distributor.candidates protocols (some ports) = some (some found) ∧ port ∈ found := by
  induction protocols generalizing ports with
  | nil => exact ⟨ports, rfl, member⟩
  | cons protocol protocols induction =>
    obtain ⟨pool, exists_pool, inPool⟩ := offered protocol mem_cons_self
    simp only [PortDistributor.candidates, exists_pool]
    exact induction (Finset.mem_inter.mpr ⟨member, inPool⟩)
      fun other later => offered other (mem_cons_of_mem _ later)

theorem PortDistributor.available_iff (distributor : PortDistributor)
    (protocol : Protocol) (port : Int) :
    distributor.Available protocol port ↔
      ∀ pool ∈ protocol.subProtocols, distributor.Offers pool port := by
  constructor
  · rintro ⟨ports, found, member⟩
    exact (PortDistributor.candidates_mem found member).2
  · intro offered
    obtain ⟨first, rest, listed⟩ : ∃ first rest, protocol.subProtocols = first :: rest := by
      cases protocol <;> exact ⟨_, _, rfl⟩
    rw [Available, listed]
    rw [listed] at offered
    obtain ⟨pool, exists_pool, inPool⟩ := offered first mem_cons_self
    simp only [PortDistributor.candidates, exists_pool]
    exact candidates_some inPool fun other later => offered other (mem_cons_of_mem _ later)

/-- In every run, when the latest refresh of each pool of a protocol shows a
port free and the port was not taken since, then the port is available for the
protocol if and only if it is an allowed port and, before each of these
refreshes, it was not outstanding: since it was last taken, some refresh of
either pool had seen it busy. -/
theorem port_available_again_iff {allowedPorts : Finset Int}
    {connections : NetConnections} {history : List Record} {config : Config World Thread}
    (run : Run recorded.system Unrestricted (initial allowedPorts connections) history config)
    {protocol : Protocol} {port : Int} (before : Protocol → List Record)
    (busyPorts : Protocol → Finset Int) (latest : ∀ pool ∈ protocol.subProtocols,
      LatestRefresh history pool port (before pool) (busyPorts pool))
    (free : ∀ pool ∈ protocol.subProtocols, port ∉ busyPorts pool) :
    config.shared.distributor.Available protocol port ↔
      port ∈ allowedPorts ∧ ∀ pool ∈ protocol.subProtocols,
        outstanding port (before pool) = false := by
  have described := run_described run
  have nonempty : ∃ pool, pool ∈ protocol.subProtocols := by
    cases protocol <;> exact ⟨_, mem_cons_self⟩
  rw [PortDistributor.available_iff]
  constructor
  · intro offered
    have each : ∀ pool ∈ protocol.subProtocols, port ∈ allowedPorts ∧
        outstanding port (before pool) = false := by
      intro pool member
      obtain ⟨allowed, -, settled⟩ :=
        (described.offers_iff (latest pool member)).mp (offered pool member)
      exact ⟨allowed, settled⟩
    obtain ⟨pool, member⟩ := nonempty
    exact ⟨(each pool member).1, fun pool member => (each pool member).2⟩
  · rintro ⟨allowed, settled⟩ pool member
    exact (described.offers_iff (latest pool member)).mpr
      ⟨allowed, free pool member, settled pool member⟩

def handedOut : List (Move Call Choice Event) :=
  [.spawn (.getRandomPort .tcp), .advance 0 .proceed, .advance 0 .proceed,
    .advance 0 .proceed, .advance 0 (.pop 5000)]

def boundAndClosed : List (Move Call Choice Event) :=
  List.flatten [handedOut,
    [.environment (.bind .tcp ⟨"LISTEN", 5000⟩), .spawn .refresh,
      .advance 1 .proceed, .advance 1 .proceed, .advance 1 .proceed,
      .advance 1 .proceed, .environment (.unbind .tcp ⟨"LISTEN", 5000⟩),
      .spawn .refresh, .advance 2 .proceed, .advance 2 .proceed]]

def seenBusy : List Record :=
  [.refreshed .tcp ∅, .taken .tcp 5000, .refreshed .tcp {5000},
    .refreshed .udp ∅]

def recordsOf (history : List Record) (outcome : Config World Thread × List Record) : Bool :=
  outcome.2 = history

theorem port_available_again_boundAndClosed :
    ∃ config, Run recorded.system Unrestricted (initial {5000} fun _ => [])
        (seenBusy ++ [.refreshed .tcp ∅]) config ∧
      outstanding 5000 seenBusy = false ∧
      config.shared.distributor.Available .tcp 5000 := by
  obtain ⟨config, history, run, checked⟩ := Run.exists_unrestricted
    recorded.system (initial {5000} fun _ => []) boundAndClosed
    (recordsOf (seenBusy ++ [.refreshed .tcp ∅])) (by decide +kernel)
  have recorded : history = seenBusy ++ [.refreshed .tcp ∅] := of_decide_eq_true checked
  subst recorded
  have settled : outstanding 5000 seenBusy = false := by decide
  refine ⟨config, run, settled, ?_⟩
  apply (port_available_again_iff run (fun _ => seenBusy) (fun _ => ∅) ?_ ?_).mpr
  · exact ⟨Finset.mem_singleton_self _, fun _ _ => settled⟩
  · intro pool member
    rw [mem_singleton.mp member]
    exact ⟨[], rfl, forall_mem_nil _⟩
  · intro pool _
    exact Finset.notMem_empty _

def neverBound : List (Move Call Choice Event) :=
  List.flatten [handedOut,
    [.spawn .refresh, .advance 1 .proceed, .advance 1 .proceed,
      .advance 1 .proceed, .advance 1 .proceed, .spawn .refresh,
      .advance 2 .proceed, .advance 2 .proceed]]

def isLost (outcome : Config World Thread × List Record) : Bool :=
  outcome.2 = [.refreshed .tcp ∅, .taken .tcp 5000, .refreshed .tcp ∅,
    .refreshed .udp ∅, .refreshed .tcp ∅] && outcome.1.shared.distributor.portsPools .tcp = some ∅

/-- All snapshots since the port was handed out show it free, and the pool is
empty. -/
theorem port_never_comes_back :
    ∃ config, Run recorded.system Unrestricted (initial {5000} fun _ => [])
        [.refreshed .tcp ∅, .taken .tcp 5000, .refreshed .tcp ∅,
          .refreshed .udp ∅, .refreshed .tcp ∅] config ∧
      (5000 : Int) ∈ config.shared.distributor.allowedPorts ∧
      ¬ config.shared.distributor.Available .tcp 5000 := by
  obtain ⟨config, history, run, checked⟩ := Run.exists_unrestricted
    recorded.system (initial {5000} fun _ => []) neverBound isLost (by decide +kernel)
  simp only [isLost, Bool.and_eq_true, decide_eq_true_eq] at checked
  obtain ⟨rfl, empty⟩ := checked
  refine ⟨config, run, ?_, ?_⟩
  · rw [(run_described run).allowedPorts_eq]
    exact Finset.mem_singleton_self _
  · intro available
    obtain ⟨ports, found, member⟩ := (PortDistributor.available_iff _ _ _).mp available .tcp
        mem_cons_self
    rw [empty] at found
    cases found
    exact Finset.notMem_empty _ member

end ProxiPort.Ports
