import ProxiPort.Clients.Exclusion

/-!
# One credential, one client

`StartClient` looks for another client with the same auth id before it registers
its own, and its lock covers one client id only.  Two calls for different
clients can both look before either has registered, and an obsolete client that
is still in the map is not seen.
-/

namespace ProxiPort.Clients

open Concurrency Ports List Keyed

def CredentialsDistinct (repo : Repository) : Prop :=
  ∀ first ∈ repo.clientState.entries, ∀ second ∈ repo.clientState.entries,
    (repo.client first).clientAuthID = (repo.client second).clientAuthID →
      first.id = second.id

def Start.isChecked : Start → Bool
  | .registering _ _ | .connecting _ _ | .tunnelling _ _ | .storing _
  | .updating _ => true
  | _ => false

def Thread.startsSingle : Thread → Bool
  | .arriving call | .starting call _ => !call.authMultiuseCreds
  | _ => false

def StartsOnly (_ : Config Repository Thread) (thread : Thread) (_ : Choice) : Prop :=
  thread.startsSingle = true

instance (config : Config Repository Thread) (thread : Thread)
    (choice : Choice) : Decidable (StartsOnly config thread choice) :=
  inferInstanceAs (Decidable (thread.startsSingle = true))

def Thread.claims (call : StartCall) : Thread → Bool
  | .starting other point => point.isChecked && other.clientAuthID = call.clientAuthID &&
      other.clientID ≠ call.clientID
  | _ => false

def Thread.checking : Thread → Option StartCall
  | .starting call (.checkingAuthID _ _) => some call
  | _ => none

def NotObsolete (keep : Option Int) (repo : Repository) (now : Time) (call : StartCall) : Prop :=
  ∀ address ∈ repo.clientState.entries, (repo.client address).obsolete keep now = true →
    (repo.client address).clientAuthID = call.clientAuthID → address.id = call.clientID

/-- Calls of `StartClient`, in which an auth id is checked only if no other call
has it under way for another client and no obsolete client has it. -/
def CheckedInTurn (keep : Option Int) (config : Config Repository Thread)
    (thread : Thread) (choice : Choice) : Prop :=
  thread.startsSingle = true ∧ ∀ call ∈ thread.checking,
      (∀ other ∈ config.threads, other.claims call = false) ∧
        NotObsolete keep config.shared choice.now call

instance (keep : Option Int) (repo : Repository) (now : Time)
    (call : StartCall) : Decidable (NotObsolete keep repo now call) :=
  inferInstanceAs (Decidable (∀ address ∈ _, _ → _ → _))

instance (keep : Option Int) (config : Config Repository Thread)
    (thread : Thread) (choice : Choice) : Decidable (CheckedInTurn keep config thread choice) :=
  inferInstanceAs (Decidable (_ ∧ ∀ call ∈ _, (∀ other ∈ _, _) ∧ _))

structure Credited (config : Config Repository Thread) : Prop where
  distinct : CredentialsDistinct config.shared
  claimed : ∀ {call point}, .starting call point ∈ config.threads →
    point.isChecked = true → ∀ address ∈ config.shared.clientState.entries,
      (config.shared.client address).clientAuthID = call.clientAuthID → address.id = call.clientID
  apart : ∀ {call point other otherPoint},
    .starting call point ∈ config.threads → point.isChecked = true →
    .starting other otherPoint ∈ config.threads →
    otherPoint.isChecked = true →
    call.clientAuthID = other.clientAuthID → call.clientID = other.clientID

variable {keep : Option Int} {config : Config Repository Thread}
  {changed : Repository} {choice : Choice}

section

variable (credited : Credited config)

include credited

variable {index : Nat}

theorem Credited.frame {thread after : Thread} (found : config.threads[index]? = some thread)
    (map : changed.clientState = config.shared.clientState)
    (owners : SameOwners config.shared changed)
    (checked : ∀ {call point}, after = .starting call point → point.isChecked = true →
        ∃ before, thread = .starting call before ∧ before.isChecked = true) :
    Credited ⟨changed, config.threads.set index after⟩ := by
  have member := List.mem_of_getElem? found
  have old : ∀ {call point}, .starting call point ∈ config.threads.set index after →
      point.isChecked = true → ∃ before, .starting call before ∈ config.threads ∧
          before.isChecked = true := by
    intro call point here isChecked
    rcases mem_or_eq_of_mem_set here with there | same
    · exact ⟨point, there, isChecked⟩
    · obtain ⟨before, rfl, wasChecked⟩ := checked same.symm isChecked
      exact ⟨before, member, wasChecked⟩
  constructor
  · intro first firstMember second secondMember
    rw [map] at firstMember secondMember
    rw [owners.clientAuthID, owners.clientAuthID]
    exact credited.distinct first firstMember second secondMember
  · intro call point here isChecked address entry
    rw [map] at entry
    rw [owners.clientAuthID]
    obtain ⟨before, there, wasChecked⟩ := old here isChecked
    exact credited.claimed there wasChecked address entry
  · intro call point other otherPoint here isChecked otherHere otherChecked
    obtain ⟨before, there, wasChecked⟩ := old here isChecked
    obtain ⟨otherBefore, otherThere, otherWas⟩ := old otherHere otherChecked
    exact credited.apart there wasChecked otherThere otherWas

variable {call : StartCall} {existing : Option Address} {kept : List Remote}

theorem Credited.pass (unclaimed : ∀ other ∈ config.threads, other.claims call = false)
    (current : NotObsolete keep config.shared choice.now call)
    (unused : config.shared.isClientAuthIDInUse keep choice.now
      call.clientAuthID call.clientID = false) :
    Credited ⟨config.shared, config.threads.set index
      (.starting call (.registering existing kept))⟩ := by
  have mine : ∀ address ∈ config.shared.clientState.entries,
      (config.shared.client address).clientAuthID = call.clientAuthID →
        address.id = call.clientID := by
    intro address entry same
    cases obsolete : (config.shared.client address).obsolete keep choice.now with
    | true => exact current address entry obsolete same
    | false =>
      have notUsed := any_eq_false.mp unused address entry
      simpa [obsolete, same] using notUsed
  have theirs : ∀ {other point}, .starting other point ∈ config.threads →
      point.isChecked = true → other.clientAuthID = call.clientAuthID →
        other.clientID = call.clientID := by
    intro other point there isChecked same
    have free := unclaimed _ there
    simpa [Thread.claims, isChecked, same] using free
  constructor
  · exact credited.distinct
  · intro other point here isChecked
    rcases mem_or_eq_of_mem_set here with there | same
    · exact credited.claimed there isChecked
    · cases same
      exact mine
  · intro first firstPoint second secondPoint firstHere firstChecked secondHere secondChecked same
    rcases mem_or_eq_of_mem_set firstHere with firstThere | isFirst
    · rcases mem_or_eq_of_mem_set secondHere with secondThere | isSecond
      · exact credited.apart firstThere firstChecked secondThere secondChecked same
      · cases isSecond
        exact theirs firstThere firstChecked same
    · cases isFirst
      rcases mem_or_eq_of_mem_set secondHere with secondThere | isSecond
      · exact (theirs secondThere secondChecked same.symm).symm
      · cases isSecond
        rfl

theorem Credited.register {changed : Repository} {own : Address}
    (registered : call.register config.shared call.host existing = (changed, own))
    (found : config.threads[index]? = some (.starting call (.registering existing kept)))
    (named : ∀ client ∈ existing, client.id = call.clientID) :
    Credited ⟨changed, config.threads.set index (.starting call (.connecting own kept))⟩ := by
  have member := List.mem_of_getElem? found
  have map := (register_frame registered).1
  have mine := register_id registered named
  -- An entry has the auth id of the call, or the one it had.
  have auth : ∀ address, (address.id = call.clientID ∧
        (changed.client address).clientAuthID = call.clientAuthID) ∨
      (changed.client address).clientAuthID = (config.shared.client address).clientAuthID := by
    intro address
    by_cases same : address = own
    · subst same
      refine .inl ⟨mine, ?_⟩
      rw [register_self registered]
      rfl
    · rw [register_of_ne registered same]
      exact .inr rfl
  have old : ∀ {other point}, .starting other point ∈
        config.threads.set index (.starting call (.connecting own kept)) →
      point.isChecked = true → ∃ before, .starting other before ∈ config.threads ∧
          before.isChecked = true := by
    intro other point here isChecked
    rcases mem_or_eq_of_mem_set here with there | same
    · exact ⟨point, there, isChecked⟩
    · cases same
      exact ⟨_, member, rfl⟩
  constructor
  · intro first firstEntry second secondEntry same
    rw [map] at firstEntry secondEntry
    rcases auth first with ⟨firstMine, firstAuth⟩ | firstAuth
    · rcases auth second with ⟨secondMine, _⟩ | secondAuth
      · exact firstMine.trans secondMine.symm
      · rw [firstAuth, secondAuth] at same
        exact firstMine.trans (credited.claimed member rfl second secondEntry same.symm).symm
    · rcases auth second with ⟨secondMine, secondAuth⟩ | secondAuth
      · rw [firstAuth, secondAuth] at same
        exact (credited.claimed member rfl first firstEntry same).trans secondMine.symm
      · rw [firstAuth, secondAuth] at same
        exact credited.distinct first firstEntry second secondEntry same
  · intro other point here isChecked address entry same
    rw [map] at entry
    obtain ⟨before, there, wasChecked⟩ := old here isChecked
    rcases auth address with ⟨isMine, newAuth⟩ | oldAuth
    · rw [newAuth] at same
      exact isMine.trans (credited.apart member rfl there wasChecked same)
    · rw [oldAuth] at same
      exact credited.claimed there wasChecked address entry same
  · intro first firstPoint second secondPoint firstHere firstChecked secondHere secondChecked
    obtain ⟨_, firstThere, firstWas⟩ := old firstHere firstChecked
    obtain ⟨_, secondThere, secondWas⟩ := old secondHere secondChecked
    exact credited.apart firstThere firstWas secondThere secondWas

theorem Credited.update {client : Address} (exclusive : Exclusive config)
    (found : config.threads[index]? = some (.starting call (.updating client))) :
    Credited ⟨(config.shared.updateClient client).unlock call.clientID,
      config.threads.set index (.waiting client call.sshConn)⟩ := by
  have member := List.mem_of_getElem? found
  have named : client.id = call.clientID := exclusive.named member client rfl
  have auth : (config.shared.client client).clientAuthID =
      call.clientAuthID := (exclusive.held member client rfl).2
  have old : ∀ {other point}, .starting other point ∈
      config.threads.set index (.waiting client call.sshConn) →
        .starting other point ∈ config.threads := by
    intro other point here
    rcases mem_or_eq_of_mem_set here with there | same
    · exact there
    · cases same
  have entries : ∀ address ∈ (config.shared.clientState.put client).entries,
        address = client ∨ address ∈ config.shared.clientState.entries := by
    intro address entry
    rcases mem_put.mp entry with same | ⟨there, _⟩
    · exact .inl same
    · exact .inr there
  constructor
  · intro first firstEntry second secondEntry same
    have firstAuth : (config.shared.client first).clientAuthID =
        (config.shared.client second).clientAuthID := same
    rcases entries first firstEntry with rfl | firstThere
    · rcases entries second secondEntry with rfl | secondThere
      · rfl
      · exact named.trans (credited.claimed member rfl second secondThere
          (firstAuth.symm.trans auth)).symm
    · rcases entries second secondEntry with rfl | secondThere
      · exact (credited.claimed member rfl first firstThere (firstAuth.trans auth)).trans named.symm
      · exact credited.distinct first firstThere second secondThere firstAuth
  · intro other point here isChecked address entry same
    have otherAuth : (config.shared.client address).clientAuthID = other.clientAuthID := same
    rcases entries address entry with rfl | there
    · exact named.trans (credited.apart member rfl (old here) isChecked (auth.symm.trans otherAuth))
    · exact credited.claimed (old here) isChecked address there otherAuth
  · intro first firstPoint second secondPoint firstHere firstChecked secondHere secondChecked
    exact credited.apart (old firstHere) firstChecked (old secondHere) secondChecked

theorem Credited.advance {point : Start} {after : Thread} (exclusive : Exclusive config)
    (found : config.threads[index]? = some (.starting call point))
    (inTurn : CheckedInTurn keep config (.starting call point) choice)
    (stepped : StartStep keep config.shared call choice point changed
      after) : Credited ⟨changed, config.threads.set index after⟩ := by
  have single : (!call.authMultiuseCreds) = true := inTurn.1
  cases stepped with
  | passes unused =>
    rw [single, Bool.true_and] at unused
    obtain ⟨unclaimed, current⟩ := inTurn.2 call rfl
    exact credited.pass unclaimed current unused
  | registers =>
    exact credited.register rfl found (exclusive.named (List.mem_of_getElem? found))
  | updates => exact credited.update exclusive found
  | releases =>
    refine credited.frame found rfl (.write rfl rfl) ?_
    rintro _ _ ⟨⟩
    exact nofun
  | connects =>
    refine credited.frame found rfl (.write rfl rfl) ?_
    rintro _ _ ⟨⟩ _
    exact ⟨_, rfl, rfl⟩
  | tunnels only =>
    refine credited.frame found rfl (.startsTunnels only) ?_
    rintro _ _ ⟨⟩ _
    exact ⟨_, rfl, rfl⟩
  | tunnelsFail only =>
    exact credited.frame found rfl (.unlock (.startsTunnels only) _) nofun
  | stores =>
    refine credited.frame found rfl ⟨fun _ => rfl, fun _ => rfl⟩ ?_
    rintro _ _ ⟨⟩ _
    exact ⟨_, rfl, rfl⟩
  | locks | misses | finds | accepts =>
    refine credited.frame found rfl ⟨fun _ => rfl, fun _ => rfl⟩ ?_
    rintro _ _ ⟨⟩
    exact nofun
  | refuses | storeFails =>
    exact credited.frame found rfl ⟨fun _ => rfl, fun _ => rfl⟩ nofun

theorem step_credited {next : Config Repository Thread}
    {move : Move Call Choice Nat} {shown : List Action} (exclusive : Exclusive config)
    (admitted : OnAdvance (CheckedInTurn keep) config move)
    (stepped : (program keep).system.step config move = some (next, shown)) : Credited next := by
  cases Program.step_cases stepped with
  | spawn call =>
    have old : ∀ {call' point}, .starting call' point ∈
        config.threads ++ [(program keep).enter call] → .starting call' point ∈ config.threads := by
      intro call' point here
      rcases mem_or_eq_of_mem_concat here with there | same
      · exact there
      · cases call with
        | _ => cases same
    exact ⟨credited.distinct, fun here => credited.claimed (old here),
      fun here isChecked otherHere =>
        credited.apart (old here) isChecked (old otherHere)⟩
  | @advance _ _ thread _ _ _ found ran =>
    have inTurn := admitted.condition found
    cases thread with
    | starting call point =>
      obtain ⟨⟨_, _⟩, ranHere, result⟩ := Option.map_eq_some_iff.mp ran
      cases result
      exact credited.advance exclusive found inTurn (startStep_of_section ranHere)
    | arriving call =>
      cases ran
      refine credited.frame found rfl ⟨fun _ => rfl, fun _ => rfl⟩ ?_
      rintro _ _ ⟨⟩
      exact nofun
    | _ => cases inTurn.1
  | environment ran =>
    obtain ⟨rfl, rfl⟩ := environment_drop ran
    exact ⟨credited.distinct, credited.claimed, credited.apart⟩

end

theorem loaded_clientAuthID {rows : Table Client.id} {now : Time}
    {distributor : PortDistributor} {row : Client} (stored : row ∈ rows.entries) (number : Nat) :
    ((loaded rows now distributor).client ⟨row.id, number⟩).clientAuthID = row.clientAuthID := by
  have found : rows.get row.id = some row := Table.get_eq_some_iff.mpr ⟨stored, rfl⟩
  simp [Repository.client, loaded, found, restored]

/-- In every run of `StartClient` calls that check their auth ids in turn, no
two clients of the repository have the same auth id. -/
theorem credentials_distinct (keep : Option Int) (rows : Table Client.id) (now : Time)
    (distributor : PortDistributor) (distinct : ∀ first ∈ rows.entries, ∀ second ∈ rows.entries,
      first.clientAuthID = second.clientAuthID → first.id = second.id)
    {history : List Action} {config : Config Repository Thread}
    (run : Run (program keep).system (OnAdvance (CheckedInTurn keep))
      (initial rows now distributor) history config) :
    CredentialsDistinct config.shared := by
  have start : Credited (initial rows now distributor) := by
    refine ⟨?_, nofun, nofun⟩
    intro first firstEntry second secondEntry same
    obtain ⟨firstRow, firstStored, rfl⟩ := mem_map.mp firstEntry
    obtain ⟨secondRow, secondStored, rfl⟩ := mem_map.mp secondEntry
    exact distinct firstRow firstStored secondRow secondStored
      ((loaded_clientAuthID firstStored 0).symm.trans
        (same.trans (loaded_clientAuthID secondStored 0)))
  have both := run.stateInvariant (fun config => Credited config ∧ Exclusive config)
    ⟨start, exclusive_initial rows now distributor⟩ (fun held admitted stepped =>
      ⟨step_credited held.1 held.2 admitted stepped, step_exclusive held.2 stepped⟩)
  exact both.1.distinct

theorem credentials_distinct_two :
    ∃ config history,
      Run (program none).system (OnAdvance (CheckedInTurn none))
        (initial .empty 0 (PortDistributor.new ∅)) history config ∧
      config.shared.clientState.entries = [⟨"a", 1⟩, ⟨"b", 2⟩] ∧
      CredentialsDistinct config.shared :=
  Run.exists_reaching_follows (List.flatten [[.spawn (.handleWebsocket (newcomer "a" "x")),
      .spawn (.handleWebsocket (newcomer "b" "y"))], sections 0 5, sections 1 9, sections 0 4])
    (by decide +kernel) (by decide +kernel)
    fun run _ => credentials_distinct none .empty 0 (PortDistributor.new ∅)
      nofun run

/-- Two clients use one auth id: each of them looks before the other is in the
repository. -/
theorem credential_shared_after_race :
    ∃ config history,
      Run (program none).system (OnAdvance StartsOnly)
        (initial .empty 0 (PortDistributor.new ∅)) history config ∧
      config.shared.clientState.entries = [⟨"a", 1⟩, ⟨"b", 2⟩] ∧
      (config.shared.client ⟨"a", 1⟩).clientAuthID = "x" ∧
      (config.shared.client ⟨"b", 2⟩).clientAuthID = "x" :=
  Run.exists_reaching (List.flatten [[.spawn (.handleWebsocket (newcomer "a" "x")),
      .spawn (.handleWebsocket (newcomer "b" "x"))], sections 0 5, sections 1 9, sections 0 4])
    (by decide +kernel) (by decide +kernel)

end ProxiPort.Clients
