import ProxiPort.Jobs.Dispatch

/-!
# No result is lost

A command is sent to the client before the row of its job is inserted, and a
result that arrives in between finds no row and is dropped.  As long as every
result is looked up only when the dispatch of its job has ended, and the
database does what it is asked to, the row of a job holds what the client has
reported.
-/

namespace ProxiPort.Jobs

open Concurrency Enc List Keyed

variable {server : Server} {config : Config Shared Thread}

def Thread.pending : Thread → Option Job
  | .sent _ curJob _ | .creating _ curJob _ => some curJob
  | _ => none

def Thread.isPending (jid : String) (thread : Thread) : Bool :=
  thread.pending.any fun job => job.jid = jid

def Thread.message : Thread → Option (String × List UInt8)
  | .cmdResult clientID payload | .saving clientID payload _ _
  | .resulted clientID payload _ => some (clientID, payload)
  | _ => none

def Thread.reports (listener : Listener) (clientID jid : String) (thread : Thread) : Bool :=
  match thread.message with
  | none => false
  | some (sender, payload) =>
    match listener.decode payload with
    | .error _ => false
    | .ok reported => sender = clientID && reported.jid = jid

def Thread.isResulted : Thread → Bool
  | .resulted _ _ _ => true
  | _ => false

/-- What a thread has found out, about its own variables only. -/
def Thread.Asserts (listener : Listener) : Thread → Prop
  | .sent _ curJob _ =>
    curJob.status ≠ jobStatusRunning ∧ curJob.details.Blank
  | .creating _ curJob _ =>
    curJob.status = jobStatusRunning → curJob.details.Blank
  | .saving clientID payload reported stored =>
    listener.decode payload = .ok reported ∧ stored.jid = reported.jid ∧ stored.clientID = clientID
  | _ => True

inductive Settled : Thread → Prop where
  | refused {result : Result} : Settled (.refused result)
  | dispatched {curJob : Job} {result : Result} (notRunning : curJob.status ≠ jobStatusRunning) :
      Settled (.dispatched curJob result)

structure Waits (listener : Listener) (clientID jid : String)
    (thread : Thread) : Prop where
  pending : ∃ job, thread.pending = some job ∧ job.jid = jid ∧ job.clientID = clientID
  asserts : thread.Asserts listener

/-- A result is looked up only when no dispatch of its job is under way, it is
not too long, and the calls of the database succeed. -/
def InOrder (server : Server) (config : Config Shared Thread)
    (thread : Thread) (choice : Choice) : Prop :=
  match thread with
  | .creating _ _ _ => choice.failure = none
  | .cmdResult _ payload =>
    payload.length ≤ server.listener.maxRequestBytesClient ∧
    choice.circumstances.lookUpFailure = none ∧
    ∀ other ∈ config.threads, ∀ job ∈ other.pending,
      thread.reports server.listener job.clientID job.jid = false
  | .saving _ _ _ _ => choice.circumstances.saveFailure = none
  | _ => True

theorem new_not_running : "" ≠ jobStatusRunning := by
  decide

theorem failedRun_cases (listener : Listener) (streams : Bool) (job : Job)
    (now : Time) (err : String) :
    Settled (failedRun streams job now err).1 ∨ Waits listener job.clientID job.jid
        (failedRun streams job now err).1 := by
  have notRunning : (job.failed now err).status ≠ jobStatusRunning := by
    simp [Job.failed, jobStatusFailed, jobStatusRunning]
  simp only [failedRun]
  split
  · exact .inl (.dispatched notRunning)
  · refine .inr ⟨⟨_, rfl, rfl, rfl⟩, ?_⟩
    intro running
    exact absurd running notRunning

theorem replied_cases (listener : Listener) (origin : Origin) {job : Job}
    (notRunning : job.status ≠ jobStatusRunning) (blank : job.details.Blank)
    (dispatchedAt now : Time) (reply : Except SendError RunCmdResponse) :
    Settled (replied origin job dispatchedAt now reply).1 ∨ Waits listener job.clientID job.jid
        (replied origin job dispatchedAt now reply).1 := by
  simp only [replied]
  split
  · exact failedRun_cases listener _ job _ _
  · exact .inl (.dispatched notRunning)
  · exact .inl (.dispatched notRunning)
  · refine .inr ⟨⟨_, rfl, rfl, rfl⟩, ?_⟩
    intro _
    exact ⟨blank.error, blank.result⟩

inductive Stepped (listener : Listener) (config : Config Shared Thread) :
    Thread → Shared → Thread → Prop where
  | ends {thread later : Thread} (silent : thread.message = none) (settled : Settled later) :
      Stepped listener config thread config.shared later
  | draws {thread later : Thread} {jid : String} (clientID : String)
      (silent : thread.message = none) (idle : thread.pending = none)
      (fresh : config.shared.isFresh jid = true)
      (drawn : Settled later ∨ Waits listener clientID jid later) :
      Stepped listener config thread
        { config.shared with seen := jid :: config.shared.seen } later
  | replies {origin : Origin} {curJob : Job} {dispatchedAt : Time} {later : Thread}
      (waits : Waits listener curJob.clientID curJob.jid later) :
      Stepped listener config (.sent origin curJob dispatchedAt) config.shared later
  | creates {origin : Origin} {curJob : Job} {err : Option String}
      {nonces : Nat → Nonce} {row : JobRow} {result : Result}
      (converted : listener.provider.toSqlite nonces curJob = .ok row) :
      Stepped listener config (.creating origin curJob err)
        { config.shared with database := { config.shared.database with
          jobs := config.shared.database.jobs.put row } }
        (.dispatched curJob result)
  | drops {clientID err : String} {payload : List UInt8} {outcome : Except String Job}
      (undecoded : listener.decode payload = .error err) :
      Stepped listener config (.cmdResult clientID payload) config.shared
        (.resulted clientID payload outcome)
  | misses {clientID : String} {payload : List UInt8} {reported : Job} {outcome : Except String Job}
      (decoded : listener.decode payload = .ok reported)
      (missed : ∀ row, config.shared.database.jobs.get reported.jid =
        some row → row.clientID = clientID → ¬ row.Blank)
      (idle : ∀ other ∈ config.threads, ∀ job, other.pending = some job →
        ¬ (clientID = job.clientID ∧ reported.jid = job.jid)) :
      Stepped listener config (.cmdResult clientID payload)
        { config.shared with seen := reported.jid :: config.shared.seen }
        (.resulted clientID payload outcome)
  | finds {clientID : String} {payload : List UInt8} {reported dispatched : Job} {row : JobRow}
      (decoded : listener.decode payload = .ok reported)
      (stored : config.shared.database.jobs.get reported.jid = some row)
      (own : row.clientID = clientID) (named : dispatched.jid = reported.jid)
      (given : dispatched.clientID = clientID) :
      Stepped listener config (.cmdResult clientID payload)
        { config.shared with seen := reported.jid :: config.shared.seen }
        (.saving clientID payload reported dispatched)
  | saves {clientID : String} {payload : List UInt8}
      {reported dispatched : Job} {nonces : Nat → Nonce} {row : JobRow}
      {outcome : Except String Job} (converted : listener.provider.toSqlite nonces
        (reconcile dispatched reported) = .ok row) :
      Stepped listener config (.saving clientID payload reported dispatched)
        { config.shared with database := { config.shared.database with
          jobs := config.shared.database.jobs.put row } }
        (.resulted clientID payload outcome)

variable {listener : Listener} {database : Database}

/-- A look-up that fails although the database works: the client has no such
job without output. -/
theorem findDispatched_eq_error {clientID err : String} {reported : Job}
    (missed : listener.findDispatched clientID reported none database = .error err) {row : JobRow}
    (stored : database.jobs.get reported.jid = some row)
    (own : row.clientID = clientID) : ¬ row.Blank := by
  intro blank
  obtain ⟨job, read⟩ : ∃ job, listener.provider.getByJID clientID
      reported.jid database = .ok (some job) :=
    getByJID_blank stored own blank
  simp only [Listener.findDispatched, read] at missed
  cases missed

theorem saveResult_total (usable : listener.provider.envelope.Usable)
    {circumstances : Circumstances} (works : circumstances.saveFailure = none)
    (resp : Job) (database : Database) :
    ∃ row, listener.provider.toSqlite circumstances.nonces resp = .ok row ∧
      listener.saveResult circumstances resp database =
        .ok { database with jobs := database.jobs.put row } := by
  obtain ⟨row, converted⟩ := toSqlite_total usable circumstances.nonces resp
  refine ⟨row, converted, ?_⟩
  simp only [Listener.saveResult, works, Provider.saveJob, converted]
  rfl

theorem createJob_total {provider : Provider}
    (usable : provider.envelope.Usable) (nonces : Nat → Nonce) (job : Job)
    (free : database.jobs.get job.jid = none) :
    ∃ row, provider.toSqlite nonces job = .ok row ∧ provider.createJob nonces job database =
        .ok { database with jobs := database.jobs.put row } := by
  obtain ⟨row, converted⟩ := toSqlite_total usable nonces job
  refine ⟨row, converted, ?_⟩
  obtain ⟨details, rfl, _⟩ := toSqlite_eq_ok converted
  have unused : database.jobs.get (job.toRow details).jid = none := free
  simp only [Provider.createJob, converted]
  simp only [bind, Except.bind, unused]
  rfl

variable {shown : List Effect}

theorem atomic_stepped {thread later : Thread} {choice : Choice}
    {after : Shared} (usable : server.listener.provider.envelope.Usable)
    (asserts : thread.Asserts server.listener) (free : ∀ job, thread.pending = some job →
      config.shared.database.jobs.get job.jid = none)
    (inOrder : InOrder server config thread choice)
    (ran : atomic server config.shared thread choice = some (after, later, shown)) :
    Stepped server.listener config thread after later := by
  cases thread with
  | createAndRunJob request =>
    simp only [atomic] at ran
    split at ran
    · cases ran
      exact .ends rfl .refused
    · rename_i jid _
      split at ran
      · rename_i fresh
        cases ran
        refine .draws request.client.id rfl rfl fresh ?_
        simp only [RunRequest.send]
        split
        · exact failedRun_cases _ _ (request.job jid choice.now) _ _
        · exact failedRun_cases _ _ (request.job jid choice.now) _ _
        · exact .inr ⟨⟨_, rfl, rfl, rfl⟩, new_not_running, rfl, rfl⟩
      · cases ran
  | handleExecuteCommand input =>
    simp only [atomic] at ran
    split at ran
    · cases ran
      exact .ends rfl .refused
    · cases ran
      exact .ends rfl .refused
    · split at ran
      · rename_i fresh
        cases ran
        exact .draws input.clientID rfl rfl fresh
          (.inr ⟨⟨_, rfl, rfl, rfl⟩, new_not_running, rfl, rfl⟩)
      · cases ran
  | sent origin curJob dispatchedAt =>
    simp only [atomic] at ran
    cases ran
    rcases replied_cases server.listener origin asserts.1 asserts.2
      dispatchedAt choice.now choice.reply with settled | waits
    · exact .ends rfl settled
    · exact .replies waits
  | creating origin curJob err =>
    have works : choice.failure = none := inOrder
    obtain ⟨row, converted, created⟩ := createJob_total usable
      choice.nonces curJob (free curJob rfl)
    simp only [atomic, works, created] at ran
    cases ran
    exact .creates converted
  | cmdResult clientID payload =>
    obtain ⟨small, works, idle⟩ := inOrder
    simp only [atomic, Nat.not_lt.mpr small, if_false, works] at ran
    split at ran
    · rename_i undecoded
      cases ran
      exact .drops undecoded
    · rename_i reported decoded
      split at ran
      · rename_i missed
        cases ran
        refine .misses decoded (fun row => findDispatched_eq_error missed) ?_
        intro other member job isPending same
        have apart := idle other member job isPending
        simp [Thread.reports, Thread.message, decoded, same.1, same.2] at apart
      · rename_i found
        cases ran
        obtain ⟨row, details, error, result, stored, own, _, rfl⟩ := findDispatched_eq_ok found
        exact .finds decoded stored own (Table.get_eq_some_iff.mp stored).2 own
  | saving clientID payload reported stored =>
    obtain ⟨row, converted, saved⟩ := saveResult_total usable inOrder
      (reconcile stored reported) config.shared.database
    simp only [atomic, saved] at ran
    cases ran
    exact .saves converted
  | dispatched | refused | resulted => cases ran

/-- The job has just been sent: its id is known, no row has it, and no result
for it has been handled. -/
structure Unstarted (listener : Listener) (config : Config Shared Thread)
    (clientID jid : String) : Prop where
  seen : jid ∈ config.shared.seen
  free : config.shared.database.jobs.get jid = none
  unreported : ∀ thread ∈ config.threads, thread.isResulted = true →
    thread.reports listener clientID jid = false

def Holds (provider : Provider) (row : JobRow) (reported : Job) : Prop :=
  ∃ nonces job, provider.toSqlite nonces job = .ok row ∧
    job.status = reported.status ∧ job.finishedAt = reported.finishedAt ∧
    job.pid = reported.pid ∧ job.error = reported.error ∧
    job.result = reported.result

/-- The row of a running command: without output as long as no result was
handled, and afterwards with the output of a result that was. -/
structure Running (listener : Listener) (config : Config Shared Thread)
    (clientID jid : String) (row : JobRow) : Prop where
  stored : config.shared.database.jobs.get jid = some row
  own : row.clientID = clientID
  output : (row.Blank ∧ ∀ thread ∈ config.threads, thread.isResulted = true →
      thread.reports listener clientID jid = false) ∨
    ∃ payload outcome reported, Thread.resulted clientID payload outcome ∈ config.threads ∧
      listener.decode payload = .ok reported ∧ reported.jid = jid ∧
      Holds listener.provider row reported

structure Kept (listener : Listener) (config : Config Shared Thread) :
    Prop where
  asserts : ∀ thread ∈ config.threads, thread.Asserts listener
  pending : ∀ thread ∈ config.threads, ∀ job, thread.pending = some job →
    Unstarted listener config job.clientID job.jid
  single : ∀ jid, config.threads.countP (Thread.isPending jid) ≤ 1
  known : ∀ thread ∈ config.threads, thread.isResulted = true →
    ∀ clientID jid, thread.reports listener clientID jid = true → jid ∈ config.shared.seen
  saving : ∀ clientID payload reported stored,
    Thread.saving clientID payload reported stored ∈ config.threads →
    reported.jid ∈ config.shared.seen ∧
      ∃ row, config.shared.database.jobs.get reported.jid = some row ∧ row.clientID = clientID
  running : ∀ curJob result, Thread.dispatched curJob result ∈ config.threads →
    curJob.status = jobStatusRunning →
    ∃ row, Running listener config curJob.clientID curJob.jid row

theorem initial_kept (listener : Listener) (database : Database) :
    Kept listener (initial database) where
  asserts := fun _ member => nomatch member
  pending := fun _ member => nomatch member
  single := fun _ => Nat.zero_le _
  known := fun _ member => nomatch member
  saving := fun _ _ _ _ member => nomatch member
  running := fun _ _ member => nomatch member

section Step

variable {listener : Listener} {index : Nat} {thread later : Thread}
  {after : Shared}

variable {jid : String}

theorem isPending_iff :
    thread.isPending jid = true ↔
      ∃ job, thread.pending = some job ∧ job.jid = jid := by
  simp [Thread.isPending, Option.any_eq_true]

theorem Settled.pending (settled : Settled later) : later.pending = none := by
  cases settled with
  | refused => rfl
  | dispatched => rfl

theorem Settled.silent (settled : Settled later) : later.message = none := by
  cases settled with
  | refused => rfl
  | dispatched => rfl

variable {clientID jid : String}

theorem Waits.silent (waits : Waits listener clientID jid later) : later.message = none := by
  obtain ⟨job, pending, _⟩ := waits.pending
  cases later with
  | sent | creating => rfl
  | _ => cases pending

theorem silent_of_drawn (drawn : Settled later ∨ Waits listener clientID jid later) :
    later.message = none := by
  rcases drawn with settled | waits
  · exact settled.silent
  · exact waits.silent

theorem reports_of_silent (silent : thread.message = none) (clientID jid : String) :
    thread.reports listener clientID jid = false := by
  simp [Thread.reports, silent]

theorem reports_iff {sender clientID jid : String} {payload : List UInt8}
    {reported : Job} (message : thread.message = some (sender, payload))
    (decoded : listener.decode payload = .ok reported) :
    thread.reports listener clientID jid = true ↔ sender = clientID ∧ reported.jid = jid := by
  simp [Thread.reports, message, decoded]

section

variable (stepped : Stepped listener config thread after later)

include stepped

theorem Stepped.seen : config.shared.seen ⊆ after.seen := by
  cases stepped with
  | draws | misses | finds => exact subset_cons_self _ _
  | _ => exact List.Subset.refl _

theorem Stepped.running : thread.isResulted = false := by
  cases stepped with
  | ends silent | draws _ silent =>
    cases thread with
    | resulted => cases silent
    | _ => rfl
  | _ => rfl

theorem Stepped.asserts : later.Asserts listener := by
  cases stepped with
  | ends _ settled =>
    cases settled with
    | refused => trivial
    | dispatched => trivial
  | draws _ _ _ _ drawn =>
    rcases drawn with settled | waits
    · cases settled with
      | refused => trivial
      | dispatched => trivial
    · exact waits.asserts
  | replies waits => exact waits.asserts
  | finds decoded _ _ named given => exact ⟨decoded, named, given⟩
  | creates | drops | misses | saves => trivial

theorem Stepped.free (kept : Kept listener config) (member : thread ∈ config.threads)
    (free : config.shared.database.jobs.get jid = none)
    (goesOn : thread.isPending jid = true → later.isPending jid = true) :
    after.database.jobs.get jid = none := by
  cases stepped with
  | @creates origin curJob err nonces row result converted =>
    obtain ⟨details, rfl, _⟩ := toSqlite_eq_ok converted
    have apart : jid ≠ (curJob.toRow details).jid := by
      rintro rfl
      have stillPending := goesOn (isPending_iff.mpr ⟨curJob, rfl, rfl⟩)
      cases stillPending
    exact (Table.get_put_of_ne apart).trans free
  | @saves clientID payload reported dispatched nonces row outcome converted =>
    obtain ⟨_, named, _⟩ := kept.asserts _ member
    obtain ⟨_, stored, isStored, _⟩ := kept.saving _ _ _ _ member
    obtain ⟨details, rfl, _⟩ := toSqlite_eq_ok converted
    have apart : jid ≠ ((reconcile dispatched reported).toRow details).jid := by
      rintro rfl
      have asked : config.shared.database.jobs.get dispatched.jid =
        none := free
      rw [named, isStored] at asked
      cases asked
    exact (Table.get_put_of_ne apart).trans free
  | _ => exact free

theorem Stepped.stored (kept : Kept listener config)
    (member : thread ∈ config.threads) {row : JobRow}
    (stored : config.shared.database.jobs.get jid = some row) :
    ∃ newRow, after.database.jobs.get jid = some newRow ∧ newRow.clientID = row.clientID := by
  cases stepped with
  | @creates origin curJob err nonces newRow result converted =>
    have free := (kept.pending _ member curJob rfl).free
    obtain ⟨details, rfl, _⟩ := toSqlite_eq_ok converted
    have apart : jid ≠ (curJob.toRow details).jid := by
      rintro rfl
      cases free.symm.trans stored
    exact ⟨row, (Table.get_put_of_ne apart).trans stored, rfl⟩
  | @saves clientID payload reported dispatched nonces newRow outcome converted =>
      obtain ⟨_, named, given⟩ := kept.asserts _ member
      obtain ⟨_, old, isStored, own⟩ := kept.saving _ _ _ _ member
      obtain ⟨details, rfl, _⟩ := toSqlite_eq_ok converted
      by_cases same : jid = ((reconcile dispatched reported).toRow details).jid
      · subst same
        have asked : config.shared.database.jobs.get dispatched.jid = some row := stored
        rw [named, isStored] at asked
        cases asked
        exact ⟨_, Table.get_put_self, given.trans own.symm⟩
      · exact ⟨row, (Table.get_put_of_ne same).trans stored, rfl⟩
  | _ => exact ⟨row, stored, rfl⟩

/-- A result that has been handled was looked up, at a time when its job was
not being dispatched. -/
theorem Stepped.reported (kept : Kept listener config)
    (member : thread ∈ config.threads) (resulted : later.isResulted = true)
    (reports : later.reports listener clientID jid = true) :
    jid ∈ after.seen ∧ ∀ other ∈ config.threads, ∀ job, other.pending = some job →
      ¬ (clientID = job.clientID ∧ jid = job.jid) := by
  cases stepped with
  | ends _ settled =>
    rw [reports_of_silent settled.silent] at reports
    cases reports
  | draws _ _ _ _ drawn =>
    rw [reports_of_silent (silent_of_drawn drawn)] at reports
    cases reports
  | replies waits =>
    rw [reports_of_silent waits.silent] at reports
    cases reports
  | creates | finds => cases resulted
  | drops undecoded =>
    simp [Thread.reports, Thread.message, undecoded] at reports
  | misses decoded _ idle =>
    obtain ⟨rfl, rfl⟩ := (reports_iff rfl decoded).mp reports
    exact ⟨mem_cons_self, idle⟩
  | saves converted =>
    obtain ⟨decoded, _, _⟩ := kept.asserts _ member
    obtain ⟨seen, row, stored, _⟩ := kept.saving _ _ _ _ member
    obtain ⟨rfl, rfl⟩ := (reports_iff rfl decoded).mp reports
    refine ⟨seen, ?_⟩
    rintro other otherMember job pending ⟨_, same⟩
    have free := (kept.pending other otherMember job pending).free
    rw [← same, stored] at free
    cases free

end

theorem Kept.goesOn (kept : Kept listener config)
    (found : config.threads[index]? = some thread) {other : Thread}
    (member : other ∈ config.threads.set index later) (isPending : other.isPending jid = true)
    (before : thread.isPending jid = true) : later.isPending jid = true := by
  have count := Program.countP_set found later (Thread.isPending jid)
  have atMostOne := kept.single jid
  have counted := countP_pos_iff.mpr ⟨other, member, isPending⟩
  by_contra ended
  rw [if_pos before, if_neg ended] at count
  omega

theorem Stepped.single (kept : Kept listener config) (found : config.threads[index]? = some thread)
    (stepped : Stepped listener config thread after later) (jid : String) :
    (config.threads.set index later).countP (Thread.isPending jid) ≤ 1 := by
  have count := Program.countP_set found later (Thread.isPending jid)
  have atMostOne := kept.single jid
  have origin : later.isPending jid = true → thread.isPending jid = true ∨
      config.threads.countP (Thread.isPending jid) = 0 := by
    intro isPending
    obtain ⟨job, pending, rfl⟩ := isPending_iff.mp isPending
    cases stepped with
    | ends _ settled => cases settled.pending.symm.trans pending
    | draws clientID _ _ fresh drawn =>
      rcases drawn with settled | waits
      · cases settled.pending.symm.trans pending
      · right
        obtain ⟨drawnJob, drawnPending, rfl, _⟩ := waits.pending
        cases drawnPending.symm.trans pending
        rw [countP_eq_zero]
        intro other member otherPending
        obtain ⟨otherJob, isOther, same⟩ := isPending_iff.mp otherPending
        have seen := (kept.pending other member otherJob isOther).seen
        simp only [Shared.isFresh, Bool.and_eq_true, decide_eq_true_eq] at fresh
        exact fresh.1 (same ▸ seen)
    | replies waits =>
      left
      obtain ⟨laterJob, laterPending, named, _⟩ := waits.pending
      cases laterPending.symm.trans pending
      exact isPending_iff.mpr ⟨_, rfl, named.symm⟩
    | creates | drops | misses | finds | saves => cases pending
  cases isPending : later.isPending jid with
  | false =>
    rw [isPending, if_neg Bool.false_ne_true] at count
    omega
  | true =>
    rw [isPending, if_pos rfl] at count
    rcases origin isPending with before | none
    · rw [if_pos before] at count
      omega
    · omega

theorem Stepped.unstarted (kept : Kept listener config) (member : thread ∈ config.threads)
    (stepped : Stepped listener config thread after later) {job : Job}
    (pending : later.pending = some job) :
    job.jid ∈ after.seen ∧ after.database.jobs.get job.jid = none ∧
      ∀ other ∈ config.threads, other.isResulted = true →
        other.reports listener job.clientID job.jid = false := by
  cases stepped with
  | ends _ settled => cases settled.pending.symm.trans pending
  | draws clientID _ _ fresh drawn =>
    rcases drawn with settled | waits
    · cases settled.pending.symm.trans pending
    · obtain ⟨drawnJob, drawnPending, rfl, _⟩ := waits.pending
      cases drawnPending.symm.trans pending
      simp only [Shared.isFresh, Bool.and_eq_true, decide_eq_true_eq,
        Option.isNone_iff_eq_none] at fresh
      refine ⟨mem_cons_self, fresh.2, ?_⟩
      intro other otherMember resulted
      apply eq_false_of_ne_true
      intro reports
      exact fresh.1 (kept.known other otherMember resulted _ _ reports)
  | replies waits =>
    obtain ⟨laterJob, laterPending, named, given⟩ := waits.pending
    cases laterPending.symm.trans pending
    have before := kept.pending _ member _ rfl
    rw [named, given]
    exact ⟨before.seen, before.free, before.unreported⟩
  | creates | drops | misses | finds | saves => cases pending

section

variable (found : config.threads[index]? = some thread)

include found

theorem Stepped.pending (kept : Kept listener config)
    (stepped : Stepped listener config thread after later) :
    ∀ other ∈ config.threads.set index later, ∀ job, other.pending = some job →
      Unstarted listener ⟨after, config.threads.set index later⟩ job.clientID job.jid := by
  intro other otherMember job isPending
  have member := List.mem_of_getElem? found
  rcases mem_or_eq_of_mem_set otherMember with old | rfl
  · have before := kept.pending other old job isPending
    refine ⟨stepped.seen before.seen, ?_, ?_⟩
    · exact stepped.free kept member before.free
        (kept.goesOn found otherMember (isPending_iff.mpr ⟨job, isPending, rfl⟩))
    · intro result resultMember resulted
      rcases mem_or_eq_of_mem_set resultMember with oldResult | rfl
      · exact before.unreported result oldResult resulted
      · apply eq_false_of_ne_true
        intro reports
        exact (stepped.reported kept member resulted reports).2 other old job isPending ⟨rfl, rfl⟩
  · obtain ⟨seen, free, unreported⟩ := stepped.unstarted kept member isPending
    refine ⟨seen, free, ?_⟩
    refine forall_mem_set unreported ?_
    intro resulted
    cases other with
    | resulted => cases isPending
    | _ => cases resulted

/-- A row that is not written stays that of a running command, unless a result
is handled that does not find it. -/
theorem Running.frame {row : JobRow} (running : Running listener config clientID jid row)
    (unfinished : thread.isResulted = false) (stored : after.database.jobs.get jid = some row)
    (quiet : later.isResulted = true → later.reports listener clientID jid = true → ¬ row.Blank) :
    Running listener ⟨after, config.threads.set index later⟩ clientID jid
      row := by
  refine ⟨stored, running.own, ?_⟩
  rcases running.output with ⟨blank, unreported⟩ | ⟨payload, outcome, reported, member, rest⟩
  · refine .inl ⟨blank, ?_⟩
    refine forall_mem_set unreported ?_
    intro resulted
    apply eq_false_of_ne_true
    intro reports
    exact quiet resulted reports blank
  · refine .inr ⟨payload, outcome, reported, ?_, rest⟩
    refine mem_set_of_ne found member ?_ later
    rintro rfl
    cases unfinished

theorem Stepped.stillRunning (kept : Kept listener config)
    (stepped : Stepped listener config thread after later) {row : JobRow}
    (running : Running listener config clientID jid row) :
    ∃ newRow, Running listener ⟨after, config.threads.set index later⟩ clientID jid newRow := by
  have member := List.mem_of_getElem? found
  have unfinished := stepped.running
  cases stepped with
  | ends _ settled =>
    refine ⟨row, running.frame found unfinished running.stored ?_⟩
    intro _ reports
    rw [reports_of_silent settled.silent] at reports
    cases reports
  | draws _ _ _ _ drawn =>
    refine ⟨row, running.frame found unfinished running.stored ?_⟩
    intro _ reports
    rw [reports_of_silent (silent_of_drawn drawn)] at reports
    cases reports
  | replies waits =>
    refine ⟨row, running.frame found unfinished running.stored ?_⟩
    intro _ reports
    rw [reports_of_silent waits.silent] at reports
    cases reports
  | @creates origin curJob err nonces newRow result converted =>
    have free := (kept.pending _ member curJob rfl).free
    obtain ⟨details, rfl, _⟩ := toSqlite_eq_ok converted
    have apart : jid ≠ (curJob.toRow details).jid := by
      rintro rfl
      cases free.symm.trans running.stored
    refine ⟨row, running.frame found unfinished
      ((Table.get_put_of_ne apart).trans running.stored) ?_⟩
    intro resulted
    cases resulted
  | drops undecoded =>
    refine ⟨row, running.frame found unfinished running.stored ?_⟩
    intro _ reports
    simp [Thread.reports, Thread.message, undecoded] at reports
  | misses decoded missed _ =>
    refine ⟨row, running.frame found unfinished running.stored ?_⟩
    intro _ reports
    obtain ⟨rfl, rfl⟩ := (reports_iff rfl decoded).mp reports
    exact missed row running.stored running.own
  | finds =>
    refine ⟨row, running.frame found unfinished running.stored ?_⟩
    intro resulted
    cases resulted
  | @saves sender payload reported dispatched nonces newRow outcome converted =>
      obtain ⟨decoded, named, given⟩ := kept.asserts _ member
      obtain ⟨_, old, isStored, own⟩ := kept.saving _ _ _ _ member
      have holds : Holds listener.provider newRow reported :=
        ⟨nonces, _, converted, rfl, rfl, rfl, rfl, rfl⟩
      obtain ⟨details, rfl, _⟩ := toSqlite_eq_ok converted
      by_cases same : jid = ((reconcile dispatched reported).toRow details).jid
      · subst same
        have asked : config.shared.database.jobs.get dispatched.jid = some row := running.stored
        rw [named, isStored] at asked
        cases asked
        have client : sender = clientID := own.symm.trans running.own
        subst client
        refine ⟨_, Table.get_put_self, given, .inr
          ⟨payload, outcome, reported, ?_, decoded, named.symm, holds⟩⟩
        exact mem_set (List.getElem?_eq_some_iff.mp found).1 _
      · refine ⟨row, running.frame found unfinished
          ((Table.get_put_of_ne same).trans running.stored) ?_⟩
        intro _ reports
        obtain ⟨_, reportedHere⟩ := (reports_iff rfl decoded).mp reports
        exact absurd (reportedHere.symm.trans named.symm) same

theorem Stepped.kept (kept : Kept listener config)
    (stepped : Stepped listener config thread after later) :
    Kept listener ⟨after, config.threads.set index later⟩ where
  asserts := forall_mem_set kept.asserts stepped.asserts
  pending := stepped.pending found kept
  single := stepped.single kept found
  known := by
    intro other member resulted clientID jid reports
    rcases mem_or_eq_of_mem_set member with old | rfl
    · exact stepped.seen (kept.known other old resulted clientID jid reports)
    · exact (stepped.reported kept (List.mem_of_getElem? found) resulted reports).1
  saving := by
    intro clientID payload reported stored member
    rcases mem_or_eq_of_mem_set member with old | rfl
    · obtain ⟨seen, row, isStored, own⟩ := kept.saving _ _ _ _ old
      obtain ⟨newRow, stillStored, same⟩ :=
        stepped.stored kept (List.mem_of_getElem? found) isStored
      exact ⟨stepped.seen seen, newRow, stillStored, same.trans own⟩
    · cases stepped with
      | ends _ settled => cases settled
      | draws _ _ _ _ drawn =>
        rcases drawn with settled | waits
        · cases settled
        · obtain ⟨job, pending, _⟩ := waits.pending
          cases pending
      | replies waits =>
        obtain ⟨job, pending, _⟩ := waits.pending
        cases pending
      | finds _ isStored own _ _ =>
        exact ⟨mem_cons_self, _, isStored, own⟩
  running := by
    intro curJob result member isRunning
    rcases mem_or_eq_of_mem_set member with old | rfl
    · obtain ⟨row, running⟩ := kept.running curJob result old isRunning
      exact stepped.stillRunning found kept running
    · cases stepped with
      | ends _ settled =>
        cases settled with
        | dispatched notRunning => exact absurd isRunning notRunning
      | draws _ _ _ _ drawn =>
        rcases drawn with settled | waits
        · cases settled with
          | dispatched notRunning => exact absurd isRunning notRunning
        · obtain ⟨job, pending, _⟩ := waits.pending
          cases pending
      | replies waits =>
        obtain ⟨job, pending, _⟩ := waits.pending
        cases pending
      | creates converted =>
        have inserted := List.mem_of_getElem? found
        have unreported := (kept.pending _ inserted curJob rfl).unreported
        have blank := toSqlite_blank converted (kept.asserts _ inserted isRunning)
        obtain ⟨details, rfl, _⟩ := toSqlite_eq_ok converted
        refine ⟨_, Table.get_put_self, rfl, .inl ⟨blank, ?_⟩⟩
        exact forall_mem_set unreported nofun

end

end Step

theorem Kept.spawn (kept : Kept listener config) (call : Call) :
    Kept listener
      ⟨config.shared, config.threads ++ [Thread.enter call]⟩ := by
  have entered : (Thread.enter call).pending = none ∧ (Thread.enter call).isResulted ≠ true := by
    cases call with
    | _ => exact ⟨rfl, Bool.false_ne_true⟩
  have unreported : ∀ clientID jid, (∀ thread ∈ config.threads, thread.isResulted = true →
        thread.reports listener clientID jid = false) →
      ∀ thread ∈ config.threads ++ [Thread.enter call], thread.isResulted = true →
        thread.reports listener clientID jid = false :=
    fun _ _ before => forall_mem_concat before fun resulted => absurd resulted entered.2
  refine ⟨?_, ?_, ?_, ?_, ?_, ?_⟩
  · apply forall_mem_concat kept.asserts
    cases call with
    | _ => trivial
  · intro thread member job pending
    rcases mem_or_eq_of_mem_concat member with old | rfl
    · have before := kept.pending thread old job pending
      exact ⟨before.seen, before.free, unreported _ _ before.unreported⟩
    · cases entered.1.symm.trans pending
  · intro jid
    have notPending : (Thread.enter call).isPending jid = false := by
      rw [Thread.isPending, entered.1]
      rfl
    rw [countP_append, countP_singleton, notPending]
    exact kept.single jid
  · exact forall_mem_concat kept.known fun resulted => absurd resulted entered.2
  · intro clientID payload reported stored member
    rcases mem_or_eq_of_mem_concat member with old | new
    · exact kept.saving _ _ _ _ old
    · cases call with
      | _ => cases new
  · intro curJob result member isRunning
    rcases mem_or_eq_of_mem_concat member with old | new
    · obtain ⟨row, running⟩ := kept.running curJob result old isRunning
      refine ⟨row, running.stored, running.own, ?_⟩
      rcases running.output with ⟨blank, none⟩ | ⟨payload, outcome, reported, isThere, rest⟩
      · exact .inl ⟨blank, unreported _ _ none⟩
      · exact .inr ⟨payload, outcome, reported, mem_append_left _ isThere, rest⟩
    · cases call with
      | _ => cases new

theorem step_kept (usable : server.listener.provider.envelope.Usable)
    {next : Config Shared Thread} {move : Move Call Choice Empty}
    (kept : Kept server.listener config) (admitted : OnAdvance (InOrder server) config move)
    (stepped : (program server).system.step config move = some (next, shown)) :
    Kept server.listener next := by
  cases Program.step_cases stepped with
  | spawn call =>
    exact kept.spawn call
  | @advance _ _ thread _ _ _ found ran =>
    have member := List.mem_of_getElem? found
    have inversion := atomic_stepped usable (kept.asserts thread member)
      (fun job pending => (kept.pending thread member job pending).free)
      (admitted.condition found) ran
    exact inversion.kept found kept
  | @environment event => cases event

theorem run_kept (usable : server.listener.provider.envelope.Usable) {history : List Effect}
    (run : Run (program server).system (OnAdvance (InOrder server))
      (initial database) history config) :
    Kept server.listener config :=
  run.stateInvariant (Kept server.listener) (initial_kept server.listener database)
    (fun kept admitted stepped => step_kept usable kept admitted stepped)

/-- If results are looked up in order, then in every state that is reached: a
command that a client has accepted and for which it has sent one result, which
has been handled, is stored with what that result says. -/
theorem result_is_stored (server : Server) (database : Database)
    (usable : server.listener.provider.envelope.Usable) {history : List Effect}
    (run : Run (program server).system (OnAdvance (InOrder server))
      (initial database) history config)
    {curJob reported : Job} {result : Result} {payload : List UInt8}
    {outcome : Except String Job}
    (dispatched : Thread.dispatched curJob result ∈ config.threads)
    (accepted : curJob.status = jobStatusRunning)
    (one : config.threads.countP (Thread.reports server.listener curJob.clientID curJob.jid) = 1)
    (handled : Thread.resulted curJob.clientID payload outcome ∈ config.threads)
    (decoded : server.listener.decode payload = .ok reported)
    (named : reported.jid = curJob.jid) :
    ∃ row, config.shared.database.jobs.get curJob.jid = some row ∧ row.clientID = curJob.clientID ∧
      Holds server.listener.provider row reported := by
  have kept := run_kept usable run
  obtain ⟨row, running⟩ := kept.running curJob result dispatched accepted
  have reports : (Thread.resulted curJob.clientID payload outcome).reports
      server.listener curJob.clientID curJob.jid = true :=
    (reports_iff rfl decoded).mpr ⟨rfl, named⟩
  refine ⟨row, running.stored, running.own, ?_⟩
  rcases running.output with ⟨_, unreported⟩ |
    ⟨other, otherOutcome, otherReported, member, otherDecoded, otherNamed, holds⟩
  · rw [unreported _ handled rfl] at reports
    cases reports
  · -- the result that is stored is the only one there is
    have otherReports : (Thread.resulted curJob.clientID other
        otherOutcome).reports server.listener curJob.clientID curJob.jid =
          true :=
      (reports_iff rfl otherDecoded).mpr ⟨rfl, otherNamed⟩
    have same := eq_of_countP_le_one (Nat.le_of_eq one) member handled otherReports reports
    cases same
    cases otherDecoded.symm.trans decoded
    exact holds

instance (server : Server) (config : Config Shared Thread) (choice : Choice) :
    ∀ thread, Decidable (InOrder server config thread choice)
  | .creating _ _ _ => inferInstanceAs (Decidable (choice.failure = none))
  | .cmdResult _ _ => inferInstanceAs (Decidable (_ ∧ _ ∧ ∀ other ∈ config.threads, ∀ job ∈ _, _))
  | .saving _ _ _ _ => inferInstanceAs (Decidable (choice.circumstances.saveFailure = none))
  | .createAndRunJob _ | .handleExecuteCommand _ | .sent _ _ _
  | .dispatched _ _ | .refused _ | .resulted _ _ _ => .isTrue trivial

def date : ExecuteInput where
  command := "date"
  interpreter := ""
  cwd := ""
  isSudo := false
  timeoutSec := 0
  clientID := "client"
  isScript := false
  user := "user"

def dateJob : Job := (date.job "jid" "name" 60).accepted 0 0 ⟨17, 0⟩

def dateResult : Job :=
  { dateJob with
    status := "successful"
    finishedAt := some 1
    result := some ⟨"Monday", "", ""⟩ }

def plainServer : Server where
  listener := {
    provider := ⟨⟨fun _ _ text => text, fun _ _ text => some text, id,
      fun password _ _ _ _ => password⟩, ⟨[]⟩⟩
    unicode := Go.Unicode.ascii
    decode := fun payload =>
      if payload = [1] then .ok dateResult else .error "invalid character"
    maxRequestBytesClient := 512 }
  runRemoteCmdTimeoutSec := 60

theorem plainServer_usable : plainServer.listener.provider.envelope.Usable := by
  intro enabled
  cases enabled

def works : Choice where
  now := 0
  jid := .ok "jid"
  client := .ok (some ⟨"client", "name", none, true⟩)
  reply := .ok ⟨17, 0⟩
  failure := none
  nonces := fun _ => .replicate _ 0
  circumstances := ⟨none, none, none, fun _ => false, fun _ => false, fun _ => .replicate _ 0⟩

def emptyDatabase : Database := ⟨⟨[], nodup_nil⟩, []⟩

theorem result_is_stored_inOrder :
    ∃ config history row,
      Run (program plainServer).system (OnAdvance (InOrder plainServer))
        (initial emptyDatabase) history config ∧
      config.threads = [.dispatched dateJob (.newJob "jid"),
        .resulted "client" [1] (.ok dateResult)] ∧
      config.shared.database.jobs.get "jid" = some row ∧
      Holds plainServer.listener.provider row dateResult := by
  obtain ⟨config, history, run, outcome⟩ := Run.exists_ofExecute (program plainServer).system
      (OnAdvance (InOrder plainServer)) (initial emptyDatabase)
      [.spawn (.handleExecuteCommand date), .advance 0 works,
        .advance 0 works, .spawn (.cmdResult "client" [1]),
        .advance 0 works, .advance 1 works, .advance 1 works]
      (fun outcome => decide (outcome.1.threads = [.dispatched dateJob (.newJob "jid"),
          .resulted "client" [1] (.ok dateResult)]))
      (by decide +kernel) (by decide +kernel)
  have threads := of_decide_eq_true outcome
  have dispatched : Thread.dispatched dateJob (.newJob "jid") ∈ config.threads := by
    rw [threads]
    exact mem_cons_self
  have handled : Thread.resulted "client" [1] (.ok dateResult) ∈ config.threads := by
    rw [threads]
    exact mem_cons_of_mem _ mem_cons_self
  have one : config.threads.countP (Thread.reports plainServer.listener
      dateJob.clientID dateJob.jid) = 1 := by
    rw [threads]
    decide +kernel
  obtain ⟨row, stored, _, holds⟩ := result_is_stored plainServer
    emptyDatabase plainServer_usable run dispatched rfl one handled rfl rfl
  exact ⟨config, history, row, run, threads, stored, holds⟩

/-- The client accepts the command, and its result is looked up before the job
is inserted.  The result is refused, and the job is left running. -/
theorem result_lost_before_insert :
    ∃ config history,
      Run (program plainServer).system Unrestricted (initial emptyDatabase) history config ∧
      config.threads = [.dispatched dateJob (.newJob "jid"), .resulted "client" [1] (.error
          ("client \"client\" reported a result for job \"jid\", " ++ "which it was not given"))] ∧
      config.shared.database.jobs.get "jid" = some (dateJob.toRow dateJob.details) ∧
      dateJob.status = "running" ∧ dateJob.result = none :=
  Run.exists_reaching_unrestricted [.spawn (.handleExecuteCommand date), .advance 0 works,
      .spawn (.cmdResult "client" [1]), .advance 0 works, .advance 1 works, .advance 0 works]
    (by decide +kernel)

end ProxiPort.Jobs
