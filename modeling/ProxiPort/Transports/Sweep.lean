import Mathlib.Data.List.Infix
import Mathlib.Data.List.ProdSigma

/-!
# The sweep over transports and servers

The agent dials every server over the first transport of its chain, then every
server over the second, and so on, until one answers.
-/

namespace ProxiPort.Transports

open List

inductive Kind where
  | direct
  | socks5
  | connect
  deriving DecidableEq, Repr

structure Transport where
  kind : Kind
  spec : String
  deriving DecidableEq, Repr

def Transport.isDirect (transport : Transport) : Bool := transport.kind = .direct

def hasDirect (chain : List Transport) : Bool := chain.any Transport.isDirect

structure Candidate where
  transport : Transport
  server : String
  index : Nat
  deriving DecidableEq, Repr

section Candidates

variable (isOnionAddress : String → Bool)

def addServer (transport : Transport) (out : List Candidate) (server : String) : List Candidate :=
  if server = "" then out
  else if transport.isDirect && isOnionAddress server then out
  else out ++ [⟨transport, server, out.length⟩]

def candidates (chain : List Transport) (servers : List String) : List Candidate :=
  chain.foldl (fun out transport =>
    servers.foldl (addServer isOnionAddress transport) out) []

def usable (pair : Transport × String) : Bool :=
  pair.2 ≠ "" && !(pair.1.isDirect && isOnionAddress pair.2)

def numbered (pairs : List (Transport × String)) (index : Nat) : List Candidate :=
  (pairs.zipIdx index).map fun entry => ⟨entry.1.1, entry.1.2, entry.2⟩

@[simp]
theorem length_numbered (pairs : List (Transport × String)) (index : Nat) :
    (numbered pairs index).length = pairs.length := by
  simp [numbered]

theorem numbered_append (pairs others : List (Transport × String)) (index : Nat) :
    numbered (pairs ++ others) index =
      numbered pairs index ++ numbered others (index + pairs.length) := by
  rw [numbered, zipIdx_append, map_append, numbered, numbered]

theorem foldl_addServer (transport : Transport) (servers : List String) (out : List Candidate) :
    servers.foldl (addServer isOnionAddress transport) out =
      out ++ numbered ((servers.map (Prod.mk transport)).filter
        (usable isOnionAddress)) out.length := by
  induction servers generalizing out with
  | nil => exact (append_nil out).symm
  | cons server servers induction =>
    rw [foldl_cons, induction, addServer, map_cons, filter_cons, usable]
    split
    · simp [*]
    · split
      · simp [*]
      · simp [*, numbered]

theorem foldl_chain (chain : List Transport) (servers : List String) (out : List Candidate) :
    chain.foldl (fun out transport =>
        servers.foldl (addServer isOnionAddress transport) out) out =
      out ++ numbered ((chain ×ˢ servers).filter (usable isOnionAddress)) out.length := by
  induction chain generalizing out with
  | nil => exact (append_nil out).symm
  | cons transport chain induction =>
    rw [foldl_cons, foldl_addServer, induction, product_cons,
      filter_append, numbered_append, length_append, length_numbered, append_assoc]

theorem candidates_append (earlier later : List Transport) (servers : List String) :
    candidates isOnionAddress earlier servers <+:
      candidates isOnionAddress (earlier ++ later) servers := by
  rw [candidates, candidates, foldl_append, foldl_chain _ later]
  exact prefix_append _ _

theorem transport_mem {chain : List Transport} {servers : List String} {cand : Candidate}
    (member : cand ∈ candidates isOnionAddress chain servers) : cand.transport ∈ chain := by
  rw [candidates, foldl_chain] at member
  obtain ⟨⟨⟨transport, server⟩, index⟩, entry, rfl⟩ := mem_map.mp member
  have pair := fst_mem_of_mem_zipIdx entry
  exact (mem_product.mp (mem_of_mem_filter pair)).1

end Candidates

/-- How one call of `connect` ends; an error is `errEndpointRefused` or not. -/
inductive Attempt (Conn : Type) where
  | connected (conn : Conn)
  | refused (err : String)
  | failed (err : String)

inductive SweepError where
  | noCandidates
  | refused (err : String)
  | sweepFailure (failures : List String)

variable {Conn : Type} (connect : Candidate → Attempt Conn)

/-- The candidates that are dialled, and what the loop returns. -/
def sweep (failures : List String) :
    List Candidate →
    List Candidate × Except SweepError (Conn × Candidate)
  | [] => ([], .error (.sweepFailure failures))
  | cand :: later =>
    match connect cand with
    | .connected conn => ([cand], .ok (conn, cand))
    | .refused err => ([cand], .error (.refused err))
    | .failed err =>
      let (tried, result) := sweep (failures ++ [err]) later
      (cand :: tried, result)

def connectToMainOrFallback (candidates : List Candidate) :
    List Candidate × Except SweepError (Conn × Candidate) :=
  match candidates with
  | [] => ([], .error .noCandidates)
  | _ => sweep connect [] candidates

def Fails (cand : Candidate) : Prop := ∃ err, connect cand = .failed err

variable {connect} {cand : Candidate} {earlier later : List Candidate}

theorem connectToMainOrFallback_cons :
    connectToMainOrFallback connect (earlier ++ cand :: later) =
      sweep connect [] (earlier ++ cand :: later) := by
  cases earlier with
  | nil | cons => rfl

theorem sweep_append (failed : ∀ other ∈ earlier, Fails connect other)
    (decided : ¬ Fails connect cand) (failures : List String) :
    sweep connect failures (earlier ++ cand :: later) =
      (earlier ++ [cand], (sweep connect [] [cand]).2) := by
  induction earlier generalizing failures with
  | nil =>
    cases outcome : connect cand with
    | connected | refused => simp [sweep, outcome]
    | failed err => exact (decided ⟨err, outcome⟩).elim
  | cons other earlier induction =>
    obtain ⟨⟨err, outcome⟩, rest⟩ := forall_mem_cons.mp failed
    simp [sweep, outcome, induction rest]

theorem failed_of_dialled {candidates : List Candidate} {failures : List String}
    (dialled : cand ∈ (sweep connect failures candidates).1) :
    ∃ earlier later, candidates = earlier ++ cand :: later ∧
      ∀ other ∈ earlier, Fails connect other := by
  induction candidates generalizing failures with
  | nil => cases dialled
  | cons first rest induction =>
    cases outcome : connect first with
    | connected | refused =>
      simp only [sweep, outcome, mem_singleton] at dialled
      subst dialled
      exact ⟨[], rest, rfl, forall_mem_nil _⟩
    | failed err =>
      simp only [sweep, outcome, mem_cons] at dialled
      rcases dialled with rfl | further
      · exact ⟨[], rest, rfl, forall_mem_nil _⟩
      · obtain ⟨earlier, later, rfl, failed⟩ := induction further
        exact ⟨first :: earlier, later, rfl, forall_mem_cons.mpr ⟨⟨err, outcome⟩, failed⟩⟩

theorem dialled_after {candidates : List Candidate}
    (dialled : cand ∈ (connectToMainOrFallback connect candidates).1) :
    ∃ earlier later, candidates = earlier ++ cand :: later ∧
      ∀ other ∈ earlier, Fails connect other := by
  cases candidates with
  | nil => cases dialled
  | cons => exact failed_of_dialled dialled

/-- The candidates are all usable pairs in order; the first one that does not
fail decides and is the last one to be dialled; and no transport is dialled
before all candidates of those before it have failed. -/
theorem transport_sweep (isOnionAddress : String → Bool)
    (chain : List Transport) (servers : List String) (connect : Candidate → Attempt Conn) :
    candidates isOnionAddress chain servers =
      numbered ((chain ×ˢ servers).filter (usable isOnionAddress)) 0 ∧
    (∀ earlier cand later, candidates isOnionAddress chain servers = earlier ++ cand :: later →
      (∀ other ∈ earlier, Fails connect other) →
      (∀ conn, connect cand = .connected conn → connectToMainOrFallback connect
          (candidates isOnionAddress chain servers) = (earlier ++ [cand], .ok (conn, cand))) ∧
      ∀ err, connect cand = .refused err → connectToMainOrFallback connect
          (candidates isOnionAddress chain servers) = (earlier ++ [cand], .error (.refused err))) ∧
    ∀ cand ∈ (connectToMainOrFallback connect (candidates isOnionAddress chain servers)).1,
      (∀ earlier later, chain = earlier ++ later →
        cand ∉ candidates isOnionAddress earlier servers →
        ∀ other ∈ candidates isOnionAddress earlier servers, Fails connect other) ∧
      (hasDirect chain = false → cand.transport.isDirect = false) := by
  refine ⟨foldl_chain isOnionAddress chain servers [], ?_, ?_⟩
  · intro earlier cand later split failed
    rw [split, connectToMainOrFallback_cons]
    constructor
    · intro conn connected
      rw [sweep_append failed (by simp [Fails, connected])]
      simp [sweep, connected]
    · intro err refused
      rw [sweep_append failed (by simp [Fails, refused])]
      simp [sweep, refused]
  · intro cand dialled
    obtain ⟨before, after, split, failed⟩ := dialled_after dialled
    constructor
    · rintro earlier later rfl unlisted other member
      obtain ⟨rest, whole⟩ := candidates_append isOnionAddress earlier later servers
      rw [split] at whole
      rcases append_eq_append_iff.mp whole with
        ⟨between, rfl, _⟩ | ⟨between, same, following⟩
      · exact failed other (mem_append_left _ member)
      · cases between with
        | nil =>
          rw [append_nil] at same
          exact failed other (same ▸ member)
        | cons =>
          cases following
          rw [same] at unlisted
          exact (unlisted (mem_append_right _ mem_cons_self)).elim
    · intro noDirect
      have listed : cand ∈ candidates isOnionAddress chain servers := by
        rw [split]
        exact mem_append_right _ mem_cons_self
      simpa using any_eq_false.mp noDirect _ (transport_mem isOnionAddress listed)

end ProxiPort.Transports
