import ProxiPort.Session.Origins

/-!
# A token and its session

A bearer token names its session by id only, and the table hands out an id
again when the row with the highest id has been deleted.  A token is accepted
only on its own session in runs in which every new row gets an id that no
session had before.
-/

namespace ProxiPort.Session

open Concurrency List

/-- A new row gets an id that was never given to a row. -/
def Store.InsertsUnused (store : Store) : Thread → Prop
  | .add _ _ =>
    ∀ inserted ∈ store.created, inserted.sessionID ≠ nextID store.rows
  | _ => True

instance (store : Store) (thread : Thread) : Decidable (store.InsertsUnused thread) := by
  unfold Store.InsertsUnused
  split <;> infer_instance

def UnusedID (config : Config Store Thread) (thread : Thread) (_ : Choice) : Prop :=
  config.shared.InsertsUnused thread

instance (config : Config Store Thread) (thread : Thread)
    (choice : Choice) : Decidable (UnusedID config thread choice) :=
  inferInstanceAs (Decidable (config.shared.InsertsUnused thread))

/-- Ids name insertions, and every token was accepted on the session it was
minted for. -/
structure TokensBound (history : List Output)
    (config : Config Store Thread) : Prop where
  registered : Registered config
  distinct : (config.shared.created.map APISession.sessionID).Nodup
  accepted : ∀ token session, .accepted token session ∈ history → token = session

theorem initial_tokensBound (clock : Time) : TokensBound [] (initial clock) := by
  refine ⟨initial_registered clock, ?_, ?_⟩ <;> simp [initial, Store.new]

variable {config : Config Store Thread} {history shown : List Output}

theorem Stepped.accepted_eq {next : Store} {thread after : Thread}
    (bound : TokensBound history config) (stepped : Stepped config.shared thread next after shown)
    {token session : Nat} (accepted : .accepted token session ∈ shown) : token = session := by
  cases stepped with
  | @read _ _ claims found _ known got _ outputs =>
    rcases outputs with rfl | rfl
    · simp at accepted
    · simp only [mem_cons, reduceCtorEq, Output.accepted.injEq,
        not_mem_nil, or_false, false_or] at accepted
      obtain ⟨rfl, rfl⟩ := accepted
      obtain ⟨⟨item, cached, -, rfl⟩, named⟩ := Store.get_visible got
      obtain ⟨mintedFor, minted, mintedID, -⟩ := bound.registered.tokens claims known
      obtain ⟨inserted, stored, storedID, -⟩ := bound.registered.cache item cached
      exact origin_eq_of_distinct bound.distinct minted stored
        (mintedID.trans (named.symm.trans storedID.symm))
  | _ => simp at accepted

theorem Stepped.distinct_after {store next : Store} {thread after : Thread}
    (distinct : (store.created.map APISession.sessionID).Nodup)
    (unused : store.InsertsUnused thread) (stepped : Stepped store thread next after shown) :
    (next.created.map APISession.sessionID).Nodup := by
  cases stepped with
  | added =>
    simp only [Store.add, map_append, map_cons, map_nil]
    refine List.Nodup.append distinct (nodup_singleton _) ?_
    rw [disjoint_singleton]
    intro taken
    obtain ⟨inserted, member, same⟩ := mem_map.mp taken
    exact unused inserted member same
  | _ => exact distinct

theorem step_tokensBound {next : Config Store Thread}
    {move : Move Call Choice Event} (bound : TokensBound history config)
    (admitted : OnAdvance UnusedID config move)
    (stepped : program.system.step config move = some (next, shown)) :
    TokensBound (history ++ shown) next := by
  have registered := step_registered bound.registered stepped
  cases Program.step_cases stepped with
  | spawn call =>
    rw [append_nil]
    exact ⟨registered, bound.distinct, bound.accepted⟩
  | @advance _ _ thread store after shown found ran =>
    have effect : Stepped config.shared thread store after shown := atomic_stepped ran
    refine ⟨registered, effect.distinct_after bound.distinct (admitted.condition found), ?_⟩
    intro token session accepted
    rcases mem_append.mp accepted with before | now
    · exact bound.accepted token session before
    · exact effect.accepted_eq bound now
  | environment ran =>
    obtain ⟨rfl, hides⟩ := environment_hides ran
    rw [append_nil]
    refine ⟨registered, ?_, bound.accepted⟩
    rw [hides.created]
    exact bound.distinct

theorem run_tokensBound {clock : Time}
    (run : Run program.system (OnAdvance UnusedID) (initial clock) history config) :
    TokensBound history config :=
  run.invariant TokensBound (initial_tokensBound clock) step_tokensBound

/-- In a run in which no id is given out twice, a token is accepted only on
the session that was created when it was minted. -/
theorem token_accepted_on_own_session {clock : Time}
    {history : List Output} {config : Config Store Thread}
    (run : Run program.system (OnAdvance UnusedID) (initial clock) history config)
    {token session : Nat} (accepted : .accepted token session ∈ history) : token = session :=
  (run_tokensBound run).accepted token session accepted

theorem token_accepted_on_own_session_twoLogins :
    ∃ config history,
      Run program.system (OnAdvance UnusedID) (initial 0) history config ∧
      history = [.deleted 0, .lookedUp 1, .accepted 1 1] ∧
      ∀ token session, .accepted token session ∈ history → token = session :=
  Run.exists_reaching_follows (List.flatten [logsIn 0 "ada", logsIn 1 "bob",
      [.spawn (.delete 1), .advance 2 (.sql (.ok ())), .advance 2 .proceed,
        .spawn (.checkBearerToken 0 "/api/v1/me" "GET"), .advance 3 .proceed,
        .spawn (.checkBearerToken 1 "/api/v1/me" "GET"), .advance 4 .proceed]])
    (by decide +kernel) (by decide +kernel)
    fun run _ _ _ => token_accepted_on_own_session run

/-- The first session is deleted, the second one gets its id, and the first
token is accepted on the second session. -/
theorem token_accepted_on_other_session :
    ∃ config history,
      Run program.system Unrestricted (initial 0) history config ∧
      history = [.deleted 0, .lookedUp 1, .accepted 0 1] ∧
      config.shared.created.map APISession.username = ["ada", "bob"] :=
  Run.exists_reaching_unrestricted (List.flatten [logsIn 0 "ada",
      [.spawn (.delete 1), .advance 1 (.sql (.ok ())), .advance 1 .proceed], logsIn 2 "bob",
      [.spawn (.checkBearerToken 0 "/api/v1/me" "GET"), .advance 3 .proceed]])
    (by decide +kernel)

end ProxiPort.Session
