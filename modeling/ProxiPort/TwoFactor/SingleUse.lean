import ProxiPort.TwoFactor.Sessions

/-!
# One success for one session

Two validations that hold the same session can both pass the comparison before
either of them reaches its last section, and the last section reports success
whether or not it still finds the session.
-/

namespace ProxiPort.TwoFactor

open Concurrency

def Thread.verified (session : SessionRef) : Thread → Bool
  | .returned (.verified spent _) => spent == session
  | _ => false

def successes (config : Config TwoFAService Thread) (session : SessionRef) :
    Nat :=
  config.threads.countP (Thread.verified session)

/-- A validation that enters its last section finds the session it compared
with still pending. -/
def FindsSession (config : Config TwoFAService Thread) : Thread → Choice → Prop
  | .consume validation session, _ =>
    config.shared.tokensByUser validation.username = some session
  | _, _ => True

instance (config : Config TwoFAService Thread) :
    ∀ thread choice, Decidable (FindsSession config thread choice)
  | .consume validation session, _ => inferInstanceAs
      (Decidable (config.shared.tokensByUser validation.username = some session))
  | .sendToken _, _ | .reuseToken .., _ | .deliverToken .., _
  | .storeToken .., _ | .setTotPLoginSession .., _
  | .setPendingPasswordChange .., _ | .readSession _, _ | .compare .., _
  | .acceptStep .., _ | .registerFailure .., _ | .returned _, _ =>
    .isTrue trivial

structure SpentOnce (config : Config TwoFAService Thread) : Prop where
  valid : SessionsValid config
  once : ∀ session, successes config session ≤ 1
  spent : ∀ session, 0 < successes config session → ¬ config.shared.Current session

theorem initial_spentOnce (tokenTTLSeconds : Int) : SpentOnce (initial tokenTTLSeconds) := by
  refine ⟨initial_sessionsValid tokenTTLSeconds, ?_, ?_⟩ <;>
    simp [successes, initial]

variable {session : SessionRef}

theorem Thread.verified_iff {thread : Thread} :
    thread.verified session = true ↔
      ∃ password, thread = .returned (.verified session password) := by
  unfold verified
  split <;> simp_all

variable {otp : OtpLibrary} {shown : List Output}

theorem Stepped.verified_after {service next : TwoFAService} {thread after : Thread}
    (stepped : Stepped otp service thread next after shown)
    (succeeded : after.verified session = true) :
    ∃ validation, thread = .consume validation session ∧
      next = (service.consume validation.username session).1 := by
  obtain ⟨password, ended⟩ := Thread.verified_iff.mp succeeded
  obtain ⟨validation, before, consumed, -⟩ := stepped.of_verified ended
  exact ⟨validation, before, consumed⟩

variable {config : Config TwoFAService Thread}

theorem step_spentOnce {config next : Config TwoFAService Thread}
    {move : Move Call Choice Empty} (invariant : SpentOnce config)
    (admitted : OnAdvance FindsSession config move)
    (stepped : (program otp).system.step config move = some (next, shown)) : SpentOnce next := by
  have valid := step_sessionsValid invariant.valid stepped
  cases Program.step_cases stepped with
  | @environment event => exact event.elim
  | spawn call =>
    have unchanged : ∀ session, successes ⟨config.shared,
          config.threads ++ [(program otp).enter call]⟩ session =
        successes config session := by
      intro session
      cases call <;> simp [successes, program, Thread.enter, Thread.verified]
    refine ⟨valid, ?_, ?_⟩
    · intro session
      rw [unchanged]
      exact invariant.once session
    · intro session
      rw [unchanged]
      exact invariant.spent session
  | @advance index _ thread service after shown found ran =>
    have effect : Stepped otp config.shared thread service after shown := atomic_stepped ran
    have running : ∀ session, thread.verified session = false := by
      intro session
      cases thread with
      | returned outcome => exact absurd rfl (effect.not_returned outcome)
      | _ => rfl
    have counted : ∀ session, successes ⟨service, config.threads.set index after⟩ session =
        successes config session +
          if after.verified session then 1 else 0 := by
      intro session
      exact Program.countP_set_of_false found after (running session)
    refine ⟨valid, ?_, ?_⟩
    · intro session
      rw [counted]
      split
      · rename_i succeeded
        obtain ⟨validation, rfl, -⟩ := effect.verified_after succeeded
        have current := admitted.condition found
        -- the session was still in the table, so nobody had spent it
        have unspent : ¬ 0 < successes config session :=
          fun spent => invariant.spent session spent ⟨_, current⟩
        omega
      · exact invariant.once session
    · intro session positive
      by_cases succeeded : after.verified session = true
      · obtain ⟨validation, rfl, rfl⟩ := effect.verified_after succeeded
        have current : config.shared.tokensByUser validation.username =
            some session := admitted.condition found
        rintro ⟨other, later⟩
        simp only [TwoFAService.consume, current, if_true] at later
        obtain ⟨distinct, before⟩ := TwoFAService.forget_tokens later
        exact distinct (invariant.valid.unique before current)
      · rw [counted, if_neg succeeded] at positive
        intro current
        apply invariant.spent session positive
        refine effect.extends.current ?_ current
        apply invariant.valid.known_of_countP _ positive
        intro thread succeeded
        obtain ⟨password, rfl⟩ := Thread.verified_iff.mp succeeded
        rfl

theorem run_spentOnce {tokenTTLSeconds : Int} {history : List Output}
    (run : Run (program otp).system (OnAdvance FindsSession)
      (initial tokenTTLSeconds) history config) :
    SpentOnce config :=
  run.stateInvariant SpentOnce (initial_spentOnce tokenTTLSeconds) step_spentOnce

/-- In a run in which every validation that reaches its last section still
finds its session there, a session makes at most one validation succeed. -/
theorem validation_succeeds_once {otp : OtpLibrary} {tokenTTLSeconds : Int}
    {history : List Output} {config : Config TwoFAService Thread}
    (run : Run (program otp).system (OnAdvance FindsSession)
      (initial tokenTTLSeconds) history config)
    (session : SessionRef) : successes config session ≤ 1 :=
  (run_spentOnce run).once session

def validatesTwice : List (Move Call Choice Empty) :=
  List.flatten [sendsToken,
    [.spawn (.validate (.token "ada" "4711")), .advance 1 .proceed,
      .advance 1 (.clock 0 0), .advance 1 .proceed,
      .spawn (.validate (.token "ada" "4711")), .advance 2 .proceed]]

theorem validation_succeeds_once_inSequence :
    ∃ config history,
      Run (program .unused).system (OnAdvance FindsSession) (initial 600) history config ∧
      successes config 0 = 1 ∧ successes config 0 ≤ 1 :=
  Run.exists_reaching_follows validatesTwice (by decide +kernel)
    (by decide +kernel) fun run _ => validation_succeeds_once run 0

def validatesTogether : List (Move Call Choice Empty) :=
  List.flatten [sendsToken,
    [.spawn (.validate (.token "ada" "4711")), .spawn (.validate (.token "ada" "4711")),
      .advance 1 .proceed, .advance 2 .proceed, .advance 1 (.clock 0 0), .advance 2 (.clock 0 0),
      .advance 1 .proceed, .advance 2 .proceed]]

theorem validation_succeeds_twice :
    ∃ config history,
      Run (program .unused).system Unrestricted (initial 600) history config ∧
      successes config 0 = 2 :=
  Run.exists_reaching_unrestricted validatesTogether (by decide +kernel)

end ProxiPort.TwoFactor
