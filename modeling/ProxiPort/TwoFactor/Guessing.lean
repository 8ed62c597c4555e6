import ProxiPort.TwoFactor.Sessions

/-!
# The number of wrong codes a session sees

A failure is counted after the comparison, in a section of its own, so any
number of validations can hold a session before the first failure is counted.
-/

namespace ProxiPort.TwoFactor

open Concurrency

namespace Thread

def working (session : SessionRef) (thread : Thread) : Bool :=
  thread.holds.any fun held => held.2 == session

def rejected (session : SessionRef) : Thread → Bool
  | .returned (.rejected refused _) => refused == session
  | _ => false

/-- The code of the call was compared with the session and did not pass. -/
def refused (session : SessionRef) : Thread → Bool
  | .registerFailure _ compared _ => compared == session
  | .returned (.rejected compared _) => compared == session
  | _ => false

end Thread

def wrongCodes (config : Config TwoFAService Thread) (session : SessionRef) :
    Nat :=
  config.threads.countP (Thread.refused session)

def workers (config : Config TwoFAService Thread) (session : SessionRef) :
    Nat :=
  config.threads.countP (Thread.working session)

def rejections (config : Config TwoFAService Thread) (session : SessionRef) :
    Nat :=
  config.threads.countP (Thread.rejected session)

/-- A validation picks up a session only while there is room for one more
failure. -/
def RoomForFailure (config : Config TwoFAService Thread) : Thread → Choice → Prop
  | .readSession validation, _ =>
    ∀ session ∈ config.shared.tokensByUser validation.username,
    ∀ token ∈ config.shared.allocated[session]?,
      token.failures + workers config session < maxTwoFAFailures
  | _, _ => True

instance (config : Config TwoFAService Thread) :
    ∀ thread choice, Decidable (RoomForFailure config thread choice)
  | .readSession validation, _ => inferInstanceAs
      (Decidable (∀ session ∈ config.shared.tokensByUser validation.username, ∀ token ∈ _, _))
  | .sendToken _, _ | .reuseToken .., _ | .deliverToken .., _
  | .storeToken .., _ | .setTotPLoginSession .., _
  | .setPendingPasswordChange .., _ | .compare .., _ | .acceptStep .., _
  | .registerFailure .., _ | .consume .., _ | .returned _, _ =>
    .isTrue trivial

/-- Rejections and running validations together respect the limit, and the
counter of a pending session is the number of its rejections. -/
structure FailuresCounted (config : Config TwoFAService Thread) : Prop where
  valid : SessionsValid config
  limited : ∀ session, rejections config session + workers config session ≤ maxTwoFAFailures
  counted : ∀ session token, config.shared.Current session →
    config.shared.allocated[session]? = some token →
    rejections config session = token.failures

theorem initial_failuresCounted (tokenTTLSeconds : Int) :
    FailuresCounted (initial tokenTTLSeconds) := by
  refine ⟨initial_sessionsValid tokenTTLSeconds, ?_, ?_⟩
  · simp [rejections, workers, initial]
  · rintro session token ⟨username, found⟩
    simp [initial, TwoFAService.new] at found

variable {session : SessionRef} {thread : Thread}

theorem Thread.rejected_iff :
    thread.rejected session = true ↔
      ∃ error, thread = .returned (.rejected session error) := by
  unfold rejected
  split <;> simp_all

variable {config : Config TwoFAService Thread}

theorem rejections_eq_zero (valid : SessionsValid config)
    (unknown : config.shared.allocated.length ≤ session) : rejections config session = 0 := by
  apply Nat.eq_zero_of_not_pos
  intro positive
  have known : session < config.shared.allocated.length := by
    apply valid.known_of_countP _ positive
    intro thread rejected
    obtain ⟨error, rfl⟩ := Thread.rejected_iff.mp rejected
    rfl
  exact Nat.not_lt.mpr unknown known

variable {otp : OtpLibrary} {thread after : Thread} {shown : List Output}

theorem Stepped.rejected_after {service next : TwoFAService}
    (stepped : Stepped otp service thread next after shown)
    (refused : after.rejected session = true) :
    ∃ validation error, thread = .registerFailure validation session error ∧
      next = service.registerFailure validation.username session := by
  obtain ⟨error, ended⟩ := Thread.rejected_iff.mp refused
  obtain ⟨validation, before, counted⟩ := stepped.of_rejected ended
  exact ⟨validation, error, before, counted⟩

theorem Thread.working_iff :
    thread.working session = true ↔
      ∃ validation, thread.holds = some (validation, session) := by
  cases held : thread.holds with
  | none => simp [working, held]
  | some pair =>
    obtain ⟨validation, other⟩ := pair
    simp [working, held]

/-- A validation works on the session already or picks it up; it is done with
it in the section in which it is rejected. -/
theorem Stepped.working_after {service next : TwoFAService}
    (stepped : Stepped otp service thread next after shown) (session : SessionRef) :
    ((if after.rejected session then 1 else 0) + (if after.working session then 1 else 0) ≤
      if thread.working session then 1 else 0) ∨
    after.rejected session = false ∧ ∃ validation, thread = .readSession validation ∧
        service.tokensByUser validation.username = some session := by
  by_cases refused : after.rejected session = true
  · obtain ⟨validation, error, rfl, -⟩ := stepped.rejected_after refused
    cases stepped
    simp [Thread.rejected, Thread.working, Thread.holds]
  · by_cases working : after.working session = true
    · obtain ⟨validation, held⟩ := Thread.working_iff.mp working
      rcases stepped.holds_after held with before | ⟨rfl, current⟩
      · rw [if_neg refused, if_pos working, if_pos (Thread.working_iff.mpr ⟨validation, before⟩)]
        exact .inl (Nat.le_refl _)
      · exact .inr ⟨eq_false_of_ne_true refused, validation, rfl, current⟩
    · rw [if_neg refused, if_neg working]
      exact .inl (Nat.zero_le _)

theorem FailuresCounted.counted_after {next : TwoFAService} (invariant : FailuresCounted config)
    (stepped : Stepped otp config.shared thread next after shown)
    (member : thread ∈ config.threads) {token : ExpirableToken} (current : next.Current session)
    (stored : next.allocated[session]? = some token) :
    rejections config session + (if after.rejected session then 1 else 0) = token.failures := by
  by_cases refused : after.rejected session = true
  · rw [if_pos refused]
    obtain ⟨validation, error, rfl, rfl⟩ := stepped.rejected_after refused
    -- the session is pending under the name it was looked up with
    obtain ⟨username, listed⟩ := current
    have before := (TwoFAService.shrinks_registerFailure
      config.shared validation.username session).tokens_of_next listed
    have owner : username = validation.username := invariant.valid.owned _ member rfl before
    subst owner
    cases stepped.contents stored with
    | fresh unknown =>
      have known := invariant.valid.stored before
      rw [unknown] at known
      exact absurd known (Nat.lt_irrefl _)
    | same _ stale => exact absurd before (stale _ _ rfl)
    | counted _ found =>
      rw [invariant.counted session _ ⟨_, before⟩ found]
    | pending impossible => simp at impossible
  · rw [if_neg refused, Nat.add_zero]
    have before : ∀ {earlier}, config.shared.allocated[session]? =
        some earlier → rejections config session = earlier.failures := by
      intro earlier found
      have known : session < config.shared.allocated.length :=
        (List.getElem?_eq_some_iff.mp found).1
      exact invariant.counted session earlier (stepped.extends.current known current) found
    cases stepped.contents stored with
    | fresh unknown =>
      exact rejections_eq_zero invariant.valid (Nat.le_of_eq unknown.symm)
    | same found _ => exact before found
    | counted rejecting found =>
      subst rejecting
      cases stepped
      simp [Thread.rejected] at refused
    | pending _ _ found =>
      rw [before found]

theorem step_failuresCounted {config next : Config TwoFAService Thread}
    {move : Move Call Choice Empty} (invariant : FailuresCounted config)
    (admitted : OnAdvance RoomForFailure config move)
    (stepped : (program otp).system.step config move = some (next, shown)) :
    FailuresCounted next := by
  have valid := step_sessionsValid invariant.valid stepped
  cases Program.step_cases stepped with
  | @environment event => exact event.elim
  | spawn call =>
    have idle : ∀ session, (Thread.enter call).rejected session = false ∧
          (Thread.enter call).working session = false := by
      intro session
      cases call <;> exact ⟨rfl, rfl⟩
    refine ⟨valid, ?_, ?_⟩
    · intro session
      simpa [rejections, workers, program, idle session] using invariant.limited session
    · intro session token current found
      simpa [rejections, program, idle session] using invariant.counted session token current found
  | @advance index _ thread service after shown found ran =>
    have effect : Stepped otp config.shared thread service after shown := atomic_stepped ran
    have member : thread ∈ config.threads := List.mem_of_getElem? found
    have running : ∀ session, thread.rejected session = false := by
      intro session
      cases thread with
      | returned outcome => exact absurd rfl (effect.not_returned outcome)
      | _ => rfl
    have rejectedNow : ∀ session, rejections ⟨service, config.threads.set index after⟩ session =
        rejections config session +
          if after.rejected session then 1 else 0 := by
      intro session
      exact Program.countP_set_of_false found after (running session)
    refine ⟨valid, ?_, ?_⟩
    · intro session
      have workersNow : workers ⟨service, config.threads.set index after⟩ session +
            (if thread.working session then 1 else 0) =
          workers config session +
            if after.working session then 1 else 0 :=
        Program.countP_set found after (Thread.working session)
      rw [rejectedNow]
      have limit := invariant.limited session
      rcases effect.working_after session with
        fewer | ⟨passed, validation, rfl, current⟩
      · omega
      -- a validation picks the session up, which needs room
      · have known := invariant.valid.stored current
        have stored := List.getElem?_eq_getElem known
        have room := admitted.condition found session current _ stored
        have counted := invariant.counted session _ ⟨_, current⟩ stored
        have none : (if after.rejected session then 1 else 0) = 0 := by
          simp [passed]
        have one : (if after.working session then 1 else 0) ≤ 1 := by
          split <;> omega
        omega
    · intro session token current stored
      rw [rejectedNow]
      exact invariant.counted_after effect member current stored

theorem wrongCodes_le (config : Config TwoFAService Thread) (session : SessionRef) :
    wrongCodes config session ≤ rejections config session + workers config session := by
  unfold wrongCodes rejections workers
  induction config.threads with
  | nil => simp
  | cons thread threads induction =>
    have here : (if thread.refused session then 1 else 0) ≤
        (if thread.rejected session then 1 else 0) + (if thread.working session then 1 else 0) := by
      unfold Thread.refused
      split
      · simp [Thread.working, Thread.holds]
      · simp [Thread.rejected]
      · simp
    simp only [List.countP_cons]
    omega

theorem run_failuresCounted {tokenTTLSeconds : Int} {history : List Output}
    (run : Run (program otp).system (OnAdvance RoomForFailure)
      (initial tokenTTLSeconds) history config) :
    FailuresCounted config :=
  run.stateInvariant FailuresCounted (initial_failuresCounted tokenTTLSeconds) step_failuresCounted

/-- In a run in which validations pick up a session only while there is room
for their failure, no session sees more wrong codes than the limit. -/
theorem wrongCodes_le_maxTwoFAFailures {otp : OtpLibrary}
    {tokenTTLSeconds : Int} {history : List Output} {config : Config TwoFAService Thread}
    (run : Run (program otp).system (OnAdvance RoomForFailure)
      (initial tokenTTLSeconds) history config)
    (session : SessionRef) :
    wrongCodes config session ≤ maxTwoFAFailures :=
  Nat.le_trans (wrongCodes_le config session) ((run_failuresCounted run).limited session)

def guesses (index : Nat) : List (Move Call Choice Empty) :=
  [.spawn (.validate (.token "ada" "0000")), .advance index .proceed,
    .advance index (.clock 0 0), .advance index .proceed]

def guessesInSequence : List (Move Call Choice Empty) :=
  List.flatten [sendsToken, [1, 2, 3, 4, 5].flatMap guesses,
    [.spawn (.validate (.token "ada" "0000")), .advance 6 .proceed]]

theorem wrongCodes_le_maxTwoFAFailures_inSequence :
    ∃ config history,
      Run (program .unused).system (OnAdvance RoomForFailure) (initial 600) history config ∧
      wrongCodes config 0 = 5 ∧ wrongCodes config 0 ≤ maxTwoFAFailures :=
  Run.exists_reaching_follows guessesInSequence (by decide +kernel)
    (by decide +kernel) fun run _ => wrongCodes_le_maxTwoFAFailures run 0

def guessesTogether : List (Move Call Choice Empty) :=
  List.flatten [sendsToken,
    [1, 2, 3, 4, 5, 6].flatMap fun index =>
      [.spawn (.validate (.token "ada" "0000")), .advance index .proceed],
    [1, 2, 3, 4, 5, 6].flatMap fun index =>
      [.advance index (.clock 0 0), .advance index .proceed]]

theorem maxTwoFAFailures_lt_wrongCodes :
    ∃ config history,
      Run (program .unused).system Unrestricted (initial 600) history config ∧
      maxTwoFAFailures < wrongCodes config 0 :=
  Run.exists_reaching_unrestricted guessesTogether (by decide +kernel)

end ProxiPort.TwoFactor
