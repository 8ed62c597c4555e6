import ProxiPort.TwoFactor.Sessions

/-!
# Accepted time steps

The history of a run records each accepted code with its time step, in the
order in which the steps were accepted.  The last step the service remembers
for a user is the last one in that user's part of the history, whatever other
users do in between.
-/

namespace ProxiPort.TwoFactor

open Concurrency List

def Output.acceptedFor (username : String) : Output → Option (Int × String)
  | .accepted name step code =>
    if name = username then some (step, code) else none

/-- The codes accepted for a user with their time steps, oldest first. -/
def acceptedCodes (username : String) (history : List Output) : List (Int × String) :=
  history.filterMap (Output.acceptedFor username)

/-- The step is what the code checks to for a user of that name at some
time. -/
def Checked (otp : OtpLibrary) (username : String) (step : Int) (code : String) : Prop :=
  ∃ user totP now, user.username = username ∧ getUsersTotPCode otp user = .ok (some totP) ∧
    checkTotPCodeStep otp code totP now = some step

variable {otp : OtpLibrary} {step : Int}

theorem compareCode_matchedStep {session : ExpirableToken}
    {validation : Validation} {now codeNow : Time}
    (compared : compareCode otp session validation now codeNow = .matchedStep step) :
    ∃ user code, validation = .totPCode user code ∧ Checked otp user.username step code := by
  unfold compareCode at compared
  split at compared
  · simp at compared
  · cases validation with
    | token username token =>
      dsimp only at compared
      split at compared <;> simp at compared
    | totPCode user code =>
      dsimp only at compared
      split at compared
      · simp at compared
      · simp at compared
      · rename_i totP parsed
        split at compared
        · simp at compared
        · split at compared
          · rename_i found checked
            simp only [Verdict.matchedStep.injEq] at compared
            subst compared
            exact ⟨user, code, rfl, user, totP, codeNow, rfl, parsed, checked⟩
          · simp at compared

structure StepsRecorded (otp : OtpLibrary) (history : List Output)
    (config : Config TwoFAService Thread) : Prop where
  increasing : ∀ username, (acceptedCodes username history).Pairwise
    fun earlier later => earlier.1 < later.1
  last : ∀ username, config.shared.lastTotPStep username =
    (acceptedCodes username history).getLast?.map Prod.fst
  checked : ∀ username, ∀ entry ∈ acceptedCodes username history,
    Checked otp username entry.1 entry.2
  pending : ∀ user code session step,
    .acceptStep (.totPCode user code) session step ∈ config.threads →
    Checked otp user.username step code

theorem entry_le_last {entries : List (Int × String)}
    (increasing : entries.Pairwise fun earlier later => earlier.1 < later.1)
    {last : Int × String} (ends : entries.getLast? = some last)
    {entry : Int × String} (member : entry ∈ entries) : entry.1 ≤ last.1 := by
  obtain ⟨earlier, rfl⟩ := getLast?_eq_some_iff.mp ends
  rw [pairwise_append] at increasing
  rcases mem_or_eq_of_mem_concat member with before | rfl
  · exact Int.le_of_lt (increasing.2.2 entry before last (by simp))
  · exact Int.le_refl _

variable {shown : List Output}

theorem Stepped.shown_cases {service next : TwoFAService} {thread after : Thread}
    (stepped : Stepped otp service thread next after shown) :
    (shown = [] ∧ next.lastTotPStep = service.lastTotPStep) ∨ ∃ user code session step,
        thread = .acceptStep (.totPCode user code) session step ∧
        shown = [.accepted user.username step code] ∧
        next = service.recordStep user.username step ∧
        ∀ last, service.lastTotPStep user.username = some last → last < step := by
  cases stepped with
  | accepted fresh => exact .inr ⟨_, _, _, _, rfl, rfl, rfl, fresh⟩
  | setPending =>
    left
    unfold TwoFAService.setPendingPasswordChange
    split <;> exact ⟨rfl, rfl⟩
  | rejected =>
    left
    unfold TwoFAService.registerFailure
    split
    · dsimp only
      split <;> exact ⟨rfl, rfl⟩
    · exact ⟨rfl, rfl⟩
  | verified =>
    left
    unfold TwoFAService.consume
    split <;> exact ⟨rfl, rfl⟩
  | _ => exact .inl ⟨rfl, rfl⟩

theorem Stepped.acceptStep_checked {service next : TwoFAService}
    {thread : Thread} {user : User} {code : String} {session : SessionRef}
    (stepped : Stepped otp service thread next
      (.acceptStep (.totPCode user code) session step) shown) :
    Checked otp user.username step code := by
  generalize arrived : Thread.acceptStep (.totPCode user code) session step = after at stepped
  cases stepped with
  | lookedUp =>
    unfold Thread.lookUp at arrived
    repeat' split at arrived
    all_goals simp at arrived
  | @compared validation _ token now codeNow =>
    cases verdict : compareCode otp token validation now codeNow with
    | matchedStep found =>
      obtain ⟨owner, typed, rfl, checked⟩ := compareCode_matchedStep verdict
      simp only [verdict, Thread.afterCompare, Thread.acceptStep.injEq,
        Validation.totPCode.injEq] at arrived
      obtain ⟨⟨rfl, rfl⟩, -, rfl⟩ := arrived
      exact checked
    | _ => simp [verdict, Thread.afterCompare] at arrived
  | _ => simp at arrived

theorem acceptedCodes_self (username : String) (history : List Output)
    (step : Int) (code : String) :
    acceptedCodes username (history ++ [.accepted username step code]) =
      acceptedCodes username history ++ [(step, code)] := by
  simp [acceptedCodes, Output.acceptedFor]

theorem acceptedCodes_of_ne {name username : String}
    (distinct : name ≠ username) (history : List Output) (step : Int) (code : String) :
    acceptedCodes username (history ++ [.accepted name step code]) =
      acceptedCodes username history := by
  simp [acceptedCodes, Output.acceptedFor, distinct]

variable {config : Config TwoFAService Thread} {history : List Output}

theorem StepsRecorded.accept {name code : String} {threads : List Thread}
    (recorded : StepsRecorded otp history config)
    (fresh : ∀ last, config.shared.lastTotPStep name = some last →
      last < step) (valid : Checked otp name step code)
    (pending : ∀ user code session step, .acceptStep (.totPCode user code) session step ∈ threads →
      Checked otp user.username step code) :
    StepsRecorded otp (history ++ [.accepted name step code])
      ⟨config.shared.recordStep name step, threads⟩ := by
  refine ⟨?_, ?_, ?_, pending⟩ <;> intro username <;>
    by_cases same : name = username
  · subst username
    rw [acceptedCodes_self, pairwise_append]
    refine ⟨recorded.increasing name, pairwise_singleton _ _, ?_⟩
    intro entry member added addition
    rw [mem_singleton.mp addition]
    cases ends : (acceptedCodes name history).getLast? with
    | none =>
      rw [getLast?_eq_none_iff.mp ends] at member
      exact absurd member not_mem_nil
    | some last =>
      have remembered := recorded.last name
      rw [ends] at remembered
      exact Int.lt_of_le_of_lt (entry_le_last (recorded.increasing name) ends member)
        (fresh last.1 remembered)
  · rw [acceptedCodes_of_ne same]
    exact recorded.increasing username
  · subst username
    simp [acceptedCodes_self, TwoFAService.recordStep]
  · rw [acceptedCodes_of_ne same, ← recorded.last username]
    exact Function.update_of_ne (Ne.symm same) _ _
  · subst username
    intro entry member
    rw [acceptedCodes_self] at member
    exact forall_mem_concat (recorded.checked name) valid entry member
  · rw [acceptedCodes_of_ne same]
    exact recorded.checked username

theorem step_stepsRecorded {next : Config TwoFAService Thread} {move : Move Call Choice Empty}
    (recorded : StepsRecorded otp history config)
    (stepped : (program otp).system.step config move = some (next, shown)) :
    StepsRecorded otp (history ++ shown) next := by
  cases Program.step_cases stepped with
  | @environment event => exact event.elim
  | spawn call =>
    rw [append_nil]
    refine ⟨recorded.increasing, recorded.last, recorded.checked, ?_⟩
    intro user code session step member
    rcases mem_or_eq_of_mem_concat member with old | entered
    · exact recorded.pending user code session step old
    · cases call <;> simp [program, Thread.enter] at entered
  | @advance index _ thread service after shown found ran =>
    have effect : Stepped otp config.shared thread service after shown := atomic_stepped ran
    have member : thread ∈ config.threads := List.mem_of_getElem? found
    have pending : ∀ user code session step, .acceptStep (.totPCode user code) session step ∈
          config.threads.set index after →
        Checked otp user.username step code := by
      intro user code session step reached
      rcases mem_or_eq_of_mem_set reached with old | rfl
      · exact recorded.pending user code session step old
      · exact effect.acceptStep_checked
    rcases effect.shown_cases with
      ⟨rfl, kept⟩ | ⟨user, code, session, step, rfl, rfl, rfl, fresh⟩
    · rw [append_nil]
      exact ⟨recorded.increasing, fun username => (congrFun kept username).trans
          (recorded.last username),
        recorded.checked, pending⟩
    · exact recorded.accept fresh (recorded.pending user code session step member) pending

theorem run_stepsRecorded {tokenTTLSeconds : Int}
    (run : Run (program otp).system Unrestricted (initial tokenTTLSeconds) history config) :
    StepsRecorded otp history config :=
  run.invariant (StepsRecorded otp)
    (by constructor <;> simp [acceptedCodes, initial, TwoFAService.new])
    (fun recorded _ stepped => step_stepsRecorded recorded stepped)

def unaryOtp : OtpLibrary where
  unSerializeTotP := fun _ => .ok ⟨"secret", 30, "SHA1", "6"⟩
  validateCustom := fun code _ instant options =>
    .ok (decide ((code.length : Int) = Time.unix instant / options.period))

def totPUser (username : String) : User :=
  { username := username
    password := "hash"
    passwordExpired := none
    groups := none
    twoFASendTo := ""
    totP := "otpauth://totp" }

def logsIn (username code : String) (login : Nat) (seconds : Int) : List (Move Call Choice Empty) :=
  [.spawn (.setTotPLoginSession username (600 * second)),
    .advance login (.clock (seconds * second) 0),
    .spawn (.validate (.totPCode (totPUser username) code)), .advance (login + 1) .proceed,
    .advance (login + 1) (.clock (seconds * second) (seconds * second)),
    .advance (login + 1) .proceed, .advance (login + 1) .proceed]

end ProxiPort.TwoFactor
