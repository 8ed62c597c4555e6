import ProxiPort.TwoFactor.Service

/-!
# What a section can do to the pending sessions

`Stepped` lists the effects of one section of a call, and
`SessionsValid` is the bookkeeping every argument about sessions needs: a
session belongs to the one user it was stored for, and once it has left the
table it never comes back.
-/

namespace ProxiPort.TwoFactor

open Concurrency List

section

variable (otp : OtpLibrary) (service : TwoFAService)

inductive Stepped : Thread → TwoFAService → Thread → List Output → Prop where
  | lookedUp {username : String} {found : Except String (Option User)} :
      Stepped (.sendToken username) service (.lookUp username found) []
  | reused {username sendTo : String} : Stepped (.reuseToken username sendTo) service
        (.returned (.sent sendTo)) []
  | notReused {username sendTo : String} : Stepped (.reuseToken username sendTo) service
        (.deliverToken username sendTo) []
  | notDelivered {username sendTo err : String} : Stepped (.deliverToken username sendTo) service
        (.returned (.failed ⟨"", err, 500⟩)) []
  | delivered {username sendTo token : String} : Stepped (.deliverToken username sendTo) service
        (.storeToken username sendTo token) []
  | storedToken {username sendTo token : String} {expiry : Time} :
      Stepped (.storeToken username sendTo token) (service.store username ⟨token, expiry, 0, ""⟩)
        (.returned (.sent sendTo)) []
  | storedTotP {username : String} {loginSessionTTL : Int} {expiry : Time} :
      Stepped (.setTotPLoginSession username loginSessionTTL)
        (service.store username ⟨"", expiry, 0, ""⟩) (.returned .stored) []
  | setPending {username newPassword : String} :
      Stepped (.setPendingPasswordChange username newPassword)
        (service.setPendingPasswordChange username newPassword) (.returned .stored) []
  | absent {validation : Validation} : service.tokensByUser validation.username = none →
      Stepped (.readSession validation) service (.returned (.failed validation.notFound)) []
  | read {validation : Validation} {session : SessionRef} :
      service.tokensByUser validation.username = some session →
      Stepped (.readSession validation) service (.compare validation session) []
  | compared {validation : Validation} {session : SessionRef}
      {token : ExpirableToken} {now codeNow : Time} :
      service.allocated[session]? = some token →
      Stepped (.compare validation session) service (.afterCompare validation session
          (compareCode otp token validation now codeNow)) []
  | accepted {user : User} {code : String} {session : SessionRef} {step : Int} :
      (∀ last, service.lastTotPStep user.username = some last → last < step) →
      Stepped (.acceptStep (.totPCode user code) session step)
        (service.recordStep user.username step) (.consume (.totPCode user code) session)
        [.accepted user.username step code]
  | replayed {user : User} {code : String} {session : SessionRef} {step : Int} {error : APIError} :
      Stepped (.acceptStep (.totPCode user code) session step)
        service (.registerFailure (.totPCode user code) session error) []
  | rejected {validation : Validation} {session : SessionRef} {error : APIError} :
      Stepped (.registerFailure validation session error)
        (service.registerFailure validation.username session)
        (.returned (.rejected session error)) []
  | verified {validation : Validation} {session : SessionRef} :
      Stepped (.consume validation session) (service.consume validation.username session).1
        (.returned (.verified session (service.consume validation.username session).2)) []

end

theorem acceptTotPStep_cases (service : TwoFAService) (username : String) (step : Int) :
    (service.acceptTotPStep username step = (service, false)) ∨
      (∀ last, service.lastTotPStep username = some last → last < step) ∧
        service.acceptTotPStep username step = (service.recordStep username step, true) := by
  unfold TwoFAService.acceptTotPStep
  cases recorded : service.lastTotPStep username with
  | none => exact .inr ⟨by simp, rfl⟩
  | some last =>
    by_cases used : step ≤ last
    · exact .inl (if_pos used)
    · refine .inr ⟨?_, if_neg used⟩
      rintro _ ⟨⟩
      omega

variable {otp : OtpLibrary} {service next : TwoFAService}
  {thread after : Thread} {shown : List Output}

theorem atomic_stepped {choice : Choice}
    (ran : atomic otp service thread choice = some (next, after, shown)) :
    Stepped otp service thread next after shown := by
  cases thread with
  | sendToken username =>
    cases choice <;> cases ran
    exact .lookedUp
  | reuseToken username sendTo =>
    cases choice <;> simp only [atomic, reduceCtorEq] at ran
    split at ran <;> cases ran
    · exact .reused
    · exact .notReused
  | deliverToken username sendTo =>
    cases choice <;> simp only [atomic, reduceCtorEq] at ran
    split at ran <;> cases ran
    · exact .notDelivered
    · exact .delivered
  | storeToken username sendTo token =>
    cases choice <;> cases ran
    exact .storedToken
  | setTotPLoginSession username loginSessionTTL =>
    cases choice <;> cases ran
    exact .storedTotP
  | setPendingPasswordChange username newPassword =>
    cases choice <;> cases ran
    exact .setPending
  | readSession validation =>
    cases choice <;> simp only [atomic, reduceCtorEq] at ran
    split at ran <;> rename_i found <;>
      cases ran
    · exact .absent found
    · exact .read found
  | compare validation session =>
    cases choice <;> simp only [atomic, reduceCtorEq] at ran
    split at ran
    · simp at ran
    · rename_i token found
      cases ran
      exact .compared found
  | acceptStep validation session step =>
    cases choice <;> simp only [atomic, reduceCtorEq] at ran
    cases validation with
    | token => simp at ran
    | totPCode user code =>
      rcases acceptTotPStep_cases service user.username step with
        refused | ⟨fresh, granted⟩
      · simp only [refused, Option.some.injEq, Prod.mk.injEq] at ran
        obtain ⟨rfl, rfl, rfl⟩ := ran
        exact .replayed
      · simp only [granted, Option.some.injEq, Prod.mk.injEq] at ran
        obtain ⟨rfl, rfl, rfl⟩ := ran
        exact .accepted fresh
  | registerFailure validation session error =>
    cases choice <;> cases ran
    exact .rejected
  | consume validation session =>
    cases choice <;> cases ran
    exact .verified
  | returned outcome => cases choice <;> simp [atomic] at ran

theorem Stepped.not_returned
    (stepped : Stepped otp service thread next after shown) (outcome : Outcome) :
    thread ≠ .returned outcome := by
  cases stepped <;> simp

namespace Thread

theorem lookUp_cases (username : String) (found : Except String (Option User)) :
    (∃ error, lookUp username found = .returned (.failed error)) ∨
      ∃ sendTo, lookUp username found = .reuseToken username sendTo := by
  unfold lookUp
  repeat' split
  all_goals first
    | exact .inl ⟨_, rfl⟩
    | exact .inr ⟨_, rfl⟩

variable {outcome : Outcome}

theorem failed_of_lookUp {username : String} {found : Except String (Option User)}
    (ended : lookUp username found = .returned outcome) : ∃ error, outcome = .failed error := by
  rcases lookUp_cases username found with ⟨error, same⟩ | ⟨sendTo, same⟩ <;>
    rw [same] at ended <;> cases ended
  exact ⟨error, rfl⟩

theorem failed_of_afterCompare {validation : Validation} {session : SessionRef} {verdict : Verdict}
    (ended : afterCompare validation session verdict = .returned outcome) :
    ∃ error, outcome = .failed error := by
  cases verdict <;> cases ended
  exact ⟨_, rfl⟩

end Thread

section Ends

variable {otp : OtpLibrary} {service next : TwoFAService}
  {thread after : Thread} {shown : List Output} {session : SessionRef}

theorem Stepped.of_verified (stepped : Stepped otp service thread next after shown)
    {password : String} (ended : after = .returned (.verified session password)) :
    ∃ validation, thread = .consume validation session ∧
      next = (service.consume validation.username session).1 ∧
      password = (service.consume validation.username session).2 := by
  cases stepped with
  | verified =>
    cases ended
    exact ⟨_, rfl, rfl, rfl⟩
  | lookedUp =>
    obtain ⟨error, impossible⟩ := Thread.failed_of_lookUp ended
    cases impossible
  | compared =>
    obtain ⟨error, impossible⟩ := Thread.failed_of_afterCompare ended
    cases impossible
  | _ => cases ended

theorem Stepped.of_rejected (stepped : Stepped otp service thread next after shown)
    {error : APIError} (ended : after = .returned (.rejected session error)) :
    ∃ validation, thread = .registerFailure validation session error ∧
      next = service.registerFailure validation.username session := by
  cases stepped with
  | rejected =>
    cases ended
    exact ⟨_, rfl, rfl⟩
  | lookedUp =>
    obtain ⟨_, impossible⟩ := Thread.failed_of_lookUp ended
    cases impossible
  | compared =>
    obtain ⟨_, impossible⟩ := Thread.failed_of_afterCompare ended
    cases impossible
  | _ => cases ended

end Ends

namespace TwoFAService

def Current (service : TwoFAService) (session : SessionRef) : Prop :=
  ∃ username, service.tokensByUser username = some session

/-- A later service knows all sessions of an earlier one, and the table holds
none of them that it did not hold for the same user before. -/
structure Extends (service next : TwoFAService) : Prop where
  length_le : service.allocated.length ≤ next.allocated.length
  tokens_of_next : ∀ {username session},
    next.tokensByUser username = some session →
    session < service.allocated.length →
    service.tokensByUser username = some session

variable {session : SessionRef} {service next : TwoFAService}

theorem Extends.current (later : service.Extends next) (known : session < service.allocated.length)
    (current : next.Current session) : service.Current session := by
  obtain ⟨username, found⟩ := current
  exact ⟨username, later.tokens_of_next found known⟩

theorem forget_tokens {username other : String}
    (found : (service.forget username).tokensByUser other = some session) :
    other ≠ username ∧ service.tokensByUser other = some session := by
  by_cases same : other = username
  · subst other
    simp [forget] at found
  · refine ⟨same, ?_⟩
    simpa [forget, Function.update_of_ne same] using found

theorem store_tokens {username other : String} {token : ExpirableToken}
    (found : (service.store username token).tokensByUser other = some session) :
    (other = username ∧ session = service.allocated.length) ∨
      service.tokensByUser other = some session := by
  by_cases same : other = username
  · subst other
    simp only [store, Function.update_self, Option.some.injEq] at found
    exact .inl ⟨rfl, found.symm⟩
  · right
    simpa [store, Function.update_of_ne same] using found

theorem extends_store (service : TwoFAService) (username : String) (token : ExpirableToken) :
    service.Extends (service.store username token) := by
  constructor
  · simp [store]
  · intro other session found known
    rcases store_tokens found with ⟨-, rfl⟩ | before
    · exact absurd known (Nat.lt_irrefl _)
    · exact before

structure Shrinks (service next : TwoFAService) : Prop where
  length_eq : next.allocated.length = service.allocated.length
  tokens_of_next : ∀ {username session},
    next.tokensByUser username = some session →
    service.tokensByUser username = some session

theorem Shrinks.refl (service : TwoFAService) : service.Shrinks service := ⟨rfl, fun found => found⟩

theorem Shrinks.extends (shrinks : service.Shrinks next) : service.Extends next :=
  ⟨Nat.le_of_eq shrinks.length_eq.symm, fun found _ => shrinks.tokens_of_next found⟩

theorem shrinks_modify (service : TwoFAService) (session : SessionRef)
    (change : ExpirableToken → ExpirableToken) : service.Shrinks (service.modify session change) :=
  ⟨length_modify _ _ _, fun found => found⟩

theorem shrinks_forget (service : TwoFAService) (username : String) :
    service.Shrinks (service.forget username) :=
  ⟨rfl, fun found => (forget_tokens found).2⟩

theorem Shrinks.trans {first second third : TwoFAService}
    (earlier : first.Shrinks second) (later : second.Shrinks third) :
    first.Shrinks third :=
  ⟨later.length_eq.trans earlier.length_eq,
    fun found => earlier.tokens_of_next (later.tokens_of_next found)⟩

theorem shrinks_registerFailure (service : TwoFAService)
    (username : String) (session : SessionRef) :
    service.Shrinks (service.registerFailure username session) := by
  unfold registerFailure
  split
  · dsimp only
    split
    · exact (service.shrinks_modify _ _).trans (shrinks_forget _ _)
    · exact service.shrinks_modify _ _
  · exact .refl service

end TwoFAService

/-- The table after a section: entries are old, or the section stored a fresh
session for one user. -/
theorem Stepped.shrinks_or_stores (stepped : Stepped otp service thread next after shown) :
    service.Shrinks next ∨ ∃ username token, next = service.store username token := by
  cases stepped with
  | storedToken | storedTotP => exact .inr ⟨_, _, rfl⟩
  | setPending =>
    unfold TwoFAService.setPendingPasswordChange
    split
    · exact .inl (service.shrinks_modify _ _)
    · exact .inl (.refl service)
  | rejected => exact .inl (service.shrinks_registerFailure _ _)
  | verified =>
    unfold TwoFAService.consume
    split
    · exact .inl (service.shrinks_forget _)
    · exact .inl (.refl service)
  | accepted => exact .inl ⟨rfl, fun found => found⟩
  | _ => exact .inl (.refl service)

theorem Stepped.extends (stepped : Stepped otp service thread next after shown) :
    service.Extends next := by
  rcases stepped.shrinks_or_stores with shrinks | ⟨username, token, rfl⟩
  · exact shrinks.extends
  · exact service.extends_store username token

theorem TwoFAService.getElem?_modify (service : TwoFAService) (session changed : SessionRef)
    (change : ExpirableToken → ExpirableToken) :
    (service.modify changed change).allocated[session]? = (service.allocated[session]?).map
        (if changed = session then change else id) := by
  simp only [modify, List.getElem?_modify, Option.map_eq_map]
  split <;> rfl

theorem TwoFAService.registerFailure_allocated (service : TwoFAService)
    (username : String) (session : SessionRef) :
    (service.registerFailure username session).allocated =
      if service.tokensByUser username = some session then
        (service.modify session fun token =>
          { token with failures := token.failures + 1 }).allocated
      else service.allocated := by
  unfold registerFailure
  split
  · dsimp only
    split <;> rfl
  · rfl

/-- Where the contents of a session after a section come from. -/
inductive Contents (service : TwoFAService) (thread : Thread)
    (session : SessionRef) : ExpirableToken → Prop where
  | fresh {token : String} {expiry : Time} : session = service.allocated.length →
      Contents service thread session ⟨token, expiry, 0, ""⟩
  | same {token : ExpirableToken} : service.allocated[session]? = some token → (∀ validation error,
        thread = .registerFailure validation session error →
        service.tokensByUser validation.username ≠ some session) →
      Contents service thread session token
  | counted {before : ExpirableToken} {validation : Validation} {error : APIError} :
      thread = .registerFailure validation session error →
      service.allocated[session]? = some before →
      Contents service thread session
        { before with failures := before.failures + 1 }
  | pending {before : ExpirableToken} {username newPassword : String} :
      thread = .setPendingPasswordChange username newPassword →
      service.tokensByUser username = some session →
      service.allocated[session]? = some before →
      Contents service thread session
        { before with pendingPassword := newPassword }

variable {token : ExpirableToken}

theorem contents_store {service : TwoFAService} {thread : Thread}
    {username stored : String} {expiry : Time} {session : SessionRef} (busy : ∀ validation error,
      thread ≠ .registerFailure validation session error)
    (found : (service.store username ⟨stored, expiry, 0, ""⟩).allocated[session]? = some token) :
    Contents service thread session token := by
  simp only [TwoFAService.store, List.getElem?_append, List.getElem?_singleton] at found
  split at found
  · exact .same found (fun _ _ same => absurd same (busy _ _))
  · rename_i beyond
    split at found
    · rename_i last
      simp only [Option.some.injEq] at found
      subst found
      exact .fresh (Nat.le_antisymm (Nat.le_of_sub_eq_zero last) (Nat.not_lt.mp beyond))
    · simp at found

theorem Stepped.contents (stepped : Stepped otp service thread next after shown)
    {session : SessionRef} (found : next.allocated[session]? = some token) :
    Contents service thread session token := by
  cases stepped with
  | storedToken | storedTotP => exact contents_store (by simp) found
  | @setPending username newPassword =>
    unfold TwoFAService.setPendingPasswordChange at found
    split at found
    · rename_i changed current
      rw [TwoFAService.getElem?_modify, Option.map_eq_some_iff] at found
      obtain ⟨before, stored, rfl⟩ := found
      split
      · rename_i same
        subst same
        exact .pending rfl current stored
      · exact .same stored (by simp)
    · exact .same found (by simp)
  | @rejected validation refused error =>
    rw [TwoFAService.registerFailure_allocated] at found
    split at found
    · rename_i current
      rw [TwoFAService.getElem?_modify, Option.map_eq_some_iff] at found
      obtain ⟨before, stored, rfl⟩ := found
      split
      · rename_i same
        subst same
        exact .counted rfl stored
      · rename_i distinct
        refine .same stored ?_
        rintro _ _ ⟨⟩
        exact absurd rfl distinct
    · rename_i stale
      refine .same found ?_
      rintro _ _ ⟨⟩
      exact stale
  | verified =>
    refine .same ?_ (by simp)
    unfold TwoFAService.consume at found
    split at found
    all_goals exact found
  | _ => exact .same found (by simp)

namespace Thread

def holds : Thread → Option (Validation × SessionRef)
  | .compare validation session | .acceptStep validation session _
  | .registerFailure validation session _ | .consume validation session =>
    some (validation, session)
  | _ => none

def session : Thread → Option SessionRef
  | .compare _ session | .acceptStep _ session _
  | .registerFailure _ session _ | .consume _ session
  | .returned (.rejected session _) | .returned (.verified session _) =>
    some session
  | _ => none

variable {validation : Validation}

theorem session_eq_of_holds {thread : Thread} {session : SessionRef}
    (held : thread.holds = some (validation, session)) : thread.session = some session := by
  cases thread <;> simp_all [holds, Thread.session]

theorem holds_enter (call : Call) : (enter call).holds = none := by
  cases call <;> rfl

theorem session_enter (call : Call) : (enter call).session = none := by
  cases call <;> rfl

theorem holds_lookUp (username : String) (found : Except String (Option User)) :
    (lookUp username found).holds = none ∧ (lookUp username found).session = none := by
  rcases lookUp_cases username found with ⟨error, same⟩ | ⟨sendTo, same⟩ <;>
    rw [same] <;> exact ⟨rfl, rfl⟩

end Thread

structure SessionsValid (config : Config TwoFAService Thread) : Prop where
  stored : ∀ {username session}, config.shared.tokensByUser username = some session →
    session < config.shared.allocated.length
  unique : ∀ {left right session}, config.shared.tokensByUser left = some session →
    config.shared.tokensByUser right = some session → left = right
  referred : ∀ thread ∈ config.threads, ∀ {session}, thread.session = some session →
    session < config.shared.allocated.length
  owned : ∀ thread ∈ config.threads, ∀ {validation session username},
    thread.holds = some (validation, session) →
    config.shared.tokensByUser username = some session →
    username = validation.username

theorem SessionsValid.known_of_countP {config : Config TwoFAService Thread}
    (valid : SessionsValid config) {session : SessionRef} {test : Thread → Bool}
    (mentions : ∀ thread, test thread = true → thread.session = some session)
    (positive : 0 < config.threads.countP test) : session < config.shared.allocated.length := by
  obtain ⟨thread, member, passes⟩ := countP_pos_iff.mp positive
  exact valid.referred thread member (mentions thread passes)

theorem initial_sessionsValid (tokenTTLSeconds : Int) :
    SessionsValid (initial tokenTTLSeconds) := by
  constructor <;> simp [initial, TwoFAService.new]

theorem Stepped.session_after (stepped : Stepped otp service thread next after shown)
    {session : SessionRef} (found : after.session = some session) :
    thread.session = some session ∨ service.Current session := by
  cases stepped with
  | read current =>
    simp only [Thread.session, Option.some.injEq] at found
    subst found
    exact .inr ⟨_, current⟩
  | lookedUp => simp [Thread.holds_lookUp] at found
  | compared =>
    simp only [Thread.afterCompare] at found
    split at found <;> simp_all [Thread.session]
  | _ => simp_all [Thread.session]

theorem Stepped.holds_after (stepped : Stepped otp service thread next after shown)
    {validation : Validation} {session : SessionRef}
    (held : after.holds = some (validation, session)) :
    thread.holds = some (validation, session) ∨ (thread = .readSession validation ∧
        service.tokensByUser validation.username = some session) := by
  cases stepped with
  | read current =>
    cases held
    exact .inr ⟨rfl, current⟩
  | lookedUp => simp [Thread.holds_lookUp] at held
  | compared =>
    simp only [Thread.afterCompare] at held
    split at held <;> simp_all [Thread.holds]
  | _ => simp_all [Thread.holds]

theorem step_sessionsValid {config next : Config TwoFAService Thread}
    {move : Move Call Choice Empty} (valid : SessionsValid config)
    (stepped : (program otp).system.step config move = some (next, shown)) :
    SessionsValid next := by
  cases Program.step_cases stepped with
  | @environment event => exact event.elim
  | spawn call =>
    refine ⟨valid.stored, valid.unique, ?_, ?_⟩
    · exact forall_mem_concat valid.referred (by simp [program, Thread.session_enter])
    · exact forall_mem_concat valid.owned (by simp [program, Thread.holds_enter])
  | @advance _ _ thread service after shown found ran =>
    have effect : Stepped otp config.shared thread service after shown := atomic_stepped ran
    have later := effect.extends
    have member : thread ∈ config.threads := List.mem_of_getElem? found
    constructor
    · intro username session current
      rcases effect.shrinks_or_stores with shrinks | ⟨stored, token, rfl⟩
      · exact Nat.lt_of_lt_of_le (valid.stored (shrinks.tokens_of_next current)) later.length_le
      · rcases TwoFAService.store_tokens current with ⟨-, rfl⟩ | old
        · simp [TwoFAService.store]
        · exact Nat.lt_of_lt_of_le (valid.stored old) later.length_le
    · intro left right session leftCurrent rightCurrent
      rcases effect.shrinks_or_stores with shrinks | ⟨stored, token, rfl⟩
      · exact valid.unique (shrinks.tokens_of_next leftCurrent)
          (shrinks.tokens_of_next rightCurrent)
      -- a stored session is a new object no entry points to yet
      · rcases TwoFAService.store_tokens leftCurrent with
          ⟨rfl, rfl⟩ | leftOld <;>
          rcases TwoFAService.store_tokens rightCurrent with
            ⟨rfl, same⟩ | rightOld
        · rfl
        · exact absurd (valid.stored rightOld) (Nat.lt_irrefl _)
        · subst same
          exact absurd (valid.stored leftOld) (Nat.lt_irrefl _)
        · exact valid.unique leftOld rightOld
    · intro other otherMember session mentioned
      rcases mem_or_eq_of_mem_set otherMember with old | rfl
      · exact Nat.lt_of_lt_of_le (valid.referred other old mentioned) later.length_le
      · rcases effect.session_after mentioned with
          before | ⟨username, current⟩
        · exact Nat.lt_of_lt_of_le (valid.referred thread member before) later.length_le
        · exact Nat.lt_of_lt_of_le (valid.stored current) later.length_le
    · intro other otherMember validation session username held current
      rcases mem_or_eq_of_mem_set otherMember with old | rfl
      · have known := valid.referred other old (Thread.session_eq_of_holds held)
        exact valid.owned other old held (later.tokens_of_next current known)
      · rcases effect.holds_after held with before | ⟨-, read⟩
        · have known := valid.referred thread member (Thread.session_eq_of_holds before)
          exact valid.owned thread member before (later.tokens_of_next current known)
        · exact valid.unique (later.tokens_of_next current (valid.stored read)) read

def mailUser : User :=
  { username := "ada"
    password := "hash"
    passwordExpired := none
    groups := none
    twoFASendTo := "ada@localhost"
    totP := "" }

def sendsToken : List (Move Call Choice Empty) :=
  [.spawn (.sendToken "ada"), .advance 0 (.foundUser (.ok (some mailUser))),
    .advance 0 (.clock 0 0), .advance 0 (.delivered (.ok "4711")), .advance 0 (.clock 0 0)]

/-- However calls interleave, a pending session is that of one user only, and a
validation never works on a session that is pending for another user. -/
theorem pending_sessions_isolated {otp : OtpLibrary} {tokenTTLSeconds : Int}
    {history : List Output} {config : Config TwoFAService Thread}
    (run : Run (program otp).system Unrestricted (initial tokenTTLSeconds) history config) :
    SessionsValid config :=
  run.stateInvariant SessionsValid (initial_sessionsValid tokenTTLSeconds)
    fun valid _ stepped => step_sessionsValid valid stepped

theorem pending_sessions_isolated_sent :
    ∃ config history, Run (program .unused).system Unrestricted (initial 600) history config ∧
      config.shared.tokensByUser "ada" = some 0 ∧ SessionsValid config :=
  Run.exists_reaching_follows sendsToken (by decide +kernel)
    (System.admitsAlong_unrestricted _ _ _) fun run _ => pending_sessions_isolated run

end ProxiPort.TwoFactor
