import ProxiPort.TwoFactor.Handlers
import ProxiPort.TwoFactor.Sessions

/-!
# Whose password a verification applies

All logins of a user share one pending session.  A login with a new password
writes it into whatever session is pending, and a verification applies what it
finds there, whichever login its bearer token comes from.  The password is the
verified login's own in runs in which a login marks only a session it has
stored itself, and a verification consumes a marked session only if that was
stored by the login it verifies.
-/

namespace ProxiPort.TwoFactor

open Concurrency

/-- The two steps at which a session passes from one login to another. -/
def OwnSession (config : Config Server Handler) : Handler → HandlerChoice → Prop
  | .calling attempt _ (.setPendingPasswordChange username _), _ =>
    ∀ session ∈ config.shared.service.tokensByUser username,
      config.shared.storedBy[session]? = some attempt
  | .calling attempt _ (.consume validation session), _ =>
    config.shared.service.tokensByUser validation.username = some session →
    (∀ token ∈ config.shared.service.allocated[session]?, token.pendingPassword = "") ∨
      config.shared.storedBy[session]? = some attempt
  | _, _ => True

instance (config : Config Server Handler) (handler : Handler) (choice : HandlerChoice) :
    Decidable (OwnSession config handler choice) := by
  unfold OwnSession
  split <;> infer_instance

def Asked (server : Server) (attempt : Nat) (password : String) : Prop :=
  ∃ request, server.attempts[attempt]? = some request ∧ request.newPassword = password

def LoggedIn (server : Server) (attempt : Nat) (username : String) : Prop :=
  ∃ request, server.attempts[attempt]? = some request ∧ request.username = username

def Stage.Traced (server : Server) (attempt : Nat) : Stage → Prop
  | .sendToken request | .totPSession request _
  | .pendingAfterTotP request _ => server.attempts[attempt]? = some request
  | .pendingAfterToken _ => True
  | .validate username => LoggedIn server attempt username

structure Thread.Traced (server : Server) (attempt : Nat) (call : Thread) :
    Prop where
  marks : ∀ username newPassword, call = .setPendingPasswordChange username newPassword →
    Asked server attempt newPassword
  finds : ∀ session password, call = .returned (.verified session password) → password ≠ "" →
    Asked server attempt password

def Handler.Traced (server : Server) : Handler → Prop
  | .calling attempt stage call =>
    stage.Traced server attempt ∧ call.Traced server attempt
  | .createAuthToken attempt request _ _ =>
    server.attempts[attempt]? = some request
  | .applyPassword attempt username password =>
    LoggedIn server attempt username ∧ Asked server attempt password
  | _ => True

/-- A marked session was marked by the attempt that stored it. -/
def SessionsTraced (server : Server) : Prop :=
  ∀ (session : SessionRef) (token : ExpirableToken),
    server.service.allocated[session]? = some token →
    token.pendingPassword ≠ "" →
    ∃ attempt, server.storedBy[session]? = some attempt ∧ Asked server attempt token.pendingPassword

/-- Every password on its way into a verification can be traced back to the
attempt that asked for it. -/
structure PasswordsTraced (history : List HandlerOutput)
    (config : Config Server Handler) : Prop where
  stored : config.shared.storedBy.length = config.shared.service.allocated.length
  pending : SessionsTraced config.shared
  minted : ∀ bearer ∈ config.shared.minted, LoggedIn config.shared bearer.attempt bearer.username
  running : ∀ handler ∈ config.threads, handler.Traced config.shared
  applied : ∀ attempt username password, .applied attempt username password ∈ history →
    LoggedIn config.shared attempt username ∧ Asked config.shared attempt password

theorem startUp_passwordsTraced (tokenTTLSeconds : Int) :
    PasswordsTraced [] (startUp tokenTTLSeconds) := by
  constructor <;> simp [startUp, SessionsTraced, TwoFAService.new]

def Server.Knows (server later : Server) : Prop :=
  ∀ (attempt : Nat) (request : LoginRequest),
    server.attempts[attempt]? = some request →
    later.attempts[attempt]? = some request

theorem Server.knows_login (server : Server) (request : LoginRequest) :
    server.Knows
      { server with attempts := server.attempts ++ [request] } := by
  intro attempt earlier found
  have known : attempt < server.attempts.length := (List.getElem?_eq_some_iff.mp found).1
  rw [← found]
  exact List.getElem?_append_left known

section Knows

variable {server next : Server}

variable {attempt : Nat}

section

variable (knows : server.Knows next)

include knows

theorem Asked.later {password : String} (asked : Asked server attempt password) :
    Asked next attempt password := by
  obtain ⟨request, found, supplied⟩ := asked
  exact ⟨request, knows attempt request found, supplied⟩

theorem LoggedIn.later {username : String} (loggedIn : LoggedIn server attempt username) :
    LoggedIn next attempt username := by
  obtain ⟨request, found, named⟩ := loggedIn
  exact ⟨request, knows attempt request found, named⟩

theorem Stage.Traced.later {stage : Stage} (traced : stage.Traced server attempt) :
    stage.Traced next attempt := by
  cases stage with
  | sendToken | totPSession | pendingAfterTotP =>
    exact knows attempt _ traced
  | pendingAfterToken => trivial
  | validate => exact LoggedIn.later knows traced

theorem Thread.Traced.later {call : Thread} (traced : call.Traced server attempt) :
    call.Traced next attempt :=
  ⟨fun username newPassword same =>
      (traced.marks username newPassword same).later knows,
    fun session password same supplied =>
      (traced.finds session password same supplied).later knows⟩

theorem Handler.Traced.later {handler : Handler} (traced : handler.Traced server) :
    handler.Traced next := by
  cases handler with
  | calling | applyPassword =>
    exact ⟨traced.1.later knows, traced.2.later knows⟩
  | createAuthToken => exact knows _ _ traced
  | _ => trivial

end

end Knows

variable {attempt : Nat} {server : Server}

theorem Thread.traced_of_ne {call : Thread} (unmarked : ∀ username newPassword,
      call ≠ .setPendingPasswordChange username newPassword)
    (running : ∀ outcome, call ≠ .returned outcome) :
    call.Traced server attempt :=
  ⟨fun _ _ same => absurd same (unmarked _ _), fun _ _ same => absurd same (running _)⟩

variable {request : LoginRequest}

section

variable (found : server.attempts[attempt]? = some request)

include found

theorem traced_setPending :
    (Thread.setPendingPasswordChange request.username
      request.newPassword).Traced server attempt := by
  refine ⟨?_, by simp⟩
  rintro _ _ ⟨⟩
  exact ⟨request, found, rfl⟩

theorem traced_secondFactor (api : ApiConfig) (user : User) :
    (Handler.secondFactor api attempt request user).Traced server := by
  unfold Handler.secondFactor
  split
  · exact ⟨found, Thread.traced_of_ne (by simp) (by simp)⟩
  · split
    · exact ⟨found, Thread.traced_of_ne (by simp) (by simp)⟩
    · exact found

theorem traced_handleLogin (api : ApiConfig) (banned : Bool)
    (validated : Except APIError (Bool × User)) (lifetime : Except String Unit)
    (changed : Except APIError Unit) (sessionsDeleted : Except String Unit) :
    (Handler.handleLogin api attempt request banned validated lifetime
      changed sessionsDeleted).Traced server := by
  unfold Handler.handleLogin
  repeat' split
  all_goals first
    | exact traced_secondFactor found api _
    | trivial

theorem traced_totPLogin (otp : OtpLibrary) (user : User) :
    (Handler.totPLogin otp attempt request user).Traced server := by
  unfold Handler.totPLogin
  split
  · trivial
  all_goals exact found

end

theorem traced_resume (otp : OtpLibrary) (api : ApiConfig) {stage : Stage}
    {outcome : Outcome} (traced : stage.Traced server attempt)
    (returned : (Thread.returned outcome).Traced server attempt) :
    (Handler.resume otp api attempt stage outcome).Traced server := by
  unfold Handler.resume
  split
  · exact traced
  · trivial
  · split
    · exact ⟨traced, traced_setPending traced⟩
    · exact traced_totPLogin traced otp _
  · exact traced_totPLogin traced otp _
  · split
    · trivial
    · rename_i supplied
      exact ⟨traced, returned.finds _ _ rfl supplied⟩
  all_goals trivial

theorem parseAndValidate_cases (api : ApiConfig) (minted : List Bearer)
    (request : VerifyRequest) (banned : Bool) (checked : Except APIError Bool)
    (found : Except APIError (Option User)) :
    (∃ response, Handler.parseAndValidate2FATokenRequest api minted request
      banned checked found = .responded response) ∨
    ∃ bearer ∈ minted, ∃ validation,
      Handler.parseAndValidate2FATokenRequest api minted request banned checked found =
      .calling bearer.attempt (.validate bearer.username) (.readSession validation) := by
  generalize parsed : Handler.parseAndValidate2FATokenRequest api minted
    request banned checked found = after
  unfold Handler.parseAndValidate2FATokenRequest at parsed
  repeat' split at parsed
  all_goals subst parsed
  all_goals first
    | exact .inl ⟨_, rfl⟩
    | exact .inr ⟨_, List.mem_of_getElem? ‹_›, _, rfl⟩

variable {otp : OtpLibrary} {shown : List Output}

theorem Stepped.not_marking {service next : TwoFAService} {thread after : Thread}
    (stepped : Stepped otp service thread next after shown) {username newPassword : String} :
    after ≠ .setPendingPasswordChange username newPassword := by
  intro marking
  cases stepped with
  | @lookedUp name found =>
    rcases Thread.lookUp_cases name found with
      ⟨error, same⟩ | ⟨sendTo, same⟩ <;> rw [same] at marking <;>
      cases marking
  | @compared validation _ token now codeNow =>
    generalize compareCode otp token validation now codeNow = verdict at marking
    cases verdict <;> cases marking
  | _ => cases marking

variable {next : TwoFAService} {call after : Thread}

theorem Stepped.traced_after (pending : SessionsTraced server)
    (own : ∀ validation session, call = .consume validation session →
      server.service.tokensByUser validation.username = some session →
      (∀ token ∈ server.service.allocated[session]?, token.pendingPassword = "") ∨
        server.storedBy[session]? = some attempt)
    (stepped : Stepped otp server.service call next after shown) :
    after.Traced server attempt := by
  refine ⟨fun _ _ marking => absurd marking stepped.not_marking, ?_⟩
  intro session password ended supplied
  obtain ⟨validation, rfl, -, rfl⟩ := stepped.of_verified ended
  have owned := own validation session rfl
  simp only [TwoFAService.consume] at supplied ⊢
  split at supplied
  · rename_i current
    rw [if_pos current]
    cases stored : server.service.allocated[session]? with
    | none => simp [stored] at supplied
    | some token =>
      simp only [stored, Option.map_some, Option.getD_some] at supplied ⊢
      obtain ⟨creator, storedBy, asked⟩ := pending session token stored supplied
      rcases owned current with unmarked | mine
      · exact absurd (unmarked token stored) supplied
      · rw [storedBy] at mine
        cases mine
        exact asked
  · exact absurd rfl supplied

theorem Server.serve_storedBy_known {session creator : Nat}
    (found : server.storedBy[session]? = some creator) :
    (server.serve attempt next).storedBy[session]? = some creator := by
  have known : session < server.storedBy.length := (List.getElem?_eq_some_iff.mp found).1
  unfold serve
  dsimp only
  split
  · rw [List.getElem?_append_left known]
    exact found
  · exact found

theorem serve_sessionsTraced (pending : SessionsTraced server) (own : ∀ username newPassword,
      call = .setPendingPasswordChange username newPassword →
      ∀ session ∈ server.service.tokensByUser username, server.storedBy[session]? = some attempt)
    (traced : call.Traced server attempt)
    (stepped : Stepped otp server.service call next after shown) :
    SessionsTraced (server.serve attempt next) := by
  intro session token found supplied
  have old : ∀ before, server.service.allocated[session]? = some before →
      before.pendingPassword = token.pendingPassword →
      ∃ creator, (server.serve attempt next).storedBy[session]? = some creator ∧
        Asked (server.serve attempt next) creator token.pendingPassword := by
    intro before stored same
    rw [← same] at supplied ⊢
    obtain ⟨creator, storedBy, asked⟩ := pending session before stored supplied
    exact ⟨creator, Server.serve_storedBy_known storedBy, asked⟩
  cases stepped.contents found with
  | fresh => exact absurd rfl supplied
  | same stored _ => exact old token stored rfl
  | counted _ stored => exact old _ stored rfl
  | @pending before username newPassword marking current stored =>
    subst marking
    exact ⟨attempt, Server.serve_storedBy_known (own _ _ rfl session current), traced.marks _ _ rfl⟩

inductive Handled (otp : OtpLibrary) (api : ApiConfig) (server : Server) :
    Handler → Server → Handler → List HandlerOutput → Prop where
  | loggedIn {request : LoginRequest} {banned : Bool} {validated : Except APIError (Bool × User)}
      {lifetime : Except String Unit} {changed : Except APIError Unit}
      {sessionsDeleted : Except String Unit} :
      Handled otp api server (.login request)
        { server with attempts := server.attempts ++ [request] }
        (.handleLogin api server.attempts.length request banned validated
          lifetime changed sessionsDeleted) []
  | parsed {request : VerifyRequest} {banned : Bool} {checked : Except APIError Bool}
      {found : Except APIError (Option User)} :
      Handled otp api server (.verify request) server
        (.parseAndValidate2FATokenRequest api server.minted request banned checked found) []
  | resumed {attempt : Nat} {stage : Stage} {outcome : Outcome} :
      Handled otp api server (.calling attempt stage (.returned outcome))
        server (.resume otp api attempt stage outcome) []
  | served {attempt : Nat} {stage : Stage} {call after : Thread}
      {next : TwoFAService} {shown : List Output} :
      Stepped otp server.service call next after shown →
      Handled otp api server (.calling attempt stage call)
        (server.serve attempt next) (.calling attempt stage after) []
  | minted {attempt : Nat} {request : LoginRequest} {scopes : Scopes}
      {twoFA : Option TwoFAResponse} {after : Handler} :
      (after = .responded (.login twoFA) ∨
        after = .calling attempt (.pendingAfterToken (.login twoFA))
          (.setPendingPasswordChange request.username request.newPassword)) →
      Handled otp api server (.createAuthToken attempt request scopes twoFA)
        { server with minted := server.minted ++ [⟨request.username, scopes, attempt⟩] }
        after []
  | applied {attempt : Nat} {username password : String} :
      Handled otp api server (.applyPassword attempt username password)
        server (.sendJWTToken username) [.applied attempt username password]
  | responded {handler : Handler} {response : Response} :
      Handled otp api server handler server (.responded response) []

variable {api : ApiConfig} {handler after : Handler}
  {shown : List HandlerOutput} {choice : HandlerChoice}

theorem handle_handled {server next : Server} (ran : handle otp api server handler choice =
      some (next, after, shown)) :
    Handled otp api server handler next after shown := by
  unfold handle at ran
  split at ran
  · cases ran
    exact .loggedIn
  · cases ran
    exact .parsed
  · cases ran
    exact .resumed
  · split at ran
    · simp at ran
    · rename_i taken
      cases ran
      exact .served (atomic_stepped taken)
  · split at ran <;> cases ran
    · exact .responded
    · apply Handled.minted
      split
      · exact .inr rfl
      · exact .inl rfl
  · split at ran <;> cases ran
    · exact .responded
    · exact .applied
  · split at ran <;> cases ran
    all_goals exact .responded
  · simp at ran

theorem Handled.knows {server next : Server}
    (handled : Handled otp api server handler next after shown) : server.Knows next := by
  cases handled with
  | loggedIn => exact server.knows_login _
  | _ => exact fun _ _ found => found

variable {config : Config Server Handler} {history : List HandlerOutput}

theorem Handled.traced {next : Server} (traced : PasswordsTraced history config)
    (member : handler ∈ config.threads) (own : OwnSession config handler choice)
    (handled : Handled otp api config.shared handler next after shown) :
    next.storedBy.length = next.service.allocated.length ∧ SessionsTraced next ∧
      (∀ bearer ∈ next.minted, LoggedIn next bearer.attempt bearer.username) ∧
      after.Traced next ∧
      (∀ attempt username password, .applied attempt username password ∈ shown →
        LoggedIn next attempt username ∧ Asked next attempt password) := by
  have here := traced.running handler member
  have knows := handled.knows
  cases handled with
  | loggedIn =>
    refine ⟨traced.stored, ?_, ?_, ?_, by simp⟩
    · intro session token found supplied
      obtain ⟨attempt, storedBy, asked⟩ := traced.pending session token found supplied
      exact ⟨attempt, storedBy, asked.later knows⟩
    · intro bearer minted
      exact (traced.minted bearer minted).later knows
    · apply traced_handleLogin
      simp
  | @parsed request banned checked found =>
    refine ⟨traced.stored, traced.pending, traced.minted, ?_, by simp⟩
    rcases parseAndValidate_cases api config.shared.minted request banned checked found with
      ⟨response, same⟩ | ⟨bearer, known, validation, same⟩
    · rw [same]
      trivial
    · rw [same]
      exact ⟨traced.minted bearer known, Thread.traced_of_ne (by simp) (by simp)⟩
  | resumed =>
    exact ⟨traced.stored, traced.pending, traced.minted,
      traced_resume otp api here.1 here.2, by simp⟩
  | served stepped =>
    refine ⟨?_, ?_, traced.minted, ⟨here.1, ?_⟩, by simp⟩
    · rcases stepped.shrinks_or_stores with shrinks | ⟨username, token, rfl⟩
      · simp [Server.serve, shrinks.length_eq, traced.stored]
      · simp [Server.serve, TwoFAService.store, traced.stored]
    · refine serve_sessionsTraced traced.pending ?_ here.2 stepped
      rintro username newPassword rfl
      exact own
    · refine (stepped.traced_after traced.pending ?_).later knows
      rintro validation session rfl
      exact own
  | @minted attempt request scopes twoFA _ next =>
    refine ⟨traced.stored, traced.pending, ?_, ?_, by simp⟩
    · exact forall_mem_concat traced.minted ⟨request, here, rfl⟩
    · rcases next with rfl | rfl
      · trivial
      · exact ⟨trivial, traced_setPending here⟩
  | applied =>
    refine ⟨traced.stored, traced.pending, traced.minted, trivial, ?_⟩
    intro attempt username password shown
    cases List.mem_singleton.mp shown
    exact here
  | responded =>
    exact ⟨traced.stored, traced.pending, traced.minted, trivial, by simp⟩

theorem step_passwordsTraced {next : Config Server Handler}
    {move : Move HandlerCall HandlerChoice Empty} {shown : List HandlerOutput}
    (traced : PasswordsTraced history config) (admitted : OnAdvance OwnSession config move)
    (stepped : (handlers otp api).system.step config move = some (next, shown)) :
    PasswordsTraced (history ++ shown) next := by
  cases Program.step_cases stepped with
  | @environment event => exact event.elim
  | spawn call =>
    rw [List.append_nil]
    refine ⟨traced.stored, traced.pending, traced.minted, ?_, traced.applied⟩
    exact forall_mem_concat traced.running (by cases call <;> trivial)
  | @advance _ _ handler server after shown found ran =>
    have handled : Handled otp api config.shared handler server after
        shown := handle_handled ran
    have knows := handled.knows
    obtain ⟨stored, pending, minted, here, applied⟩ :=
      handled.traced traced (List.mem_of_getElem? found) (admitted.condition found)
    refine ⟨stored, pending, minted, ?_, ?_⟩
    · exact forall_mem_set (fun other old => (traced.running other old).later knows) here
    · intro attempt username password member
      rcases List.mem_append.mp member with old | new
      · have before := traced.applied attempt username password old
        exact ⟨before.1.later knows, before.2.later knows⟩
      · exact applied attempt username password new

theorem run_passwordsTraced {tokenTTLSeconds : Int}
    (run : Run (handlers otp api).system (OnAdvance OwnSession)
      (startUp tokenTTLSeconds) history config) :
    PasswordsTraced history config :=
  run.invariant PasswordsTraced (startUp_passwordsTraced tokenTTLSeconds) step_passwordsTraced

/-- In a run in which no session passes from one login to another, a
verification applies only a password that the login it verifies has asked
for. -/
theorem applied_password_asked {otp : OtpLibrary} {api : ApiConfig}
    {tokenTTLSeconds : Int} {history : List HandlerOutput} {config : Config Server Handler}
    (run : Run (handlers otp api).system (OnAdvance OwnSession)
      (startUp tokenTTLSeconds) history config)
    {attempt : Nat} {username password : String}
    (applied : .applied attempt username password ∈ history) :
    ∃ request, config.shared.attempts[attempt]? = some request ∧
      request.username = username ∧ request.newPassword = password := by
  obtain ⟨⟨request, found, named⟩, asked, askedFound, supplied⟩ :=
    (run_passwordsTraced run).applied attempt username password applied
  rw [found] at askedFound
  cases askedFound
  exact ⟨request, found, named, supplied⟩

def mailApi : ApiConfig :=
  { isTwoFAOn := true
    totPEnabled := false
    totPLoginSessionTimeout := 600 * second
    deliveryMethod := "email" }

def passwordAccepted : HandlerChoice :=
  .credentials false (.ok (true, mailUser)) (.ok ()) (.ok ()) (.ok ())

def startsLogin (index : Nat) (newPassword : String) :
    List (Move HandlerCall HandlerChoice Empty) :=
  [.spawn (.login ⟨"ada", "old", newPassword, false⟩), .advance index passwordAccepted,
    .advance index (.service (.foundUser (.ok (some mailUser)))),
    .advance index (.service (.clock 0 0))]

def deliversToken (index : Nat) : List (Move HandlerCall HandlerChoice Empty) :=
  [.advance index (.service (.delivered (.ok "4711"))), .advance index (.service (.clock 0 0))]

def mintsToken (index : Nat) : List (Move HandlerCall HandlerChoice Empty) :=
  [.advance index (.service .proceed), .advance index (.authToken (.ok ()))]

def marksSession (index : Nat) : List (Move HandlerCall HandlerChoice Empty) :=
  [.advance index (.service .proceed), .advance index (.service .proceed)]

def verifiesFirst (index : Nat) : List (Move HandlerCall HandlerChoice Empty) :=
  [.spawn (.verify ⟨"ada", "4711", some 0⟩),
    .advance index (.bearerCheck false (.ok true) (.ok none)),
    .advance index (.service .proceed), .advance index (.service (.clock 0 0)),
    .advance index (.service .proceed), .advance index (.service .proceed),
    .advance index (.change (.ok ()))]

theorem applied_password_asked_oneLogin :
    ∃ config history,
      Run (handlers .unused mailApi).system (OnAdvance OwnSession) (startUp 600) history config ∧
      .applied 0 "ada" "new" ∈ history ∧
      ∃ request, config.shared.attempts[0]? = some request ∧
        request.username = "ada" ∧ request.newPassword = "new" :=
  Run.exists_reaching_follows (List.flatten [startsLogin 0 "new", deliversToken 0, mintsToken 0,
      marksSession 0, verifiesFirst 1])
    (by decide +kernel) (by decide +kernel)
    fun run applied => applied_password_asked run applied

/-- The second login finds the token of the first one alive, marks its session
with another password, and the verification of the first login applies it. -/
theorem applied_password_of_other_login :
    ∃ config history,
      Run (handlers .unused mailApi).system Unrestricted (startUp 600) history config ∧
      .applied 0 "ada" "intruder" ∈ history ∧
      config.shared.attempts.map LoginRequest.newPassword = ["", "intruder"] :=
  Run.exists_reaching_unrestricted (List.flatten [startsLogin 0 "", deliversToken 0, mintsToken 0,
      startsLogin 1 "intruder", mintsToken 1, marksSession 1, verifiesFirst 2])
    (by decide +kernel)

end ProxiPort.TwoFactor
