import ProxiPort.Go.Strings
import ProxiPort.Users.User

/-!
# The user service

`server/api/users/service.go` and the file provider under it
(`file_adapter.go`).  The password-strength estimator, the check of a delivery
address and the password hash come from libraries and are parameters.

An account is a user together with the number of the creation it goes back to;
the number is the model's.
-/

namespace ProxiPort

structure APIService where
  twoFAOn : Bool
  passwordMinLength : Nat
  passwordZxcvbnMinscore : Int
  passwordStrength : String → List String → Int
  validateReceiver : Option (String → Except String Unit)
  generateTokenHash : String → Except String String
  verifyPassword : String → String → Bool

namespace APIService

def badRequest (message : String) : APIError := ⟨message, "", 400⟩

/-- The checks `validate` makes on the fields of a new user or of a change. -/
def fieldErrors (service : APIService) (dataToChange : User)
    (usernameToFind : String) : List APIError :=
  if usernameToFind = "" then
    (if dataToChange.username = "" then [badRequest "username is required"]
      else []) ++
    (if dataToChange.password = "" then [badRequest "password is required"]
      else []) ++
    (if service.twoFAOn && dataToChange.twoFASendTo = "" then
      [badRequest "two_fa_send_to is required"] else [])
  else if (dataToChange.username = "" || dataToChange.username = usernameToFind) &&
      dataToChange.password = "" && dataToChange.passwordExpired = none &&
      dataToChange.groups = none && (!service.twoFAOn || dataToChange.twoFASendTo = "") &&
      dataToChange.totP = "" then
    [badRequest "nothing to change"]
  else []

def zxcvbnUserInputs (dataToChange : User) (usernameToFind : String) : List String :=
  (if usernameToFind = "" then [] else [usernameToFind]) ++
    if dataToChange.username = "" then [] else [dataToChange.username]

def usernameErrors (dataToChange : User) : List APIError :=
  if dataToChange.username ≠ "" ∧ Go.trimSpace dataToChange.username ≠ dataToChange.username then
    [badRequest "username must not start or end with whitespace"]
  else []

def passwordErrors (service : APIService) (dataToChange : User)
    (usernameToFind : String) : List APIError :=
  if dataToChange.password = "" then []
  else
    let score := service.passwordStrength dataToChange.password
      (zxcvbnUserInputs dataToChange usernameToFind)
    (if dataToChange.password.utf8ByteSize < service.passwordMinLength then
      [⟨"Your password is too short", "password must be at least " ++
        toString service.passwordMinLength ++ " characters", 400⟩]
      else []) ++
    if 0 ≤ service.passwordZxcvbnMinscore ∧ score < service.passwordZxcvbnMinscore then
      [⟨"Your password is too guessable", "zxcvbn score is " ++
        toString score ++ ", must be at least " ++
        toString service.passwordZxcvbnMinscore, 400⟩]
    else []

def receiverErrors (service : APIService) (dataToChange : User) : List APIError :=
  match service.validateReceiver with
  | none => []
  | some validateReceiver =>
    if dataToChange.twoFASendTo = "" then []
    else
      match validateReceiver dataToChange.twoFASendTo with
      | .ok () => []
      | .error err => [⟨"", "invalid two_fa_send_to: " ++ err, 400⟩]

/-- `APIService.validate`; no error means that the data is accepted. -/
def validate (service : APIService) (dataToChange : User)
    (usernameToFind : String) : List APIError :=
  service.fieldErrors dataToChange usernameToFind ++ usernameErrors dataToChange ++
    service.passwordErrors dataToChange usernameToFind ++
    service.receiverErrors dataToChange

/-- `APIService.Change` up to the provider: the data with the password
hashed. -/
def prepareChange (service : APIService) (dataToChange : User)
    (username : String) : Except (List APIError) User :=
  match service.validate dataToChange username with
  | [] =>
    if dataToChange.password = "" then .ok dataToChange
    else
      match service.generateTokenHash dataToChange.password with
      | .ok passHash => .ok { dataToChange with password := passHash }
      | .error err => .error [⟨"", err, 500⟩]
  | errs => .error errs

theorem username_ne_of_validate {service : APIService} {dataToChange : User}
    (accepted : service.validate dataToChange "" = []) : dataToChange.username ≠ "" := by
  intro empty
  simp [validate, fieldErrors, empty] at accepted

def plain : APIService :=
  { twoFAOn := false
    passwordMinLength := 4
    passwordZxcvbnMinscore := 0
    passwordStrength := fun _ _ => 4
    validateReceiver := none
    generateTokenHash := .ok
    verifyPassword := fun stored password => stored = password }

end APIService

structure Account where
  user : User
  creation : Nat
  deriving DecidableEq, Repr

/-- What `FileAdapter.Update` writes over an existing user. -/
def User.apply (existing dataToChange : User) : User :=
  { username :=
      if dataToChange.username ≠ "" then dataToChange.username
      else existing.username
    password :=
      if dataToChange.password ≠ "" then dataToChange.password
      else existing.password
    passwordExpired :=
      match dataToChange.passwordExpired with
      | some expired => some expired
      | none =>
        if dataToChange.password ≠ "" then some false
        else existing.passwordExpired
    groups := dataToChange.groups <|> existing.groups
    twoFASendTo :=
      if dataToChange.twoFASendTo ≠ "" then dataToChange.twoFASendTo
      else existing.twoFASendTo
    totP :=
      if dataToChange.totP ≠ "" then dataToChange.totP else existing.totP }

structure Directory where
  accounts : List Account
  creations : Nat

namespace Directory

def anotherUserExists : APIError := ⟨"Another user with this username already exists", "", 400⟩

def cannotFind (username : String) : APIError :=
  ⟨"cannot find user by username '" ++ username ++ "'", "", 404⟩

def getByUsername (directory : Directory) (username : String) : Option Account :=
  directory.accounts.find? fun account => account.user.username = username

def add (directory : Directory) (dataToChange : User) : Except APIError Directory :=
  if directory.accounts.any fun account =>
      account.user.username = dataToChange.username then
    .error anotherUserExists
  else .ok
    { accounts := directory.accounts ++ [⟨dataToChange, directory.creations⟩]
      creations := directory.creations + 1 }

def update (directory : Directory) (dataToChange : User)
    (usernameToFind : String) : Except APIError Directory :=
  if dataToChange.username ≠ "" ∧ dataToChange.username ≠ usernameToFind ∧
      directory.accounts.any (fun account =>
        account.user.username = dataToChange.username) then
    .error anotherUserExists
  else
    match directory.getByUsername usernameToFind with
    | none => .error (cannotFind usernameToFind)
    | some _ => .ok
        { directory with accounts := directory.accounts.map fun account =>
            if account.user.username = usernameToFind then
              { account with user := account.user.apply dataToChange }
            else account }

def delete (directory : Directory) (usernameToDelete : String) : Except APIError Directory :=
  match directory.getByUsername usernameToDelete with
  | none => .error (cannotFind usernameToDelete)
  | some _ => .ok
      { directory with accounts := directory.accounts.eraseP fun account =>
          account.user.username = usernameToDelete }

end Directory

end ProxiPort
