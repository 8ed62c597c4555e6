import Mathlib.Data.List.Basic

/-!
# API users and API errors
-/

namespace ProxiPort

/-- `errors2.APIError`: the text shown as title, the wrapped error, and the
HTTP status of the answer. -/
structure APIError where
  message : String
  err : String
  httpStatus : Nat
  deriving DecidableEq, Repr

/-- `users.User`.  A nil group list is told apart from an empty one. -/
structure User where
  username : String
  password : String
  passwordExpired : Option Bool
  groups : Option (List String)
  twoFASendTo : String
  totP : String
  deriving DecidableEq, Repr

namespace User

def administrators : String := "Administrators"

def isAdmin (user : User) : Bool := (user.groups.getD []).contains administrators

end User

end ProxiPort
