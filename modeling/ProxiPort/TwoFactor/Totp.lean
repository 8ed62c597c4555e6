import ProxiPort.Go.Strings
import ProxiPort.Go.Time
import ProxiPort.Users.User

/-!
# Time-based one-time passwords

`server/totp.go`.  Parsing an otpauth URL and computing one-time passwords is
the work of a library; both enter as parameters.
-/

namespace ProxiPort.TwoFactor

inductive Algorithm where
  | sha1
  | sha256
  | sha512
  | md5
  deriving DecidableEq, Repr

/-- A parsed otpauth key: the secret, the period, and the query parameters the
server reads back from its URL. -/
structure TotP where
  secret : String
  period : Nat
  algorithmParameter : String
  digitsParameter : String
  deriving DecidableEq, Repr

namespace TotP

def algorithm (totP : TotP) : Option Algorithm :=
  match totP.algorithmParameter with
  | "SHA1" => some .sha1
  | "SHA256" => some .sha256
  | "SHA512" => some .sha512
  | "MD5" => some .md5
  | _ => none

def digits (totP : TotP) : Option Int := (Go.atoi totP.digitsParameter).filter fun digits =>
    digits = 6 || digits = 8

end TotP

structure ValidateOpts where
  period : Int
  skew : Nat
  digits : Int
  algorithm : Algorithm

/-- The one-time-password library: `otp.NewKeyFromURL` with the checks of
`unSerializeTotP`, and `totp.ValidateCustom`. -/
structure OtpLibrary where
  unSerializeTotP : String → Except String TotP
  validateCustom : String → String → Time → ValidateOpts → Except String Bool

def OtpLibrary.unused : OtpLibrary where
  unSerializeTotP := fun _ => .error "invalid key"
  validateCustom := fun _ _ _ _ => .ok false

/-- `GetUsersTotPCode`: a blank secret means that none was created yet. -/
def getUsersTotPCode (otp : OtpLibrary) (user : User) : Except String (Option TotP) :=
  if Go.trimSpace user.totP = "" then .ok none
  else
    match otp.unSerializeTotP user.totP with
    | .ok totP => .ok (some totP)
    | .error err =>
      .error ("failed to convert '" ++ user.totP ++ "' to TotP secret data: " ++ err)

/-- The period in seconds, clamped as in `CheckTotPCodeStep`. -/
def effectivePeriod (totP : TotP) : Int :=
  if 0 < totP.period ∧ totP.period ≤ 2147483647 then totP.period else 30

/-- `CheckTotPCodeStep`: the time step of the first candidate in the skew
window whose code matches. -/
def checkTotPCodeStep (otp : OtpLibrary) (code : String) (totP : TotP) (now : Time) : Option Int :=
  match totP.algorithm, totP.digits with
  | some algorithm, some digits =>
    let period := effectivePeriod totP
    [0, -1, 1].findSome? fun offset =>
      let at_ := now + offset * period * second
      match otp.validateCustom code totP.secret at_ ⟨period, 0, digits, algorithm⟩ with
      | .ok true => some (Int.tdiv (Time.unix at_) period)
      | _ => none
  | _, _ => none

end ProxiPort.TwoFactor
