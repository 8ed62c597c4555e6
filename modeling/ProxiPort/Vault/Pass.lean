import ProxiPort.Enc.Envelope
import ProxiPort.Go.Unicode
import ProxiPort.Users.User

/-!
# The passphrase of the vault

`server/vault/pass.go`: how a passphrase becomes the key of the vault, and how
the stored status tells whether it is the right one.
-/

namespace ProxiPort.Vault

open Enc

/-- `vault.DbStatus` without its row id. -/
structure DbStatus where
  statusName : String
  encCheckValue : String
  kdf : String
  deriving DecidableEq, Repr

def dbStatusInit : String := "setup-completed"

def dbStatusNotInit : String := "uninitialized"

def minPassLengthBytes : Nat := 8

def maxPassLengthBytes : Nat := 256

def argon2Time : Nat := 3

def argon2MemoryKiB : Nat := 64 * 1024

def argon2Threads : Nat := 4

def argon2SaltLen : Nat := 16

def kdfArgon2id : String := "argon2id"

def validatePass (passToCheck : String) : Except APIError Unit :=
  let length := passToCheck.utf8ByteSize
  if length < minPassLengthBytes then
    .error ⟨"password is too short, expected length is at least " ++
      toString minPassLengthBytes ++ " bytes, provided length is " ++
      toString length ++ " bytes", "", 400⟩
  else if length > maxPassLengthBytes then
    .error ⟨"password is too long, expected length is at most " ++
      toString maxPassLengthBytes ++ " bytes, provided length is " ++
      toString length ++ " bytes", "", 400⟩
  else .ok ()

/-- `encodeKDF`: a descriptor such as `argon2id$m=65536,t=3,p=4$c2FsdA==`. -/
def encodeKDF (algo : String) (salt : List UInt8) (timeCost memKiB threads : Nat) : String :=
  algo ++ "$m=" ++ toString memKiB ++ ",t=" ++ toString timeCost ++ ",p=" ++
    toString threads ++ "$" ++ Go.Base64.encodeToString salt

/-- `strconv.ParseUint` with 32 bits, after the digits read so far. -/
def parseDigits (value : Nat) : List Char → Except String Nat
  | [] => .ok value
  | digit :: rest =>
    if digit.isDigit then
      let value := value * 10 + (digit.toNat - '0'.toNat)
      if value < 2 ^ 32 then parseDigits value rest
      else .error "value out of range"
    else .error "invalid syntax"

/-- `strconv.ParseUint` in base 10 with 32 bits. -/
def parseUint (unicode : Go.Unicode) (text : String) : Except String Nat :=
  let result :=
    if text = "" then .error "invalid syntax" else parseDigits 0 text.toList
  match result with
  | .ok value => .ok value
  | .error err => .error ("strconv.ParseUint: parsing " ++ Go.quote unicode text ++ ": " ++ err)

structure Costs where
  mm : Option Nat
  tt : Option Nat
  pp : Option Nat

/-- One round of the loop over the parameters. -/
def parseParam (unicode : Go.Unicode) (costs : Costs) (kv : String) : Except String Costs :=
  -- `strings.SplitN(kv, "=", 2)`: only the first sign separates
  match kv.toList.dropWhile (· ≠ '=') with
  | [] => .error ("invalid kdf param " ++ Go.quote unicode kv)
  | _ :: text =>
    let name := String.ofList (kv.toList.takeWhile (· ≠ '='))
    match parseUint unicode (String.ofList text) with
    | .error err => .error ("invalid kdf param " ++ Go.quote unicode kv ++ ": " ++ err)
    | .ok v =>
      if name = "m" then .ok { costs with mm := some v }
      else if name = "t" then .ok { costs with tt := some v }
      else if name = "p" then .ok { costs with pp := some v }
      else .error ("unknown kdf param " ++ Go.quote unicode name)

structure Descriptor where
  algo : String
  salt : List UInt8
  timeCost : Nat
  memKiB : Nat
  threads : Nat
  deriving DecidableEq, Repr

def parseKDF (unicode : Go.Unicode) (text : String) : Except String Descriptor :=
  match Go.split text '$' with
  | [algo, params, salt] =>
    match (Go.split params ',').foldlM (parseParam unicode) ⟨none, none, none⟩ with
    | .error err => .error err
    | .ok ⟨some mm, some tt, some pp⟩ =>
      if mm = 0 ∨ tt = 0 ∨ pp = 0 ∨ pp > 255 then
        .error "out-of-range kdf params"
      else
        match Go.Base64.decodeString salt with
        | none => .error "invalid kdf salt: illegal base64 data"
        | some [] => .error "empty kdf salt"
        | some salt => .ok ⟨algo, salt, tt, mm, pp⟩
    | .ok _ => .error "missing kdf params"
  | _ => .error "invalid kdf descriptor"

/-- `DeriveKey`: the key and whether it is one of a legacy vault. -/
def deriveKey (crypto : Crypto) (unicode : Go.Unicode) (dbStatus : DbStatus)
    (pass : String) : Except String (List UInt8 × Bool) :=
  if pass = "" then .error "empty password"
  else if Go.trimSpace dbStatus.kdf = "" then
    .ok (deriveKeyLegacySHA256 crypto pass, true)
  else
    match parseKDF unicode dbStatus.kdf with
    | .error err => .error err
    | .ok kdf =>
      if kdf.algo ≠ kdfArgon2id then
        .error ("unsupported vault kdf " ++ Go.quote unicode kdf.algo)
      else
        .ok (deriveKeyArgon2id crypto pass kdf.salt kdf.timeCost kdf.memKiB kdf.threads, false)

def verify (crypto : Crypto) (dbStatus : DbStatus) (key : List UInt8) :
    Bool :=
  if dbStatus.encCheckValue = "" ∨ key = [] then false
  else
    match aes256DecryptByKeyFromBase64String crypto dbStatus.encCheckValue key with
    | .error _ => false
    | .ok _ => true

/-- `NewStatusFor`, with the random bytes it draws. -/
def newStatusFor (crypto : Crypto) (pass : String)
    (salt : Vector UInt8 argon2SaltLen) (verifier : Vector UInt8 32)
    (nonce : Nonce) : Except String (String × String × List UInt8) :=
  let key := deriveKeyArgon2id crypto pass salt.toList argon2Time argon2MemoryKiB argon2Threads
  match aes256EncryptByKeyToBase64String crypto nonce verifier.toList key with
  | .error err => .error err
  | .ok encCheck =>
    let kdf := encodeKDF kdfArgon2id salt.toList argon2Time argon2MemoryKiB argon2Threads
    .ok (kdf, encCheck, key)

theorem encodeKDF_current (salt : List UInt8) :
    encodeKDF kdfArgon2id salt argon2Time argon2MemoryKiB argon2Threads =
      "argon2id" ++ ("$" ++ ("m=65536,t=3,p=4" ++ ("$" ++ Go.Base64.encodeToString salt))) := by
  have costs : kdfArgon2id ++ "$m=" ++ toString argon2MemoryKiB ++ ",t=" ++
      toString argon2Time ++ ",p=" ++ toString argon2Threads ++ "$" =
      "argon2id$m=65536,t=3,p=4$" := by decide +kernel
  rw [encodeKDF, costs]
  simp only [← String.append_assoc]
  rfl

theorem split_encodeKDF (salt : List UInt8) :
    Go.split (encodeKDF kdfArgon2id salt argon2Time argon2MemoryKiB argon2Threads) '$' =
      ["argon2id", "m=65536,t=3,p=4", Go.Base64.encodeToString salt] := by
  have saltPlain := (Go.Base64.encodeToString_plain salt).2
  have algoPlain : '$' ∉ "argon2id".toList := by decide
  have costsPlain : '$' ∉ "m=65536,t=3,p=4".toList := by decide
  rw [encodeKDF_current, Go.split]
  simp only [String.toList_append]
  rw [show "$".toList = ['$'] from rfl]
  simp only [List.singleton_append]
  rw [Go.splitCharacters_append algoPlain, Go.splitCharacters_append costsPlain,
    Go.splitCharacters_of_not_mem saltPlain]
  simp

theorem parseKDF_encodeKDF (unicode : Go.Unicode) {salt : List UInt8} (present : salt ≠ []) :
    parseKDF unicode (encodeKDF kdfArgon2id salt argon2Time argon2MemoryKiB argon2Threads) =
      .ok ⟨kdfArgon2id, salt, argon2Time, argon2MemoryKiB, argon2Threads⟩ := by
  have costs : (Go.split "m=65536,t=3,p=4" ',').foldlM (parseParam unicode)
      ⟨none, none, none⟩ = .ok ⟨some 65536, some 3, some 4⟩ := rfl
  obtain ⟨first, rest, rfl⟩ := List.exists_cons_of_ne_nil present
  simp only [parseKDF, split_encodeKDF, costs, Go.Base64.decodeString_encodeToString]
  rfl

theorem trimSpace_encodeKDF (salt : List UInt8) :
    Go.trimSpace (encodeKDF kdfArgon2id salt argon2Time argon2MemoryKiB argon2Threads) ≠ "" := by
  intro blank
  have empty := congrArg String.toList blank
  rw [encodeKDF_current, Go.trimSpace, String.toList_ofList] at empty
  have trimmed := List.reverse_eq_nil_iff.mp empty
  rw [List.dropWhile_eq_nil_iff] at trimmed
  have letter := trimmed 'a' (by
    rw [List.mem_reverse, String.toList_append,
      show "argon2id".toList = 'a' :: "rgon2id".toList from rfl,
      List.cons_append, List.dropWhile_cons_of_neg (by decide)]
    exact List.mem_cons_self)
  exact absurd letter (by decide)

variable {crypto : Crypto} {unicode : Go.Unicode} {dbStatus : DbStatus}
  {key other : List UInt8}

theorem deriveKey_length (laws : crypto.Laws) {pass : String} {legacy : Bool}
    (derived : deriveKey crypto unicode dbStatus pass = .ok (key, legacy)) : key.length = 32 := by
  simp only [deriveKey] at derived
  split at derived
  · cases derived
  · split at derived
    · cases derived
      exact laws.sha256_length _
    · split at derived
      · cases derived
      · split at derived
        · cases derived
        · cases derived
          exact laws.argon2id_length _ _ _ _ _

theorem verify_iff :
    verify crypto dbStatus key = true ↔ dbStatus.encCheckValue ≠ "" ∧ key ≠ [] ∧
        ∃ plaintext, aes256DecryptByKeyFromBase64String crypto
          dbStatus.encCheckValue key = .ok plaintext := by
  by_cases missing : dbStatus.encCheckValue = "" ∨ key = []
  · simp only [verify, if_pos missing, Bool.false_eq_true, false_iff]
    rintro ⟨present, keyPresent, _⟩
    rcases missing with empty | empty
    · exact present empty
    · exact keyPresent empty
  · obtain ⟨present, keyPresent⟩ := not_or.mp missing
    simp only [verify, if_neg missing]
    cases aes256DecryptByKeyFromBase64String crypto dbStatus.encCheckValue
      key <;> simp [present, keyPresent]

/-- A key that some passphrase gives under the status, and under which the
verifier of the status is encrypted. -/
structure KeyFor (crypto : Crypto) (unicode : Go.Unicode)
    (dbStatus : DbStatus) (key : List UInt8) : Prop where
  derived : ∃ pass legacy, deriveKey crypto unicode dbStatus pass = .ok (key, legacy)
  check : Sealed crypto key dbStatus.encCheckValue

namespace KeyFor

theorem ne_nil (held : KeyFor crypto unicode dbStatus key) : key ≠ [] := by
  intro empty
  have length := held.check.length
  rw [empty] at length
  cases length

theorem verifies (laws : crypto.Laws) (held : KeyFor crypto unicode dbStatus key) :
    verify crypto dbStatus key = true :=
  verify_iff.mpr ⟨held.check.shape.1, held.ne_nil, held.check.decrypts laws⟩

theorem key_eq (laws : crypto.Laws) (held : KeyFor crypto unicode dbStatus key) {pass : String}
    {legacy : Bool} (derived : deriveKey crypto unicode dbStatus pass = .ok (other, legacy))
    (verified : verify crypto dbStatus other = true) : other = key := by
  obtain ⟨_, _, plaintext, decrypted⟩ := verify_iff.mp verified
  exact held.check.key_eq laws (deriveKey_length laws derived) decrypted

end KeyFor

theorem newStatusFor_keyFor {pass kdf encCheck : String}
    {salt : Vector UInt8 argon2SaltLen} {verifier : Vector UInt8 32}
    {nonce : Nonce} (present : pass ≠ "")
    (generated : newStatusFor crypto pass salt verifier nonce =
      .ok (kdf, encCheck, key)) (name : String) :
    KeyFor crypto unicode ⟨name, encCheck, kdf⟩ key ∧ Go.trimSpace kdf ≠ "" := by
  have saltPresent : salt.toList ≠ [] := by
    intro empty
    have length : salt.toList.length = argon2SaltLen := Vector.length_toList
    rw [empty] at length
    cases length
  simp only [newStatusFor] at generated
  split at generated
  · cases generated
  · rename_i encCheck encrypted
    cases generated
    refine ⟨⟨⟨pass, false, ?_⟩, ⟨nonce, verifier.toList, encrypted⟩⟩, trimSpace_encodeKDF _⟩
    simp [deriveKey, present, trimSpace_encodeKDF, parseKDF_encodeKDF unicode saltPresent]

end ProxiPort.Vault
