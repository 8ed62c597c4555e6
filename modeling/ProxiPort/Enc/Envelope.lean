import ProxiPort.Enc.Aes

/-!
# Field encryption at rest

`share/enc/envelope.go`: texts are stored under the data encryption key of the
server, with a prefix that tells them from texts stored before there was one.
-/

namespace ProxiPort.Enc

/-- `enc.Envelope`; without a key it is disabled. -/
structure Envelope where
  dek : List UInt8

def envelopeV1Prefix : String := "enc:v1:"

/-- `IsEncrypted`: the text starts with `enc:v`, digits and a colon. -/
def isEncrypted (stored : String) : Bool :=
  let version := stored.toList.drop 5
  Go.hasPrefix stored "enc:v" && version.head?.any Char.isDigit &&
    (version.dropWhile Char.isDigit).head? = some ':'

namespace Envelope

def enabled (envelope : Envelope) : Bool := !envelope.dek.isEmpty

def encrypt (crypto : Crypto) (envelope : Envelope) (nonce : Nonce)
    (plaintext : String) : Except String String :=
  if envelope.enabled then
    match aes256EncryptByKeyToBase64String crypto nonce (Go.bytes plaintext) envelope.dek with
    | .error err => .error ("envelope encrypt: " ++ err)
    | .ok b64 => .ok (envelopeV1Prefix ++ b64)
  else .ok plaintext

/-- `Decrypt`.  Only texts are ever encrypted, so decrypted bytes that are no
text are treated as a failure. -/
def decrypt (crypto : Crypto) (envelope : Envelope) (stored : String) : Except String String :=
  if !isEncrypted stored then .ok stored
  else if !Go.hasPrefix stored envelopeV1Prefix then
    .error "envelope decrypt: unsupported encrypted value version"
  else if !envelope.enabled then
    .error ("envelope decrypt: value is encrypted but no key provider " ++ "is configured")
  else
    let b64 := String.ofList (stored.toList.drop envelopeV1Prefix.toList.length)
    match aes256DecryptByKeyFromBase64String crypto b64 envelope.dek with
    | .error err => .error ("envelope decrypt: " ++ err)
    | .ok plaintext =>
      match Go.string plaintext with
      | none => .error "envelope decrypt: not a text"
      | some text => .ok text

def isEncryptedBy (crypto : Crypto) (envelope : Envelope) (stored : String) :
    Bool :=
  if !envelope.enabled || !isEncrypted stored then false
  else
    match envelope.decrypt crypto stored with
    -- the source returns these bytes as they are
    | .error err => err = "envelope decrypt: not a text"
    | .ok _ => true

def Usable (envelope : Envelope) : Prop := envelope.enabled = true → envelope.dek.length = 32

end Envelope

variable {crypto : Crypto} {envelope : Envelope} {nonce : Nonce}
  {text stored : String}

theorem isEncrypted_of_plain (plain : ':' ∉ text.toList) : isEncrypted text = false := by
  have notColon : ((text.toList.drop 5).dropWhile Char.isDigit).head? ≠ some ':' := by
    intro colon
    have member := List.mem_of_mem_head? colon
    exact plain (List.mem_of_mem_drop ((List.dropWhile_sublist _).subset member))
  simp [isEncrypted, notColon]

theorem isEncrypted_v1 (b64 : String) : isEncrypted (envelopeV1Prefix ++ b64) = true := by
  simp [isEncrypted, envelopeV1Prefix, Go.hasPrefix]

theorem Envelope.Usable.encrypt (usable : envelope.Usable) (nonce : Nonce) (text : String) :
    ∃ stored, envelope.encrypt crypto nonce text = .ok stored := by
  cases enabled : envelope.enabled with
  | false => exact ⟨text, by simp [Envelope.encrypt, enabled]⟩
  | true =>
    simp only [Envelope.encrypt, enabled, if_true, newCipher, usable enabled,
      aes256EncryptByKeyToBase64String, aes256Encrypt]
    exact ⟨_, rfl⟩

/-- What `Encrypt` has stored is read back by `Decrypt`.  A disabled envelope
stores the text as it is, so it must not look encrypted. -/
theorem Envelope.decrypt_encrypt (laws : crypto.Laws)
    (encrypted : envelope.encrypt crypto nonce text = .ok stored)
    (readable : envelope.enabled = true ∨ isEncrypted text = false) :
    envelope.decrypt crypto stored = .ok text := by
  cases enabled : envelope.enabled with
  | false =>
    have plain : isEncrypted text = false := by simpa [enabled] using readable
    simp only [encrypt, enabled, Bool.false_eq_true, if_false, Except.ok.injEq] at encrypted
    subst encrypted
    simp [decrypt, plain]
  | true =>
    simp only [encrypt, enabled, if_true] at encrypted
    split at encrypted
    · cases encrypted
    · rename_i b64 ciphertext
      obtain rfl := Except.ok.inj encrypted
      have start : Go.hasPrefix (envelopeV1Prefix ++ b64) envelopeV1Prefix = true := by
        simp [Go.hasPrefix]
      have rest : String.ofList ((envelopeV1Prefix ++ b64).toList.drop
          envelopeV1Prefix.toList.length) = b64 := by
        simp
      simp only [decrypt, isEncrypted_v1, start, enabled, Bool.not_true,
        Bool.false_eq_true, if_false, rest, aes256Decrypt_encrypt laws ciphertext, Go.string_bytes]

end ProxiPort.Enc
