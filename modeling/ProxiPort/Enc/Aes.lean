import ProxiPort.Go.Base64

/-!
# AES-256-GCM on texts

`share/enc/aes.go`.  The block cipher, the key derivations and the hash are
handed in; what is assumed of them is stated as laws.  Random bytes are handed
in as well.
-/

namespace ProxiPort.Enc

/-- `crypto/cipher`, `crypto/sha256` and `golang.org/x/crypto/argon2`. -/
structure Crypto where
  gcmSeal : (key nonce plaintext : List UInt8) → List UInt8
  gcmOpen : (key nonce ciphertext : List UInt8) → Option (List UInt8)
  sha256 : List UInt8 → List UInt8
  argon2id : (password salt : List UInt8) → (timeCost memKiB threads : Nat) → List UInt8

/-- What is assumed of the primitives: GCM opens what it sealed, under the
sealing key only, and the key derivations give keys of 32 bytes. -/
structure Crypto.Laws (crypto : Crypto) : Prop where
  gcmOpen_gcmSeal : ∀ key nonce plaintext,
    crypto.gcmOpen key nonce (crypto.gcmSeal key nonce plaintext) = some plaintext
  gcmOpen_other : ∀ {key other : List UInt8} nonce plaintext,
    key.length = 32 → other.length = 32 → key ≠ other →
    crypto.gcmOpen other nonce (crypto.gcmSeal key nonce plaintext) = none
  gcmSeal_ne_nil : ∀ key nonce plaintext, crypto.gcmSeal key nonce plaintext ≠ []
  sha256_length : ∀ data, (crypto.sha256 data).length = 32
  argon2id_length : ∀ password salt timeCost memKiB threads,
    (crypto.argon2id password salt timeCost memKiB threads).length = 32

def nonceSize : Nat := 12

abbrev Nonce := Vector UInt8 nonceSize

def newCipher (key : List UInt8) : Except String Unit :=
  if key.length = 16 ∨ key.length = 24 ∨ key.length = 32 then .ok ()
  else .error ("crypto/aes: invalid key size " ++ toString key.length)

def deriveKeyArgon2id (crypto : Crypto) (password : String)
    (salt : List UInt8) (timeCost memKiB threads : Nat) : List UInt8 :=
  crypto.argon2id (Go.bytes password) salt timeCost memKiB threads

def deriveKeyLegacySHA256 (crypto : Crypto) (password : String) : List UInt8 :=
  crypto.sha256 (Go.bytes password)

def aes256Encrypt (crypto : Crypto) (nonce : Nonce)
    (payload aes32Key : List UInt8) : Except String (List UInt8) := do
  if aes32Key.length ≠ 32 then
    throw ("invalid aes32Key length: a 32 bytes key is expected but " ++
      toString aes32Key.length ++ " byts key is provided")
  newCipher aes32Key
  return nonce.toList ++ crypto.gcmSeal aes32Key nonce.toList payload

def aesDecrypt (crypto : Crypto) (encryptedData key : List UInt8) : Except String (List UInt8) := do
  newCipher key
  if encryptedData.length ≤ nonceSize then
    throw "invalid encrypted value provided: invalid nonce length"
  match crypto.gcmOpen key (encryptedData.take nonceSize) (encryptedData.drop nonceSize) with
  | none => throw "cipher: message authentication failed"
  | some plaintext => return plaintext

def aes256EncryptByKeyToBase64String (crypto : Crypto) (nonce : Nonce)
    (payload key : List UInt8) : Except String String := do
  let encryptedBytes ← aes256Encrypt crypto nonce payload key
  return Go.Base64.encodeToString encryptedBytes

def aes256DecryptByKeyFromBase64String (crypto : Crypto)
    (encryptedBase64Data : String) (key : List UInt8) : Except String (List UInt8) :=
  match Go.Base64.decodeString encryptedBase64Data with
  | none => .error "illegal base64 data"
  | some encryptedBytesData => aesDecrypt crypto encryptedBytesData key

variable {crypto : Crypto} {nonce : Nonce} {payload key other : List UInt8}
  {text : String}

theorem aes256EncryptByKeyToBase64String_eq_ok
    (encrypted : aes256EncryptByKeyToBase64String crypto nonce payload key = .ok text) :
    key.length = 32 ∧ text = Go.Base64.encodeToString
        (nonce.toList ++ crypto.gcmSeal key nonce.toList payload) := by
  by_cases size : key.length = 32
  · refine ⟨size, ?_⟩
    simp only [aes256EncryptByKeyToBase64String, aes256Encrypt, newCipher, size] at encrypted
    exact (Except.ok.inj encrypted).symm
  · simp only [aes256EncryptByKeyToBase64String, aes256Encrypt, ne_eq, size,
      not_false_eq_true, if_true] at encrypted
    cases encrypted

theorem aes256Decrypt_sealed (laws : crypto.Laws) (size : other.length = 32) :
    aes256DecryptByKeyFromBase64String crypto (Go.Base64.encodeToString
          (nonce.toList ++ crypto.gcmSeal key nonce.toList payload)) other =
      match crypto.gcmOpen other nonce.toList (crypto.gcmSeal key nonce.toList payload) with
      | none => .error "cipher: message authentication failed"
      | some plaintext => .ok plaintext := by
  have long : ¬ (nonce.toList ++ crypto.gcmSeal key nonce.toList payload).length ≤ nonceSize := by
    have := List.length_pos_of_ne_nil (laws.gcmSeal_ne_nil key nonce.toList payload)
    simp only [List.length_append, Vector.length_toList]
    omega
  have prefixLength : nonce.toList.length = nonceSize := Vector.length_toList
  simp only [aes256DecryptByKeyFromBase64String,
    Go.Base64.decodeString_encodeToString, aesDecrypt, newCipher, size,
    or_true, if_true, long, if_false, List.take_left' prefixLength, List.drop_left' prefixLength]
  cases crypto.gcmOpen other nonce.toList (crypto.gcmSeal key nonce.toList payload) <;> rfl

theorem aes256Decrypt_encrypt (laws : crypto.Laws)
    (encrypted : aes256EncryptByKeyToBase64String crypto nonce payload key = .ok text) :
    aes256DecryptByKeyFromBase64String crypto text key = .ok payload := by
  obtain ⟨size, rfl⟩ := aes256EncryptByKeyToBase64String_eq_ok encrypted
  rw [aes256Decrypt_sealed laws size, laws.gcmOpen_gcmSeal]

def Sealed (crypto : Crypto) (key : List UInt8) (text : String) : Prop :=
  ∃ nonce payload,
    aes256EncryptByKeyToBase64String crypto nonce payload key = .ok text

namespace Sealed

variable {text : String}

theorem length (ciphertext : Sealed crypto key text) : key.length = 32 := by
  obtain ⟨nonce, payload, encrypted⟩ := ciphertext
  exact (aes256EncryptByKeyToBase64String_eq_ok encrypted).1

theorem decrypts (laws : crypto.Laws) (ciphertext : Sealed crypto key text) :
    ∃ payload,
      aes256DecryptByKeyFromBase64String crypto text key = .ok payload := by
  obtain ⟨nonce, payload, encrypted⟩ := ciphertext
  exact ⟨payload, aes256Decrypt_encrypt laws encrypted⟩

theorem key_eq (laws : crypto.Laws) (ciphertext : Sealed crypto key text)
    (size : other.length = 32) {plaintext : List UInt8}
    (decrypted : aes256DecryptByKeyFromBase64String crypto text other = .ok plaintext) :
    other = key := by
  obtain ⟨nonce, payload, encrypted⟩ := ciphertext
  by_contra different
  obtain ⟨keySize, rfl⟩ := aes256EncryptByKeyToBase64String_eq_ok encrypted
  rw [aes256Decrypt_sealed laws size,
    laws.gcmOpen_other _ _ keySize size (Ne.symm different)] at decrypted
  cases decrypted

theorem shape (ciphertext : Sealed crypto key text) : text ≠ "" ∧ ':' ∉ text.toList := by
  obtain ⟨nonce, payload, encrypted⟩ := ciphertext
  obtain ⟨_, rfl⟩ := aes256EncryptByKeyToBase64String_eq_ok encrypted
  refine ⟨Go.Base64.encodeToString_ne_empty ?_, (Go.Base64.encodeToString_plain _).1⟩
  intro empty
  have nonceLength : nonce.toList.length = 12 := Vector.length_toList
  rw [(List.append_eq_nil_iff.mp empty).1] at nonceLength
  cases nonceLength

end Sealed

end ProxiPort.Enc
