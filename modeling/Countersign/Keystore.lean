import Countersign.Cipher.Gcm
import Countersign.Kdf.Argon2
import Countersign.Transaction.Json

/-! Private keys enclosed under a password. -/

namespace Countersign

/-- How a private key is enclosed. -/
structure Enclosure where
  /-- The name of the cipher. -/
  cipher : String
  /-- The name of the derivation of the key from the password. -/
  kdf : String
  /-- The costs of that derivation. -/
  cost : Kdf.Cost
  /-- The salt, in hexadecimal digits. -/
  salt : String
  /-- The nonce, in hexadecimal digits. -/
  nonce : String
  /-- The encrypted key with its tag, in hexadecimal digits. -/
  ciphertext : String
  deriving DecidableEq

/-- An enclosed private key with the address that it belongs to. -/
structure Keystore where
  /-- The version of this form. -/
  version : UInt32
  /-- The address of the key, which is not protected. -/
  address : Address
  /-- The enclosed key. -/
  enclosure : Enclosure
  deriving DecidableEq

namespace Keystore

/-- Why a keystore cannot be opened. -/
inductive Fault where
  /-- The version is not known. -/
  | unsupportedVersion (version : UInt32)
  /-- The salt is not hexadecimal. -/
  | invalidSalt (cause : Hex.Fault)
  /-- The nonce is not hexadecimal. -/
  | invalidNonce (cause : Hex.Fault)
  /-- The ciphertext is not hexadecimal. -/
  | invalidCiphertext (cause : Hex.Fault)
  /-- The nonce has a wrong length. -/
  | nonceLength (actual : Nat)
  /-- No key can be derived from the password. -/
  | derivation (cause : Kdf.Refusal)
  /-- The tag is wrong. -/
  | decryption
  /-- The decrypted key has a wrong length. -/
  | seedLength (actual : Nat)
  /-- The decrypted key belongs to another address. -/
  | otherAddress (expected derived : Address)
  deriving DecidableEq

/-- What is wrong, in words. -/
def Fault.describe : Fault → String
  | .unsupportedVersion version => "unsupported keystore version: " ++ toString version.toNat
  | .invalidSalt cause => "invalid salt hex: " ++ cause.message
  | .invalidNonce cause => "invalid nonce hex: " ++ cause.message
  | .invalidCiphertext cause => "invalid ciphertext hex: " ++ cause.message
  | .nonceLength actual => "invalid nonce length: expected 12, got " ++ toString actual
  | .derivation cause =>
    match cause with
    | .passwordTooLong | .saltTooShort | .saltTooLong => "Argon2 hashing failed: " ++ cause.message
    | _ => "Argon2 params error: " ++ cause.message
  | .decryption => "decryption failed: wrong password or corrupted data"
  | .seedLength actual =>
    "decrypted seed has wrong length: expected 32, got " ++ toString actual
  | .otherAddress expected derived =>
    "keystore is for " ++ expected.display ++ " but key derives " ++ derived.display

/-- The wording of a fault. -/
def Fault.message (fault : Fault) : String := "key error: " ++ fault.describe

/-- The only version there is. -/
def currentVersion : UInt32 := 1

/-- The costs that new keystores are made with. -/
def defaultCost : Kdf.Cost := ⟨65536, 3, 1⟩

/-- The key that a password and a salt give under some costs. -/
def deriveKey (cost : Kdf.Cost) (password : String) (salt : Bytes) :
    Except Kdf.Refusal (FixedBytes 32) := do
  -- The costs are judged before the password, and the password before the salt.
  cost.check
  let secret := Bytes.ofText password
  if 0xFFFFFFFF < secret.length then throw .passwordTooLong
  if salt.length < 8 then throw .saltTooShort
  if 0xFFFFFFFF < salt.length then throw .saltTooLong
  return FixedBytes.leftJustified (Kdf.argon2id cost 32 secret salt)

/-- A private key enclosed under a password, with the salt and nonce that were drawn for it. -/
def enclose (seed : FixedBytes 32) (address : Address) (password : String) (salt : FixedBytes 32)
    (nonce : FixedBytes 12) : Except Kdf.Refusal Keystore := do
  -- The costs, the salt and the nonce are kept beside the ciphertext.
  let key ← deriveKey defaultCost password salt.toBytes
  let ciphertext := Cipher.encrypt key nonce seed.toBytes
  return ⟨currentVersion, address, "aes-256-gcm", "argon2id", defaultCost,
    Hex.encode salt.toBytes, Hex.encode nonce.toBytes, Hex.encode ciphertext⟩

/-- The private key in a keystore, if the password is right. -/
def unlock (keystore : Keystore) (password : String) : Except Fault (FixedBytes 32) := do
  -- Everything that needs no password is judged first; the names of the methods are not looked at.
  if keystore.version ≠ currentVersion then throw (.unsupportedVersion keystore.version)
  let enclosure := keystore.enclosure
  let salt ← (Hex.decode enclosure.salt).mapError .invalidSalt
  let nonceBytes ← (Hex.decode enclosure.nonce).mapError .invalidNonce
  let ciphertext ← (Hex.decode enclosure.ciphertext).mapError .invalidCiphertext
  match FixedBytes.ofBytes? nonceBytes with
  | none => throw (.nonceLength nonceBytes.length)
  | some nonce =>
    let key ← (deriveKey enclosure.cost password salt).mapError .derivation
    match Cipher.decrypt? key nonce ciphertext with
    | none => throw .decryption
    | some plaintext =>
      match FixedBytes.ofBytes? plaintext with
      | none => throw (.seedLength plaintext.length)
      | some seed => return seed

/-- The key pair in a keystore, which must belong to the keystore's address. -/
def keyPair (keystore : Keystore) (password : String) : Except Fault KeyPair := do
  -- The address is derived anew from the decrypted key.
  let pair := KeyPair.ofSeed (← keystore.unlock password)
  if pair.address ≠ keystore.address then throw (.otherAddress keystore.address pair.address)
  return pair

end Keystore

/-- The costs of a derivation. -/
def Json.Form.cost : Json.Form Kdf.Cost :=
  Fields.record
    (.cons "memory" .word32 (.cons "iterations" .word32 (.cons "parallelism" .word32 .nil)))
    (fun (memory, iterations, parallelism, _) => ⟨memory, iterations, parallelism⟩)
    (fun cost => (cost.memory, cost.iterations, cost.parallelism, ()))

/-- An enclosed key. -/
def Json.Form.enclosure : Json.Form Enclosure :=
  Fields.record
    (.cons "cipher" .text (.cons "kdf" .text (.cons "kdf_params" .cost (.cons "salt" .text
      (.cons "nonce" .text (.cons "ciphertext" .text .nil))))))
    (fun (cipher, kdf, cost, salt, nonce, ciphertext, _) =>
      ⟨cipher, kdf, cost, salt, nonce, ciphertext⟩)
    (fun value => (value.cipher, value.kdf, value.cost, value.salt, value.nonce,
      value.ciphertext, ()))

/-- A keystore. -/
def Json.Form.keystore : Json.Form Keystore :=
  Fields.record
    (.cons "version" .word32 (.cons "address" .address (.cons "crypto" .enclosure .nil)))
    (fun (version, address, enclosure, _) => ⟨version, address, enclosure⟩)
    (fun value => (value.version, value.address, value.enclosure, ()))

namespace Keystore

/-- Why no keystore can be had from a file. -/
inductive LoadError where
  /-- There is no such file or directory. -/
  | missing
  /-- The file is not text. -/
  | notText
  /-- The text is not a keystore. -/
  | notKeystore (cause : Json.Fault)
  deriving DecidableEq

/-- The wording of an error, where it has one of its own. -/
def LoadError.message? : LoadError → Option String
  | .missing => some "io error: No such file or directory (os error 2)"
  | .notText => some "io error: stream did not contain valid UTF-8"
  | .notKeystore _ => none

/-- The keystore in a file with the given content, if there is one. -/
def load (content : Option Bytes) : Except LoadError Keystore :=
  -- The file is judged before its text, and the text before the keystore.
  match content with
  | none => .error .missing
  | some bytes =>
    match Bytes.toText? bytes with
    | none => .error .notText
    | some text => (Json.Form.keystore.parse text).mapError .notKeystore

/-- The text that a keystore is saved as. -/
def save (keystore : Keystore) : String := (Json.Form.keystore.write keystore).renderIndented

end Keystore

end Countersign
