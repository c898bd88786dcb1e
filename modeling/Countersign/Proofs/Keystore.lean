import Countersign.Keystore
import Countersign.Proofs.Cipher.Gcm
import Countersign.Proofs.Keys
import Countersign.Proofs.Transaction.Json

/-! Keystores: the password that a private key was enclosed under gives it back, also from a file,
and a key is handed out only for the address that it belongs to. -/

namespace Countersign

namespace Json.Form

/-- The costs are read back. -/
theorem cost_lawful : Form.cost.Lawful :=
  -- They are three words under different names.
  .record (.cons word32_lawful (.cons word32_lawful (.cons word32_lawful .nil))) (by decide)
    fun _ => rfl

/-- An enclosure is read back. -/
theorem enclosure_lawful : Form.enclosure.Lawful :=
  -- All members but the costs are texts.
  .record (.cons text_lawful (.cons text_lawful (.cons cost_lawful (.cons text_lawful (.cons
    text_lawful (.cons text_lawful .nil)))))) (by decide) fun _ => rfl

/-- A keystore is read back. -/
theorem keystore_lawful : Form.keystore.Lawful :=
  -- The version, the address and the enclosure have different names.
  .record (.cons word32_lawful (.cons address_lawful (.cons enclosure_lawful .nil))) (by decide)
    fun _ => rfl

end Json.Form

namespace Keystore

/-- A keystore is read back from the file that it was saved to. -/
theorem load_save (keystore : Keystore) :
    load (some (Bytes.ofText keystore.save)) = .ok keystore := by
  -- The file is the octets of an indented text.
  have parsed : Json.Form.keystore.parse keystore.save = .ok keystore :=
    Json.Form.keystore_lawful.parse_renderIndented keystore
  simp only [load, Bytes.toText?_ofText, parsed]
  rfl

/-- The costs of new keystores are within their bounds, and so is any salt that is drawn. -/
theorem exists_deriveKey_default {password : String}
    (short : (Bytes.ofText password).length < 2 ^ 32) (salt : FixedBytes 32) :
    ∃ key, deriveKey defaultCost password salt.toBytes = .ok key := by
  have within : defaultCost.check = .ok () := rfl
  have notTooLong : ¬ 0xFFFFFFFF < (Bytes.ofText password).length := by omega
  have enough : ¬ salt.toBytes.length < 8 := by simp [salt.length_toBytes]
  have notTooMuch : ¬ 0xFFFFFFFF < salt.toBytes.length := by simp [salt.length_toBytes]
  -- The refusals are passed in the order in which they are tested.
  unfold deriveKey
  simp only [within, bind, Except.bind, if_neg notTooLong, if_neg enough, if_neg notTooMuch]
  exact ⟨_, rfl⟩

/-- What it takes for a password to open a keystore. -/
theorem unlock_eq_ok_iff {keystore : Keystore} {password : String} {seed : FixedBytes 32} :
    keystore.unlock password = .ok seed ↔ keystore.version = currentVersion ∧
      ∃ (salt closed : Bytes) (nonce : FixedBytes 12) (key : FixedBytes 32),
        Hex.decode keystore.enclosure.salt = .ok salt ∧
        Hex.decode keystore.enclosure.nonce = .ok nonce.toBytes ∧
        Hex.decode keystore.enclosure.ciphertext = .ok closed ∧
        deriveKey keystore.enclosure.cost password salt = .ok key ∧
        Cipher.decrypt? key nonce closed = some seed.toBytes := by
  -- Another version is refused before anything else.
  by_cases current : keystore.version = currentVersion
  case neg => simp [unlock, current, bind, Except.bind, throw, throwThe, MonadExceptOf.throw]
  unfold unlock
  rw [if_neg (not_not_intro current)]
  simp only [bind_eq_ok_iff, mapError_eq_ok_iff, current, true_and]
  constructor
  · rintro ⟨salt, saltRead, nonceBytes, nonceRead, closed, closedRead, opened⟩
    -- Each length is tested before the octets are used.
    cases sized : (FixedBytes.ofBytes? nonceBytes : Option (FixedBytes 12)) with
    | none =>
      rw [sized] at opened
      cases opened
    | some nonce =>
      rw [sized] at opened
      obtain ⟨key, derived, opened⟩ := bind_eq_ok_iff.mp opened
      rw [mapError_eq_ok_iff] at derived
      cases plain : Cipher.decrypt? key nonce closed with
      | none =>
        rw [plain] at opened
        cases opened
      | some plaintext =>
        simp only [plain] at opened
        cases whole : (FixedBytes.ofBytes? plaintext : Option (FixedBytes 32)) with
        | none =>
          rw [whole] at opened
          cases opened
        | some content =>
          rw [whole] at opened
          cases opened
          rw [FixedBytes.ofBytes?_eq_some_iff] at sized whole
          exact ⟨salt, closed, nonce, key, saltRead, sized ▸ nonceRead, closedRead, derived,
            whole ▸ plain⟩
  · rintro ⟨salt, closed, nonce, key, saltRead, nonceRead, closedRead, derived, plain⟩
    have sized : FixedBytes.ofBytes? nonce.toBytes = some nonce :=
      FixedBytes.ofBytes?_eq_some_iff.mpr rfl
    have whole : FixedBytes.ofBytes? seed.toBytes = some seed :=
      FixedBytes.ofBytes?_eq_some_iff.mpr rfl
    refine ⟨salt, saltRead, nonce.toBytes, nonceRead, closed, closedRead, ?_⟩
    simp only [sized, mapError_eq_ok_iff.mpr derived, bind, Except.bind, plain, whole, pure,
      Except.pure]

/-- A keystore that opens is of the only version, and its parts are digits of the right lengths. -/
theorem wellFormed_of_unlock {keystore : Keystore} {password : String} {seed : FixedBytes 32}
    (opened : keystore.unlock password = .ok seed) :
    keystore.version = 1 ∧ ∃ salt nonce closed : Bytes,
      Hex.decode keystore.enclosure.salt = .ok salt ∧
      Hex.decode keystore.enclosure.nonce = .ok nonce ∧ nonce.length = 12 ∧
      Hex.decode keystore.enclosure.ciphertext = .ok closed ∧ closed.length = 48 := by
  obtain ⟨current, salt, closed, nonce, key, saltRead, nonceRead, closedRead, -, plain⟩ :=
    unlock_eq_ok_iff.mp opened
  -- The seed takes thirty-two octets, and the tag sixteen.
  have length : closed.length = 48 := by
    rw [Cipher.length_of_decrypt? plain, seed.length_toBytes]
  exact ⟨current, salt, nonce.toBytes, closed, saltRead, nonceRead, nonce.length_toBytes,
    closedRead, length⟩

/-- The key pair of a keystore is that of the key in it, whose address the keystore states. -/
theorem keyPair_eq_ok_iff {keystore : Keystore} {password : String} {pair : KeyPair} :
    keystore.keyPair password = .ok pair ↔ ∃ seed, keystore.unlock password = .ok seed ∧
      pair = KeyPair.ofSeed seed ∧ pair.address = keystore.address := by
  rw [keyPair, bind_eq_ok_iff]
  -- The addresses are compared after the key has been had.
  constructor
  · rintro ⟨seed, opened, checked⟩
    by_cases same : (KeyPair.ofSeed seed).address = keystore.address
    · rw [if_neg (not_not_intro same)] at checked
      cases checked
      exact ⟨seed, opened, rfl, same⟩
    · rw [if_pos same] at checked
      cases checked
  · rintro ⟨seed, opened, rfl, same⟩
    exact ⟨seed, opened, if_neg (not_not_intro same)⟩

/-- A fault about addresses names the one that is stated and the one that the key has. -/
theorem Fault.message_otherAddress (expected derived : Address) :
    (Fault.otherAddress expected derived).message = "key error: " ++
      ("keystore is for " ++ expected.display ++ " but key derives " ++ derived.display) := rfl

/-- A keystore that is given another address gives no key pair: the address is no part of what is
encrypted, but it is compared with that of the key. -/
theorem keyPair_readdressed {keystore : Keystore} {password : String} {seed : FixedBytes 32}
    (opened : keystore.unlock password = .ok seed)
    (own : (KeyPair.ofSeed seed).address = keystore.address) {other : Address}
    (apart : other ≠ keystore.address) :
    ({ keystore with address := other } : Keystore).keyPair password =
      .error (.otherAddress other keystore.address) := by
  -- No part that opens the keystore is the address.
  have still : ({ keystore with address := other } : Keystore).unlock password = .ok seed :=
    unlock_eq_ok_iff.mpr (unlock_eq_ok_iff.mp opened)
  rw [keyPair, still, ← own]
  rw [← own] at apart
  exact if_pos apart.symm

/-- What a keystore of a private key consists of. -/
theorem enclose_eq_ok_iff {seed : FixedBytes 32} {address : Address} {password : String}
    {salt : FixedBytes 32} {nonce : FixedBytes 12} {keystore : Keystore} :
    enclose seed address password salt nonce = .ok keystore ↔
      ∃ key, deriveKey defaultCost password salt.toBytes = .ok key ∧
        keystore = ⟨currentVersion, address, "aes-256-gcm", "argon2id", defaultCost,
          Hex.encode salt.toBytes, Hex.encode nonce.toBytes,
          Hex.encode (Cipher.encrypt key nonce seed.toBytes)⟩ := by
  rw [enclose, bind_eq_ok_iff]
  -- Deriving the key is the only step that can fail.
  constructor
  · rintro ⟨key, derived, made⟩
    exact ⟨key, derived, (Except.ok.inj made).symm⟩
  · rintro ⟨key, derived, rfl⟩
    exact ⟨key, derived, rfl⟩

/-- The password that a private key was enclosed under gives it back. -/
theorem unlock_enclose {seed : FixedBytes 32} {address : Address} {password : String}
    {salt : FixedBytes 32} {nonce : FixedBytes 12} {keystore : Keystore}
    (made : enclose seed address password salt nonce = .ok keystore) :
    keystore.unlock password = .ok seed := by
  obtain ⟨key, derived, rfl⟩ := enclose_eq_ok_iff.mp made
  -- The parts are read as they were written, and the same key is derived again.
  refine unlock_eq_ok_iff.mpr ⟨rfl, salt.toBytes, _, nonce, key, ?_, ?_, ?_, derived,
    Cipher.decrypt?_encrypt key nonce seed.toBytes⟩
  · exact Hex.decode_encode salt.toBytes
  · exact Hex.decode_encode nonce.toBytes
  · exact Hex.decode_encode _

/-- A private key that is enclosed comes out of its keystore as it went in, also from a file, and
only for its own address; and whatever a keystore holds, it opens only if it is well formed, and
gives a key pair only for the address of the key in it. -/
theorem keyPair_enclose :
    (∀ seed address password salt nonce, (Bytes.ofText password).length < 2 ^ 32 →
      ∃ keystore, enclose seed address password salt nonce = .ok keystore) ∧
    (∀ seed password salt nonce keystore,
      enclose seed (KeyPair.ofSeed seed).address password salt nonce = .ok keystore →
      keystore.unlock password = .ok seed ∧
      load (some (Bytes.ofText keystore.save)) = .ok keystore ∧
      keystore.address = (KeyPair.ofSeed seed).address ∧
      keystore.keyPair password = .ok (KeyPair.ofSeed seed) ∧
      ∀ other, other ≠ keystore.address → ∃ fault,
        ({ keystore with address := other } : Keystore).keyPair password = .error fault ∧
        fault.message = "key error: " ++ ("keystore is for " ++ other.display ++
          " but key derives " ++ keystore.address.display)) ∧
    (∀ (keystore : Keystore) password seed, keystore.unlock password = .ok seed →
      keystore.version = 1 ∧ ∃ salt nonce closed : Bytes,
        Hex.decode keystore.enclosure.salt = .ok salt ∧
        Hex.decode keystore.enclosure.nonce = .ok nonce ∧ nonce.length = 12 ∧
        Hex.decode keystore.enclosure.ciphertext = .ok closed ∧ closed.length = 48) ∧
    (∀ (keystore : Keystore) password pair, keystore.keyPair password = .ok pair →
      pair.address = keystore.address ∧ ∃ seed, keystore.unlock password = .ok seed ∧
        pair = KeyPair.ofSeed seed) := by
  refine ⟨?made, ?enclosed, ?opened, ?owned⟩
  case made =>
    intro seed address password salt nonce short
    obtain ⟨key, derived⟩ := exists_deriveKey_default short salt
    exact ⟨_, enclose_eq_ok_iff.mpr ⟨key, derived, rfl⟩⟩
  case enclosed =>
    intro seed password salt nonce keystore made
    have opened : keystore.unlock password = .ok seed := unlock_enclose made
    -- The address is stated as it is given.
    have own : (KeyPair.ofSeed seed).address = keystore.address := by
      obtain ⟨key, derived, rfl⟩ := enclose_eq_ok_iff.mp made
      rfl
    refine ⟨opened, load_save keystore, own.symm, ?_, ?_⟩
    · exact keyPair_eq_ok_iff.mpr ⟨seed, opened, rfl, own⟩
    · intro other apart
      -- The keystore still opens, and the key does not belong to the other address.
      exact ⟨_, keyPair_readdressed opened own apart, Fault.message_otherAddress _ _⟩
  case opened =>
    intro keystore password seed opened
    exact wellFormed_of_unlock opened
  case owned =>
    intro keystore password pair owned
    obtain ⟨seed, opened, own, address⟩ := keyPair_eq_ok_iff.mp owned
    exact ⟨address, seed, opened, own⟩

/-- The octets from a first one on, each one more than the last. -/
def countingFrom (size first : Nat) : FixedBytes size :=
  ⟨(List.range size).map fun place => UInt8.ofNat (first + place), by simp⟩

/-- A private key, a salt and a nonce without a common octet: the key comes back, also from the file
that the keystore is saved to, and not for the address of zeros. -/
theorem keyPair_enclose_counting : ∃ keystore,
    enclose (countingFrom 32 0) (KeyPair.ofSeed (countingFrom 32 0)).address "test-password-123"
        (countingFrom 32 32) (countingFrom 12 64) = .ok keystore ∧
      keystore.unlock "test-password-123" = .ok (countingFrom 32 0) ∧
      load (some (Bytes.ofText keystore.save)) = .ok keystore ∧
      keystore.keyPair "test-password-123" = .ok (KeyPair.ofSeed (countingFrom 32 0)) ∧
      ∃ fault, ({ keystore with address := .zero } : Keystore).keyPair "test-password-123" =
          .error fault ∧
        fault.message = "key error: " ++ ("keystore is for " ++ Address.display .zero ++
          " but key derives " ++ keystore.address.display) := by
  obtain ⟨returns, kept, -, -⟩ := keyPair_enclose
  have short : (Bytes.ofText "test-password-123").length < 2 ^ 32 := by decide
  obtain ⟨keystore, made⟩ := returns (countingFrom 32 0)
    (KeyPair.ofSeed (countingFrom 32 0)).address "test-password-123" (countingFrom 32 32)
    (countingFrom 12 64) short
  obtain ⟨opened, loaded, own, paired, readdressed⟩ := kept _ _ _ _ _ made
  -- The address of this key is computed, as far as it takes to tell it from zeros.
  have apart : .zero ≠ keystore.address := by
    rw [own, KeyPair.address_ofSeed]
    decide +kernel
  obtain ⟨fault, refused, message⟩ := readdressed .zero apart
  exact ⟨keystore, made, opened, loaded, paired, fault, refused, message⟩

end Keystore

end Countersign
