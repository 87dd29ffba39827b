import FireflyToolkit.Domain.Transaction

set_option autoImplicit false

namespace FireflyToolkit.Vault

-- `token_bytes(count)` returns exactly `count` random bytes.
abbrev TokenBytes (count : Nat) := { bytes : ByteArray // bytes.size = count }

structure KdfParams where
  timeCost : Int
  memoryCost : Int
  parallelism : Int
  hashLen : Int
  deriving DecidableEq

-- What the services use of `argon2` (`hash_secret_raw`, variant ID) and of `AESGCM` (without
-- associated data, `none` for an `InvalidTag`).
structure CryptoLibrary where
  hashSecretRaw : ByteArray → ByteArray → KdfParams → ByteArray
  aesGcmEncrypt : ByteArray → ByteArray → ByteArray → ByteArray
  aesGcmDecrypt : ByteArray → ByteArray → ByteArray → Option ByteArray

-- A ciphertext opens under the key it was made with and under no other.
structure CryptoLibrary.Lawful (crypto : CryptoLibrary) : Prop where
  decrypt_encrypt : ∀ key nonce plaintext,
    crypto.aesGcmDecrypt key nonce (crypto.aesGcmEncrypt key nonce plaintext) = some plaintext
  decrypt_otherKey : ∀ key other nonce plaintext, other ≠ key →
    crypto.aesGcmDecrypt other nonce (crypto.aesGcmEncrypt key nonce plaintext) = none

-- No two passphrases give the same key.
def CryptoLibrary.CollisionFree (crypto : CryptoLibrary) : Prop :=
  ∀ (salt : ByteArray) (params : KdfParams) (passphrase other : String),
    crypto.hashSecretRaw passphrase.toUTF8 salt params =
      crypto.hashSecretRaw other.toUTF8 salt params → passphrase = other

structure DerivedUserKey where
  key : ByteArray
  salt : ByteArray
  params : KdfParams

structure VaultCheckBlob where
  ciphertext : ByteArray
  nonce : ByteArray

structure EncryptedSecretBlob where
  ciphertext : ByteArray
  secretNonce : ByteArray
  wrappedDek : ByteArray
  wrappedDekNonce : ByteArray
  cryptoVersion : Int

def cryptoVersion : Int := 1

def vaultCheckPlaintext : ByteArray := "firefly-toolkit:vault-check:v1".toUTF8

def defaultKdfParams : KdfParams := ⟨3, 64 * 1024, 2, 32⟩

structure SecretRandomness where
  dek : TokenBytes 32
  secretNonce : TokenBytes 12
  wrappedDekNonce : TokenBytes 12

def secretDecryptionFailed : PyError :=
  .application .secretDecryptionFailed "Secret decryption failed"

namespace SecretCryptoService

variable (crypto : CryptoLibrary)

-- No salt and an empty one are both replaced by a fresh one.
def deriveUserKey (passphrase : String) (salt : Option ByteArray) (params : Option KdfParams)
    (freshSalt : TokenBytes 16) : DerivedUserKey :=
  let kdfSalt := (salt.filter fun bytes => !bytes.isEmpty).getD freshSalt
  let kdfParams := params.getD defaultKdfParams
  ⟨crypto.hashSecretRaw passphrase.toUTF8 kdfSalt kdfParams, kdfSalt, kdfParams⟩

def createVaultCheck (userKey : ByteArray) (nonce : TokenBytes 12) : VaultCheckBlob :=
  ⟨crypto.aesGcmEncrypt userKey nonce vaultCheckPlaintext, nonce⟩

def verifyVaultCheck (userKey : ByteArray) (vaultCheck : VaultCheckBlob) : Bool :=
  match crypto.aesGcmDecrypt userKey vaultCheck.nonce vaultCheck.ciphertext with
  | none => false
  | some plaintext => plaintext == vaultCheckPlaintext

def encryptSecret (plaintext : String) (userKey : ByteArray) (random : SecretRandomness) :
    EncryptedSecretBlob :=
  { ciphertext := crypto.aesGcmEncrypt random.dek random.secretNonce plaintext.toUTF8
    secretNonce := random.secretNonce
    wrappedDek := crypto.aesGcmEncrypt userKey random.wrappedDekNonce random.dek
    wrappedDekNonce := random.wrappedDekNonce
    cryptoVersion := cryptoVersion }

-- A UnicodeDecodeError is a ValueError; its text is left out, the caller replaces it.
def decryptSecret (blob : EncryptedSecretBlob) (userKey : ByteArray) : Except PyError String :=
  if blob.cryptoVersion ≠ cryptoVersion then
    .error (.valueError ("Unsupported crypto_version: " ++ toString blob.cryptoVersion))
  else
    match crypto.aesGcmDecrypt userKey blob.wrappedDekNonce blob.wrappedDek with
    | none => .error secretDecryptionFailed
    | some dek =>
        match crypto.aesGcmDecrypt dek blob.secretNonce blob.ciphertext with
        | none => .error secretDecryptionFailed
        | some plaintext =>
            match String.fromUTF8? plaintext with
            | none => .error (.valueError "")
            | some text => .ok text

end SecretCryptoService

theorem fromUTF8?_toByteArray (text : String) : String.fromUTF8? text.toByteArray = some text :=
  dif_pos text.isValidUTF8

section Lawful

variable {crypto : CryptoLibrary} (lawful : crypto.Lawful)

include lawful

theorem verifyVaultCheck_created (userKey other : ByteArray) (nonce : TokenBytes 12) :
    SecretCryptoService.verifyVaultCheck crypto other
        (SecretCryptoService.createVaultCheck crypto userKey nonce) = true ↔ other = userKey := by
  unfold SecretCryptoService.verifyVaultCheck SecretCryptoService.createVaultCheck
  have itself : (vaultCheckPlaintext == vaultCheckPlaintext) = true :=
    beq_self_eq_true vaultCheckPlaintext.data
  by_cases same : other = userKey
  next => simp [same, lawful.decrypt_encrypt, itself]
  next => simp [same, lawful.decrypt_otherKey _ _ _ _ same]

theorem decryptSecret_encrypted (plaintext : String) (userKey : ByteArray)
    (random : SecretRandomness) :
    SecretCryptoService.decryptSecret crypto
        (SecretCryptoService.encryptSecret crypto plaintext userKey random) userKey =
      .ok plaintext := by
  simp [SecretCryptoService.decryptSecret, SecretCryptoService.encryptSecret,
    lawful.decrypt_encrypt, fromUTF8?_toByteArray]

end Lawful

end FireflyToolkit.Vault
