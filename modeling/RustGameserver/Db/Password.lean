import Mathlib.Data.List.Basic

/-!
Contract: `db::password`, the check of a password against its stored hash.

Owns: `client_hash`, `generate_stored_hash`, `derive` and `verify`, and what `verify` says
about the hashes that have been generated.

Does not own: SHA-256, Base64 and PBKDF2, which the crates `sha2`, `base64` and
`pbkdf2` compute.
-/

namespace RustGameserver.Db

/-- `ITERATIONS`. -/
def iterations : Nat := 100000

/-- `HASH_SIZE`. -/
def hashSize : Nat := 32

inductive PasswordError where
  | invalidBase64
deriving DecidableEq, Repr

/-- The foreign functions that the check of a password calls. -/
structure PasswordLibrary where
  /-- `Sha256::digest` -/
  sha256 : List UInt8 → List UInt8
  /-- `STANDARD.decode` -/
  decode : String → Option (List UInt8)
  /-- `pbkdf2_hmac_array::<Sha256, _>` of password, salt and rounds, for an output of
  the given size -/
  pbkdf2 : List UInt8 → List UInt8 → Nat → Nat → List UInt8

namespace PasswordLibrary

variable (library : PasswordLibrary)

/-- `client_hash`, of the UTF-8 bytes of the password. -/
def clientHash (plainPassword : String) : List UInt8 :=
  library.sha256 plainPassword.toUTF8.data.toList

def derive (clientHash salt : List UInt8) : List UInt8 :=
  library.pbkdf2 clientHash salt iterations hashSize

/-- `verify`, which decodes the salt before the hash. -/
def verify (clientHash : List UInt8) (storedHashBase64 storedSaltBase64 : String) :
    Except PasswordError Bool :=
  match library.decode storedSaltBase64 with
  | none => .error .invalidBase64
  | some salt =>
      match library.decode storedHashBase64 with
      | none => .error .invalidBase64
      | some stored => .ok (library.derive clientHash salt == stored)

end PasswordLibrary

/-! ## Generating -/

/-- `SALT_SIZE`. -/
def saltSize : Nat := 32

/-- What `getrandom::fill` draws. -/
abbrev Salt : Type := { bytes : List UInt8 // bytes.length = saltSize }

namespace PasswordLibrary

variable (library : PasswordLibrary) (encode : List UInt8 → String)

/-- `generate_stored_hash`, for the salt that it draws. `encode` is `STANDARD.encode`. -/
def generateStoredHash (clientHash : List UInt8) (salt : Salt) : String × String :=
  (encode (library.derive clientHash salt), encode salt)

/-- What `base64`, with its padding, and `pbkdf2` document. -/
structure Standard : Prop where
  decode_encode : ∀ bytes, library.decode (encode bytes) = some bytes
  encode_length : ∀ bytes, (encode bytes).length = 4 * ((bytes.length + 2) / 3)
  pbkdf2_length : ∀ password salt rounds size,
    (library.pbkdf2 password salt rounds size).length = size

variable {library encode}

/-- The verdict compares the keys derived with the salt drawn. -/
theorem verify_generateStoredHash (standard : Standard library encode)
    (clientHash tried : List UInt8) (salt : Salt) :
    library.verify tried (library.generateStoredHash encode clientHash salt).1
        (library.generateStoredHash encode clientHash salt).2 =
      .ok (library.derive tried salt == library.derive clientHash salt) := by
  simp only [verify, generateStoredHash, standard.decode_encode]

/-- Hash and salt are of 32 bytes, which are 44 letters each. -/
theorem generateStoredHash_length (standard : Standard library encode)
    (clientHash : List UInt8) (salt : Salt) :
    (library.generateStoredHash encode clientHash salt).1.length = 44 ∧
      (library.generateStoredHash encode clientHash salt).2.length = 44 := by
  have derived : (library.derive clientHash salt).length = hashSize :=
    standard.pbkdf2_length clientHash salt iterations hashSize
  simp only [generateStoredHash, standard.encode_length, derived, salt.2]
  exact ⟨rfl, rfl⟩

end PasswordLibrary

end RustGameserver.Db
