import Stackfort.CertificateScheduler

/-! One-time codes. A TOTP code is six digits computed from a secret and a counter of thirty-second steps; a
check tries the current step, the one before and the one after, and skips the steps up to the last one used. A
recovery code is a text of thirty-two hexadecimal digits of which only the digest is stored. The
cryptographic functions of the standard library are given as they are; what the repository computes
from their results is written out. -/

namespace Stackfort.Authentication

abbrev Bytes := List UInt8

/-- The library functions behind the sign-in. -/
structure AuthServices where
  /-- `sha256.Sum256` of the bytes of a text. -/
  sha256 : String → Bytes
  /-- The HMAC of a message under a key, with SHA-1. -/
  hmacSHA1 : Bytes → Bytes → Bytes
  /-- Argon2id of a password and a salt, with iterations, memory, parallelism and the length of the key. -/
  derivePassword : String → Bytes → Nat → Nat → Nat → Nat → Bytes
  /-- `strings.ToLower`. -/
  toLower : String → String
  /-- The text of an unmapped IP address, if the argument is one. -/
  parseAddr : String → Option String

/-! ### TOTP -/

def totpPeriodSeconds : Int := 30

/-- The eight bytes of a counter, the highest first. -/
def counterMessage (counter : Nat) : Bytes :=
  (List.range 8).map fun i => UInt8.ofNat (counter / 256 ^ (7 - i))

def hotp (services : AuthServices) (secret : Bytes) (counter : Nat) : String :=
  let digest := services.hmacSHA1 secret (counterMessage counter)
  let offset := (digest.getLastD 0).toNat % 16
  let byte := fun i => (digest.getD (offset + i) 0).toNat
  let binaryCode := byte 0 % 128 * 2 ^ 24 + byte 1 * 2 ^ 16 + byte 2 * 2 ^ 8 + byte 3
  String.ofList (Text.decimal 6 (binaryCode % 1000000))

/-- The step a clock reading lies in. The division truncates, as that of Go does. -/
def totpCounter (now : Time) : Int := now.unix.tdiv totpPeriodSeconds

/-- The step whose code was given, among the three that are tried and have not been used up. -/
def matchTOTP (services : AuthServices) (secret : Bytes) (code : String) (now : Time)
    (lastUsedCounter : Option Int) : Option Int :=
  [0, -1, 1].findSome? fun offset =>
    let counter := totpCounter now + offset
    if counter < 0 ∨ lastUsedCounter.any (counter ≤ ·) then none
    else if hotp services secret counter.toNat = code then some counter
    else none

def normalizeTOTPCode (value : String) : Option String :=
  let value := trimSpace value
  if value.utf8ByteSize = 6 ∧ value.toList.all fun c => '0' ≤ c && c ≤ '9' then some value else none

/-- A matched step is one of the three around the clock, and later than the last one used. -/
theorem matchTOTP_bounds {services : AuthServices} {secret : Bytes} {code : String} {now : Time}
    {lastUsed : Option Int} {counter : Int} (h : matchTOTP services secret code now lastUsed = some counter) :
    |counter - totpCounter now| ≤ 1 ∧ ∀ used ∈ lastUsed, used < counter := by
  obtain ⟨offset, hoffset, hmatch⟩ := List.exists_of_findSome?_eq_some h
  have hcases : offset = 0 ∨ offset = -1 ∨ offset = 1 := by simpa using hoffset
  dsimp only at hmatch
  split at hmatch
  · cases hmatch
  next hskip =>
  split at hmatch
  · cases hmatch
    rw [not_or] at hskip
    refine ⟨?_, fun used hused => ?_⟩
    · rw [abs_le]
      omega
    · rw [Option.mem_def] at hused
      have hnot := hskip.2
      rw [hused] at hnot
      simpa using hnot
  · cases hmatch

/-! ### Recovery codes -/

/-- The letters of a recovery code in groups of four. -/
def codeGroups : List Char → List String
  | a :: b :: c :: d :: rest => String.ofList [a, b, c, d] :: codeGroups rest
  | _ => []

def recoveryCodeText (digits : List Char) : String := "sfrc_" ++ String.intercalate "-" (codeGroups digits)

def recoveryCodeRandomBytes : Nat := 16

/-- `hex.EncodeToString`. -/
def hexDigits (bytes : Bytes) : List Char :=
  bytes.flatMap fun byte => [Json.hexDigit (byte.toNat / 16), Json.hexDigit (byte.toNat % 16)]

/-- The digits `hex.DecodeString` accepts. -/
def isHexDigit (c : Char) : Bool :=
  ('0' ≤ c && c ≤ '9') || ('a' ≤ c && c ≤ 'f') || ('A' ≤ c && c ≤ 'F')

def normalizeRecoveryCode (services : AuthServices) (value : String) : Option String :=
  let value := services.toLower (trimSpace value)
  if "sfrc_".toList.isPrefixOf value.toList then
    let hexValue := (value.toList.drop 5).filter (· ≠ '-')
    if (String.ofList hexValue).utf8ByteSize = recoveryCodeRandomBytes * 2 ∧ hexValue.all isHexDigit then
      some (recoveryCodeText hexValue)
    else none
  else none

end Stackfort.Authentication
