import ErpFinance.Library.Digits
import ErpFinance.Library.Sha256

/-!
# Codes by time

A code of six digits belongs to a secret and a step of thirty seconds.  It is
taken in the step itself and in the two beside it.
-/

namespace ErpFinance.Iam.Totp

open Library

/-- What the service takes from the standard library. -/
structure Crypto where
  /-- HMAC-SHA1 of a key and a message. -/
  hmac : Bytes → Bytes → Bytes
  /-- `DecodeString`, with padding or without. -/
  base32 : Bool → String → Option Bytes

def totpDigits : Nat := 6

def totpPeriod : Nat := 30

def putUint64 (n : Nat) : Bytes := (List.range 8).map fun i => UInt8.ofNat (n >>> (56 - 8 * i))

section Codes

variable (crypto : Crypto)

def hotp (key : Bytes) (counter : Int) : String :=
  let h := crypto.hmac key (putUint64 (counter % 2 ^ 64).toNat)
  let offset := (h.getD (h.length - 1) 0).toNat &&& 0x0F
  let byte (i : Nat) : Nat := (h.getD (offset + i) 0).toNat
  let code := (byte 0 &&& 0x7F) <<< 24 ||| byte 1 <<< 16 ||| byte 2 <<< 8 ||| byte 3
  String.ofList (paddedDigits totpDigits (code % 1000000))

def rawSecret (base32Secret : String) : Option Bytes :=
  (crypto.base32 false base32Secret).or (crypto.base32 true base32Secret)

/-- `verifyTOTP`: the first step around the present one, in seconds, that has the code. -/
def verifyTOTP (base32Secret code : String) (window now : Nat) : Option Int :=
  (rawSecret crypto base32Secret).bind fun raw =>
    let steps : List Int := (List.range (2 * window + 1)).map fun i : Nat =>
      ((now / totpPeriod : Nat) : Int) - window + i
    steps.find? fun step => hotp crypto raw step = code

end Codes

/-- The first instant, in nanoseconds, at which the code of a step is taken. -/
def opens (step : Int) : Int := 30 * (step - 1) * 10 ^ 9

/-- The first instant after it at which the code is not taken. -/
def closes (step : Int) : Int := 30 * (step + 2) * 10 ^ 9

theorem closes_eq (step : Int) : closes step = opens step + 90 * 10 ^ 9 := by
  rw [closes, opens]
  omega

theorem opens_le_of_verifyTOTP {crypto : Crypto} {secret code : String} {clock : Nat} {step : Int}
    (taken : verifyTOTP crypto secret code 1 (clock / 10 ^ 9) = some step) :
    opens step ≤ clock ∧ (clock : Int) < closes step := by
  obtain ⟨raw, -, found⟩ := Option.bind_eq_some_iff.mp taken
  obtain ⟨i, bound, rfl⟩ := List.mem_map.mp (List.mem_of_find?_eq_some found)
  rw [List.mem_range] at bound
  rw [opens, closes, totpPeriod]
  omega

end ErpFinance.Iam.Totp
