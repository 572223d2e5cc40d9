import ErpFinance.Events.Outbox
import Mathlib.Data.List.TakeWhile

/-!
# Encrypted fields

A field is stored as its key version and the text of its nonce and ciphertext.
The cipher is a parameter that opens exactly what was sealed; what it
authenticates is the bytes behind the text, not the version and not the text.
-/

namespace ErpFinance.Crypto

open Events Library

/-! ## Base64 -/

/-- The six bits of a character of the standard alphabet. -/
def base64Value (c : UInt8) : Option Nat :=
  let n := c.toNat
  if 65 ≤ n ∧ n ≤ 90 then some (n - 65)
  else if 97 ≤ n ∧ n ≤ 122 then some (n - 71)
  else if 48 ≤ n ∧ n ≤ 57 then some (n + 4)
  else if n = 43 then some 62
  else if n = 47 then some 63
  else none

def firstByte (x y : Nat) : UInt8 := UInt8.ofNat (x * 4 + y / 16)

def secondByte (y z : Nat) : UInt8 := UInt8.ofNat (y % 16 * 16 + z / 4)

def thirdByte (z w : Nat) : UInt8 := UInt8.ofNat (z % 4 * 64 + w)

/-- Groups of four characters; the bits that padding leaves over are not looked at. -/
def decodeQuanta : Bytes → Option Bytes
  | [] => some []
  | a :: b :: c :: d :: rest =>
    (base64Value a).bind fun x => (base64Value b).bind fun y =>
      if c = 61 then if d = 61 ∧ rest = [] then some [firstByte x y] else none
      else (base64Value c).bind fun z =>
        if d = 61 then if rest = [] then some [firstByte x y, secondByte y z] else none
        else (base64Value d).bind fun w =>
          (decodeQuanta rest).map fun bytes =>
            firstByte x y :: secondByte y z :: thirdByte z w :: bytes
  | _ => none

/-- `base64.StdEncoding.DecodeString`: line ends are passed over. -/
def decodeString (text : Bytes) : Option Bytes :=
  decodeQuanta (text.filter fun c => c ≠ 10 ∧ c ≠ 13)

theorem base64Value_base64Char : ∀ n < 64, base64Value (base64Char n) = some n := by decide

theorem base64Char_plain {n : Nat} (small : n < 64) :
    base64Char n ≠ 61 ∧ base64Char n ≠ 10 ∧ base64Char n ≠ 13 := by
  have value := base64Value_base64Char n small
  refine ⟨?_, ?_, ?_⟩ <;> rintro same <;> rw [same] at value <;> cases value

theorem firstByte_eq (a b : UInt8) :
    firstByte (a.toNat / 4) (a.toNat % 4 * 16 + b.toNat / 16) = a := by
  have small := b.toNat_lt
  have same : a.toNat / 4 * 4 + (a.toNat % 4 * 16 + b.toNat / 16) / 16 = a.toNat := by omega
  rw [firstByte, same, UInt8.ofNat_toNat]

theorem firstByte_last (a : UInt8) : firstByte (a.toNat / 4) (a.toNat % 4 * 16) = a :=
  firstByte_eq a 0

theorem secondByte_eq (a b c : UInt8) :
    secondByte (a.toNat % 4 * 16 + b.toNat / 16) (b.toNat % 16 * 4 + c.toNat / 64) = b := by
  have small := b.toNat_lt
  have other := c.toNat_lt
  have same : (a.toNat % 4 * 16 + b.toNat / 16) % 16 * 16 + (b.toNat % 16 * 4 + c.toNat / 64) / 4 =
      b.toNat := by omega
  rw [secondByte, same, UInt8.ofNat_toNat]

theorem secondByte_last (a b : UInt8) :
    secondByte (a.toNat % 4 * 16 + b.toNat / 16) (b.toNat % 16 * 4) = b :=
  secondByte_eq a b 0

theorem thirdByte_eq (b c : UInt8) :
    thirdByte (b.toNat % 16 * 4 + c.toNat / 64) (c.toNat % 64) = c := by
  have small := c.toNat_lt
  have same : (b.toNat % 16 * 4 + c.toNat / 64) % 4 * 64 + c.toNat % 64 = c.toNat := by omega
  rw [thirdByte, same, UInt8.ofNat_toNat]

theorem decodeQuanta_base64 (bytes : Bytes) : decodeQuanta (base64 bytes) = some bytes := by
  have first (a : UInt8) : a.toNat / 4 < 64 := by
    have := a.toNat_lt
    omega
  have second (a b : UInt8) : a.toNat % 4 * 16 + b.toNat / 16 < 64 := by
    have := b.toNat_lt
    omega
  have third (b c : UInt8) : b.toNat % 16 * 4 + c.toNat / 64 < 64 := by
    have := c.toNat_lt
    omega
  have secondLast (a : UInt8) : a.toNat % 4 * 16 < 64 := second a 0
  have thirdLast (b : UInt8) : b.toNat % 16 * 4 < 64 := third b 0
  fun_induction base64 bytes with
  | case1 => rfl
  | case2 a =>
    rw [decodeQuanta, base64Value_base64Char _ (first a), Option.bind_some,
      base64Value_base64Char _ (secondLast a), Option.bind_some, if_pos rfl, if_pos ⟨rfl, rfl⟩,
      firstByte_last]
  | case3 a b =>
    rw [decodeQuanta, base64Value_base64Char _ (first a), Option.bind_some,
      base64Value_base64Char _ (second a b), Option.bind_some,
      if_neg (base64Char_plain (thirdLast b)).1, base64Value_base64Char _ (thirdLast b),
      Option.bind_some, if_pos rfl, if_pos rfl, firstByte_eq, secondByte_last]
  | case4 a b c rest ih =>
    have last : c.toNat % 64 < 64 := Nat.mod_lt _ (by decide)
    rw [decodeQuanta, base64Value_base64Char _ (first a), Option.bind_some,
      base64Value_base64Char _ (second a b), Option.bind_some,
      if_neg (base64Char_plain (third b c)).1, base64Value_base64Char _ (third b c),
      Option.bind_some, if_neg (base64Char_plain last).1, base64Value_base64Char _ last,
      Option.bind_some, ih, firstByte_eq, secondByte_eq, thirdByte_eq]
    rfl

/-- The text of an encoding has no line ends. -/
theorem base64_plain (bytes : Bytes) : ∀ c ∈ base64 bytes, c ≠ 10 ∧ c ≠ 13 := by
  have plain {n : Nat} (small : n < 64) : base64Char n ≠ 10 ∧ base64Char n ≠ 13 :=
    (base64Char_plain small).2
  have pad : (61 : UInt8) ≠ 10 ∧ (61 : UInt8) ≠ 13 := by decide
  have byte (a : UInt8) : a.toNat < 256 := a.toNat_lt
  fun_induction base64 bytes with
  | case1 => exact fun _ inNil => absurd inNil List.not_mem_nil
  | case2 a =>
    have := byte a
    simp only [List.forall_mem_cons]
    exact ⟨plain (by omega), plain (by omega), pad, pad,
      fun _ inNil => absurd inNil List.not_mem_nil⟩
  | case3 a b =>
    have := byte a
    have := byte b
    simp only [List.forall_mem_cons]
    exact ⟨plain (by omega), plain (by omega), plain (by omega), pad,
      fun _ inNil => absurd inNil List.not_mem_nil⟩
  | case4 a b c rest ih =>
    have := byte a
    have := byte b
    have := byte c
    simp only [List.forall_mem_cons]
    exact ⟨plain (by omega), plain (by omega), plain (by omega), plain (by omega), ih⟩

theorem decodeString_base64 (bytes : Bytes) : decodeString (base64 bytes) = some bytes := by
  have same : (base64 bytes).filter (fun c => c ≠ 10 ∧ c ≠ 13) = base64 bytes :=
    List.filter_eq_self.mpr fun c inText => decide_eq_true (base64_plain bytes c inText)
  rw [decodeString, same, decodeQuanta_base64]

/-! ## Versions -/

/-- The range of `int`. -/
def IsInt (n : Int) : Prop := -2 ^ 63 ≤ n ∧ n < 2 ^ 63

def isDigit (c : UInt8) : Bool := 48 ≤ c.toNat ∧ c.toNat ≤ 57

def digitsValue (digits : Bytes) : Option Nat :=
  if digits ≠ [] ∧ digits.all isDigit then
    some (digits.foldl (fun n c => 10 * n + (c.toNat - 48)) 0)
  else none

/-- A number in the range of `int`. -/
def inRange (n : Int) : Option Int := if -2 ^ 63 ≤ n ∧ n < 2 ^ 63 then some n else none

/-- `strconv.Atoi`. -/
def atoi : Bytes → Option Int
  | [] => none
  | c :: digits =>
    if c = 45 then (digitsValue digits).bind fun n => inRange (-n)
    else if c = 43 then (digitsValue digits).bind fun n => inRange n
    else (digitsValue (c :: digits)).bind fun n => inRange n

def asciiBytes (text : List Char) : Bytes := text.map fun c => UInt8.ofNat c.toNat

/-- `%d` of an integer. -/
def printInt (n : Int) : Bytes := asciiBytes (paddedInt 0 n)

theorem toNat_ofNat_of_isDigit {c : Char} (digit : c.isDigit = true) :
    (UInt8.ofNat c.toNat).toNat = c.toNat ∧ 48 ≤ c.toNat ∧ c.toNat ≤ 57 := by
  have range : 48 ≤ c.toNat ∧ c.toNat ≤ 57 := by
    simpa [Char.isDigit, UInt32.le_iff_toNat_le] using digit
  refine ⟨?_, range⟩
  rw [UInt8.toNat_ofNat']
  omega

theorem foldl_asciiBytes {digits : List Char} (all : ∀ c ∈ digits, c.isDigit = true) (start : Nat) :
    (asciiBytes digits).foldl (fun n c => 10 * n + (c.toNat - 48)) start =
      Nat.ofDigitChars 10 digits start := by
  induction digits generalizing start with
  | nil => rw [Nat.ofDigitChars_nil]; rfl
  | cons c digits ih =>
    obtain ⟨digit, others⟩ := List.forall_mem_cons.mp all
    rw [Nat.ofDigitChars_cons, ← ih others]
    change (asciiBytes digits).foldl _ (10 * start + ((UInt8.ofNat c.toNat).toNat - 48)) = _
    rw [(toNat_ofNat_of_isDigit digit).1]
    rfl

theorem digitsValue_paddedDigits (n : Nat) :
    digitsValue (asciiBytes (paddedDigits 0 n)) = some n := by
  have all : ∀ c ∈ paddedDigits 0 n, c.isDigit = true :=
    fun c inDigits => isDigit_of_mem_paddedDigits inDigits
  have nonempty : asciiBytes (paddedDigits 0 n) ≠ [] := by
    intro empty
    have lengths := congrArg List.length empty
    have positive : 0 < (Nat.toDigits 10 n).length := Nat.length_toDigits_pos
    simp only [asciiBytes, paddedDigits, List.length_map, List.length_append,
      List.length_replicate, List.length_nil] at lengths
    omega
  have digits : (asciiBytes (paddedDigits 0 n)).all isDigit = true := by
    refine List.all_eq_true.mpr fun c inBytes => ?_
    obtain ⟨d, inDigits, rfl⟩ := List.mem_map.mp inBytes
    obtain ⟨same, range⟩ := toNat_ofNat_of_isDigit (all d inDigits)
    rw [isDigit, same]
    exact decide_eq_true range
  rw [digitsValue, if_pos ⟨nonempty, digits⟩, foldl_asciiBytes all, ofDigitChars_paddedDigits]

/-- A printed version is read back. -/
theorem atoi_printInt {n : Int} (isInt : IsInt n) : atoi (printInt n) = some n := by
  have range (m : Int) (isInt : IsInt m) : inRange m = some m := if_pos isInt
  cases n with
  | ofNat n =>
    have value := digitsValue_paddedDigits n
    rw [printInt, paddedInt]
    cases digits : paddedDigits 0 n with
    | nil =>
      rw [digits] at value
      cases value
    | cons c others =>
      have digit : c.isDigit = true :=
        isDigit_of_mem_paddedDigits (digits ▸ List.mem_cons_self : c ∈ paddedDigits 0 n)
      obtain ⟨same, least, -⟩ := toNat_ofNat_of_isDigit digit
      have noSign : UInt8.ofNat c.toNat ≠ 45 ∧ UInt8.ofNat c.toNat ≠ 43 := by
        refine ⟨?_, ?_⟩ <;> intro sign <;> rw [sign] at same
        · have : (45 : UInt8).toNat = 45 := rfl
          omega
        · have : (43 : UInt8).toNat = 43 := rfl
          omega
      rw [digits] at value
      change (if UInt8.ofNat c.toNat = 45 then _ else if UInt8.ofNat c.toNat = 43 then _
        else (digitsValue (asciiBytes (c :: others))).bind fun n : Nat => inRange n) = _
      rw [if_neg noSign.1, if_neg noSign.2, value, Option.bind_some]
      exact range (Int.ofNat n) isInt
  | negSucc n =>
    change (digitsValue (asciiBytes (paddedDigits 0 (n + 1)))).bind (fun n : Nat =>
      inRange (-n)) = _
    have same : -((n + 1 : Nat) : Int) = Int.negSucc n := rfl
    rw [digitsValue_paddedDigits, Option.bind_some, same]
    exact range (Int.negSucc n) isInt

theorem colon_notMem_printInt (n : Int) : 58 ∉ printInt n := by
  intro inText
  obtain ⟨c, inChars, isColon⟩ := List.mem_map.mp inText
  have digits {m : Nat} (inDigits : c ∈ paddedDigits 0 m) : False := by
    obtain ⟨same, -, most⟩ := toNat_ofNat_of_isDigit (isDigit_of_mem_paddedDigits inDigits)
    rw [isColon] at same
    have : (58 : UInt8).toNat = 58 := rfl
    omega
  cases n with
  | ofNat n => exact digits inChars
  | negSucc n =>
    rcases List.mem_cons.mp inChars with rfl | inDigits
    · cases isColon
    · exact digits inDigits

/-! ## Encrypting and decrypting -/

/-- `gcm.NonceSize()`. -/
def nonceSize : Nat := 12

/-- AES-GCM: the ciphertext of a plaintext under a key and a nonce, and its inverse. -/
structure Cipher where
  Seal : (key nonce plaintext : Bytes) → Bytes
  Open : (key nonce ciphertext : Bytes) → Option Bytes

inductive CryptoError where
  | keyLength (length : Nat)
  | readNonce
  | invalidFormat
  | parseVersion
  | decodeBase64
  | tooShort
  | decrypt

variable (cipher : Cipher)

/-- The nonce is what the random source has returned, if it has not failed. -/
def Encrypt (key plaintext : Bytes) (keyVersion : Int) (nonce : Option Bytes) :
    Except CryptoError Bytes :=
  if key.length ≠ 32 then .error (.keyLength key.length)
  else
    match nonce with
    | none => .error .readNonce
    | some nonce => .ok (118 :: (printInt keyVersion ++
        58 :: base64 (nonce ++ cipher.Seal key nonce plaintext)))

/-- The version text and the rest of an envelope, which are separated by the first colon. -/
def splitEnvelope (envelope : Bytes) : Option (Bytes × Bytes) :=
  match envelope.dropWhile (· ≠ 58) with
  | [] => none
  | _ :: rest =>
    match envelope.takeWhile (· ≠ 58) with
    | 118 :: version => some (version, rest)
    | _ => none

def Decrypt (key envelope : Bytes) : Except CryptoError (Bytes × Int) :=
  if key.length ≠ 32 then .error (.keyLength key.length)
  else
    match splitEnvelope envelope with
    | none => .error .invalidFormat
    | some (version, text) =>
      match atoi version with
      | none => .error .parseVersion
      | some ver =>
        match decodeString text with
        | none => .error .decodeBase64
        | some ciphertext =>
          if ciphertext.length < nonceSize then .error .tooShort
          else
            match cipher.Open key (ciphertext.take nonceSize)
              (ciphertext.drop nonceSize) with
            | none => .error .decrypt
            | some plain => .ok (plain, ver)

def KeyVersion (envelope : Bytes) : Except CryptoError Int :=
  match splitEnvelope envelope with
  | none => .error .invalidFormat
  | some (version, _) =>
    match atoi version with
    | none => .error .parseVersion
    | some ver => .ok ver

/-! ## What was sealed -/

/-- A call of `Encrypt` that succeeds. -/
structure Sealed where
  key : Bytes
  plaintext : Bytes
  keyVersion : Int
  nonce : Bytes
  keyLength : key.length = 32
  nonceLength : nonce.length = nonceSize
  isInt : IsInt keyVersion

/-- The cipher is ideal for the calls made so far: it opens what they have sealed, and nothing
else. -/
structure Cipher.Ideal (history : List Sealed) : Prop where
  opens : ∀ s ∈ history, cipher.Open s.key s.nonce (cipher.Seal s.key s.nonce s.plaintext) =
    some s.plaintext
  authentic : ∀ {key nonce ciphertext plaintext}, cipher.Open key nonce ciphertext =
    some plaintext → ∃ s ∈ history, s.key = key ∧ s.nonce = nonce ∧ s.plaintext = plaintext ∧
      ciphertext = cipher.Seal key nonce plaintext

/-- The bytes that `Encrypt` encodes. -/
def Sealed.ciphertext (s : Sealed) : Bytes := s.nonce ++ cipher.Seal s.key s.nonce s.plaintext

/-- The envelope that `Encrypt` returns. -/
def Sealed.envelope (s : Sealed) : Bytes :=
  118 :: (printInt s.keyVersion ++ 58 :: base64 (s.ciphertext cipher))

variable {cipher} {history : List Sealed} {key envelope plaintext version text : Bytes} {ver : Int}

theorem encrypt_eq (s : Sealed) :
    Encrypt cipher s.key s.plaintext s.keyVersion (some s.nonce) = .ok (s.envelope cipher) :=
  if_neg fun different => different s.keyLength

theorem splitEnvelope_eq_some_iff : splitEnvelope envelope = some (version, text) ↔
    envelope = 118 :: (version ++ 58 :: text) ∧ 58 ∉ version := by
  constructor
  · intro split
    have whole := List.takeWhile_append_dropWhile (p := (· ≠ 58)) (l := envelope)
    have before : 58 ∉ envelope.takeWhile (· ≠ 58) := by
      intro inFront
      have kept := List.mem_takeWhile_imp inFront
      exact absurd rfl (of_decide_eq_true kept)
    have stops := List.head?_dropWhile_not (· ≠ 58) envelope
    rw [splitEnvelope] at split
    cases behind : envelope.dropWhile (· ≠ 58) with
    | nil =>
      rw [behind] at split
      cases split
    | cons c rest =>
      rw [behind] at split stops whole
      obtain rfl : c = 58 := by simpa using stops
      dsimp only at split
      split at split
      · rename_i front isFront
        obtain ⟨rfl, rfl⟩ := Prod.mk.inj (Option.some.inj split)
        rw [isFront] at whole before
        exact ⟨whole.symm, fun inVersion => before (List.mem_cons_of_mem _ inVersion)⟩
      · cases split
  · rintro ⟨rfl, noColon⟩
    have front : ∀ c ∈ 118 :: version, decide (c ≠ 58) = true := by
      intro c inFront
      refine decide_eq_true ?_
      rintro rfl
      rcases List.mem_cons.mp inFront with same | inVersion
      · cases same
      · exact noColon inVersion
    have taken : (118 :: version ++ 58 :: text).takeWhile (· ≠ 58) = 118 :: version := by
      rw [List.takeWhile_append_of_pos front, List.takeWhile_cons_of_neg (by decide),
        List.append_nil]
    have dropped : (118 :: version ++ 58 :: text).dropWhile (· ≠ 58) = 58 :: text := by
      rw [List.dropWhile_append_of_pos front, List.dropWhile_cons_of_neg (by decide)]
    rw [splitEnvelope, ← List.cons_append, taken, dropped]
    rfl

/-- What a successful call has read. -/
theorem decrypt_cases (decrypted : Decrypt cipher key envelope = .ok (plaintext, ver)) :
    key.length = 32 ∧ ∃ version text ciphertext, splitEnvelope envelope = some (version, text) ∧
      atoi version = some ver ∧ decodeString text = some ciphertext ∧
      nonceSize ≤ ciphertext.length ∧
      cipher.Open key (ciphertext.take nonceSize) (ciphertext.drop nonceSize) =
        some plaintext := by
  rw [Decrypt] at decrypted
  by_cases keyLength : key.length ≠ 32
  · rw [if_pos keyLength] at decrypted
    cases decrypted
  rw [if_neg keyLength] at decrypted
  refine ⟨of_not_not keyLength, ?_⟩
  split at decrypted
  · cases decrypted
  rename_i version text splits
  split at decrypted
  · cases decrypted
  rename_i number read
  split at decrypted
  · cases decrypted
  rename_i ciphertext decoded
  split at decrypted
  · cases decrypted
  rename_i long
  split at decrypted
  · cases decrypted
  rename_i plain opened
  obtain ⟨rfl, rfl⟩ := Prod.mk.inj (Except.ok.inj decrypted)
  exact ⟨version, text, ciphertext, splits, read, decoded, Nat.not_lt.mp long, opened⟩

/-- Decrypting gives a plaintext exactly when the bytes behind the text were sealed for it; the
version is what the text in front says. -/
theorem decrypt_eq_ok_iff (ideal : cipher.Ideal history) :
    Decrypt cipher key envelope = .ok (plaintext, ver) ↔
      ∃ version text, envelope = 118 :: (version ++ 58 :: text) ∧ 58 ∉ version ∧
        atoi version = some ver ∧ ∃ s ∈ history, s.key = key ∧ s.plaintext = plaintext ∧
          decodeString text = some (s.ciphertext cipher) := by
  constructor
  · intro decrypted
    obtain ⟨-, version, text, ciphertext, splits, read, decoded, -, opened⟩ :=
      decrypt_cases decrypted
    obtain ⟨isEnvelope, noColon⟩ := splitEnvelope_eq_some_iff.mp splits
    obtain ⟨s, inHistory, rfl, isNonce, rfl, isBody⟩ := ideal.authentic opened
    refine ⟨version, text, isEnvelope, noColon, read, s, inHistory, rfl, rfl, ?_⟩
    rw [decoded, Sealed.ciphertext, isNonce, ← isBody, List.take_append_drop]
  · rintro ⟨version, text, rfl, noColon, read, s, inHistory, rfl, rfl, decoded⟩
    have taken : (s.ciphertext cipher).take nonceSize = s.nonce := by
      rw [Sealed.ciphertext, ← s.nonceLength, List.take_left]
    have dropped : (s.ciphertext cipher).drop nonceSize =
        cipher.Seal s.key s.nonce s.plaintext := by
      rw [Sealed.ciphertext, ← s.nonceLength, List.drop_left]
    have long : ¬ (s.ciphertext cipher).length < nonceSize := by
      rw [Sealed.ciphertext, List.length_append, s.nonceLength]
      omega
    rw [Decrypt, if_neg fun different => different s.keyLength,
      splitEnvelope_eq_some_iff.mpr ⟨rfl, noColon⟩]
    dsimp only
    rw [read]
    dsimp only
    rw [decoded]
    dsimp only
    rw [if_neg long, taken, dropped, ideal.opens s inHistory]

theorem keyVersion_of_decrypt (decrypted : Decrypt cipher key envelope = .ok (plaintext, ver)) :
    KeyVersion envelope = .ok ver := by
  obtain ⟨-, version, text, ciphertext, splits, read, -⟩ := decrypt_cases decrypted
  rw [KeyVersion, splits]
  dsimp only
  rw [read]

theorem decrypt_envelope (ideal : cipher.Ideal history) {s : Sealed} (inHistory : s ∈ history) :
    Decrypt cipher s.key (s.envelope cipher) = .ok (s.plaintext, s.keyVersion) :=
  (decrypt_eq_ok_iff ideal).mpr ⟨printInt s.keyVersion, base64 (s.ciphertext cipher), rfl,
    colon_notMem_printInt s.keyVersion, atoi_printInt s.isInt, s, inHistory, rfl, rfl,
    decodeString_base64 _⟩

/-- What `Encrypt` returns is decrypted to its plaintext and version, on which `KeyVersion` agrees,
and only an envelope with the very bytes that were sealed is decrypted, whatever the version in
front of them and however they are written in base64. -/
theorem decrypt_authentic (ideal : cipher.Ideal history) :
    (∀ s ∈ history, ∀ envelope,
      Encrypt cipher s.key s.plaintext s.keyVersion (some s.nonce) = .ok envelope →
        Decrypt cipher s.key envelope = .ok (s.plaintext, s.keyVersion) ∧
          KeyVersion envelope = .ok s.keyVersion) ∧
    ∀ key envelope plaintext ver, Decrypt cipher key envelope = .ok (plaintext, ver) →
      KeyVersion envelope = .ok ver ∧
      ∃ version text, envelope = 118 :: (version ++ 58 :: text) ∧ 58 ∉ version ∧
        atoi version = some ver ∧ ∃ s ∈ history, s.key = key ∧ s.plaintext = plaintext ∧
          decodeString text = some (s.ciphertext cipher) := by
  constructor
  · intro s inHistory envelope encrypted
    obtain rfl := Except.ok.inj ((encrypt_eq s).symm.trans encrypted)
    have decrypted := decrypt_envelope ideal inHistory
    exact ⟨decrypted, keyVersion_of_decrypt decrypted⟩
  · intro key envelope plaintext ver decrypted
    exact ⟨keyVersion_of_decrypt decrypted, (decrypt_eq_ok_iff ideal).mp decrypted⟩

def sampleSealed : Sealed where
  key := List.replicate 32 7
  plaintext := [100]
  keyVersion := 1
  nonce := List.replicate 12 3
  keyLength := rfl
  nonceLength := rfl
  isInt := ⟨by decide, by decide⟩

def sampleCipher : Cipher where
  Seal _ _ plaintext := plaintext ++ List.replicate 16 0
  Open key nonce ciphertext :=
    if sampleSealed.key = key ∧ sampleSealed.nonce = nonce ∧
      ciphertext = sampleSealed.plaintext ++ List.replicate 16 0 then some sampleSealed.plaintext
    else none

theorem sampleCipher_ideal : sampleCipher.Ideal [sampleSealed] where
  opens := by
    intro s inHistory
    obtain rfl := List.mem_singleton.mp inHistory
    rfl
  authentic := by
    intro key nonce ciphertext plaintext opened
    change (if _ then _ else _) = _ at opened
    split at opened
    · rename_i same
      obtain rfl := Option.some.inj opened
      exact ⟨sampleSealed, List.mem_singleton_self _, same.1, same.2.1, rfl, same.2.2⟩
    · cases opened

theorem sampleSealed_authentic :
    Decrypt sampleCipher sampleSealed.key (sampleSealed.envelope sampleCipher) = .ok ([100], 1) ∧
      KeyVersion (sampleSealed.envelope sampleCipher) = .ok 1 :=
  (decrypt_authentic sampleCipher_ideal).1 sampleSealed (List.mem_singleton_self _) _
    (encrypt_eq sampleSealed)

/-- Another version in front, or a line feed in the text, is not noticed. -/
theorem altered_decrypted : ∃ relabelled broken,
    Decrypt sampleCipher sampleSealed.key relabelled = .ok ([100], 2) ∧
    Decrypt sampleCipher sampleSealed.key broken = .ok ([100], 1) ∧
    ∀ s ∈ [sampleSealed], ∀ envelope, Encrypt sampleCipher s.key s.plaintext s.keyVersion
      (some s.nonce) = .ok envelope → envelope ≠ relabelled ∧ envelope ≠ broken := by
  refine ⟨118 :: ([50] ++ 58 :: base64 (sampleSealed.ciphertext sampleCipher)),
    118 :: ([49] ++ 58 :: 10 :: base64 (sampleSealed.ciphertext sampleCipher)), ?_, ?_, ?_⟩
  · exact (decrypt_eq_ok_iff sampleCipher_ideal).mpr ⟨_, _, rfl, by decide, by decide,
      sampleSealed, List.mem_singleton_self _, rfl, rfl, decodeString_base64 _⟩
  · exact (decrypt_eq_ok_iff sampleCipher_ideal).mpr ⟨_, _, rfl, by decide, by decide,
      sampleSealed, List.mem_singleton_self _, rfl, rfl, decodeString_base64 _⟩
  · intro s inHistory envelope encrypted
    obtain rfl := List.mem_singleton.mp inHistory
    obtain rfl := Except.ok.inj ((encrypt_eq sampleSealed).symm.trans encrypted)
    exact ⟨by decide, by decide⟩

end ErpFinance.Crypto
