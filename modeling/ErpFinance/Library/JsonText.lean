import ErpFinance.Library.Digits

/-!
# JSON texts

The texts that `json.Marshal` writes of strings and of objects with given
members, and the bytes of a text.  Characters that HTML reads specially are
escaped.
-/

namespace ErpFinance.Library

/-- The bytes of a text. -/
def utf8 (text : String) : List UInt8 := text.toList.flatMap String.utf8EncodeChar

/-- A character as a backslash, `u` and four hexadecimal digits. -/
def escapeUnicode (c : Char) : List Char :=
  let digits := Nat.toDigits 16 c.toNat
  '\x5c' :: 'u' :: (List.replicate (4 - digits.length) '0' ++ digits)

/-- A character inside a JSON string. -/
def jsonChar (c : Char) : List Char :=
  if c = '\x22' ∨ c = '\x5c' then ['\x5c', c]
  else if c = '\x08' then ['\x5c', 'b']
  else if c = '\x0c' then ['\x5c', 'f']
  else if c = '\n' then ['\x5c', 'n']
  else if c = '\r' then ['\x5c', 'r']
  else if c = '\t' then ['\x5c', 't']
  else if c.toNat < 0x20 ∨ c ∈ ['<', '>', '&', '\u2028', '\u2029'] then escapeUnicode c
  else [c]

def jsonString (text : String) : String :=
  String.ofList ('\x22' :: text.toList.flatMap jsonChar ++ ['\x22'])

/-- An object of members in their order. -/
def jsonObject (members : List (String × String)) : String :=
  "\x7b" ++ ",".intercalate (members.map fun member => jsonString member.1 ++ ":" ++ member.2) ++
    "\x7d"

end ErpFinance.Library
