import ErpFinance.Domain.Basics

/-!
# Naming patterns

Patterns of identifiers such as `INV-{YYYY}-{SEQ:6}`: their tokens, the parser
and the text a pattern renders to.  Texts are lists of characters until the
whole identifier is put together.
-/

namespace ErpFinance.Naming

open Domain Library

/-- A parsed element of a pattern. -/
inductive Token where
  | literal (text : String)
  | yyyy
  | yy
  | mm
  | dd
  | yyyymm
  | fy
  | org
  | seq (width : Nat)
deriving DecidableEq

def Token.isSEQ : Token → Bool
  | .seq _ => true
  | _ => false

@[simp] theorem Token.isSEQ_literal (text : String) : (literal text).isSEQ = false := rfl

@[simp] theorem Token.isSEQ_seq (width : Nat) : (seq width).isSEQ = true := rfl

def hasSEQ (tokens : List Token) : Bool := tokens.any Token.isSEQ

/-! ## Parsing -/

def isAllZeros (s : List Char) : Bool := !s.isEmpty && s.all (· == '0')

/-- `parseWidth`; the accumulator is a 64-bit integer, so a long text wraps around. -/
def parseWidth (s : List Char) : Except String Nat :=
  if s.isEmpty then .error "empty width"
  else if s.any (fun c => c < '0' || '9' < c) then
    .error ("non-numeric width \"" ++ String.ofList s ++ "\"")
  else
    let w := s.foldl (fun w c => int64 (w * 10 + (c.toNat - '0'.toNat : Nat))) 0
    if w < 1 ∨ 20 < w then .error ("width " ++ toString w ++ " out of range [1,20]")
    else .ok w.toNat

def parsePlaceholder (s : List Char) : Except String Token :=
  if s = "YYYY".toList then .ok .yyyy
  else if s = "YY".toList then .ok .yy
  else if s = "MM".toList then .ok .mm
  else if s = "DD".toList then .ok .dd
  else if s = "YYYYMM".toList then .ok .yyyymm
  else if s = "FY".toList then .ok .fy
  else if s = "ORG".toList then .ok .org
  else if "SEQ:".toList.isPrefixOf s then
    ((parseWidth (s.drop 4)).map .seq).mapError fun err =>
      "invalid SEQ width \"" ++ String.ofList (s.drop 4) ++ "\": " ++ err
  else if isAllZeros s then .ok (.seq s.length)
  else .error ("unknown placeholder \x7b" ++ String.ofList s ++ "\x7d")

/-- The loop of `ParsePattern` over the characters that remain; each turn consumes some. -/
def parseTokens (pattern : String) : Nat → List Char → Except String (List Token)
  | _, [] => .ok []
  | 0, _ => .ok []
  | fuel + 1, remaining =>
    let lead := remaining.takeWhile (· != '\x7b')
    match remaining.dropWhile (· != '\x7b') with
    | [] => .ok [.literal (String.ofList remaining)]
    | _ :: inside =>
      match inside.dropWhile (· != '\x7d') with
      | [] => .error ("naming: unclosed '\x7b' in pattern \"" ++ pattern ++ "\"")
      | _ :: rest => do
          let token ← (parsePlaceholder (inside.takeWhile (· != '\x7d'))).mapError
            fun err => "naming: pattern \"" ++ pattern ++ "\": " ++ err
          let tokens ← parseTokens pattern fuel rest
          return (if lead.isEmpty then [] else [.literal (String.ofList lead)]) ++
            token :: tokens

def parsePattern (pattern : String) : Except String (List Token) :=
  parseTokens pattern pattern.toList.length pattern.toList

/-! ## Rendering -/

/-- The values substituted into the tokens; the time is the one `Render` settles on. -/
structure PatternVars where
  now : Time
  orgCode : String := ""
  sequence : Int := 0
  fiscalYearLabel : String := ""

/-- `fmt.Sprintf("%0*d", width, n)`, which refuses a width of more than a million. -/
def formatSequence (width : Nat) (n : Int) : List Char :=
  if 1000000 < width then "%!(BADWIDTH)".toList ++ paddedInt 0 n else paddedInt width n

/-- What `Render` writes for one token. -/
def Token.write (vars : PatternVars) : Token → List Char
  | .literal text => text.toList
  | .yyyy => paddedInt 4 vars.now.year
  | .yy => paddedInt 2 (vars.now.year.tmod 100)
  | .mm => paddedInt 2 vars.now.month
  | .dd => paddedInt 2 vars.now.day
  | .yyyymm => paddedInt 4 vars.now.year ++ paddedInt 2 vars.now.month
  | .fy =>
    if vars.fiscalYearLabel ≠ "" then vars.fiscalYearLabel.toList
    else "FY".toList ++ paddedInt 4 vars.now.year
  | .org => vars.orgCode.toList
  | .seq width => formatSequence (if width < 1 then 6 else width) vars.sequence

def render (tokens : List Token) (vars : PatternVars) : String :=
  String.ofList (tokens.flatMap (Token.write vars))

theorem Token.write_sequence {token : Token} (fixed : token.isSEQ = false) (vars : PatternVars)
    (n : Int) : token.write { vars with sequence := n } = token.write vars := by
  cases token <;> first | rfl | simp [isSEQ] at fixed

/-- A longer number is never written shorter, whatever the width. -/
theorem formatSequence_length_le {n m : Int}
    (shorter : (paddedInt 0 n).length ≤ (paddedInt 0 m).length) (width : Nat) :
    (formatSequence width n).length ≤ (formatSequence width m).length := by
  unfold formatSequence
  split
  · simp only [List.length_append]
    omega
  · rw [length_paddedInt width n, length_paddedInt width m]
    omega

theorem formatSequence_injective {width : Nat} {n m : Int}
    (same : formatSequence width n = formatSequence width m) : n = m := by
  unfold formatSequence at same
  split at same
  · exact paddedInt_injective (List.append_cancel_left same)
  · exact paddedInt_injective same

end ErpFinance.Naming
