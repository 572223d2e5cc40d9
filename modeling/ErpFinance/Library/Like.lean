import Mathlib.Data.List.Infix

/-!
# Patterns

The `LIKE` of a database on the characters of a text.  A percent sign stands for
any characters, an underscore for one, and a backslash takes the character after
it literally.
-/

namespace ErpFinance.Library

inductive LikePart where
  | any
  | one
  | char (c : Char)

namespace LikePart

/-- The parts that a pattern is written of.  A backslash at its end stands for nothing: the
database refuses such a pattern. -/
def parts : List Char → List LikePart
  | [] => []
  | '\\' :: c :: rest => .char c :: parts rest
  | c :: rest =>
    (if c = '%' then .any else if c = '_' then .one else .char c) :: parts rest

/-- Whether the characters are what the parts stand for, in their order. -/
def fits : List LikePart → List Char → Bool
  | [], text => text.isEmpty
  | .any :: rest, text => text.tails.any (fits rest)
  | .one :: rest, text => text.head?.isSome && fits rest text.tail
  | .char c :: rest, text => text.head? == some c && fits rest text.tail

end LikePart

/-- `text LIKE pattern`. -/
def like (pattern text : List Char) : Bool := LikePart.fits (LikePart.parts pattern) text

end ErpFinance.Library
