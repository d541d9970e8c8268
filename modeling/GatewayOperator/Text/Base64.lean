/-!
# Base64 text

The texts that stand for bytes: groups of four characters of the standard alphabet, the last one
filled up with equals signs. Unused bits of the last character are zero, so each sequence of bytes
has one text.
-/

namespace GatewayOperator

namespace Base64

/-- The six bits that a character stands for. -/
def value? (c : Char) : Option Nat :=
  if 'A' ≤ c ∧ c ≤ 'Z' then some (c.toNat - 'A'.toNat)
  else if 'a' ≤ c ∧ c ≤ 'z' then some (c.toNat - 'a'.toNat + 26)
  else if '0' ≤ c ∧ c ≤ '9' then some (c.toNat - '0'.toNat + 52)
  else if c = '+' then some 62
  else if c = '/' then some 63
  else none

/-- Whether characters spell a sequence of bytes. -/
def spells : List Char → Bool
  | [] => true
  | [a, b, '=', '='] => (value? a).isSome && ((value? b).map (· % 16)) == some 0
  | [a, b, c, '='] =>
    (value? a).isSome && (value? b).isSome && ((value? c).map (· % 4)) == some 0
  | a :: b :: c :: d :: rest =>
    (value? a).isSome && (value? b).isSome && (value? c).isSome && (value? d).isSome && spells rest
  | _ => false

/-- Whether a text spells a sequence of bytes. -/
def isValid (text : String) : Bool := spells text.toList

end Base64

end GatewayOperator
