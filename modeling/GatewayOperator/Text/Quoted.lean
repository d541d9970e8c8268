import GatewayOperator.Text.Unprintable

/-!
# Quoted text in messages

A text that a message quotes: quotes, backslashes, line breaks and tabs are escaped, and a character
that cannot be shown is written by its code point.
-/

namespace GatewayOperator

namespace Quoted

/-- A code point in hexadecimal digits between braces. -/
def codePoint (c : Char) : List Char :=
  ['\\', 'u', '{'] ++ Nat.toDigits 16 c.toNat ++ ['}']

/-- How one character stands inside the quotes. -/
def encodeChar (c : Char) : List Char :=
  if c = '"' then ['\\', '"']
  else if c = '\\' then ['\\', '\\']
  else if c = '\n' then ['\\', 'n']
  else if c = '\r' then ['\\', 'r']
  else if c = '\t' then ['\\', 't']
  else if c.toNat = 0 then ['\\', '0']
  else if isUnprintable c then codePoint c
  else [c]

/-- The quoted text. -/
def encode (s : String) : String :=
  "\"" ++ String.ofList (s.toList.flatMap encodeChar) ++ "\""

end Quoted

end GatewayOperator
