import GatewayOperator.Yaml.Cursor
import GatewayOperator.Json.Reader

/-!
# Quoted scalars, from the character after their quote on

Between single quotes a quote is written twice; between double quotes a backslash starts an escape
or hides the end of a line. Breaks fold as in plain scalars.
-/

namespace GatewayOperator

namespace Yaml

/-- The number of some hexadecimal digits, if that many come first. -/
def hexNumber? (count : Nat) (cs : List Char) : Option Nat :=
  if cs.length < count then none
  else (cs.take count).foldl
    (fun acc c => acc.bind fun n => (Json.hexValue? c).map (n * 16 + ·)) (some 0)

/-- The character of a number, unless no character has it. -/
def character? (n : Nat) : Option Char :=
  if n ≤ 0xd7ff || (0xe000 ≤ n && n ≤ 0x10ffff) then some (Char.ofNat n) else none

/-- What stands for one character after a backslash. -/
def shortEscape? : Char → Option Char
  | '0' => some '\x00'
  | 'a' => some '\x07'
  | 'b' => some '\x08'
  | 't' | '\t' => some '\t'
  | 'n' => some '\n'
  | 'v' => some '\x0b'
  | 'f' => some '\x0c'
  | 'r' => some '\r'
  | 'e' => some '\x1b'
  | ' ' => some ' '
  | '"' => some '"'
  | '/' => some '/'
  | '\\' => some '\\'
  | 'N' => some '\u0085'
  | '_' => some '\u00a0'
  | 'L' => some '\u2028'
  | 'P' => some '\u2029'
  | _ => none

/-- How many hexadecimal digits an escape has. -/
def hexWidth? : Char → Option Nat
  | 'x' => some 2
  | 'u' => some 4
  | 'U' => some 8
  | _ => none

/-- The character of an escape and the count of characters after the backslash that make it up. -/
def escape? : List Char → Option (Char × Nat)
  | [] => none
  | c :: rest =>
    match shortEscape? c, hexWidth? c with
    | some d, _ => some (d, 1)
    | none, some width => ((hexNumber? width rest).bind character?).map fun d => (d, width + 1)
    | none, none => none

/-- The end of a line that a backslash hides. -/
def Folding.hideBreak (f : Folding) : Folding := { f.join with isOver := true }

/-- The text of a quoted scalar, with the place after its closing quote. -/
def quotedFrom (isSingle : Bool) (p : Cursor) (f : Folding) : Except ReadError (Folding × Cursor) :=
  if p.isAtDocumentMark then .error .documentInQuotes
  else
    match _h : p.rest with
    | [] => .error .unclosedQuote
    | c :: rest =>
      if isLineBreak c then quotedFrom isSingle p.skip (f.break_ c)
      else if isSpacing c then quotedFrom isSingle p.skip (f.blank c)
      else if isSingle then
        if c = '\'' then
          if rest.head? = some '\'' then quotedFrom isSingle (p.skip.skipN 1) (f.push '\'')
          else .ok (f.join, p.skip)
        else quotedFrom isSingle p.skip (f.push c)
      else if c = '"' then .ok (f.join, p.skip)
      else if c = '\\' then
        if rest.head?.any isLineBreak then quotedFrom isSingle (p.skip.skipN 1) f.hideBreak
        else
          match escape? rest with
          | some (d, count) => quotedFrom isSingle (p.skip.skipN count) (f.push d)
          | none => .error .badEscape
      else quotedFrom isSingle p.skip (f.push c)
termination_by p.rest.length
decreasing_by
  all_goals first | exact Cursor.length_skip_lt _h | exact Cursor.length_skipN_skip_lt _h _

end Yaml

end GatewayOperator
