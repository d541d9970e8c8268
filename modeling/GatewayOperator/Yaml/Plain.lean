import GatewayOperator.Yaml.Cursor

/-!
# Plain scalars, from their first character on

A plain scalar goes on to a colon before a blank, to a comment, to the mark of a document and,
between brackets, to a bracket or comma; outside of brackets its further lines are indented.
-/

namespace GatewayOperator

namespace Yaml

/-- The brackets. -/
def isBracket (c : Char) : Bool := c = '[' || c = ']' || c = '\x7b' || c = '\x7d'

/-- Whether a colon between brackets runs into an indicator. -/
def isColonAtIndicator : List Char → Bool
  | ':' :: c :: _ => c = ',' || c = '?' || isBracket c
  | _ => false

/-- Whether the next character ends a plain scalar. -/
def endsPlain (inBrackets : Bool) : List Char → Bool
  | ':' :: rest => endsWord rest
  | c :: _ => inBrackets && (c = ',' || isBracket c)
  | [] => true

/-- The text of a plain scalar, with the place after it and the blanks that follow. -/
def plainFrom (inBrackets : Bool) (indent : Int) (p : Cursor) (f : Folding) :
    Except ReadError (Folding × Cursor) :=
  match _h : p.rest with
  | [] => .ok (f, p)
  | c :: _ =>
    if isLineBreak c then plainFrom inBrackets indent p.skip (f.break_ c)
    else if isSpacing c then
      if f.isOver && (p.column : Int) < indent && c = '\t' then .error .tab
      else plainFrom inBrackets indent p.skip (f.blank c)
    else if f.isPending && !inBrackets && (p.column : Int) < indent then .ok (f, p)
    else if p.isAtDocumentMark || (f.isPending && c = '#') then .ok (f, p)
    else if inBrackets && isColonAtIndicator p.rest then .error .colonInWord
    else if endsPlain inBrackets p.rest then .ok (f, p)
    else plainFrom inBrackets indent p.skip (f.push c)
termination_by p.rest.length
decreasing_by all_goals exact Cursor.length_skip_lt _h

end Yaml

end GatewayOperator
