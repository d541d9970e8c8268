import GatewayOperator.Yaml.Cursor

/-!
# Block scalars, from the character after their mark on

A header says how the text ends and may fix its indentation; the first line with text fixes it
otherwise. A literal scalar keeps its breaks; a folded one joins lines that start with no blank.
-/

namespace GatewayOperator

namespace Yaml

/-- What becomes of the breaks at the end of a block scalar. -/
inductive Chomping where
  | strip
  | clip
  | keep
  deriving DecidableEq, Repr

/-- The line behind a block scalar's mark; an indentation of zero is found from the text. -/
structure BlockHeader where
  chomping : Chomping := .clip
  indent : Nat := 0
  deriving DecidableEq, Repr

namespace BlockHeader

/-- What a sign says about the end. -/
def chomping? : List Char → Option Chomping
  | '+' :: _ => some .keep
  | '-' :: _ => some .strip
  | _ => none

/-- A digit other than zero, if a digit is next. -/
def indent? : List Char → Except ReadError (Option Nat)
  | c :: _ =>
    if c.isDigit then
      if c = '0' then .error .badBlockHeader else .ok (some (c.toNat - '0'.toNat))
    else .ok none
  | [] => .ok none

/-- The header and the place after its signs. -/
def read (p : Cursor) : Except ReadError (BlockHeader × Cursor) := do
  match chomping? p.rest with
  | some chomping =>
    let p := p.skip
    match ← indent? p.rest with
    | some indent => pure (⟨chomping, indent⟩, p.skip)
    | none => pure (⟨chomping, 0⟩, p)
  | none =>
    match ← indent? p.rest with
    | some indent =>
      let p := p.skip
      match chomping? p.rest with
      | some chomping => pure (⟨chomping, indent⟩, p.skip)
      | none => pure (⟨.clip, indent⟩, p)
    | none => pure ({}, p)

end BlockHeader

/-- The place on the next line, unless more than a comment is left on this one. -/
def lineEnd (p : Cursor) (error : ReadError) : Except ReadError Cursor :=
  let p := p.skipComment
  if p.isAtLineEnd then .ok p.skip else .error error

/-- Pass over indentation and empty lines: their breaks, latest first, the greatest column and the
place. Without an indentation all spaces indent. -/
def emptyLines (indent : Option Nat) (p : Cursor) (breaks : List Char) (column : Nat) :
    Except ReadError (List Char × Nat × Cursor) :=
  let indents := indent.all (p.column < ·)
  let column := max column p.column
  match _h : p.rest with
  | [] => .ok (breaks, column, p)
  | c :: _ =>
    if c = ' ' && indents then emptyLines indent p.skip breaks column
    else if c = '\t' && indents then .error .tab
    else if isLineBreak c then emptyLines indent p.skip (c :: breaks) column
    else .ok (breaks, column, p)
termination_by p.rest.length
decreasing_by all_goals exact Cursor.length_skip_lt _h

/-- A block scalar while its lines are gathered; lists are reversed. -/
structure BlockText where
  text : List Char := []
  /-- the break of the last line -/
  last : Option Char := none
  /-- the breaks of the empty lines after it -/
  breaks : List Char := []
  /-- whether the last line starts with a blank -/
  startsBlank : Bool := false

namespace BlockText

/-- Whether the last break folds ahead of a line. -/
def folds (b : BlockText) (isLiteral : Bool) (line : List Char) : Bool :=
  !isLiteral && b.last = some '\n' && !b.startsBlank && !line.head?.any isSpacing

/-- Put a line after what was gathered. -/
def line (b : BlockText) (isLiteral : Bool) (line : List Char) (last : Option Char) : BlockText :=
  let gap :=
    if b.folds isLiteral line then (if b.breaks.isEmpty then [' '] else []) else b.last.toList
  { text := line.reverse ++ b.breaks ++ gap ++ b.text
    last := last
    startsBlank := line.head?.any isSpacing }

/-- The text, with the breaks at its end that count. -/
def finish (b : BlockText) (chomping : Chomping) : String :=
  String.ofList <| List.reverse <|
    match chomping with
    | .strip => b.text
    | .clip => b.last.toList ++ b.text
    | .keep => b.breaks ++ b.last.toList ++ b.text

end BlockText

/-- Whether a character is no break. -/
def isInLine (c : Char) : Bool := !isLineBreak c

/-- The lines of a block scalar at some indentation. -/
def blockLines (isLiteral : Bool) (indent fuel : Nat) (p : Cursor) (b : BlockText) :
    Except ReadError (BlockText × Cursor) :=
  match fuel with
  | 0 => .ok (b, p)
  | fuel + 1 =>
    if p.column ≠ indent || p.rest.isEmpty then .ok (b, p)
    else
      let q := p.skipWhile isInLine
      let b := b.line isLiteral (p.ahead isInLine) q.rest.head?
      match emptyLines (some indent) q.skip [] 0 with
      | .error e => .error e
      | .ok (breaks, _, r) => blockLines isLiteral indent fuel r { b with breaks := breaks }

/-- The text of a block scalar within some indentation, with the place after it. -/
def blockFrom (isLiteral : Bool) (outer : Int) (p : Cursor) :
    Except ReadError (String × Cursor) := do
  let (header, p) ← BlockHeader.read p
  let p ← lineEnd p .badBlockHeader
  let fixed := if header.indent = 0 then none else some ((max outer 0).toNat + header.indent)
  let (breaks, column, p) ← emptyLines fixed p [] 0
  let indent := fixed.getD (max (max column (outer + 1).toNat) 1)
  let (b, p) ← blockLines isLiteral indent (p.rest.length + 1) p { breaks := breaks }
  pure (b.finish header.chomping, p)

end Yaml

end GatewayOperator
