import GatewayOperator.Yaml.Plain
import GatewayOperator.Yaml.QuotedScalar
import GatewayOperator.Yaml.Tag

/-!
# Tokens

`Token.ofText` cuts a text into the marks, words and brackets of its documents. Indentation becomes
tokens of its own: a block opens where a line is indented deeper and closes where one is less deep.
A word turns out to be a key only at the colon behind it, so its place is remembered until then
(`Candidate`) and the token for a key is put in front of it. A text that is no YAML gives the tokens
up to the fault, which is the last one.
-/

namespace GatewayOperator

namespace Yaml

/-- How a scalar is written. -/
inductive Form where
  | plain
  | quoted
  | literal
  | folded
  deriving DecidableEq, Repr

inductive Token where
  | directive (d : Directive)
  | documentStart
  | documentEnd
  | listStart
  | mappingStart
  /-- the end of a list or mapping that indentation shows -/
  | blockEnd
  | openBracket
  | closeBracket
  | openBrace
  | closeBrace
  /-- the dash of an item -/
  | item
  | comma
  | key
  | value
  | reference (name : String)
  | anchor (name : String)
  | tag (text : TagText)
  | scalar (text : String) (form : Form)
  | textEnd
  | fault (error : ReadError)
  deriving DecidableEq, Repr

/-! ## Candidates for keys -/

/-- A node that is a key if a colon follows. -/
structure Candidate where
  /-- how many tokens stand before it -/
  place : Nat
  /-- whether nothing but a key can stand there -/
  isRequired : Bool
  line : Nat
  column : Nat
  index : Nat
  deriving DecidableEq, Repr

namespace Candidate

/-- Whether a colon would come too late: a key takes one line, and no more than 1024 characters. -/
def isStale (k : Candidate) (p : Cursor) : Bool := k.line < p.line || k.index + 1024 < p.index

/-- Give a candidate up. -/
def drop : Option Candidate → Except ReadError (Option Candidate)
  | some k => if k.isRequired then .error .keyWithoutValue else .ok none
  | none => .ok none

/-- Give a candidate up when it is stale. -/
def dropStale (p : Cursor) (k : Option Candidate) : Except ReadError (Option Candidate) :=
  if k.any (·.isStale p) then drop k else .ok k

end Candidate

/-! ## The state between two tokens -/

/-- What is left to read, what was read, and what the next token depends on. -/
structure Lexer where
  cursor : Cursor
  /-- latest first -/
  tokens : List Token := []
  /-- the column of the innermost block; none is open at minus one -/
  indent : Int := -1
  /-- the columns of the blocks around it -/
  outerIndents : List Int := []
  /-- whether a key may start here -/
  keyAllowed : Bool := true
  candidate : Option Candidate := none
  /-- the candidates around the open brackets, innermost first -/
  outer : List (Option Candidate) := []
  isOver : Bool := false

namespace Lexer

/-- Whether a bracket is open. -/
def inBrackets (s : Lexer) : Bool := !s.outer.isEmpty

def push (s : Lexer) (t : Token) : Lexer := { s with tokens := t :: s.tokens }

/-- Put tokens in front of those that came after the first `place` ones. -/
def insert (s : Lexer) (place : Nat) (ts : List Token) : Lexer :=
  let later := s.tokens.length - place
  { s with tokens := s.tokens.take later ++ ts.reverse ++ s.tokens.drop later }

/-- Step over the characters of a mark. -/
def skip (s : Lexer) (count : Nat) : Lexer := { s with cursor := s.cursor.skipN count }

/-! ### Blocks -/

/-- How many blocks end at a column, and the indentations that stay. -/
def blocksAt (column indent : Int) : List Int → Nat × Int × List Int
  | [] => (0, indent, [])
  | outer :: rest =>
    if column < indent then
      let (n, indent, rest) := blocksAt column outer rest
      (n + 1, indent, rest)
    else (0, indent, outer :: rest)

/-- Close the blocks that are deeper than a column. Brackets do not depend on indentation. -/
def closeBlocks (s : Lexer) (column : Int) : Lexer :=
  if s.inBrackets then s
  else
    let (n, indent, outerIndents) := blocksAt column s.indent s.outerIndents
    { s with
      tokens := List.replicate n .blockEnd ++ s.tokens
      indent := indent
      outerIndents := outerIndents }

/-- Open a block at a column that is deeper than the innermost one. -/
def openBlock (s : Lexer) (column place : Nat) (start : Token) : Lexer :=
  if s.inBrackets || (column : Int) ≤ s.indent then s
  else
    { s.insert place [start] with
      indent := column
      outerIndents := s.indent :: s.outerIndents }

/-! ### Keys -/

/-- Give the candidate up. -/
def dropCandidate (s : Lexer) : Except ReadError Lexer :=
  (Candidate.drop s.candidate).map fun k => { s with candidate := k }

/-- Give all stale candidates up. -/
def dropStale (s : Lexer) : Except ReadError Lexer := do
  let outer ← s.outer.reverse.mapM (Candidate.dropStale s.cursor)
  let candidate ← Candidate.dropStale s.cursor s.candidate
  pure { s with outer := outer.reverse, candidate := candidate }

/-- Remember the next token as a candidate, if a key may start here. -/
def saveCandidate (s : Lexer) : Except ReadError Lexer := do
  if s.keyAllowed then
    let s ← s.dropCandidate
    let p := s.cursor
    pure { s with candidate := some {
      place := s.tokens.length
      isRequired := !s.inBrackets && s.indent = (p.column : Int)
      line := p.line
      column := p.column
      index := p.index } }
  else pure s

/-! ### Between tokens -/

/-- The place of the next token, and whether a key may start there: outside of brackets, on every
new line. Tabs do not indent. -/
def nextPlace (inBrackets keyAllowed : Bool) (p : Cursor) : Cursor × Bool :=
  match _h : p.rest with
  | [] => (p, keyAllowed)
  | c :: _ =>
    if (c = '\ufeff' && p.column = 0) || c = ' ' || (c = '\t' && (inBrackets || !keyAllowed)) then
      nextPlace inBrackets keyAllowed p.skip
    else if c = '#' then
      nextPlace inBrackets keyAllowed (p.skip.skipN (p.skip.ahead isInLine).length)
    else if isLineBreak c then nextPlace inBrackets (keyAllowed || !inBrackets) p.skip
    else (p, keyAllowed)
termination_by p.rest.length
decreasing_by
  all_goals first | exact Cursor.length_skip_lt _h | exact Cursor.length_skipN_skip_lt _h _

/-! ### Tokens -/

/-- The end of the text. -/
def finish (s : Lexer) : Except ReadError Lexer := do
  let s ← (s.closeBlocks (-1)).dropCandidate
  pure { s.push .textEnd with isOver := true }

def directive (s : Lexer) : Except ReadError Lexer := do
  let s ← (s.closeBlocks (-1)).dropCandidate
  let (d, p) ← Directive.read s.cursor
  pure { s.push (.directive d) with cursor := p, keyAllowed := false }

/-- The mark of a document's start or end. -/
def documentMark (s : Lexer) (t : Token) : Except ReadError Lexer := do
  let s ← (s.closeBlocks (-1)).dropCandidate
  pure { (s.push t).skip 3 with keyAllowed := false }

def openBracket (s : Lexer) (t : Token) : Except ReadError Lexer := do
  let s ← s.saveCandidate
  pure { (s.push t).skip 1 with
    outer := s.candidate :: s.outer
    candidate := none
    keyAllowed := true }

def closeBracket (s : Lexer) (t : Token) : Except ReadError Lexer := do
  let s ← s.dropCandidate
  pure { (s.push t).skip 1 with
    candidate := s.outer.head?.getD none
    outer := s.outer.tail
    keyAllowed := false }

def comma (s : Lexer) : Except ReadError Lexer := do
  let s ← s.dropCandidate
  pure { (s.push .comma).skip 1 with keyAllowed := true }

/-- Open a block for a mark outside of brackets, where a key could start. -/
def openBlockHere (s : Lexer) (start : Token) : Except ReadError Lexer :=
  if s.inBrackets then .ok s
  else if s.keyAllowed then .ok (s.openBlock s.cursor.column s.tokens.length start)
  else .error .misplacedIndicator

/-- The dash of an item. -/
def item (s : Lexer) : Except ReadError Lexer := do
  let s ← (← s.openBlockHere .listStart).dropCandidate
  pure { (s.push .item).skip 1 with keyAllowed := true }

/-- The question mark of a key. -/
def key (s : Lexer) : Except ReadError Lexer := do
  let s ← (← s.openBlockHere .mappingStart).dropCandidate
  pure { (s.push .key).skip 1 with keyAllowed := !s.inBrackets }

/-- The colon of a value: the candidate, if there is one, was its key. -/
def value (s : Lexer) : Except ReadError Lexer :=
  match s.candidate with
  | some k =>
    let s := (s.insert k.place [.key]).openBlock k.column k.place .mappingStart
    .ok { (s.push .value).skip 1 with candidate := none, keyAllowed := false }
  | none => do
    let s ← s.openBlockHere .mappingStart
    pure { (s.push .value).skip 1 with keyAllowed := !s.inBrackets }

/-- A token that a key can start with, and the place after it. -/
def node (s : Lexer) (read : Lexer → Except ReadError (Token × Cursor)) :
    Except ReadError Lexer := do
  let s ← s.saveCandidate
  let (t, p) ← read s
  pure { s.push t with cursor := p, keyAllowed := false }

/-- A name behind its mark. -/
def name (token : String → Token) (s : Lexer) : Except ReadError (Token × Cursor) := do
  let (text, p) ← anchorFrom s.cursor
  pure (token text, p)

def tag (s : Lexer) : Except ReadError (Token × Cursor) := do
  let (text, p) ← tagFrom s.inBrackets s.cursor
  pure (.tag text, p)

def quoted (isSingle : Bool) (s : Lexer) : Except ReadError (Token × Cursor) := do
  let (f, p) ← quotedFrom isSingle s.cursor.skip {}
  pure (.scalar f.result .quoted, p)

/-- A plain scalar; a key may start after it when it ends on a later line. -/
def plain (s : Lexer) : Except ReadError Lexer := do
  let s ← s.saveCandidate
  let (f, p) ← plainFrom s.inBrackets (s.indent + 1) s.cursor {}
  pure { s.push (.scalar f.result .plain) with cursor := p, keyAllowed := f.isOver }

def block (s : Lexer) (isLiteral : Bool) : Except ReadError Lexer := do
  let s ← s.dropCandidate
  let (text, p) ← blockFrom isLiteral s.indent s.cursor.skip
  pure { s.push (.scalar text (if isLiteral then .literal else .folded)) with
    cursor := p
    keyAllowed := true }

/-- Characters that start no plain scalar, or only ahead of a word. -/
def isReserved (c : Char) : Bool :=
  isBracket c || ['-', '?', ':', ',', '#', '&', '*', '!', '|', '>', '\'', '"', '%', '@',
    '\x60'].contains c

/-- Whether a plain scalar starts here. -/
def startsPlain (inBrackets : Bool) : List Char → Bool
  | [] => false
  | c :: rest =>
    (!isSpacing c && !isLineBreak c && !isReserved c) || (c = '-' && !rest.head?.any isSpacing) ||
      (!inBrackets && (c = '?' || c = ':') && !endsWord rest)

/-- The next token from its first character on. -/
def token (s : Lexer) (c : Char) (rest : List Char) : Except ReadError Lexer :=
  let isMark := s.inBrackets || endsWord rest
  if s.cursor.column = 0 && c = '%' then s.directive
  else if s.cursor.isAtDocumentMark then
    s.documentMark (if c = '-' then .documentStart else .documentEnd)
  else if c = '[' then s.openBracket .openBracket
  else if c = '\x7b' then s.openBracket .openBrace
  else if c = ']' then s.closeBracket .closeBracket
  else if c = '\x7d' then s.closeBracket .closeBrace
  else if c = ',' then s.comma
  else if c = '-' && endsWord rest then s.item
  else if c = '?' && isMark then s.key
  else if c = ':' && isMark then s.value
  else if c = '*' then s.node (name .reference)
  else if c = '&' then s.node (name .anchor)
  else if c = '!' then s.node tag
  else if c = '|' && !s.inBrackets then s.block true
  else if c = '>' && !s.inBrackets then s.block false
  else if c = '\'' then s.node (quoted true)
  else if c = '"' then s.node (quoted false)
  else if startsPlain s.inBrackets (c :: rest) then s.plain
  else .error .unexpectedCharacter

/-- Read the next token, with those that indentation puts before it. -/
def next (s : Lexer) : Except ReadError Lexer := do
  let (p, keyAllowed) := nextPlace s.inBrackets s.keyAllowed s.cursor
  let s ← { s with cursor := p, keyAllowed := keyAllowed }.dropStale
  let s := s.closeBlocks p.column
  match p.rest with
  | [] => s.finish
  | c :: rest => s.token c rest

/-- All tokens; each takes a character of its own, so `fuel` beyond their count is never used. -/
def run : Nat → Lexer → List Token
  | 0, s => (Token.fault .unexpectedCharacter :: s.tokens).reverse
  | fuel + 1, s =>
    match s.next with
    | .error e => (.fault e :: s.tokens).reverse
    | .ok s => if s.isOver then s.tokens.reverse else run fuel s

end Lexer

/-- The characters of a text without the mark of its byte order. -/
def withoutByteOrderMark : List Char → List Char
  | c :: rest => if c = '\ufeff' then rest else c :: rest
  | [] => []

/-- The tokens of a text. -/
def Token.ofText (text : String) : List Token :=
  let cs := withoutByteOrderMark text.toList
  if cs.all isAllowed then
    Lexer.run (cs.length + 1) { cursor := { rest := unifyBreaks cs } }
  else [.fault .controlCharacter]

end Yaml

end GatewayOperator
