/-!
# Reading positions

A `Cursor` is a place in a document: the characters that are left, with the line and column of the
first of them. Line breaks have one spelling, the line feed, but for the two separators of
paragraphs and lines, which stay what they are. `ReadError` says why a text is no YAML.
-/

namespace GatewayOperator

namespace Yaml

/-- Why a text does not read. -/
inductive ReadError where
  /-- a character that no document holds -/
  | controlCharacter
  /-- a tab where only spaces indent -/
  | tab
  /-- a character that starts nothing -/
  | unexpectedCharacter
  /-- a key on a line of its own without a colon -/
  | keyWithoutValue
  /-- a dash, question mark or colon where no entry may start -/
  | misplacedIndicator
  | badDirective
  | badTag
  | badAnchor
  | badBlockHeader
  | badEscape
  /-- a quoted scalar that does not end -/
  | unclosedQuote
  /-- the mark of a document within a quoted scalar -/
  | documentInQuotes
  /-- a colon in a word between brackets, ahead of an indicator -/
  | colonInWord
  /-- a document after the first one that is not marked -/
  | missingDocumentStart
  /-- nothing where a node has to be -/
  | missingNode
  /-- an entry of a list or mapping that does not continue it -/
  | missingEntry
  | unknownAnchor
  /-- two entries of a mapping with one key -/
  | duplicateKey
  /-- a scalar that no value stands for -/
  | badScalar
  deriving DecidableEq, Repr

/-! ## Characters -/

/-- The separators of lines and paragraphs. -/
def isSeparator (c : Char) : Bool := c.toNat = 0x2028 || c.toNat = 0x2029

/-- The characters that end a line. -/
def isLineBreak (c : Char) : Bool := c = '\n' || isSeparator c

/-- Spaces and tabs. -/
def isSpacing (c : Char) : Bool := c = ' ' || c = '\t'

/-- The characters of anchors and of the names of directives. -/
def isNameChar (c : Char) : Bool := c.isAlphanum || c = '_' || c = '-'

/-- The characters that a document may hold. -/
def isAllowed (c : Char) : Bool :=
  let n := c.toNat
  n = 0x09 || n = 0x0a || n = 0x0d || (0x20 ≤ n && n ≤ 0x7e) || n = 0x85 ||
    (0xa0 ≤ n && n ≤ 0xd7ff) || (0xe000 ≤ n && n ≤ 0xfffd) || 0x10000 ≤ n

/-- Whether nothing, a blank or a break is next. -/
def endsWord : List Char → Bool
  | [] => true
  | c :: _ => isSpacing c || isLineBreak c

/-- One spelling for the ends of lines. -/
def unifyBreaks : List Char → List Char
  | '\r' :: '\n' :: rest => '\n' :: unifyBreaks rest
  | '\r' :: rest => '\n' :: unifyBreaks rest
  | c :: rest => (if c.toNat = 0x85 then '\n' else c) :: unifyBreaks rest
  | [] => []

/-! ## Cursors -/

/-- A place in a document. -/
structure Cursor where
  rest : List Char
  line : Nat := 0
  column : Nat := 0
  /-- how many characters are behind -/
  index : Nat := 0

namespace Cursor

/-- The place after one character. -/
def skip (p : Cursor) : Cursor :=
  match p.rest with
  | [] => p
  | c :: rest =>
    if isLineBreak c then ⟨rest, p.line + 1, 0, p.index + 1⟩
    else ⟨rest, p.line, p.column + 1, p.index + 1⟩

/-- The place after `n` characters. -/
def skipN : Nat → Cursor → Cursor
  | 0, p => p
  | n + 1, p => skipN n p.skip

/-- A step leaves no more than was there. -/
theorem length_skip_le (p : Cursor) : p.skip.rest.length ≤ p.rest.length := by
  unfold skip
  split
  · exact Nat.le_refl _
  · rename_i c rest h
    rw [h]
    split <;> exact Nat.le_succ _

/-- A step over a character leaves less. -/
theorem length_skip_lt {p : Cursor} {c : Char} {rest : List Char} (h : p.rest = c :: rest) :
    p.skip.rest.length < p.rest.length := by
  unfold skip
  split
  · rename_i h'
    rw [h] at h'
    cases h'
  · rename_i d rest' h'
    rw [h']
    split <;> exact Nat.lt_succ_self _

theorem length_skipN_le (n : Nat) (p : Cursor) : (skipN n p).rest.length ≤ p.rest.length := by
  induction n generalizing p with
  | zero => exact Nat.le_refl _
  | succ n ih => exact Nat.le_trans (ih p.skip) (length_skip_le p)

/-- Several steps, the first of them over a character, leave less. -/
theorem length_skipN_skip_lt {p : Cursor} {c : Char} {rest : List Char} (h : p.rest = c :: rest)
    (n : Nat) : (skipN n p.skip).rest.length < p.rest.length :=
  Nat.lt_of_le_of_lt (length_skipN_le n p.skip) (length_skip_lt h)

/-- The place after all characters that satisfy a test. -/
def skipWhile (test : Char → Bool) (p : Cursor) : Cursor :=
  skipN (p.rest.takeWhile test).length p

/-- The characters ahead that satisfy a test. -/
def ahead (test : Char → Bool) (p : Cursor) : List Char := p.rest.takeWhile test

/-- Whether the mark of a document's start or end is at the start of this line. -/
def isAtDocumentMark (p : Cursor) : Bool :=
  p.column = 0 &&
    match p.rest with
    | '-' :: '-' :: '-' :: rest => endsWord rest
    | '.' :: '.' :: '.' :: rest => endsWord rest
    | _ => false

/-- Pass over blanks and a comment up to the end of the line. -/
def skipComment (p : Cursor) : Cursor :=
  let p := p.skipWhile isSpacing
  match p.rest with
  | '#' :: _ => p.skipWhile fun c => !isLineBreak c
  | _ => p

/-- Whether the line is over. -/
def isAtLineEnd (p : Cursor) : Bool :=
  match p.rest with
  | [] => true
  | c :: _ => isLineBreak c

end Cursor

/-! ## Text over several lines -/

/-- Text that is gathered with the blanks and breaks since its last character; all lists are
reversed. -/
structure Folding where
  text : List Char := []
  /-- blanks on the line of the last character -/
  blanks : List Char := []
  /-- whether the line of the last character is over -/
  isOver : Bool := false
  /-- the break that ended it -/
  firstBreak : Option Char := none
  /-- the breaks after that one -/
  breaks : List Char := []

namespace Folding

/-- A blank; those that indent a line do not count. -/
def blank (f : Folding) (c : Char) : Folding :=
  if f.isOver then f else { f with blanks := c :: f.blanks }

/-- A break; the blanks ahead of it do not count. -/
def break_ (f : Folding) (c : Char) : Folding :=
  if f.isOver then { f with breaks := c :: f.breaks }
  else { f with blanks := [], isOver := true, firstBreak := some c }

/-- Put in what blanks and breaks stand for: a single break is a space, of several the first one
goes. -/
def join (f : Folding) : Folding :=
  let text :=
    if f.isOver then
      match f.firstBreak with
      | some '\n' => if f.breaks.isEmpty then ' ' :: f.text else f.breaks ++ f.text
      | some c => f.breaks ++ c :: f.text
      | none => f.breaks ++ f.text
    else f.blanks ++ f.text
  { text := text }

/-- A character of the text. -/
def push (f : Folding) (c : Char) : Folding :=
  let f := f.join
  { f with text := c :: f.text }

/-- Whether blanks or breaks came after the last character. -/
def isPending (f : Folding) : Bool := f.isOver || !f.blanks.isEmpty

/-- What was gathered. -/
def result (f : Folding) : String := String.ofList f.text.reverse

end Folding

end Yaml

end GatewayOperator
