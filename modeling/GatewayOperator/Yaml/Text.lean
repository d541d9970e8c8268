import GatewayOperator.Yaml.Scalar

/-!
# YAML text

`Yaml.document` writes a JSON value as a YAML document in block style: mappings indented by two, the
items of a list at the indentation of its key, texts in the plainest style that reads back as the
same text.
-/

namespace GatewayOperator

namespace Yaml

/-! ## Styles of a text -/

/-- Characters that end a line. -/
def isBreak (c : Char) : Bool :=
  c = '\n' || c = '\r' || c = '\u0085' || c = '\u2028' || c = '\u2029'

/-- Blanks, breaks and the end of the text. -/
def isBlankOrBreak (c : Char) : Bool := c = ' ' || c = '\t' || isBreak c

/-- Characters that stand in double quotes only, as escapes. -/
def isSpecial (c : Char) : Bool :=
  (c.toNat < 0x20 && c ≠ '\n') || (0x7f ≤ c.toNat && c.toNat ≤ 0x9f) || c = '\ufeff' ||
    c = '\ufffe' || c = '\uffff'

/-- How a text is written. -/
inductive Style where
  | plain
  | single
  | double
  | literal
  deriving DecidableEq, Repr

/-- Whether some two neighbours satisfy a test. -/
def anyNeighbours (p : Char → Char → Bool) : List Char → Bool
  | a :: b :: rest => p a b || anyNeighbours p (b :: rest)
  | _ => false

/-- Characters that cannot start a plain text. -/
def isIndicator (c : Char) : Bool :=
  ['#', ',', '[', ']', '{', '}', '&', '*', '!', '|', '>', '\'', '"', '%', '@', '\x60'].contains c

/-- Whether a mark at the front is followed by a blank or nothing. -/
def startsWithMark : List Char → Bool
  | [c] => c = '-' || c = '?' || c = ':'
  | c :: d :: _ => (c = '-' || c = '?' || c = ':') && isBlankOrBreak d
  | [] => false

/-- Whether a text cannot stand without quotes. -/
def needsQuotes (cs : List Char) : Bool :=
  (cs.head?.any fun c => isBlankOrBreak c || isIndicator c) ||
    (cs.getLast?.any fun c => isBlankOrBreak c || c = ':') ||
    ['-', '-', '-'].isPrefixOf cs || ['.', '.', '.'].isPrefixOf cs ||
    startsWithMark cs ||
    anyNeighbours (fun a b => (a = ':' && isBlankOrBreak b) || (isBlankOrBreak a && b = '#')) cs ||
    cs.any isBreak

/-- Whether a space stands before or after a break. -/
def hasSpaceAtBreak (cs : List Char) : Bool :=
  anyNeighbours (fun a b => (a = ' ' && isBreak b) || (isBreak a && b = ' ')) cs

/-- Whether a space stands before a break. -/
def hasSpaceBeforeBreak (cs : List Char) : Bool :=
  anyNeighbours (fun a b => a = ' ' && isBreak b) cs

/-- The style of a text. -/
def styleOf (s : String) : Style :=
  let cs := s.toList
  if cs.contains '\n' then
    if cs.getLast? = some ' ' || hasSpaceBeforeBreak cs || cs.any isSpecial then .double
    else .literal
  else if s = "" || Scalar.resolve s ≠ .text || Scalar.isPaddedDigits cs || needsQuotes cs then
    if cs.any isSpecial || hasSpaceAtBreak cs then .double else .single
  else if cs.any isSpecial then .double
  else .plain

/-! ## Writing a text -/

def spaces (n : Nat) : List Char := List.replicate n ' '

/-- Hexadecimal digits in upper case. -/
def hexUpper (width n : Nat) : List Char :=
  let ds := (Nat.toDigits 16 n).map Char.toUpper
  List.replicate (width - ds.length) '0' ++ ds

/-- How one character stands in double quotes. -/
def escaped (c : Char) : List Char :=
  match c.toNat with
  | 0x00 => ['\\', '0']
  | 0x07 => ['\\', 'a']
  | 0x08 => ['\\', 'b']
  | 0x09 => ['\\', 't']
  | 0x0a => ['\\', 'n']
  | 0x0b => ['\\', 'v']
  | 0x0c => ['\\', 'f']
  | 0x0d => ['\\', 'r']
  | 0x1b => ['\\', 'e']
  | 0x22 => ['\\', '"']
  | 0x5c => ['\\', '\\']
  | 0x85 => ['\\', 'N']
  | 0x2028 => ['\\', 'L']
  | 0x2029 => ['\\', 'P']
  | n =>
    if !isSpecial c then [c]
    else if n ≤ 0xff then ['\\', 'x'] ++ hexUpper 2 n
    else if n ≤ 0xffff then ['\\', 'u'] ++ hexUpper 4 n
    else ['\\', 'U'] ++ hexUpper 8 n

def doubleQuoted (cs : List Char) : List Char := ['"'] ++ cs.flatMap escaped ++ ['"']

/-- The characters between single quotes; what follows a break is indented. -/
def singleQuotedBody (indent : Nat) : Bool → List Char → List Char
  | afterBreak, [] => if afterBreak then spaces indent else []
  | afterBreak, c :: rest =>
    if isBreak c then c :: singleQuotedBody indent true rest
    else
      (if afterBreak then spaces indent else []) ++ (if c = '\'' then ['\'', '\''] else [c]) ++
        singleQuotedBody indent false rest

def singleQuoted (indent : Nat) (cs : List Char) : List Char :=
  ['\''] ++ singleQuotedBody indent false cs ++ ['\'']

/-- The lines of a literal text; empty ones are not indented. -/
def literalBody (indent : Nat) : Bool → List Char → List Char
  | _, [] => []
  | afterBreak, c :: rest =>
    if isBreak c then c :: literalBody indent true rest
    else (if afterBreak then spaces indent else []) ++ c :: literalBody indent false rest

/-- What a literal text's header says about its end. -/
def chomping (cs : List Char) : List Char :=
  match cs.reverse with
  | [] => ['-']
  | c :: before =>
    if !isBreak c then ['-']
    else
      match before with
      | [] => ['+']
      | b :: _ => if isBreak b then ['+'] else []

/-- A literal text with its header, up to the end of its last line. -/
def literal (indent : Nat) (cs : List Char) : List Char :=
  let hint := if cs.head?.any (fun c => c = ' ' || isBreak c) then ['2'] else []
  let ending := if cs.getLast?.any isBreak then [] else ['\n']
  ['|'] ++ hint ++ chomping cs ++ ['\n'] ++ literalBody indent true cs ++ ending

/-- A text within a node at some indentation, up to the end of its line. -/
def textLine (indent : Nat) (s : String) : String :=
  let cs := s.toList
  String.ofList <|
    match styleOf s with
    | .plain => cs ++ ['\n']
    | .single => singleQuoted (indent + 2) cs ++ ['\n']
    | .double => doubleQuoted cs ++ ['\n']
    | .literal => literal (indent + 2) cs

/-! ## Keys -/

/-- Whether a key fits in front of a colon: one line of at most 128 bytes. -/
def isSimpleKey (key : String) : Bool := key.utf8ByteSize ≤ 128 && !key.toList.any isBreak

/-- A key without its colon. -/
def keyText (key : String) : String :=
  let cs := key.toList
  String.ofList <|
    match styleOf key with
    | .plain => cs
    | .single => singleQuoted 0 cs
    | _ => doubleQuoted cs

/-! ## Values -/

/-- A scalar's text on its line. -/
def scalarLine (indent : Nat) : Json → String
  | .null => "null\n"
  | .bool b => if b then "true\n" else "false\n"
  | .int n => toString n ++ "\n"
  | .float x =>
    (if x.isFinite then x.write Binary64.jsonStyle else if x.isNegative then "-.inf" else ".inf") ++
      "\n"
  | .str s => textLine indent s
  | .arr _ => "[]\n"
  | .obj _ => "\x7b\x7d\n"

def pad (indent : Nat) : String := String.ofList (spaces indent)

mutual

/-- A value from the current column on; its further lines start at `indent`. -/
def block (indent : Nat) : Json → String
  | .arr (x :: xs) => blockItems indent true (x :: xs)
  | .obj (f :: fs) => blockFields indent true (f :: fs)
  | .arr [] => "[]\n"
  | .obj [] => "\x7b\x7d\n"
  | .null => scalarLine indent .null
  | .bool b => scalarLine indent (.bool b)
  | .int n => scalarLine indent (.int n)
  | .float x => scalarLine indent (.float x)
  | .str s => scalarLine indent (.str s)

/-- The items of a list, each behind a dash. -/
def blockItems (indent : Nat) (first : Bool) : List Json → String
  | [] => ""
  | x :: xs =>
    (if first then "" else pad indent) ++ "- " ++
      (match x with
        | .str s => textLine indent s
        | x => block (indent + 2) x) ++
      blockItems indent false xs

/-- The fields of a mapping. -/
def blockFields (indent : Nat) (first : Bool) : Json.Fields → String
  | [] => ""
  | (k, v) :: rest =>
    (if first then "" else pad indent) ++
      (if isSimpleKey k then
        keyText k ++ ":" ++
          (match v with
            | .arr (x :: xs) => "\n" ++ pad indent ++ block indent (.arr (x :: xs))
            | .obj (f :: fs) => "\n" ++ pad (indent + 2) ++ block (indent + 2) (.obj (f :: fs))
            | .str s => " " ++ textLine indent s
            | v => " " ++ block indent v)
      else
        "? " ++ textLine indent k ++ pad indent ++ ": " ++
          (match v with
            | .str s => textLine indent s
            | v => block (indent + 2) v)) ++
      blockFields indent false rest

end

/-- The document of a value. -/
def document (j : Json) : String := block 0 j

end Yaml

end GatewayOperator
