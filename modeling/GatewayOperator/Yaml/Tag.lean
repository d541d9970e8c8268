import GatewayOperator.Yaml.BlockScalar
import GatewayOperator.Json.Reader

/-!
# Tags, anchors and directives

A tag has a handle, which a directive of its document may define, and a suffix in the characters of
URIs. An anchor is a name. A directive takes the line of its percent sign.
-/

namespace GatewayOperator

namespace Yaml

/-! ## Text of a URI -/

/-- The characters of a URI that stand for themselves; brackets and commas only in a verbatim
tag. -/
def isUriChar (isVerbatim : Bool) (c : Char) : Bool :=
  isNameChar c ||
    [';', '/', '?', ':', '@', '&', '=', '+', '$', '.', '!', '~', '*', '\'', '(', ')'].contains c ||
    (isVerbatim && [',', '[', ']'].contains c)

/-- The octet of a percent sign and two digits. -/
def octet? : List Char → Option Nat
  | '%' :: a :: b :: _ =>
    (Json.hexValue? a).bind fun x => (Json.hexValue? b).map fun y => x * 16 + y
  | _ => none

/-- How many octets a character takes, by the first of them. -/
def octetCount? (first : Nat) : Option Nat :=
  if first < 0x80 then some 1
  else if first / 0x20 = 6 then some 2
  else if first / 0x10 = 14 then some 3
  else if first / 0x08 = 30 then some 4
  else none

/-- Whether some octets come that continue a character. -/
def hasContinuation : Nat → List Char → Bool
  | 0, _ => true
  | n + 1, cs => (octet? cs).any (fun o => o / 0x40 = 2) && hasContinuation n (cs.drop 3)

/-- A character in octets, with their count. No tag with a meaning has one beyond ASCII, so one
character stands for all of those. -/
def uriEscape? (cs : List Char) : Option (Char × Nat) :=
  (octet? cs).bind fun first =>
    (octetCount? first).bind fun count =>
      if hasContinuation (count - 1) (cs.drop 3) then
        some (if count = 1 then Char.ofNat first else '\ufffd', count)
      else none

/-- The characters of a URI up to the first other one, latest first. -/
def uriFrom (isVerbatim : Bool) (p : Cursor) (text : List Char) :
    Except ReadError (List Char × Cursor) :=
  match _h : p.rest with
  | [] => .ok (text, p)
  | c :: _ =>
    if c = '%' then
      match uriEscape? p.rest with
      | some (d, count) => uriFrom isVerbatim (p.skip.skipN (3 * count - 1)) (d :: text)
      | none => .error .badTag
    else if isUriChar isVerbatim c then uriFrom isVerbatim p.skip (c :: text)
    else .ok (text, p)
termination_by p.rest.length
decreasing_by
  all_goals first | exact Cursor.length_skip_lt _h | exact Cursor.length_skipN_skip_lt _h _

/-- A URI of one character or more. -/
def uri (isVerbatim : Bool) (p : Cursor) : Except ReadError (String × Cursor) := do
  let (text, q) ← uriFrom isVerbatim p []
  if q.index = p.index then .error .badTag else pure (String.ofList text.reverse, q)

/-! ## Tags -/

/-- A tag as it is written: what stands before and after its second mark. -/
structure TagText where
  handle : String
  suffix : String
  deriving DecidableEq, Repr

/-- The tag that only says that there is one. -/
def TagText.bare : TagText := ⟨"", "!"⟩

/-- The name after an exclamation mark. -/
def handleName (p : Cursor) : List Char := p.skip.ahead isNameChar

/-- A tag, from its exclamation mark on. -/
def tagFrom (inBrackets : Bool) (p : Cursor) : Except ReadError (TagText × Cursor) := do
  let (tag, q) ←
    if p.skip.rest.head? = some '<' then do
      let (suffix, q) ← uri true p.skip.skip
      if q.rest.head? = some '>' then pure (⟨"", suffix⟩, q.skip) else .error .badTag
    else do
      let name := handleName p
      let q := p.skip.skipN name.length
      if q.rest.head? = some '!' then
        let (suffix, q) ← uri false q.skip
        pure (⟨String.ofList ('!' :: name ++ ['!']), suffix⟩, q)
      else
        let (text, q) ← uriFrom false q name.reverse
        if text.isEmpty then pure (TagText.bare, q)
        else pure (⟨"!", String.ofList text.reverse⟩, q)
  if endsWord q.rest || (inBrackets && q.rest.head? = some ',') then pure (tag, q)
  else .error .badTag

/-! ## Anchors -/

/-- Whether the character after an anchor's name may follow it. -/
def endsAnchor (cs : List Char) : Bool :=
  endsWord cs || cs.head?.any fun c => ['?', ':', ',', ']', '\x7d', '%', '@', '\x60'].contains c

/-- The name of an anchor or alias, from its mark on. -/
def anchorFrom (p : Cursor) : Except ReadError (String × Cursor) :=
  let name := p.skip.ahead isNameChar
  let q := p.skip.skipN name.length
  if name.isEmpty || !endsAnchor q.rest then .error .badAnchor else .ok (String.ofList name, q)

/-! ## Directives -/

/-- What a document says about itself ahead of its start. -/
inductive Directive where
  | version (major minor : Nat)
  | shorthand (handle expansion : String)
  deriving DecidableEq, Repr

namespace Directive

/-- A number of at most nine digits. -/
def number (p : Cursor) : Except ReadError (Nat × Cursor) :=
  let digits := p.ahead Char.isDigit
  if digits.isEmpty || 9 < digits.length then .error .badDirective
  else .ok (digits.foldl (fun n c => n * 10 + Json.digitValue c) 0, p.skipN digits.length)

/-- A version of two numbers. -/
def version? (p : Cursor) : Except ReadError (Directive × Cursor) := do
  let (major, p) ← number p
  if p.rest.head? ≠ some '.' then .error .badDirective
  else
    let (minor, p) ← number p.skip
    pure (.version major minor, p)

/-- A handle between exclamation marks, and what it stands for. -/
def shorthand? (p : Cursor) : Except ReadError (Directive × Cursor) := do
  if p.rest.head? ≠ some '!' then .error .badDirective
  else
    let name := handleName p
    let q := p.skip.skipN name.length
    let isClosed := q.rest.head? = some '!'
    if !isClosed && !name.isEmpty then .error .badDirective
    else
      let q := if isClosed then q.skip else q
      if !q.rest.head?.any isSpacing then .error .badDirective
      else
        let (expansion, r) ← uri true (q.skipWhile isSpacing)
        if !endsWord r.rest then .error .badDirective
        else
          let handle := '!' :: name ++ (if isClosed then ['!'] else [])
          pure (.shorthand (String.ofList handle) expansion, r)

/-- The directive from its percent sign on, with the start of the next line. -/
def read (p : Cursor) : Except ReadError (Directive × Cursor) := do
  let name := p.skip.ahead isNameChar
  let q := p.skip.skipN name.length
  if name.isEmpty || !endsWord q.rest then .error .badDirective
  else
    let q := q.skipWhile isSpacing
    let (directive, r) ←
      match String.ofList name with
      | "YAML" => version? q
      | "TAG" => shorthand? q
      | _ => .error .badDirective
    let r ← lineEnd r .badDirective
    pure (directive, r)

end Directive

end Yaml

end GatewayOperator
