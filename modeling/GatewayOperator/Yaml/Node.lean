import GatewayOperator.Yaml.Token

/-!
# Nodes and documents

A document is a tree of scalars, lists and mappings in which an alias stands for an anchored node.
`Document.ofText` gives the documents of a text in order, up to the first one that is none.
-/

namespace GatewayOperator

namespace Yaml

/-- A node with its tag; an alias has the number of its anchor. -/
inductive Node where
  | scalar (tag : Option String) (text : String) (form : Form)
  | list (tag : Option String) (items : List Node)
  | mapping (tag : Option String) (entries : List (Node × Node))
  | reference (number : Nat)

instance : Inhabited Node := ⟨.scalar none "" .plain⟩

/-- A node that nothing was written for. -/
def Node.empty : Node := .scalar none "" .plain

/-- A document. An anchor's number is the count of the names before it, so a name that is given
twice shares its number with the next new one, and an alias stands for the node that its number was
given last. -/
structure Document where
  /-- no node for a text without documents -/
  root : Option Node
  /-- the place of an anchored node by its anchor's number, latest first -/
  places : List (Nat × Nat)
  /-- anchored nodes by their places -/
  anchored : List (Nat × Node)
  /-- how many scalars, aliases, starts and ends the document has -/
  size : Nat

namespace Document

/-- A text without documents. -/
def void : Document := ⟨none, [], [], 0⟩

/-- The node that an alias stands for. -/
def target? (d : Document) (number : Nat) : Option Node :=
  (d.places.lookup number).bind fun place => d.anchored.lookup place

end Document

/-! ## The state within a document -/

/-- What is left to read and what was met so far. -/
structure Assembly where
  tokens : List Token
  /-- what handles of tags stand for -/
  shorthands : List (String × String) := []
  /-- the anchors' numbers by name -/
  numbers : List (String × Nat) := []
  places : List (Nat × Nat) := []
  anchored : List (Nat × Node) := []
  size : Nat := 0

/-- A step of reading a document. -/
abbrev Assemble := StateT Assembly (Except ReadError)

namespace Assemble

/-- The next token; a fault is an error as soon as it is next. -/
def peek : Assemble Token := do
  match (← get).tokens with
  | [] => pure .textEnd
  | .fault e :: _ => throw e
  | t :: _ => pure t

/-- Step over a token. -/
def skip : Assemble Unit := modify fun s => { s with tokens := s.tokens.tail }

/-- Count scalars, aliases, starts and ends. -/
def count (n : Nat) : Assemble Unit := modify fun s => { s with size := s.size + n }

/-- Drop a binding and put another one. -/
def rebind (numbers : List (String × Nat)) (name : String) (number : Nat) : List (String × Nat) :=
  (name, number) :: numbers.filter (·.1 ≠ name)

/-- Number an anchor at the start of its node. -/
def register (anchor : Option String) : Assemble Unit :=
  match anchor with
  | none => pure ()
  | some name => modify fun s =>
    let number := s.numbers.length
    { s with
      numbers := rebind s.numbers name number
      places := (number, s.size) :: s.places }

/-- Remember an anchored node by the place of its start. -/
def remember (anchor : Option String) (place : Nat) (n : Node) : Assemble Node :=
  match anchor with
  | none => pure n
  | some _ => do
    modify fun s => { s with anchored := (place, n) :: s.anchored }
    pure n

/-- What a tag stands for. -/
def expandTag (t : TagText) : Assemble String := do
  if t.handle = "" then pure t.suffix
  else
    match (← get).shorthands.lookup t.handle with
    | some expansion => pure (expansion ++ t.suffix)
    | none => throw .badTag

/-- A tag, if one is next. -/
def tag? : Assemble (Option String) := do
  match ← peek with
  | .tag t => do
    skip
    let text ← expandTag t
    pure (some text)
  | _ => pure none

/-- An anchor, if one is next. -/
def anchor? : Assemble (Option String) := do
  match ← peek with
  | .anchor name => do
    skip
    pure (some name)
  | _ => pure none

/-- An anchor and a tag, in either order. -/
def properties : Assemble (Option String × Option String) := do
  match ← anchor? with
  | some name => do
    let tag ← tag?
    pure (some name, tag)
  | none => do
    let tag ← tag?
    match tag with
    | some _ => do
      let anchor ← anchor?
      pure (anchor, tag)
    | none => pure (none, none)

/-- A node that nothing was written for. -/
def empty : Assemble Node := do
  count 1
  pure Node.empty

/-- The alias of an anchor. -/
def reference (name : String) : Assemble Node := do
  match (← get).numbers.lookup name with
  | some number => do
    count 1
    pure (.reference number)
  | none => throw .unknownAnchor

/-- A node whose parts are between a start and an end. -/
def enclosed {α : Type} (anchor : Option String) (parts : Assemble α) (make : α → Node) :
    Assemble Node := do
  let place := (← get).size
  register anchor
  count 1
  let xs ← parts
  count 1
  remember anchor place (make xs)

/-- A node of one part. -/
def single (anchor : Option String) (n : Node) : Assemble Node := do
  let place := (← get).size
  register anchor
  count 1
  remember anchor place n

/-- The tag of a scalar; the bare one says nothing. -/
def scalarTag (tag : Option String) : Option String := tag.filter (· ≠ "!")

/-! ## Nodes

Each step takes a token or goes down to the node that the next token starts, so `fuel` that is a
multiple of the count of tokens lasts. -/

mutual

/-- A node. Blocks start only outside of brackets, and a list at the indentation of its key only
within a mapping. -/
def node : Nat → (inBlock isEntry : Bool) → Assemble Node
  | 0, _, _ => throw .missingNode
  | fuel + 1, inBlock, isEntry => do
    match ← peek with
    | .reference name => do
      skip
      reference name
    | _ => do
      let (anchor, tag) ← properties
      let t ← peek
      match t, inBlock with
      | .scalar text form, _ => do
        skip
        single anchor (.scalar (scalarTag tag) text form)
      | .openBracket, _ => do
        skip
        enclosed anchor (bracketItems fuel true) (.list tag)
      | .openBrace, _ => do
        skip
        enclosed anchor (braceEntries fuel true) (.mapping tag)
      | .listStart, true => do
        skip
        enclosed anchor (items fuel) (.list tag)
      | .mappingStart, true => do
        skip
        enclosed anchor (entries fuel) (.mapping tag)
      | t, _ =>
        if isEntry && t = .item then enclosed anchor (entryItems fuel) (.list tag)
        else if anchor.isSome || tag.isSome then single anchor (.scalar tag "" .plain)
        else throw .missingNode

/-- A node, or an empty one ahead of some tokens. -/
def nodeUnless : Nat → (inBlock isEntry : Bool) → List Token → Assemble Node
  | 0, _, _, _ => throw .missingNode
  | fuel + 1, inBlock, isEntry, ends => do
    if ends.contains (← peek) then empty else node fuel inBlock isEntry

/-- The items of a block. -/
def items : Nat → Assemble (List Node)
  | 0 => throw .missingEntry
  | fuel + 1 => do
    match ← peek with
    | .item => do
      skip
      let x ← nodeUnless fuel true false [.item, .blockEnd]
      let xs ← items fuel
      pure (x :: xs)
    | .blockEnd => do
      skip
      pure []
    | _ => throw .missingEntry

/-- The items at the indentation of their key. -/
def entryItems : Nat → Assemble (List Node)
  | 0 => throw .missingEntry
  | fuel + 1 => do
    match ← peek with
    | .item => do
      skip
      let x ← nodeUnless fuel true false [.item, .key, .value, .blockEnd]
      let xs ← entryItems fuel
      pure (x :: xs)
    | _ => pure []

/-- The value of a block's key. -/
def entryValue : Nat → Assemble Node
  | 0 => throw .missingEntry
  | fuel + 1 => do
    match ← peek with
    | .value => do
      skip
      nodeUnless fuel true true [.key, .value, .blockEnd]
    | _ => empty

/-- The entries of a block. -/
def entries : Nat → Assemble (List (Node × Node))
  | 0 => throw .missingEntry
  | fuel + 1 => do
    match ← peek with
    | .key => do
      skip
      let k ← nodeUnless fuel true true [.key, .value, .blockEnd]
      let v ← entryValue fuel
      let rest ← entries fuel
      pure ((k, v) :: rest)
    | .blockEnd => do
      skip
      pure []
    | _ => throw .missingEntry

/-- The only entry of a mapping without braces between brackets. An empty key takes the token after
it. -/
def pair : Nat → Assemble (List (Node × Node))
  | 0 => throw .missingEntry
  | fuel + 1 => do
    let t ← peek
    let k ←
      if [Token.value, .comma, .closeBracket].contains t then do
        skip
        empty
      else node fuel false false
    let v ← bracketValue fuel [.comma, .closeBracket]
    pure [(k, v)]

/-- The value of a key between brackets. -/
def bracketValue : Nat → List Token → Assemble Node
  | 0, _ => throw .missingEntry
  | fuel + 1, ends => do
    match ← peek with
    | .value => do
      skip
      nodeUnless fuel false false ends
    | _ => empty

/-- The items between brackets. -/
def bracketItems : Nat → (isFirst : Bool) → Assemble (List Node)
  | 0, _ => throw .missingEntry
  | fuel + 1, isFirst => do
    if (← peek) = .closeBracket then do
      skip
      pure []
    else do
      if !isFirst then
        if (← peek) = .comma then skip else throw .missingEntry
      match ← peek with
      | .closeBracket => do
        skip
        pure []
      | .key => do
        skip
        let x ← enclosed none (pair fuel) (.mapping none)
        let xs ← bracketItems fuel false
        pure (x :: xs)
      | _ => do
        let x ← node fuel false false
        let xs ← bracketItems fuel false
        pure (x :: xs)

/-- The entries between braces. -/
def braceEntries : Nat → (isFirst : Bool) → Assemble (List (Node × Node))
  | 0, _ => throw .missingEntry
  | fuel + 1, isFirst => do
    if (← peek) = .closeBrace then do
      skip
      pure []
    else do
      if !isFirst then
        if (← peek) = .comma then skip else throw .missingEntry
      match ← peek with
      | .closeBrace => do
        skip
        pure []
      | .key => do
        skip
        let k ← nodeUnless fuel false false [.value, .comma, .closeBrace]
        let v ← bracketValue fuel [.comma, .closeBrace]
        let rest ← braceEntries fuel false
        pure ((k, v) :: rest)
      | _ => do
        let k ← node fuel false false
        let v ← empty
        let rest ← braceEntries fuel false
        pure ((k, v) :: rest)

end

end Assemble

/-! ## Documents -/

/-- The handles that stand for something without a directive. -/
def defaultShorthands : List (String × String) := [("!", "!"), ("!!", "tag:yaml.org,2002:")]

/-- The directives ahead of a document, as what its handles stand for: at most one version, which
has to be 1.1 or 1.2, and each handle once. -/
def readDirectives (hasVersion : Bool) (shorthands : List (String × String)) :
    List Token → Except ReadError (List (String × String) × List Token)
  | .directive (.version major minor) :: rest =>
    if hasVersion || major ≠ 1 || (minor ≠ 1 && minor ≠ 2) then .error .badDirective
    else readDirectives true shorthands rest
  | .directive (.shorthand handle expansion) :: rest =>
    if (shorthands.lookup handle).isSome then .error .badDirective
    else readDirectives hasVersion ((handle, expansion) :: shorthands) rest
  | .fault e :: _ => .error e
  | rest => .ok (shorthands ++ defaultShorthands, rest)

namespace Document

/-- A document of what was assembled. -/
def ofRoot (root : Node) (s : Assembly) : Document := ⟨some root, s.places, s.anchored, s.size⟩

/-- The node of a document without a mark, or behind one, with the tokens after the document. -/
def readRoot (isMarked : Bool) (s : Assembly) : Except ReadError (Document × List Token) := do
  let fuel := 4 * s.tokens.length + 4
  let read : Assemble Node :=
    if isMarked then
      match s.tokens with
      | [] | .directive _ :: _ | .documentStart :: _ | .documentEnd :: _ | .textEnd :: _ =>
        Assemble.empty
      | _ => Assemble.node fuel true false
    else Assemble.node fuel true false
  let (root, s) ← read.run s
  let rest :=
    match s.tokens with
    | .documentEnd :: rest => rest
    | rest => rest
  pure (ofRoot root s, rest)

/-- A document with its directives and mark. -/
def readMarked (tokens : List Token) : Except ReadError (Document × List Token) := do
  let (shorthands, rest) ← readDirectives false [] tokens
  match rest with
  | .documentStart :: rest => readRoot true { tokens := rest, shorthands := shorthands }
  | _ => .error .missingDocumentStart

/-- Whether a document starts here without a mark. -/
def startsUnmarked : List Token → Bool
  | [] | .directive _ :: _ | .documentStart :: _ | .textEnd :: _ => false
  | _ => true

/-- Step over further ends of a document. -/
def skipEnds : List Token → List Token
  | .documentEnd :: rest => skipEnds rest
  | rest => rest

/-- The documents from some token on. Each takes a token of its own, so `fuel` beyond their count is
never used. -/
def readAll : Nat → List Token → List (Except ReadError Document)
  | 0, _ => []
  | fuel + 1, tokens =>
    match skipEnds tokens with
    | [] | [.textEnd] => []
    | tokens =>
      match readMarked tokens with
      | .error e => [.error e]
      | .ok (d, rest) => .ok d :: readAll fuel rest

/-- The documents of a text, up to the first one that is none. Only the first may lack its mark; a
text without documents is one that is void. -/
def ofText (text : String) : List (Except ReadError Document) :=
  let tokens := Token.ofText text
  match tokens with
  | [] | [.textEnd] => [.ok void]
  | tokens =>
    match (if startsUnmarked tokens then
        readRoot false { tokens := tokens, shorthands := defaultShorthands }
      else readMarked tokens) with
    | .error e => [.error e]
    | .ok (d, rest) => .ok d :: readAll tokens.length rest

end Document

end Yaml

end GatewayOperator
