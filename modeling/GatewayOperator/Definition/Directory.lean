import GatewayOperator.Definition.Manifest

/-!
# Directories of manifests

The definitions of a directory are those of its manifests in the order of their names. A manifest is
a file whose extension says that it is YAML or JSON.
-/

namespace GatewayOperator

/-- What a directory holds under a name. -/
inductive FileEntry where
  | text (s : String)
  | bytes (b : ByteArray)
  /-- a directory without entries -/
  | directory

/-- A directory: its path and its entries by name. -/
structure Directory where
  path : String
  entries : List (String × FileEntry)

namespace Directory

/-- What stands after the last point of a name, unless nothing stands before it. -/
def extension? (name : String) : Option String :=
  let after := name.toList.reverse.takeWhile (· ≠ '.')
  match name.toList.reverse.dropWhile (· ≠ '.') with
  | _ :: _ :: _ => some (String.ofList after.reverse)
  | _ => none

/-- Whether an entry's name is that of a manifest. -/
def isManifestName (name : String) : Bool :=
  match extension? name with
  | some e => ["yaml", "yml", "json"].contains e
  | none => false

/-- The file's text, unless it is a directory. -/
def textOf? : FileEntry → Option (Except Failure String)
  | .text s => some (.ok s)
  | .bytes b =>
    match String.fromUTF8? b with
    | some s => some (.ok s)
    | none => some (.error (.io "stream did not contain valid UTF-8"))
  | .directory => none

/-- The manifests in the order of their names. -/
def manifests (d : Directory) : List (String × Except Failure String) :=
  ((d.entries.filter fun e => isManifestName e.1).filterMap fun e =>
    (textOf? e.2).map fun text => (e.1, text)).mergeSort fun a b => a.1 ≤ b.1

/-- The definitions of all manifests. -/
def definitions (d : Directory) : Except Failure (List (Resource .definition)) := do
  let rs ← d.manifests.mapM fun m => do
    let text ← m.2
    Manifest.read (d.path ++ "/" ++ m.1) text
  pure rs.flatten

/-- The directory of an entry's name. -/
def enter (d : Directory) (name : String) : Except Failure Directory :=
  match d.entries.lookup name with
  | some .directory => .ok ⟨d.path ++ "/" ++ name, []⟩
  | some _ => .error (.io "Not a directory (os error 20)")
  | none => .error (.io "No such file or directory (os error 2)")

end Directory

end GatewayOperator
