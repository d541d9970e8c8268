import GatewayOperator.Kind
import GatewayOperator.Metadata

/-!
# Paths of objects

Every kind has a collection, in the whole cluster or in each namespace, and an object's path is its
name below it. Objects of a namespaced kind that name no namespace are looked for in the client's
own.
-/

namespace GatewayOperator

namespace Kind

/-- The root of a kind's group and version. -/
def root (k : Kind) : String :=
  if k.group = "" then "/api/" ++ k.version else "/apis/" ++ k.group ++ "/" ++ k.version

/-- All objects of a kind, over all namespaces. -/
def everywhere (k : Kind) : String := k.root ++ "/" ++ k.plural

/-- The namespace that a key of the kind lies in, for a client with a namespace of its own. -/
def scope (k : Kind) (home : String) (key : Key) : Option String :=
  if k.isNamespaced then some (key.ns.getD home) else none

/-- The collection that a key of the kind belongs to. -/
def collection (k : Kind) (home : String) (key : Key) : String :=
  match k.scope home key with
  | some ns => k.root ++ "/namespaces/" ++ ns ++ "/" ++ k.plural
  | none => k.everywhere

/-- The path of one object. -/
def objectPath (k : Kind) (home : String) (key : Key) (name : String) : String :=
  k.collection home key ++ "/" ++ name

end Kind

end GatewayOperator
