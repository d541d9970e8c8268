import GatewayOperator.Wire

/-!
# Rules, roles and subjects

What a role permits (`PolicyRule`), which role a binding grants (`RoleRef`) and to whom (`Subject`).
`prune` takes a service account out of a list of subjects and leaves the others in their order.
-/

namespace GatewayOperator

/-- A permission: verbs on resources of some API groups. -/
structure PolicyRule where
  apiGroups : Option (List String) := none
  nonResourceURLs : Option (List String) := none
  resourceNames : Option (List String) := none
  resources : Option (List String) := none
  verbs : List String := []
  deriving DecidableEq, Repr, Inhabited

namespace PolicyRule

def toJson (r : PolicyRule) : Json :=
  .obj (Json.optional "apiGroups" (r.apiGroups.map Json.texts) ++
    Json.optional "nonResourceURLs" (r.nonResourceURLs.map Json.texts) ++
    Json.optional "resourceNames" (r.resourceNames.map Json.texts) ++
    Json.optional "resources" (r.resources.map Json.texts) ++ [("verbs", Json.texts r.verbs)])

/-- The rule of a normal form. -/
def ofJson (j : Json) : PolicyRule where
  apiGroups := j.textsAt? "apiGroups"
  nonResourceURLs := j.textsAt? "nonResourceURLs"
  resourceNames := j.textsAt? "resourceNames"
  resources := j.textsAt? "resources"
  verbs := (j.textsAt? "verbs").getD []

instance : Wire PolicyRule where
  encode := toJson
  decode j := (Shape.read (.record "PolicyRule") j).toOption.map ofJson

end PolicyRule

/-- The role that a binding grants. -/
structure RoleRef where
  apiGroup : String := ""
  kind : String := ""
  name : String := ""
  deriving DecidableEq, Repr, Inhabited

namespace RoleRef

def toJson (r : RoleRef) : Json :=
  .obj [("apiGroup", .str r.apiGroup), ("kind", .str r.kind), ("name", .str r.name)]

/-- The reference of a normal form. -/
def ofJson (j : Json) : RoleRef where
  apiGroup := j.textAt "apiGroup"
  kind := j.textAt "kind"
  name := j.textAt "name"

end RoleRef

/-- Whom a binding grants its role. -/
structure Subject where
  apiGroup : Option String := none
  kind : String := ""
  name : String := ""
  ns : Option String := none
  deriving DecidableEq, Repr, Inhabited

namespace Subject

def toJson (s : Subject) : Json :=
  .obj (Json.ofText? "apiGroup" s.apiGroup ++ [("kind", .str s.kind), ("name", .str s.name)] ++
    Json.ofText? "namespace" s.ns)

/-- The subject of a normal form. -/
def ofJson (j : Json) : Subject where
  apiGroup := j.textAt? "apiGroup"
  kind := j.textAt "kind"
  name := j.textAt "name"
  ns := j.textAt? "namespace"

instance : Wire Subject where
  encode := toJson
  decode j := (Shape.read (.record "Subject") j).toOption.map ofJson

/-- A service account as a subject. -/
def serviceAccount (name ns : String) : Subject where
  kind := "ServiceAccount"
  name := name
  ns := some ns

/-- Whether a subject is the service account `name` in `ns`. -/
def isAccount (s : Subject) (name ns : String) : Bool :=
  s.kind == "ServiceAccount" && s.name == name && s.ns == some ns

/-- Whether two subjects are one: the API group does not matter. -/
def isSameAs (s t : Subject) : Bool := s.kind == t.kind && s.name == t.name && s.ns == t.ns

/-- The subjects without a service account. -/
def prune (subjects : List Subject) (name ns : String) : List Subject :=
  subjects.filter fun s => !s.isAccount name ns

/-- The subjects with one more at the end, unless it is there. -/
def add (subjects : List Subject) (s : Subject) : List Subject :=
  if subjects.any (·.isSameAs s) then subjects else subjects ++ [s]

end Subject

end GatewayOperator
