import GatewayOperator.Proofs.Json.Same
import GatewayOperator.Resource.Wire

/-!
# Objects that are written alike

`Resource.sameAs` compares what is written of two objects. Where it holds, labels, annotations and
owners are equal (`sameMarks_of_sameAs`), and every field of the contents is the same
(`content_of_sameAs`). Rules, role references and subjects are written faithfully, so where they are
the same they are equal.
-/

namespace GatewayOperator

open Json (Faithful SameIfSet faithful_str faithful_bool faithful_texts faithful_ofDict)

/-! ## Records -/

theorem OwnerReference.faithful : Faithful OwnerReference.toJson := by
  intro a b h
  have hfield := Json.same_obj h
  have hversion : some a.apiVersion = some b.apiVersion :=
    faithful_str.eq_of_sameIfSet (by simpa using hfield "apiVersion")
  have hkind : some a.kind = some b.kind :=
    faithful_str.eq_of_sameIfSet (by simpa using hfield "kind")
  have hname : some a.name = some b.name :=
    faithful_str.eq_of_sameIfSet (by simpa using hfield "name")
  have huid : some a.uid = some b.uid :=
    faithful_str.eq_of_sameIfSet (by simpa using hfield "uid")
  have hcontroller : a.controller = b.controller :=
    faithful_bool.eq_of_sameIfSet (by simpa using hfield "controller")
  have hblock : a.blockOwnerDeletion = b.blockOwnerDeletion :=
    faithful_bool.eq_of_sameIfSet (by simpa using hfield "blockOwnerDeletion")
  cases a
  cases b
  simp_all only [Option.some.injEq]

theorem PolicyRule.faithful : Faithful PolicyRule.toJson := by
  intro a b h
  have hfield := Json.same_obj h
  have hgroups : a.apiGroups = b.apiGroups :=
    faithful_texts.eq_of_sameIfSet (by simpa using hfield "apiGroups")
  have hurls : a.nonResourceURLs = b.nonResourceURLs :=
    faithful_texts.eq_of_sameIfSet (by simpa using hfield "nonResourceURLs")
  have hnames : a.resourceNames = b.resourceNames :=
    faithful_texts.eq_of_sameIfSet (by simpa using hfield "resourceNames")
  have hresources : a.resources = b.resources :=
    faithful_texts.eq_of_sameIfSet (by simpa using hfield "resources")
  have hverbs : some a.verbs = some b.verbs :=
    faithful_texts.eq_of_sameIfSet (by simpa using hfield "verbs")
  cases a
  cases b
  simp_all only [Option.some.injEq]

theorem RoleRef.faithful : Faithful RoleRef.toJson := by
  intro a b h
  have hfield := Json.same_obj h
  have hgroup : some a.apiGroup = some b.apiGroup :=
    faithful_str.eq_of_sameIfSet (by simpa using hfield "apiGroup")
  have hkind : some a.kind = some b.kind :=
    faithful_str.eq_of_sameIfSet (by simpa using hfield "kind")
  have hname : some a.name = some b.name :=
    faithful_str.eq_of_sameIfSet (by simpa using hfield "name")
  cases a
  cases b
  simp_all only [Option.some.injEq]

theorem Subject.faithful : Faithful Subject.toJson := by
  intro a b h
  have hfield := Json.same_obj h
  have hgroup : a.apiGroup = b.apiGroup :=
    faithful_str.eq_of_sameIfSet (by simpa using hfield "apiGroup")
  have hkind : some a.kind = some b.kind :=
    faithful_str.eq_of_sameIfSet (by simpa using hfield "kind")
  have hname : some a.name = some b.name :=
    faithful_str.eq_of_sameIfSet (by simpa using hfield "name")
  have hns : a.ns = b.ns := faithful_str.eq_of_sameIfSet (by simpa using hfield "namespace")
  cases a
  cases b
  simp_all only [Option.some.injEq]

/-- The subjects of a binding are equal if they are written alike. -/
theorem BindingContent.subjects_of_same {b b' : BindingContent}
    (h : SameIfSet (Json.Fields.last? b.toFields "subjects")
      (Json.Fields.last? b'.toFields "subjects")) : b.subjects = b'.subjects :=
  Subject.faithful.arr.eq_of_sameIfSet (by simpa [BindingContent.toFields] using h)

/-! ## Objects -/

namespace Resource

variable {k : Kind} {r s : Resource k}

theorem toJson_same (h : r.sameAs s = true) (name : String) :
    SameIfSet
      (Json.Fields.last? ([("apiVersion", .str k.apiVersion), ("kind", .str k.name),
        ("metadata", r.metadata.toJson)] ++ k.contentFields r.content) name)
      (Json.Fields.last? ([("apiVersion", .str k.apiVersion), ("kind", .str k.name),
        ("metadata", s.metadata.toJson)] ++ k.contentFields s.content) name) :=
  Json.same_obj h name

/-- The fields of the contents are the same, those apart that every object has. -/
theorem content_of_sameAs (h : r.sameAs s = true) {name : String} (hn : name ∉ Kind.headFields) :
    SameIfSet (Json.Fields.last? (k.contentFields r.content) name)
      (Json.Fields.last? (k.contentFields s.content) name) := by
  have hfield := toJson_same h name
  simp only [Kind.headFields, List.mem_cons, List.not_mem_nil, or_false, not_or] at hn
  simpa [hn] using hfield

/-- A kind that keeps all fields of its objects may keep one that is called metadata. -/
theorem last?_metadata (haccount : k ≠ .serviceAccount) (hevent : k ≠ .event) (c : k.Content) :
    Json.Fields.last? (k.contentFields c) "metadata" = none := by
  cases k with
  | serviceAccount => exact absurd rfl haccount
  | event => exact absurd rfl hevent
  | autoscaler version => cases version <;> simp [Kind.contentFields]
  | _ =>
    simp [Kind.contentFields, Managed.toFields, BindingContent.toFields, rulesField]

/-- Objects with the same labels, annotations and owners. -/
structure SameMarks (r s : Resource k) : Prop where
  labels : r.metadata.labels = s.metadata.labels
  annotations : r.metadata.annotations = s.metadata.annotations
  owners : r.metadata.ownerReferences = s.metadata.ownerReferences

theorem sameMarks_of_sameAs (haccount : k ≠ .serviceAccount) (hevent : k ≠ .event)
    (h : r.sameAs s = true) : r.SameMarks s := by
  have hmeta := toJson_same h "metadata"
  rw [Json.Fields.last?_append, Json.Fields.last?_append, last?_metadata haccount hevent,
    last?_metadata haccount hevent] at hmeta
  have hsame : r.metadata.toJson.same s.metadata.toJson = true := by simpa using hmeta
  have hfield := Json.same_obj hsame
  exact ⟨faithful_ofDict.eq_of_sameIfSet (by simpa using hfield "labels"),
    faithful_ofDict.eq_of_sameIfSet (by simpa using hfield "annotations"),
    OwnerReference.faithful.arr.eq_of_sameIfSet (by simpa using hfield "ownerReferences")⟩

end Resource

end GatewayOperator
