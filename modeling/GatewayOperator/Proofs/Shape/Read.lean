import GatewayOperator.Metadata
import GatewayOperator.Proofs.Wire
import GatewayOperator.Service.Port

/-!
# Values in normal form

A value is in normal form under a shape if it reads as it is (`Shape.IsNormal`). Scalars are, lists
and dictionaries are if what they hold is, and a record is if its fields ascend, are known to its
type and in normal form, and none that is required is missing (`isNormal_record`).

Values that are kept as Lean data are written in normal form and read back: ports of Services
(`ServicePort.roundTrips`) and the metadata of objects (`Metadata.read_toJson`).
-/

namespace GatewayOperator

namespace Shape

open Json (Fields)

/-- A value that reads as it is. -/
def IsNormal (shape : Shape) (v : Json) : Prop := read shape v = .ok v

/-- A field that a record of a type has, with a value in normal form. -/
def IsFieldOf (type : String) (e : String × Json) : Prop :=
  ∃ f, findField (fieldsOf type) e.1 = some f ∧ e.2.isNull = false ∧ IsNormal f.shape e.2

/-! ## Scalars and collections -/

theorem isNormal_text (s : String) : IsNormal .text (.str s) := rfl

theorem isNormal_flag (b : Bool) : IsNormal .flag (.bool b) := rfl

theorem isNormal_int32 (n : Int32) : IsNormal .int32 (Json.ofInt32 n) :=
  if_pos (Wire.fitsSigned_int32 n)

theorem isNormal_int64 {n : Int} (h : fitsSigned 64 n = true) : IsNormal .int64 (.int n) :=
  if_pos h

theorem isNormal_intOrText (v : IntOrText) : IsNormal .intOrText v.toJson := by
  cases v with
  | int n => exact if_pos (Wire.fitsSigned_int32 n)
  | text s => rfl

theorem readItems_of_isNormal {item : Shape} {vs : List Json} (h : ∀ v ∈ vs, IsNormal item v) :
    readItems item vs = .ok vs := by
  induction vs with
  | nil => rfl
  | cons v vs ih =>
    obtain ⟨hv, hvs⟩ := List.forall_mem_cons.1 h
    have hcons : readItems item (v :: vs) =
        (do let v ← read item v; let vs ← readItems item vs; pure (v :: vs)) := rfl
    have hread : read item v = .ok v := hv
    rw [hcons, hread, ih hvs]
    rfl

theorem isNormal_list {item : Shape} {vs : List Json} (h : ∀ v ∈ vs, IsNormal item v) :
    IsNormal (.list item) (.arr vs) := by
  have hread : read (.list item) (.arr vs) = (readItems item vs).map .arr := rfl
  rw [IsNormal, hread, readItems_of_isNormal h]
  rfl

theorem readEntries_of_isNormal {value : Shape} {fs : Fields} (h : ∀ e ∈ fs, IsNormal value e.2) :
    readEntries value fs = .ok fs := by
  induction fs with
  | nil => rfl
  | cons e fs ih =>
    obtain ⟨he, hfs⟩ := List.forall_mem_cons.1 h
    have hcons : readEntries value (e :: fs) =
        (do let v ← read value e.2; let rest ← readEntries value fs; pure ((e.1, v) :: rest)) := rfl
    have hread : read value e.2 = .ok e.2 := he
    rw [hcons, hread, ih hfs]
    rfl

theorem isNormal_dict {value : Shape} {fs : Fields} (hascending : Fields.Ascending fs)
    (h : ∀ e ∈ fs, IsNormal value e.2) : IsNormal (.dict value) (.obj fs) := by
  have hread : read (.dict value) (.obj fs) =
      (readEntries value fs).map fun fs => .obj (Fields.ascending fs) := rfl
  rw [IsNormal, hread, readEntries_of_isNormal h]
  change Except.ok (Json.obj (Fields.ascending fs)) = _
  rw [Fields.ascending_eq_self hascending]

theorem isNormal_texts (ss : List String) : IsNormal (.list .text) (Json.texts ss) := by
  refine isNormal_list fun v hv => ?_
  obtain ⟨s, -, rfl⟩ := List.mem_map.1 hv
  exact isNormal_text s

theorem isNormal_ofDict (d : Dict String) : IsNormal (.dict .text) (Json.ofDict d) := by
  refine isNormal_dict ?_ fun e he => ?_
  · unfold Fields.Ascending
    rw [List.pairwise_map]
    exact d.ascending
  · obtain ⟨s, -, rfl⟩ := List.mem_map.1 he
    exact isNormal_text s.2

/-! ## Records -/

theorem readFields_of_isFieldOf {type : String} {fs : Fields} (h : ∀ e ∈ fs, IsFieldOf type e) :
    readFields (fieldsOf type) fs = .ok fs := by
  induction fs with
  | nil => rfl
  | cons e fs ih =>
    obtain ⟨⟨f, hknown, hnull, hread⟩, hfs⟩ := List.forall_mem_cons.1 h
    have hread : read f.shape e.2 = .ok e.2 := hread
    rw [readFields, hknown]
    dsimp only
    rw [hnull]
    -- a field that is not null is read by its shape, whatever the shape
    split <;> first | contradiction | (rw [hread, ih hfs]; rfl)

/-- The names of a type's required fields. -/
def required (type : String) : List String :=
  ((fieldsOf type).filter (·.zero.isSome)).map (·.name)

theorem missing_eq_nil {type : String} {fs : Fields}
    (h : ∀ name ∈ required type, (Fields.get? fs name).isSome = true) :
    missing (fieldsOf type) fs = [] := by
  rw [missing, List.filterMap_eq_nil_iff]
  intro f hf
  split
  · rename_i zero hzero hget
    have hname : f.name ∈ required type :=
      List.mem_map_of_mem (List.mem_filter.2 ⟨hf, by rw [hzero]; rfl⟩)
    have hthere := h f.name hname
    rw [hget] at hthere
    cases hthere
  · rfl

/-- A record is in normal form if its fields are. -/
theorem isNormal_record {type : String} {fs : Fields} (hascending : Fields.Ascending fs)
    (hfields : ∀ e ∈ fs, IsFieldOf type e)
    (hrequired : ∀ name ∈ required type, (Fields.get? fs name).isSome = true) :
    IsNormal (.record type) (.obj fs) := by
  rw [IsNormal, read, readFields_of_isFieldOf hfields]
  change Except.ok (complete (fieldsOf type) fs) = _
  rw [complete, missing_eq_nil hrequired, List.append_nil, Fields.ascending_eq_self hascending]

/-! ## Writers of fields -/

/-- Fields whose names are among ascending ones, in their order, ascend. -/
theorem ascending_of_sublist {fs : Fields} (names : List String)
    (hsub : (fs.map (·.1)).Sublist names) (hnames : names.Pairwise (· < ·)) :
    Fields.Ascending fs :=
  List.pairwise_map.1 (hnames.sublist hsub)

theorem names_optional (name : String) (v : Option Json) :
    ((Json.optional name v).map (·.1)).Sublist [name] := by
  cases v with
  | none => exact List.nil_sublist _
  | some v => exact List.Sublist.refl _

theorem forall_optional {p : String × Json → Prop} {name : String} {v : Option Json}
    (h : ∀ x, v = some x → p (name, x)) : ∀ e ∈ Json.optional name v, p e := by
  intro e he
  cases v with
  | none => cases he
  | some x =>
    obtain rfl := List.mem_singleton.1 he
    exact h x rfl

theorem ofText?_eq (name : String) (s : Option String) :
    Json.ofText? name s = Json.optional name (s.map .str) := by
  cases s <;> rfl

/-- A text that may be unset. -/
theorem isFieldOf_text {type name : String} {f : Field}
    (hknown : findField (fieldsOf type) name = some f) (hshape : f.shape = .text)
    (s : Option String) : ∀ e ∈ Json.ofText? name s, IsFieldOf type e := by
  rw [ofText?_eq]
  refine forall_optional fun x hx => ?_
  obtain ⟨text, -, rfl⟩ := Option.map_eq_some_iff.1 hx
  exact ⟨f, hknown, rfl, hshape ▸ isNormal_text text⟩

end Shape

/-! ## Accessors of normal forms -/

namespace Json

@[simp] theorem field?_obj (fs : Fields) (name : String) :
    field? (.obj fs) name = Fields.get? fs name := rfl

@[simp] theorem bind_text? (s : Option String) : (s.map Json.str).bind text? = s := by
  cases s <;> rfl

@[simp] theorem bind_bool? (b : Option Bool) : (b.map Json.bool).bind bool? = b := by
  cases b <;> rfl

@[simp] theorem bind_int? (n : Option Int) : (n.map Json.int).bind int? = n := by
  cases n <;> rfl

@[simp] theorem int32_ofInt32 (n : Int32) : (ofInt32 n).int?.map Int32.ofInt = some n :=
  congrArg some n.ofInt_toInt

@[simp] theorem bind_int32 (n : Option Int32) :
    (n.map ofInt32).bind (Option.map Int32.ofInt ∘ int?) = n := by
  cases n with
  | none => rfl
  | some n => exact int32_ofInt32 n

theorem dictAt?_obj {fs : Fields} {name : String} {d : Option (Dict String)}
    (h : Fields.get? fs name = d.map ofDict) : dictAt? (.obj fs) name = d := by
  unfold dictAt?
  rw [field?_obj, h]
  cases d with
  | none => rfl
  | some d =>
    have hread : ∀ es : List (String × String),
        (es.map fun e => (e.1, Json.str e.2)).filterMap
          (fun f => (text? f.2).map fun v => (f.1, v)) = es := by
      intro es
      rw [List.filterMap_map]
      exact List.filterMap_some
    change some (Dict.ofList _) = some d
    rw [hread, Dict.ofList_entries]

theorem itemsAt?_obj {fs : Fields} {name : String} {items : Option (List Json)}
    (h : Fields.get? fs name = items.map .arr) : itemsAt? (.obj fs) name = items := by
  unfold itemsAt?
  rw [field?_obj, h]
  cases items <;> rfl

theorem textsAt?_obj {fs : Fields} {name : String} {ss : Option (List String)}
    (h : Fields.get? fs name = ss.map texts) : textsAt? (.obj fs) name = ss := by
  have hitems : Fields.get? fs name = (ss.map fun ss => ss.map Json.str).map Json.arr := by
    rw [h, Option.map_map]
    rfl
  unfold textsAt?
  rw [itemsAt?_obj hitems]
  cases ss with
  | none => rfl
  | some ss =>
    have hread : (ss.map Json.str).filterMap text? = ss := by
      rw [List.filterMap_map]
      exact List.filterMap_some
    exact congrArg some hread

end Json

open Shape Wire
open Json.Fields (get? get?_append get?_optional get?_ofText?)

namespace ServicePort

/-- The names of a port's fields. -/
def fieldNames : List String :=
  ["appProtocol"] ++ ["name"] ++ ["nodePort"] ++ ["port"] ++ ["protocol"] ++ ["targetPort"]

theorem isNormal_toJson (p : ServicePort) : IsNormal (.record "ServicePort") p.toJson := by
  refine isNormal_record (ascending_of_sublist fieldNames ?_ (by decide)) ?_ ?_
  · simp only [List.map_append, ofText?_eq]
    refine .append (.append (.append (.append (.append ?_ ?_) ?_) ?_) ?_) ?_
    all_goals first | exact names_optional _ _ | exact List.Sublist.refl _
  · simp only [List.forall_mem_append, List.forall_mem_singleton]
    refine ⟨⟨⟨⟨⟨?appProtocol, ?name⟩, ?nodePort⟩, ?port⟩, ?protocol⟩, ?targetPort⟩
    case appProtocol => exact isFieldOf_text rfl rfl _
    case name => exact isFieldOf_text rfl rfl _
    case nodePort =>
      refine forall_optional fun x hx => ?_
      obtain ⟨n, -, rfl⟩ := Option.map_eq_some_iff.1 hx
      exact ⟨_, rfl, rfl, isNormal_int32 n⟩
    case port => exact ⟨_, rfl, rfl, isNormal_int32 p.port⟩
    case protocol => exact isFieldOf_text rfl rfl _
    case targetPort =>
      refine forall_optional fun x hx => ?_
      obtain ⟨v, -, rfl⟩ := Option.map_eq_some_iff.1 hx
      exact ⟨_, rfl, by cases v <;> rfl, isNormal_intOrText v⟩
  · have hrequired : required "ServicePort" = ["port"] := rfl
    rw [hrequired, List.forall_mem_singleton]
    simp [get?_append, get?_optional, get?_ofText?, get?]

theorem ofJson_toJson (p : ServicePort) : ofJson p.toJson = p := by
  have htarget : ∀ v : Option IntOrText, (v.map IntOrText.toJson).bind IntOrText.ofJson? = v := by
    intro v
    cases v with
    | none => rfl
    | some v => exact (roundTrips_intOrText v).decode_encode
  simp only [ofJson, toJson, Json.textAt?, Json.int32At?, Json.int32At, Json.intAt?,
    Json.field?_obj, List.append_assoc, List.cons_append, List.nil_append, get?_append,
    get?_optional, get?_ofText?, get?, ↓reduceIte, String.reduceEq, Option.orElse_eq_orElse,
    Option.orElse_eq_or, Option.or_self, Option.or_none, Option.none_or, Option.or_some,
    Option.getD_none, Option.getD_some, Option.bind_some, Option.map_bind, Json.bind_text?,
    Json.bind_int32, Json.int32_ofInt32, htarget]

@[simp] theorem roundTrips (p : ServicePort) : Wire.RoundTrips p := by
  refine ⟨?_, nofun⟩
  change ((read (.record "ServicePort") p.toJson).toOption.map ofJson) = some p
  rw [p.isNormal_toJson]
  exact congrArg some p.ofJson_toJson

end ServicePort

/-! ## Metadata of objects -/

namespace OwnerReference

/-- The names of a reference's fields. -/
def fieldNames : List String :=
  ["apiVersion"] ++ ["blockOwnerDeletion"] ++ ["controller"] ++ ["kind", "name", "uid"]

theorem isNormal_toJson (o : OwnerReference) : IsNormal (.record "OwnerReference") o.toJson := by
  have hflag : ∀ (name : String) (b : Option Bool) (f : Field),
      findField (fieldsOf "OwnerReference") name = some f → f.shape = .flag →
        ∀ e ∈ Json.optional name (b.map .bool), IsFieldOf "OwnerReference" e := by
    intro name b f hknown hshape
    refine forall_optional fun x hx => ?_
    obtain ⟨flag, -, rfl⟩ := Option.map_eq_some_iff.1 hx
    exact ⟨f, hknown, rfl, hshape ▸ isNormal_flag flag⟩
  refine isNormal_record (ascending_of_sublist fieldNames ?_ (by decide)) ?_ ?_
  · simp only [List.map_append]
    exact (((List.Sublist.refl _).append (names_optional _ _)).append (names_optional _ _)).append
      (List.Sublist.refl _)
  · simp only [List.forall_mem_append, List.forall_mem_cons]
    have hnil := List.forall_mem_nil (IsFieldOf "OwnerReference")
    refine ⟨⟨⟨⟨?_, hnil⟩, ?_⟩, ?_⟩, ?_, ?_, ?_, hnil⟩
    · exact ⟨_, rfl, rfl, isNormal_text o.apiVersion⟩
    · exact hflag _ _ _ rfl rfl
    · exact hflag _ _ _ rfl rfl
    · exact ⟨_, rfl, rfl, isNormal_text o.kind⟩
    · exact ⟨_, rfl, rfl, isNormal_text o.name⟩
    · exact ⟨_, rfl, rfl, isNormal_text o.uid⟩
  · have hrequired : required "OwnerReference" = ["apiVersion", "kind", "name", "uid"] := rfl
    rw [hrequired]
    simp [get?_append, get?_optional, get?]

theorem ofJson_toJson (o : OwnerReference) : ofJson o.toJson = o := by
  simp [ofJson, toJson, Json.textAt, Json.textAt?, Json.boolAt?, get?_append, get?_optional, get?,
    Json.text?]

end OwnerReference

namespace Metadata

/-- Metadata of which every value is one that the API can hold: the texts of instants are spelled as
the API spells them, and numbers fit. -/
structure IsNormal (m : Metadata) : Prop where
  creationTimestamp : ∀ t ∈ m.creationTimestamp, Shape.IsNormal .time (.str t)
  deletionGracePeriodSeconds : ∀ n ∈ m.deletionGracePeriodSeconds, fitsSigned 64 n = true
  deletionTimestamp : ∀ t ∈ m.deletionTimestamp, Shape.IsNormal .time (.str t)
  generation : ∀ n ∈ m.generation, fitsSigned 64 n = true
  managedFields : ∀ es ∈ m.managedFields, ∀ e ∈ es,
    Shape.IsNormal (.record "ManagedFieldsEntry") e

/-- The names of the fields of metadata. -/
def fieldNames : List String :=
  ["annotations"] ++ ["creationTimestamp"] ++ ["deletionGracePeriodSeconds"] ++
    ["deletionTimestamp"] ++ ["finalizers"] ++ ["generateName"] ++ ["generation"] ++ ["labels"] ++
    ["managedFields"] ++ ["name"] ++ ["namespace"] ++ ["ownerReferences"] ++ ["resourceVersion"] ++
    ["selfLink"] ++ ["uid"]

/-- A field of metadata that may be unset. -/
theorem isFieldOf_optional {α : Type} {name : String} {f : Field} {v : Option α} {toJson : α → Json}
    (hknown : findField (fieldsOf "ObjectMeta") name = some f)
    (h : ∀ x ∈ v, (toJson x).isNull = false ∧ Shape.IsNormal f.shape (toJson x)) :
    ∀ e ∈ Json.optional name (v.map toJson), IsFieldOf "ObjectMeta" e := by
  refine forall_optional fun x hx => ?_
  obtain ⟨a, ha, rfl⟩ := Option.map_eq_some_iff.1 hx
  exact ⟨f, hknown, h a ha⟩

theorem isNormal_toJson {m : Metadata} (h : m.IsNormal) :
    Shape.IsNormal (.record "ObjectMeta") m.toJson := by
  refine isNormal_record (ascending_of_sublist fieldNames ?_ (by decide)) ?_ ?_
  · simp only [List.map_append, ofText?_eq]
    unfold fieldNames
    iterate 14 refine List.Sublist.append ?_ (names_optional _ _)
    exact names_optional _ _
  · simp only [List.forall_mem_append]
    refine ⟨⟨⟨⟨⟨⟨⟨⟨⟨⟨⟨⟨⟨⟨?annotations, ?creationTimestamp⟩, ?deletionGracePeriodSeconds⟩,
      ?deletionTimestamp⟩, ?finalizers⟩, ?generateName⟩, ?generation⟩, ?labels⟩, ?managedFields⟩,
      ?name⟩, ?ns⟩, ?ownerReferences⟩, ?resourceVersion⟩, ?selfLink⟩, ?uid⟩
    case annotations => exact isFieldOf_optional rfl fun d _ => ⟨rfl, isNormal_ofDict d⟩
    case labels => exact isFieldOf_optional rfl fun d _ => ⟨rfl, isNormal_ofDict d⟩
    case finalizers => exact isFieldOf_optional rfl fun ss _ => ⟨rfl, isNormal_texts ss⟩
    case creationTimestamp =>
      rw [ofText?_eq]
      exact isFieldOf_optional rfl fun t ht => ⟨rfl, h.creationTimestamp t ht⟩
    case deletionTimestamp =>
      rw [ofText?_eq]
      exact isFieldOf_optional rfl fun t ht => ⟨rfl, h.deletionTimestamp t ht⟩
    case deletionGracePeriodSeconds =>
      exact isFieldOf_optional rfl fun n hn =>
        ⟨rfl, isNormal_int64 (h.deletionGracePeriodSeconds n hn)⟩
    case generation =>
      exact isFieldOf_optional rfl fun n hn => ⟨rfl, isNormal_int64 (h.generation n hn)⟩
    case managedFields =>
      exact isFieldOf_optional rfl fun es hes => ⟨rfl, isNormal_list (h.managedFields es hes)⟩
    case ownerReferences =>
      refine isFieldOf_optional rfl fun os _ => ⟨rfl, isNormal_list fun v hv => ?_⟩
      obtain ⟨o, -, rfl⟩ := List.mem_map.1 hv
      exact o.isNormal_toJson
    case generateName => exact isFieldOf_text rfl rfl _
    case name => exact isFieldOf_text rfl rfl _
    case ns => exact isFieldOf_text rfl rfl _
    case resourceVersion => exact isFieldOf_text rfl rfl _
    case selfLink => exact isFieldOf_text rfl rfl _
    case uid => exact isFieldOf_text rfl rfl _
  · have hrequired : required "ObjectMeta" = [] := rfl
    rw [hrequired]
    exact List.forall_mem_nil _

theorem ofJson_toJson (m : Metadata) : ofJson m.toJson = m := by
  have hannotations : m.toJson.dictAt? "annotations" = m.annotations :=
    Json.dictAt?_obj (by simp [get?_append, get?_optional, get?_ofText?])
  have hlabels : m.toJson.dictAt? "labels" = m.labels :=
    Json.dictAt?_obj (by simp [get?_append, get?_optional, get?_ofText?])
  have hfinalizers : m.toJson.textsAt? "finalizers" = m.finalizers :=
    Json.textsAt?_obj (by simp [get?_append, get?_optional, get?_ofText?])
  have hmanagedFields : m.toJson.itemsAt? "managedFields" = m.managedFields :=
    Json.itemsAt?_obj (by simp [get?_append, get?_optional, get?_ofText?])
  have howners : m.toJson.itemsAt? "ownerReferences" =
      m.ownerReferences.map fun os => os.map OwnerReference.toJson :=
    Json.itemsAt?_obj (by simp [get?_append, get?_optional, get?_ofText?, Function.comp_def])
  have hreferences : ∀ os : List OwnerReference,
      (os.map OwnerReference.toJson).map OwnerReference.ofJson = os := by
    intro os
    simp [Function.comp_def, OwnerReference.ofJson_toJson]
  unfold ofJson
  rw [hannotations, hlabels, hfinalizers, hmanagedFields, howners]
  simp [toJson, Json.textAt?, Json.intAt?, get?_append, get?_optional, get?_ofText?,
    Function.comp_def, hreferences]

theorem read_toJson {m : Metadata} (h : m.IsNormal) : Metadata.read m.toJson = .ok m := by
  have hread : Shape.read (.record "ObjectMeta") m.toJson = .ok m.toJson := isNormal_toJson h
  rw [Metadata.read, hread]
  exact congrArg Except.ok m.ofJson_toJson

end Metadata

end GatewayOperator
