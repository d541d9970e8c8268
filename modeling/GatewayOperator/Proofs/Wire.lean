import GatewayOperator.Proofs.Json.Canonical

/-!
# Reading back what was written

A value `RoundTrips` if it is read back as it was written. Values of the basic types do
(`roundTrips_text` and the lemmas beside it), lists and dictionaries do if what they hold does.

A record is read field by field, and what a field reads as depends only on what stands under its
name (`orElse_eq`, `orUnset_eq`). What stands there is computed along the writers of fields
(`get?_always` and the lemmas beside it), and for each writer there is a lemma that its reader gives
back the value (`readOr_encode`, `readOr_unlessBlank`, `readOr_unlessNil`, `readOr_unlessEmpty`,
`readUnset_maybe`). All of these are simp lemmas, so that a record whose fields round-trip does so
by `simp`.
-/

namespace GatewayOperator

namespace Wire

open Json (Fields)
open Json.Fields (get?)

variable {α : Type} [Wire α]

/-- A value that is read back as it was written, and is not taken for an unset one. -/
structure RoundTrips (a : α) : Prop where
  decode_encode : decode (encode a) = some a
  encode_ne_null : encode a ≠ .null

/-! ## Fields by name -/

omit [Wire α] in
@[simp] theorem get?_unlessBlank (name s k : String) :
    get? (unlessBlank name s) k =
      if name = k then (if s = "" then none else some (.str s)) else none := by
  by_cases h : s = "" <;> simp [unlessBlank, h, get?]

omit [Wire α] in
@[simp] theorem get?_unlessNil [Wire (List α)] (name : String) (xs : List α) (k : String) :
    get? (unlessNil name xs) k =
      if name = k then (if xs = [] then none else some (encode xs)) else none := by
  cases xs <;> simp [unlessNil, get?]

omit [Wire α] in
@[simp] theorem get?_unlessEmpty [Wire (Dict α)] (name : String) (d : Dict α) (k : String) :
    get? (unlessEmpty name d) k =
      if name = k then (if d.isEmpty then none else some (encode d)) else none := by
  cases h : d.isEmpty <;> simp [unlessEmpty, h, get?]

@[simp] theorem get?_always (name : String) (a : α) (k : String) :
    get? (always name a) k = if name = k then some (encode a) else none := by
  simp [always, get?]

@[simp] theorem get?_maybe (name : String) (a : Option α) (k : String) :
    get? (maybe name a) k = if name = k then a.map encode else none := by
  cases a <;> simp [maybe, get?]

/-! ## Readers of a field -/

/-- What a field with a default reads as. -/
def readOr (default : α) : Option Json → Option α
  | some v => decode v
  | none => some default

/-- What a field that may be unset reads as. -/
def readUnset : Option Json → Option (Option α)
  | some .null => some none
  | some v => (decode v).map some
  | none => some none

theorem orElse_eq (fs : Fields) (name : String) (default : α) :
    orElse fs name default = readOr default (get? fs name) := by
  unfold orElse
  cases get? fs name <;> rfl

theorem orUnset_eq (fs : Fields) (name : String) :
    orUnset (α := α) fs name = readUnset (get? fs name) := by
  unfold orUnset
  cases get? fs name with
  | none => rfl
  | some v => cases v <;> rfl

@[simp] theorem fieldsOf?_obj (names : List String) (fs : Fields) :
    fieldsOf? names (.obj fs) = some fs := rfl

@[simp] theorem namedFields?_obj (fs : Fields) : namedFields? (.obj fs) = some fs := rfl

@[simp] theorem readOr_encode {a : α} (h : RoundTrips a) (default : α) :
    readOr default (some (encode a)) = some a := h.decode_encode

omit [Wire α] in
@[simp] theorem readOr_unlessBlank (s : String) :
    readOr "" (if s = "" then none else some (.str s)) = some s := by
  by_cases h : s = ""
  · simp [h, readOr]
  · rw [if_neg h]
    rfl

@[simp] theorem readOr_unlessNil {xs : List α} (h : RoundTrips xs) :
    readOr [] (if xs = [] then none else some (encode xs)) = some xs := by
  by_cases hnil : xs = []
  · simp [hnil, readOr]
  · rw [if_neg hnil]
    exact h.decode_encode

@[simp] theorem readOr_unlessEmpty {d : Dict α} (h : RoundTrips d) :
    readOr ∅ (if d.isEmpty then none else some (encode d)) = some d := by
  by_cases hempty : d.isEmpty = true
  · simp [Dict.eq_empty_of_isEmpty hempty, readOr]
  · rw [if_neg hempty]
    exact h.decode_encode

@[simp] theorem readUnset_maybe {a : Option α} (h : ∀ x ∈ a, RoundTrips x) :
    readUnset (a.map encode) = some a := by
  cases a with
  | none => rfl
  | some x =>
    obtain ⟨hdecode, hnull⟩ := h x rfl
    rw [Option.map_some]
    unfold readUnset
    split
    · rename_i heq
      exact absurd (Option.some.inj heq) hnull
    · rename_i heq
      rw [← Option.some.inj heq, hdecode, Option.map_some]
    · rename_i heq
      cases heq

/-! ## Basic values -/

@[simp] theorem roundTrips_text (s : String) : RoundTrips s := ⟨rfl, nofun⟩

@[simp] theorem roundTrips_flag (b : Bool) : RoundTrips b := ⟨rfl, nofun⟩

theorem fitsSigned_int32 (n : Int32) : Shape.fitsSigned 32 n.toInt = true := by
  have hlow := n.le_toInt
  have hhigh := n.toInt_lt
  simp only [Shape.fitsSigned, Bool.and_eq_true, decide_eq_true_eq]
  exact ⟨hlow, hhigh⟩

theorem fitsSigned_int64 (n : Int64) : Shape.fitsSigned 64 n.toInt = true := by
  have hlow := n.le_toInt
  have hhigh := n.toInt_lt
  simp only [Shape.fitsSigned, Bool.and_eq_true, decide_eq_true_eq]
  exact ⟨hlow, hhigh⟩

@[simp] theorem roundTrips_int32 (n : Int32) : RoundTrips n := by
  refine ⟨?_, nofun⟩
  change (if Shape.fitsSigned 32 n.toInt then some (Int32.ofInt n.toInt) else none) = some n
  rw [if_pos (fitsSigned_int32 n), Int32.ofInt_toInt]

@[simp] theorem roundTrips_int64 (n : Int64) : RoundTrips n := by
  refine ⟨?_, nofun⟩
  change (if Shape.fitsSigned 64 n.toInt then some (Int64.ofInt n.toInt) else none) = some n
  rw [if_pos (fitsSigned_int64 n), Int64.ofInt_toInt]

/-! ## Collections -/

theorem decodeItems_map {xs : List α} (h : ∀ x ∈ xs, RoundTrips x) :
    decodeItems (xs.map encode) = some xs := by
  induction xs with
  | nil => rfl
  | cons x xs ih =>
    obtain ⟨hx, hxs⟩ := List.forall_mem_cons.1 h
    simp [decodeItems, hx.decode_encode, ih hxs]

@[simp] theorem roundTrips_list {xs : List α} (h : ∀ x ∈ xs, RoundTrips x) : RoundTrips xs :=
  ⟨decodeItems_map h, nofun⟩

theorem decodeEntries_map {es : List (String × α)} (h : ∀ e ∈ es, RoundTrips e.2) :
    decodeEntries (es.map fun e => (e.1, encode e.2)) = some es := by
  induction es with
  | nil => rfl
  | cons e es ih =>
    obtain ⟨he, hes⟩ := List.forall_mem_cons.1 h
    simp [decodeEntries, he.decode_encode, ih hes]

@[simp] theorem roundTrips_dict {d : Dict α} (h : ∀ e ∈ d.entries, RoundTrips e.2) :
    RoundTrips d := by
  refine ⟨?_, nofun⟩
  change (decodeEntries (d.entries.map fun e => (e.1, encode e.2))).map Dict.ofList = some d
  rw [decodeEntries_map h, Option.map_some, Dict.ofList_entries]

@[simp] theorem roundTrips_intOrText (v : IntOrText) : RoundTrips v := by
  cases v with
  | int n =>
    refine ⟨?_, nofun⟩
    change
      (if Shape.fitsSigned 32 n.toInt then some (IntOrText.int (Int32.ofInt n.toInt)) else none) =
        some (.int n)
    rw [if_pos (fitsSigned_int32 n), Int32.ofInt_toInt]
  | text s => exact ⟨rfl, nofun⟩

/-! ## Values of other APIs -/

/-- A value of a record type is not null. -/
theorem encode_ne_null_of_decode {type : String} {f : Fragment type}
    (h : decode (encode f) = some f) : encode f ≠ .null := by
  intro hnull
  rw [hnull] at h
  cases h

end Wire

/-- A value of another API that its API reads as it is. -/
def Fragment.IsNormal {type : String} (f : Fragment type) : Prop :=
  Shape.read (.record type) f.value = .ok f.value

theorem Fragment.IsNormal.roundTrips {type : String} {f : Fragment type} (h : f.IsNormal) :
    Wire.RoundTrips f := by
  have hdecode : Wire.decode (Wire.encode f) = some f := by
    change
      ((Shape.read (.record type) f.value).toOption.map fun v => (⟨v⟩ : Fragment type)) = some f
    rw [h]
    rfl
  exact ⟨hdecode, Wire.encode_ne_null_of_decode hdecode⟩

end GatewayOperator
