import GatewayOperator.Proofs.Dict
import GatewayOperator.Wire

/-!
# Canonical values

The canonical form of an object keeps the last value under each name (`Fields.last?`) and puts the
names in order. `last?` is computed along the writers of fields (`++`, `Json.optional`,
`Wire.maybe`), so the fields of a written record are found without looking at their order.
-/

namespace GatewayOperator

namespace Json

namespace Fields

/-! ## Placing and finding -/

theorem place_eq (name : String) (value : Json) (fs : Fields) :
    place name value fs = Dict.place name value fs := by
  induction fs with
  | nil => rfl
  | cons f rest ih =>
    obtain ⟨k, v⟩ := f
    simp only [place, Dict.place, ih]

theorem get?_eq (fs : Fields) (name : String) : get? fs name = Dict.lookup name fs := by
  induction fs with
  | nil => rfl
  | cons f rest ih =>
    obtain ⟨k, v⟩ := f
    simp only [get?, Dict.lookup, ih, eq_comm]

theorem get?_place (name k : String) (value : Json) (fs : Fields) :
    get? (place name value fs) k = if k = name then some value else get? fs k := by
  rw [get?_eq, get?_eq, place_eq]
  by_cases h : k = name
  · subst h
    simp [Dict.lookup_place_self]
  · simp [Dict.lookup_place_ne value fs h, h]

theorem get?_append (fs gs : Fields) (name : String) :
    get? (fs ++ gs) name = (get? fs name <|> get? gs name) := by
  induction fs with
  | nil => rfl
  | cons f fs ih =>
    simp only [List.cons_append, get?]
    split
    · rfl
    · exact ih

theorem get?_optional (name k : String) (value : Option Json) :
    get? (Json.optional name value) k = if name = k then value else none := by
  cases value <;> simp [Json.optional, get?]

theorem get?_ofText? (name k : String) (text : Option String) :
    get? (Json.ofText? name text) k = if name = k then text.map .str else none := by
  cases text <;> simp [Json.ofText?, get?]

/-! ## The last value under a name -/

/-- The last value under a name, which the canonical form keeps. -/
def last? (fs : Fields) (name : String) : Option Json := get? (ascending fs) name

/-- Fields placed one after the other onto others. -/
theorem get?_foldl_place (gs acc : Fields) (k : String) :
    get? (gs.foldl (fun acc f => place f.1 f.2 acc) acc) k = (last? gs k).or (get? acc k) := by
  unfold last? ascending
  -- both folds go over the same fields, so the hypothesis is used for two accumulators
  induction gs generalizing acc with
  | nil => rfl
  | cons g rest ih =>
    rw [List.foldl_cons, List.foldl_cons, ih, ih (place g.1 g.2 []), get?_place, get?_place]
    cases get? (rest.foldl (fun acc f => place f.1 f.2 acc) []) k <;> by_cases h : k = g.1 <;>
      simp [h, get?]

@[simp] theorem last?_nil (k : String) : last? [] k = none := rfl

@[simp] theorem last?_append (fs gs : Fields) (k : String) :
    last? (fs ++ gs) k = (last? gs k).or (last? fs k) := by
  unfold last? ascending
  rw [List.foldl_append, get?_foldl_place]
  rfl

@[simp] theorem last?_cons (name : String) (value : Json) (rest : Fields) (k : String) :
    last? ((name, value) :: rest) k =
      (last? rest k).or (if k = name then some value else none) := by
  rw [← List.singleton_append, last?_append]
  by_cases h : k = name
  · simp [last?, ascending, place, get?, h]
  · have hn : ¬ name = k := fun hk => h hk.symm
    simp [last?, ascending, place, get?, h, hn]

@[simp] theorem last?_optional (name : String) (value : Option Json) (k : String) :
    last? (optional name value) k = if k = name then value else none := by
  cases value <;> simp [optional]

@[simp] theorem last?_ofText? (name : String) (s : Option String) (k : String) :
    last? (ofText? name s) k = if k = name then s.map .str else none := by
  cases s <;> simp [ofText?]

@[simp] theorem last?_always {α : Type} [Wire α] (name : String) (a : α) (k : String) :
    last? (Wire.always name a) k = if k = name then some (Wire.encode a) else none := by
  simp [Wire.always]

@[simp] theorem last?_maybe {α : Type} [Wire α] (name : String) (a : Option α) (k : String) :
    last? (Wire.maybe name a) k = if k = name then a.map Wire.encode else none := by
  cases a <;> simp [Wire.maybe]

/-! ## Ascending fields -/

/-- Names in ascending order, each once. -/
def Ascending (fs : Fields) : Prop := fs.Pairwise fun a b => a.1 < b.1

theorem ascending_place {name : String} {value : Json} {fs : Fields} (h : Ascending fs) :
    Ascending (place name value fs) := by
  rw [place_eq]
  exact Dict.place_ascending h

theorem ascending_foldl (gs acc : Fields) (h : Ascending acc) :
    Ascending (gs.foldl (fun acc f => place f.1 f.2 acc) acc) := by
  induction gs generalizing acc with
  | nil => exact h
  | cons g rest ih => exact ih (place g.1 g.2 acc) (ascending_place h)

theorem ascending_ascending (fs : Fields) : Ascending (ascending fs) :=
  ascending_foldl fs [] List.Pairwise.nil

/-- Among ascending fields every field is found. -/
theorem get?_of_mem {fs : Fields} (h : Ascending fs) {name : String} {value : Json}
    (hmem : (name, value) ∈ fs) : get? fs name = some value := by
  rw [get?_eq]
  exact Dict.lookup_eq_some_of_mem h hmem

theorem mem_foldl_place {gs acc : Fields} {f : String × Json}
    (h : f ∈ gs.foldl (fun acc f => place f.1 f.2 acc) acc) : f ∈ gs ∨ f ∈ acc := by
  induction gs generalizing acc with
  | nil => exact Or.inr h
  | cons g rest ih =>
    rcases ih h with hrest | hplace
    · exact Or.inl (List.mem_cons_of_mem _ hrest)
    · have hplace' : f ∈ place g.1 g.2 acc := hplace
      rw [place_eq] at hplace'
      rcases Dict.mem_place hplace' with heq | hacc
      · exact Or.inl (heq ▸ List.mem_cons_self)
      · exact Or.inr hacc

/-- Ordering the fields adds none. -/
theorem mem_of_mem_ascending {fs : Fields} {f : String × Json} (h : f ∈ ascending fs) : f ∈ fs := by
  rcases mem_foldl_place h with hmem | hnil
  · exact hmem
  · cases hnil

/-- Fields that ascend already stay as they are. -/
theorem ascending_eq_self {fs : Fields} (h : Ascending fs) : ascending fs = fs := by
  -- both lists ascend, so they are equal if they bind alike
  apply Dict.entries_ext (ascending_ascending fs) h
  intro k
  rw [← get?_eq, ← get?_eq]
  change last? fs k = get? fs k
  induction fs with
  | nil => rfl
  | cons f rest ih =>
    obtain ⟨name, value⟩ := f
    have hcons := List.pairwise_cons.1 h
    rw [last?_cons, ih hcons.2]
    by_cases hk : k = name
    · subst hk
      have hrest : get? rest k = none := by
        rw [get?_eq]
        exact Dict.lookup_eq_none hcons.1
      simp [hrest, get?]
    · have hn : ¬ name = k := fun h => hk h.symm
      simp [get?, hk, hn]

end Fields

/-! ## Canonical fields -/

@[simp] theorem canonicalFields_cons (name : String) (value : Json) (rest : Fields) :
    canonicalFields ((name, value) :: rest) = (name, value.canonical) :: canonicalFields rest := by
  simp [canonicalFields]

/-- The canonical form keeps the last value under each name, in canonical form. -/
theorem last?_canonicalFields (fs : Fields) (k : String) :
    Fields.last? (canonicalFields fs) k = (Fields.last? fs k).map canonical := by
  induction fs with
  | nil => rfl
  | cons f rest ih =>
    obtain ⟨name, value⟩ := f
    rw [canonicalFields_cons, Fields.last?_cons, Fields.last?_cons, ih]
    cases Fields.last? rest k <;> by_cases h : k = name <;> simp [h]

theorem get?_canonical (fs : Fields) (k : String) :
    Fields.get? (Fields.ascending (canonicalFields fs)) k = (Fields.last? fs k).map canonical :=
  last?_canonicalFields fs k

end Json

end GatewayOperator
