import GatewayOperator.Proofs.Json.Canonical

/-!
# Values that are the same

`Json.same` compares canonical forms, so on objects it compares the last values under each name
(`same_obj`). A way to write values is `Faithful` if values that are written the same are equal:
texts, flags, lists and dictionaries are written faithfully, and a record is if its fields are.
Numbers are not, since the two zeros are the same.
-/

namespace GatewayOperator

namespace Json

/-! ## Objects -/

/-- Values that may be missing: both are, or they are the same. -/
abbrev SameIfSet : Option Json → Option Json → Prop := Option.Rel fun a b => a.same b = true

theorem get?_of_sameFields {as bs : Fields} (h : sameFields as bs = true) (k : String) :
    Option.Rel (fun a b => sameCanonical a b = true) (Fields.get? as k) (Fields.get? bs k) := by
  induction as generalizing bs with
  | nil =>
    cases bs with
    | nil => exact .none
    | cons b bs => simp [sameFields] at h
  | cons a as ih =>
    obtain ⟨i, a⟩ := a
    cases bs with
    | nil => simp [sameFields] at h
    | cons b bs =>
      obtain ⟨j, b⟩ := b
      simp only [sameFields, Bool.and_eq_true, beq_iff_eq] at h
      obtain ⟨⟨rfl, hab⟩, hrest⟩ := h
      simp only [Fields.get?]
      split
      · exact .some hab
      · exact ih hrest

/-- Objects that are the same hold the same under every name. -/
theorem same_obj {fs gs : Fields} (h : (obj fs).same (obj gs) = true) (k : String) :
    SameIfSet (Fields.last? fs k) (Fields.last? gs k) := by
  have hcanonical : sameFields (Fields.ascending (canonicalFields fs))
      (Fields.ascending (canonicalFields gs)) = true := by
    simpa [same, canonical, sameCanonical] using h
  have hget := get?_of_sameFields hcanonical k
  rw [get?_canonical, get?_canonical] at hget
  cases hf : Fields.last? fs k <;> cases hg : Fields.last? gs k <;> rw [hf, hg] at hget <;>
    cases hget
  · exact .none
  · rename_i hsame
    exact .some hsame

/-! ## Faithful writing -/

section Faithful

variable {α : Type} {write : α → Json}

/-- Values that are written the same are equal. -/
def Faithful (write : α → Json) : Prop := ∀ a b, (write a).same (write b) = true → a = b

/-- A value that may be unset, among what is written faithfully. -/
theorem Faithful.eq_of_sameIfSet (hw : Faithful write) {a b : Option α}
    (h : SameIfSet (a.map write) (b.map write)) : a = b := by
  cases a <;> cases b <;> cases h
  · rfl
  · rename_i hsame
    rw [hw _ _ hsame]

theorem faithful_str : Faithful str := by
  intro a b h
  simpa [same, canonical, sameCanonical, sameScalar] using h

theorem faithful_bool : Faithful bool := by
  intro a b h
  simpa [same, canonical, sameCanonical, sameScalar] using h

/-- Lists are written faithfully if their items are. -/
theorem Faithful.arr (hw : Faithful write) : Faithful fun xs : List α => .arr (xs.map write) := by
  intro xs ys h
  replace h : sameItems (canonicalItems (xs.map write)) (canonicalItems (ys.map write)) = true := by
    simpa [same, canonical, sameCanonical] using h
  induction xs generalizing ys with
  | nil =>
    cases ys with
    | nil => rfl
    | cons y ys => simp [canonicalItems, sameItems] at h
  | cons x xs ih =>
    cases ys with
    | nil => simp [canonicalItems, sameItems] at h
    | cons y ys =>
      simp only [List.map_cons, canonicalItems, sameItems, Bool.and_eq_true] at h
      rw [hw x y h.1, ih ys h.2]

theorem faithful_texts : Faithful texts := faithful_str.arr

theorem last?_entries {es : List (String × String)} (h : es.Pairwise fun a b => a.1 < b.1)
    (k : String) :
    Fields.last? (es.map fun e => (e.1, str e.2)) k = (Dict.lookup k es).map .str := by
  have hascending : Fields.Ascending (es.map fun e => (e.1, str e.2)) := by
    unfold Fields.Ascending
    rw [List.pairwise_map]
    exact h
  unfold Fields.last?
  rw [Fields.ascending_eq_self hascending]
  clear hascending h
  induction es with
  | nil => rfl
  | cons e es ih =>
    simp only [List.map_cons, Fields.get?, Dict.lookup, ih, eq_comm]
    split <;> rfl

theorem faithful_ofDict : Faithful ofDict := by
  intro a b h
  apply Dict.ext_get?
  intro k
  have hk := same_obj h k
  rw [last?_entries a.ascending, last?_entries b.ascending] at hk
  exact faithful_str.eq_of_sameIfSet hk

end Faithful

end Json

end GatewayOperator
