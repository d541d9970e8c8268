import GatewayOperator.Json.Contains
import GatewayOperator.Proofs.Json.Same

/-!
# Containment

On objects containment is decided by the last values under each name (`contains_obj_iff`). An object
whose fields cover those of another one contains it (`contains_of_covers`), and what a value
contains, every value contains that is the same (`contains_of_same`).
-/

namespace GatewayOperator

/-- A number is the same as all that are the same as one. -/
theorem Binary64.sameValue_of_sameValue {x y z : Binary64} (hy : x.sameValue y = true)
    (hz : x.sameValue z = true) : y.sameValue z = true := by
  simp only [sameValue, Bool.or_eq_true, beq_iff_eq, Bool.and_eq_true] at hy hz ⊢
  rcases hy with rfl | ⟨hx, hy⟩
  · exact hz
  · rcases hz with rfl | ⟨-, hz⟩
    · exact Or.inr ⟨hy, hx⟩
    · exact Or.inr ⟨hy, hz⟩

namespace Json

/-! ## Objects and lists -/

theorem containsFields_iff {cs ws : Fields} : containsFields cs ws = true ↔
    ∀ f ∈ ws, (match Fields.get? cs f.1 with
      | some c => containsCanonical c f.2
      | none => f.2.isEmptyValue) = true := by
  induction ws with
  | nil => simp [containsFields]
  | cons f ws ih =>
    obtain ⟨k, w⟩ := f
    rw [List.forall_mem_cons, ← ih, containsFields]
    exact Bool.and_eq_true_iff

/-- Whether a field that may be missing holds what is desired of it. -/
def HoldsField (c : Option Json) (w : Json) : Prop :=
  match c with
  | some c => c.contains w = true
  | none => w.canonical.isEmptyValue = true

/-- An object contains another one exactly if each of its fields holds what the other has there. -/
theorem contains_obj_iff {cs ws : Fields} : (obj cs).contains (obj ws) = true ↔
    ∀ k w, Fields.last? ws k = some w → HoldsField (Fields.last? cs k) w := by
  simp only [contains, canonical, containsCanonical, containsFields_iff]
  constructor
  · intro h k w hw
    have hmem : (k, w.canonical) ∈ Fields.ascending (canonicalFields ws) := by
      apply Dict.mem_of_lookup_eq_some
      rw [← Fields.get?_eq, get?_canonical, hw]
      rfl
    have hfield := h _ hmem
    rw [get?_canonical] at hfield
    cases hc : Fields.last? cs k <;> simpa [HoldsField, contains, hc] using hfield
  · rintro h ⟨k, w'⟩ hmem
    -- canonical fields ascend, so each one is the field that is found under its name
    have hget := Fields.get?_of_mem (Fields.ascending_ascending _) hmem
    rw [get?_canonical] at hget
    obtain ⟨w, hw, rfl⟩ := Option.map_eq_some_iff.1 hget
    have hfield := h k w hw
    rw [get?_canonical]
    cases hc : Fields.last? cs k <;> simpa [HoldsField, contains, hc] using hfield

/-- Only objects contain objects. -/
theorem obj_of_contains {j : Json} {ws : Fields} (h : j.contains (.obj ws) = true) :
    ∃ cs, j = .obj cs := by
  cases j with
  | obj cs => exact ⟨cs, rfl⟩
  | _ => simp [contains, canonical, containsCanonical, sameScalar] at h

theorem contains_arr_map {α : Type} {f g : α → Json} (h : ∀ x, (f x).contains (g x) = true)
    (xs : List α) : (arr (xs.map f)).contains (arr (xs.map g)) = true := by
  simp only [contains, canonical, containsCanonical]
  induction xs with
  | nil => rfl
  | cons x xs ih =>
    simp only [List.map_cons, canonicalItems, containsItems, ih, Bool.and_true]
    exact h x

/-! ## Values that are the same -/

mutual

theorem containsCanonical_of_same : (w a b : Json) → sameCanonical a b = true →
    containsCanonical a w = true → containsCanonical b w = true
  | .obj ws, a, b, hab, h => by
    cases a <;> cases b <;>
      simp only [sameCanonical, containsCanonical, sameScalar, Bool.false_eq_true] at hab h
    rw [containsCanonical]
    exact containsFields_of_same ws _ _ hab h
  | .arr ws, a, b, hab, h => by
    cases a <;> cases b <;>
      simp only [sameCanonical, containsCanonical, sameScalar, Bool.false_eq_true] at hab h
    rw [containsCanonical]
    exact containsItems_of_same ws _ _ hab h
  | .float z, a, b, hab, h => by
    cases a <;> cases b <;>
      simp only [sameCanonical, containsCanonical, sameScalar, Bool.false_eq_true] at hab h
    exact Binary64.sameValue_of_sameValue hab h
  | .null, a, b, hab, h | .bool _, a, b, hab, h | .int _, a, b, hab, h | .str _, a, b, hab, h => by
    cases a <;> cases b <;>
      simp_all only [sameCanonical, containsCanonical, sameScalar, Bool.false_eq_true, beq_iff_eq]

theorem containsItems_of_same : (ws as bs : List Json) → sameItems as bs = true →
    containsItems as ws = true → containsItems bs ws = true
  | [], as, bs, hab, h => by
    cases as <;> cases bs <;> simp only [sameItems, containsItems, Bool.false_eq_true] at hab h ⊢
  | w :: ws, as, bs, hab, h => by
    cases as with
    | nil => simp [containsItems] at h
    | cons a as =>
      cases bs with
      | nil => simp [sameItems] at hab
      | cons b bs =>
        simp only [sameItems, containsItems, Bool.and_eq_true] at hab h ⊢
        exact ⟨containsCanonical_of_same w a b hab.1 h.1,
          containsItems_of_same ws as bs hab.2 h.2⟩

theorem containsFields_of_same : (ws as bs : Fields) → sameFields as bs = true →
    containsFields as ws = true → containsFields bs ws = true
  | [], _, _, _, _ => rfl
  | (k, w) :: ws, as, bs, hab, h => by
    simp only [containsFields, Bool.and_eq_true] at h ⊢
    refine ⟨?_, containsFields_of_same ws as bs hab h.2⟩
    have hfield := h.1
    -- both sides have a field of this name or neither has
    have hget := get?_of_sameFields hab k
    cases ha : Fields.get? as k <;> cases hb : Fields.get? bs k <;> rw [ha, hb] at hget <;>
      cases hget
    · rwa [ha] at hfield
    · rename_i a b hsame
      rw [ha] at hfield
      exact containsCanonical_of_same w a b hsame hfield

end

/-- What a value contains, every value contains that is the same. -/
theorem contains_of_same {a b w : Json} (hab : a.same b = true) (h : a.contains w = true) :
    b.contains w = true :=
  containsCanonical_of_same _ _ _ hab h

/-! ## Covering fields -/

namespace Fields

theorem mem_of_last? {fs : Fields} {k : String} {v : Json} (h : last? fs k = some v) :
    (k, v) ∈ fs := by
  apply mem_of_mem_ascending
  apply Dict.mem_of_lookup_eq_some
  rw [← get?_eq]
  exact h

@[simp] theorem last?_ascending (fs : Fields) (k : String) :
    last? (ascending fs) k = last? fs k := by
  unfold last?
  rw [ascending_eq_self (ascending_ascending fs)]

/-- Every field that is desired is there and contains what is desired of it. -/
def Covers (cs ws : Fields) : Prop :=
  ∀ k w, last? ws k = some w → ∃ c, last? cs k = some c ∧ c.contains w = true

end Fields

/-- An object contains another one if its fields cover it. -/
theorem contains_of_covers {cs ws : Fields} (h : Fields.Covers cs ws) :
    (obj cs).contains (obj ws) = true := by
  rw [contains_obj_iff]
  intro k w hw
  obtain ⟨c, hc, hcontains⟩ := h k w hw
  rw [hc]
  exact hcontains

mutual

/-- Every value contains itself. -/
theorem contains_self : (a : Json) → a.contains a = true
  | .obj fs => by
    apply contains_of_covers
    intro k w hw
    exact ⟨w, hw, contains_self_of_mem fs (k, w) (Fields.mem_of_last? hw)⟩
  | .arr as => by
    simp only [contains, canonical, containsCanonical]
    exact containsItems_self as
  | .null => rfl
  | .bool b => by simp [contains, canonical, containsCanonical, sameScalar]
  | .int n => by simp [contains, canonical, containsCanonical, sameScalar]
  | .float x => by simp [contains, canonical, containsCanonical, sameScalar]
  | .str s => by simp [contains, canonical, containsCanonical, sameScalar]

theorem containsItems_self : (as : List Json) →
    containsItems (canonicalItems as) (canonicalItems as) = true
  | [] => rfl
  | a :: as => by
    simp only [canonicalItems, containsItems, Bool.and_eq_true]
    exact ⟨contains_self a, containsItems_self as⟩

theorem contains_self_of_mem : (fs : Fields) → ∀ f ∈ fs, f.2.contains f.2 = true
  | [], _, h => by cases h
  | (_, v) :: fs, f, h => by
    rcases List.mem_cons.1 h with rfl | hmem
    · exact contains_self v
    · exact contains_self_of_mem fs f hmem

end

end Json

end GatewayOperator
