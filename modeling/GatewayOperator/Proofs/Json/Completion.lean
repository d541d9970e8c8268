import GatewayOperator.Proofs.Json.Containment
import GatewayOperator.Proofs.Json.Same

/-!
# Completions

A server that stores a value adds fields of its own, and it leaves out fields that are empty.
`Json.Completes c d` says that `c` arises from `d` in this way, in objects at any depth; it is said
by what is found under names and indices, without the order of fields.

* `contains_iff_completes`: containment holds of completions and of nothing else,
* `Completes.reach?`: along every path of `d` a completion has a completion of what is there, or
  leaves it out,
* `Completes.withField`: a completion stays one when it gets a field that `d` does not set,
* `detectsDrift_contains`: so containment tells what a server filled in from what somebody changed.
-/

namespace GatewayOperator

namespace Json

/-! ## Paths -/

/-- One step into a value. -/
inductive Step where
  /-- to the value under a name, of several the last one -/
  | field (name : String)
  | item (index : Nat)
  deriving DecidableEq, Repr

/-- The value one step inside. -/
def inside? : Json → Step → Option Json
  | .obj fs, .field name => Fields.last? fs name
  | .arr xs, .item i => xs[i]?
  | _, _ => none

/-- The value at the end of a path. -/
def reach? (j : Json) : List Step → Option Json
  | [] => some j
  | step :: path => (j.inside? step).bind fun x => x.reach? path

/-- The value with one more field, in the object at the end of a path. Values without such an object
stay as they are. -/
def withField : (j : Json) → (path : List Step) → (name : String) → (value : Json) → Json
  | .obj fs, [], name, value => .obj (fs ++ [(name, value)])
  | .obj fs, .field k :: path, name, value =>
    match Fields.last? fs k with
    | some x => .obj (fs ++ [(k, x.withField path name value)])
    | none => .obj fs
  | .arr xs, .item i :: path, name, value => .arr (xs.modify i fun x => x.withField path name value)
  | j, _, _, _ => j

/-- Values that hold no other values. -/
def isScalar : Json → Bool
  | .arr _ => false
  | .obj _ => false
  | _ => true

theorem inside?_of_isScalar {j : Json} (h : j.isScalar = true) (step : Step) :
    j.inside? step = none := by
  cases j with
  | arr xs => cases h
  | obj fs => cases h
  | _ => rfl

theorem withField_of_isScalar {j : Json} (h : j.isScalar = true) (path : List Step) (name : String)
    (value : Json) : j.withField path name value = j := by
  cases j with
  | arr xs => cases h
  | obj fs => cases h
  | _ => cases path <;> rfl

theorem sizeOf_inside? {j x : Json} {step : Step} (h : j.inside? step = some x) :
    sizeOf x < sizeOf j := by
  cases j <;> cases step <;> simp only [inside?, reduceCtorEq] at h
  · have hlt := List.sizeOf_lt_of_mem (List.mem_of_getElem? h)
    simp only [arr.sizeOf_spec]
    omega
  · have hlt := List.sizeOf_lt_of_mem (Fields.mem_of_last? h)
    simp only [Prod.mk.sizeOf_spec] at hlt
    simp only [obj.sizeOf_spec]
    omega

/-- What holds of a value if it holds of all values inside holds of every value. -/
theorem induction_inside {motive : Json → Prop}
    (h : ∀ j, (∀ step x, j.inside? step = some x → motive x) → motive j) (j : Json) : motive j :=
  h j fun _ x hx => have := sizeOf_inside? hx; induction_inside h x
termination_by sizeOf j

/-! ## Containment of lists and scalars -/

theorem isEmptyValue_canonical (j : Json) : j.canonical.isEmptyValue = j.isEmptyValue := by
  cases j with
  | arr xs => cases xs <;> rfl
  | obj fs =>
    -- a field that was there is still found in the canonical form
    cases fs with
    | nil => rfl
    | cons f fs =>
      obtain ⟨name, value⟩ := f
      have hfound : ∃ x, Fields.last? ((name, value) :: fs) name = some x := by
        rw [Fields.last?_cons, if_pos rfl]
        cases Fields.last? fs name with
        | none => exact ⟨value, rfl⟩
        | some x => exact ⟨x, rfl⟩
      obtain ⟨x, hx⟩ := hfound
      have hget := get?_canonical ((name, value) :: fs) name
      rw [hx] at hget
      simp only [canonical, isEmptyValue, List.isEmpty_cons]
      cases hcanonical : Fields.ascending (canonicalFields ((name, value) :: fs)) with
      | nil =>
        rw [hcanonical] at hget
        cases hget
      | cons g gs => rfl
  | _ => rfl

/-- Lists contain lists of the same length, item by item. -/
theorem contains_arr_iff {cs ds : List Json} : (arr cs).contains (arr ds) = true ↔
    cs.length = ds.length ∧
      ∀ (i : Nat) (c d : Json), cs[i]? = some c → ds[i]? = some d → c.contains d = true := by
  simp only [contains, canonical, containsCanonical]
  induction cs generalizing ds with
  | nil => cases ds <;> simp [canonicalItems, containsItems]
  | cons c cs ih =>
    cases ds with
    | nil => simp [canonicalItems, containsItems]
    | cons d ds =>
      simp only [canonicalItems, containsItems, Bool.and_eq_true, ih, List.length_cons,
        Nat.add_right_cancel_iff]
      constructor
      · rintro ⟨hhead, hlength, htail⟩
        refine ⟨hlength, fun i x y hx hy => ?_⟩
        cases i with
        | zero =>
          cases hx
          cases hy
          exact hhead
        | succ i => exact htail i x y hx hy
      · rintro ⟨hlength, hall⟩
        exact ⟨hall 0 c d rfl rfl, hlength, fun i => hall (i + 1)⟩

/-- Only scalars are equal as scalars. -/
theorem isScalar_of_sameScalar {c d : Json} (h : c.sameScalar d = true) :
    c.isScalar = true ∧ d.isScalar = true := by
  cases c <;> cases d <;> first | exact ⟨rfl, rfl⟩ | cases h

/-- Of a scalar, containment and equality are the same. -/
theorem contains_of_isScalar {d : Json} (hd : d.isScalar = true) (c : Json) :
    c.contains d = c.sameScalar d := by
  cases d with
  | arr ds => cases hd
  | obj ds => cases hd
  | _ => cases c <;> rfl

theorem same_of_isScalar {d : Json} (hd : d.isScalar = true) (c : Json) :
    c.same d = c.sameScalar d := by
  cases d with
  | arr ds => cases hd
  | obj ds => cases hd
  | _ => cases c <;> rfl

/-- Only lists contain lists. -/
theorem arr_of_contains {c : Json} {ds : List Json} (h : c.contains (.arr ds) = true) :
    ∃ cs, c = .arr cs := by
  cases c with
  | arr cs => exact ⟨cs, rfl⟩
  | _ => simp [contains, canonical, containsCanonical, sameScalar] at h

/-! ## Completions -/

/-- A value that a server may make of a desired one. -/
inductive Completes : (c d : Json) → Prop
  | scalar {c d : Json} : c.sameScalar d = true → Completes c d
  | items {cs ds : List Json} : cs.length = ds.length →
      (∀ (i : Nat) (c d : Json), cs[i]? = some c → ds[i]? = some d → Completes c d) →
      Completes (.arr cs) (.arr ds)
  /-- What is under a name that both have is completed, a field of `ds` that is left out is empty,
  and further fields of `cs` may hold anything. -/
  | fields {cs ds : Fields} :
      (∀ k c d, Fields.last? cs k = some c → Fields.last? ds k = some d → Completes c d) →
      (∀ k d, Fields.last? ds k = some d → Fields.last? cs k = none → d.isEmptyValue = true) →
      Completes (.obj cs) (.obj ds)

/-- Containment decides what a completion is. -/
theorem contains_iff_completes (c d : Json) : c.contains d = true ↔ c.Completes d := by
  constructor
  · intro h
    induction d using induction_inside generalizing c with
    | h d ih =>
      cases d with
      | obj ds =>
        obtain ⟨cs, rfl⟩ := obj_of_contains h
        rw [contains_obj_iff] at h
        refine .fields (fun k c w hc hw => ?_) fun k w hw hc => ?_
        · have hfield := h k w hw
          rw [hc] at hfield
          exact ih (.field k) w hw c hfield
        · have hfield := h k w hw
          rw [hc] at hfield
          exact (isEmptyValue_canonical w).symm.trans hfield
      | arr ds =>
        obtain ⟨cs, rfl⟩ := arr_of_contains h
        obtain ⟨hlength, hitems⟩ := contains_arr_iff.1 h
        exact .items hlength fun i c w hc hw => ih (.item i) w hw c (hitems i c w hc hw)
      | _ => exact .scalar ((contains_of_isScalar rfl c).symm.trans h)
  · intro h
    induction h with
    | @scalar c d h => exact (contains_of_isScalar (isScalar_of_sameScalar h).2 c).trans h
    | items hlength _ ih => exact contains_arr_iff.2 ⟨hlength, ih⟩
    | @fields cs ds _ hempty ih =>
      refine contains_obj_iff.2 fun k w hw => ?_
      cases hc : Fields.last? cs k with
      | some c => exact ih k c w hc hw
      | none => exact (isEmptyValue_canonical w).trans (hempty k w hw hc)

/-! ## Along paths -/

/-- Nothing is inside an empty value. -/
theorem inside?_of_isEmptyValue {j : Json} (h : j.isEmptyValue = true) (step : Step) :
    j.inside? step = none := by
  cases j with
  | arr xs =>
    obtain rfl : xs = [] := List.isEmpty_iff.1 h
    cases step <;> rfl
  | obj fs =>
    obtain rfl : fs = [] := List.isEmpty_iff.1 h
    cases step <;> rfl
  | _ => cases step <;> rfl

/-- One step inside a completed value the completion has a completion, or it leaves the value
out. -/
theorem Completes.inside? {c d w : Json} (h : c.Completes d) {step : Step}
    (hw : d.inside? step = some w) :
    (∃ x, c.inside? step = some x ∧ x.Completes w) ∨
      c.inside? step = none ∧ w.isEmptyValue = true := by
  cases h with
  | scalar h =>
    rw [inside?_of_isScalar (isScalar_of_sameScalar h).2] at hw
    cases hw
  | @items cs ds hlength hitems =>
    cases step with
    | field name => cases hw
    | item i =>
      have hlt : i < cs.length := hlength ▸ (List.getElem?_eq_some_iff.1 hw).1
      have hx : cs[i]? = some cs[i] := List.getElem?_eq_getElem hlt
      exact Or.inl ⟨cs[i], hx, hitems i cs[i] w hx hw⟩
  | @fields cs ds hkept hempty =>
    cases step with
    | item i => cases hw
    | field name =>
      cases hc : Fields.last? cs name with
      | some x => exact Or.inl ⟨x, hc, hkept name x w hc hw⟩
      | none => exact Or.inr ⟨hc, hempty name w hw hc⟩

/-- Along every path of a value a completion has a completion of what is there, or it leaves out
what is empty. -/
theorem Completes.reach? {c d w : Json} (h : c.Completes d) {path : List Step}
    (hw : d.reach? path = some w) :
    (∃ x, c.reach? path = some x ∧ x.Completes w) ∨
      c.reach? path = none ∧ w.isEmptyValue = true := by
  induction path generalizing c d with
  | nil =>
    cases hw
    exact Or.inl ⟨c, rfl, h⟩
  | cons step path ih =>
    obtain ⟨v, hv, hw⟩ := Option.bind_eq_some_iff.1 hw
    rcases h.inside? hv with ⟨x, hx, hcompletes⟩ | ⟨hnone, hempty⟩
    · have hreach : c.reach? (step :: path) = x.reach? path := by simp [Json.reach?, hx]
      rw [hreach]
      exact ih hcompletes hw
    · -- what is left out is empty, so the path ends there
      have hmissing : c.reach? (step :: path) = none := by simp [Json.reach?, hnone]
      cases path with
      | nil =>
        cases hw
        exact Or.inr ⟨hmissing, hempty⟩
      | cons next path => simp [Json.reach?, inside?_of_isEmptyValue hempty next] at hw

/-- Lists that are the same hold the same under every index. -/
theorem getElem?_of_same {xs ys : List Json} (h : (arr xs).same (.arr ys) = true) (i : Nat) :
    SameIfSet xs[i]? ys[i]? := by
  induction xs generalizing ys i with
  | nil =>
    cases ys with
    | nil => exact .none
    | cons y ys => simp [same, canonical, canonicalItems, sameCanonical, sameItems] at h
  | cons x xs ih =>
    cases ys with
    | nil => simp [same, canonical, canonicalItems, sameCanonical, sameItems] at h
    | cons y ys =>
      simp only [same, canonical, canonicalItems, sameCanonical, sameItems, Bool.and_eq_true] at h
      cases i with
      | zero => exact .some h.1
      | succ i => exact ih (by simpa [same, canonical, sameCanonical] using h.2) i

theorem inside?_of_same {a b : Json} (h : a.same b = true) (step : Step) :
    SameIfSet (a.inside? step) (b.inside? step) := by
  by_cases hb : b.isScalar = true
  · have ha := (isScalar_of_sameScalar ((same_of_isScalar hb a).symm.trans h)).1
    rw [inside?_of_isScalar ha, inside?_of_isScalar hb]
    exact .none
  · cases b with
    | arr ys =>
      cases a with
      | arr xs =>
        cases step with
        | item i => exact getElem?_of_same h i
        | field name => exact .none
      | _ => simp [same, canonical, sameCanonical, sameScalar] at h
    | obj gs =>
      cases a with
      | obj fs =>
        cases step with
        | field name => exact same_obj h name
        | item i => exact .none
      | _ => simp [same, canonical, sameCanonical, sameScalar] at h
    | _ => exact absurd rfl hb

/-- Values that are the same hold the same along every path. -/
theorem reach?_of_same {a b : Json} (h : a.same b = true) (path : List Step) :
    SameIfSet (a.reach? path) (b.reach? path) := by
  induction path generalizing a b with
  | nil => exact .some h
  | cons step path ih =>
    have hstep := inside?_of_same h step
    unfold reach?
    generalize a.inside? step = x at hstep
    generalize b.inside? step = y at hstep
    cases hstep with
    | none => exact .none
    | some hsame => exact ih hsame

/-- The text at the end of a path. -/
def textAlong? (j : Json) (path : List Step) : Option String := (j.reach? path).bind text?

theorem textAlong?_eq_some_iff {j : Json} {path : List Step} {v : String} :
    j.textAlong? path = some v ↔ j.reach? path = some (.str v) := by
  unfold textAlong?
  rw [Option.bind_eq_some_iff]
  constructor
  · rintro ⟨x, hx, htext⟩
    cases x with
    | str w =>
      cases htext
      exact hx
    | _ => cases htext
  · exact fun h => ⟨.str v, h, rfl⟩

/-- What is the same as a text is the text. -/
theorem eq_str_of_sameScalar {x : Json} {v : String} (h : x.sameScalar (.str v) = true) :
    x = .str v := by
  cases x with
  | str w => exact congrArg str (by simpa [sameScalar] using h)
  | _ => cases h

/-- Texts of what is desired are along the same paths of what contains it. -/
theorem textAlong?_of_contains {c d : Json} {path : List Step} {v : String}
    (h : c.contains d = true) (hv : d.textAlong? path = some v) : c.textAlong? path = some v := by
  rw [textAlong?_eq_some_iff] at hv ⊢
  rcases ((contains_iff_completes c d).1 h).reach? hv with ⟨x, hx, hcompletes⟩ | ⟨-, hempty⟩
  · cases hcompletes with
    | scalar hsame => rw [hx, eq_str_of_sameScalar hsame]
  · cases hempty

/-- Values that are the same have the same texts. -/
theorem textAlong?_of_same {a b : Json} (h : a.same b = true) (path : List Step) :
    a.textAlong? path = b.textAlong? path := by
  have hreach := reach?_of_same h path
  unfold textAlong?
  generalize a.reach? path = x at hreach
  generalize b.reach? path = y at hreach
  cases hreach with
  | none => rfl
  | @some x y hsame =>
    cases x <;> cases y <;> first | rfl | simp [same, canonical, sameCanonical, sameScalar] at hsame
    simp only [Option.bind_some, text?, hsame]

/-- A field that comes to an object completes what is desired under its name, if anything is. -/
theorem Completes.append {cs ds : Fields} (h : (obj cs).Completes (.obj ds)) {name : String}
    {value : Json} (hvalue : ∀ w, Fields.last? ds name = some w → value.Completes w) :
    (obj (cs ++ [(name, value)])).Completes (.obj ds) := by
  cases h with
  | scalar h => cases h
  | fields hkept hempty =>
    refine .fields (fun k x w hx hw => ?_) fun k w hw hx => ?_
    · by_cases hk : k = name
      · subst hk
        obtain rfl : value = x := by simpa using hx
        exact hvalue w hw
      · exact hkept k x w (by simpa [hk] using hx) hw
    · by_cases hk : k = name
      · simp [hk] at hx
      · exact hempty k w hw (by simpa [hk] using hx)

/-- An item that is changed and still completes what is desired in its place does not matter. -/
theorem Completes.modify {cs ds : List Json} (h : (arr cs).Completes (.arr ds)) {i : Nat}
    {change : Json → Json}
    (hchange : ∀ x w, ds[i]? = some w → x.Completes w → (change x).Completes w) :
    (arr (cs.modify i change)).Completes (.arr ds) := by
  cases h with
  | scalar h => cases h
  | items hlength hitems =>
    refine .items (by simpa using hlength) fun j x w hx hw => ?_
    rw [List.getElem?_modify] at hx
    obtain ⟨y, hy, rfl⟩ := Option.map_eq_some_iff.1 hx
    have hcompletes := hitems j y w hy hw
    split
    · rename_i hij
      subst hij
      exact hchange y w hw hcompletes
    · exact hcompletes

/-- A field that is not desired does not matter, wherever it comes to stand. -/
theorem Completes.withField {c d : Json} (h : c.Completes d) {path : List Step} {name : String}
    {value : Json} (hfree : d.reach? (path ++ [.field name]) = none) :
    (c.withField path name value).Completes d := by
  induction path generalizing c d with
  | nil =>
    cases h with
    | scalar hscalar =>
      rw [withField_of_isScalar (isScalar_of_sameScalar hscalar).1]
      exact .scalar hscalar
    | items hlength hitems => exact .items hlength hitems
    | @fields cs ds hkept hempty =>
      have hunset : Fields.last? ds name = none := by
        simpa [Json.reach?, Json.inside?] using hfree
      refine Completes.append (.fields hkept hempty) fun w hw => ?_
      rw [hunset] at hw
      cases hw
  | cons step path ih =>
    cases h with
    | scalar hscalar =>
      rw [withField_of_isScalar (isScalar_of_sameScalar hscalar).1]
      exact .scalar hscalar
    | @items cs ds hlength hitems =>
      cases step with
      | field k => exact .items hlength hitems
      | item i =>
        refine Completes.modify (.items hlength hitems) fun x w hw hcompletes => ?_
        exact ih hcompletes (by simpa [Json.reach?, Json.inside?, hw] using hfree)
    | @fields cs ds hkept hempty =>
      cases step with
      | item i => exact .fields hkept hempty
      | field k =>
        cases hy : Fields.last? cs k with
        | none =>
          have hstays : (Json.obj cs).withField (.field k :: path) name value = .obj cs := by
            simp [Json.withField, hy]
          rw [hstays]
          exact .fields hkept hempty
        | some y =>
          have hwritten : (Json.obj cs).withField (.field k :: path) name value =
              .obj (cs ++ [(k, y.withField path name value)]) := by simp [Json.withField, hy]
          rw [hwritten]
          refine Completes.append (.fields hkept hempty) fun w hw => ?_
          exact ih (hkept k y w hy hw) (by simpa [Json.reach?, Json.inside?, hw] using hfree)

/-! ## Drift -/

/-- A test that tells drift from what a server filled in. -/
structure DetectsDrift (test : Json → Json → Bool) : Prop where
  /-- It holds of completions and of nothing else. -/
  exact : ∀ c d, test c d = true ↔ c.Completes d
  refl : ∀ d, test d d = true
  /-- Fields that are not desired do not matter. -/
  gained : ∀ (c d : Json) (path : List Step) (name : String) (value : Json), test c d = true →
    d.reach? (path ++ [.field name]) = none → test (c.withField path name value) d = true
  /-- A desired scalar has its value, wherever it stands. -/
  changed : ∀ (c d : Json) (path : List Step) (x w : Json), d.reach? path = some w →
    w.isScalar = true → c.reach? path = some x → x.same w = false → test c d = false
  /-- What is desired and not empty is there. -/
  missing : ∀ (c d : Json) (path : List Step) (w : Json), d.reach? path = some w →
    w.isEmptyValue = false → c.reach? path = none → test c d = false
  /-- A list has its length. -/
  resized : ∀ (c d : Json) (path : List Step) (xs ws : List Json), d.reach? path = some (.arr ws) →
    c.reach? path = some (.arr xs) → xs.length ≠ ws.length → test c d = false
  /-- Every item of a list is a completion. -/
  broken : ∀ (c d : Json) (path : List Step) (xs ws : List Json) (i : Nat) (x w : Json),
    d.reach? path = some (.arr ws) → c.reach? path = some (.arr xs) → xs[i]? = some x →
    ws[i]? = some w → ¬ x.Completes w → test c d = false

/-- What stands at a path and is no completion shows that the whole is none. -/
theorem contains_eq_false {c d x w : Json} {path : List Step} (hw : d.reach? path = some w)
    (hx : c.reach? path = some x) (h : ¬ x.Completes w) : c.contains d = false := by
  rw [Bool.eq_false_iff]
  intro hcontains
  rcases ((contains_iff_completes c d).1 hcontains).reach? hw with ⟨y, hy, hcompletes⟩ | ⟨hnone, -⟩
  · rw [hx] at hy
    cases hy
    exact h hcompletes
  · rw [hx] at hnone
    cases hnone

theorem detectsDrift_contains : DetectsDrift contains where
  exact := contains_iff_completes
  refl := contains_self
  gained c d path name value h hfree := by
    rw [contains_iff_completes] at h ⊢
    exact h.withField hfree
  changed c d path x w hw hscalar hx hother := by
    refine contains_eq_false hw hx fun hcompletes => ?_
    have hcontains := (contains_iff_completes x w).2 hcompletes
    rw [contains_of_isScalar hscalar, ← same_of_isScalar hscalar, hother] at hcontains
    cases hcontains
  missing c d path w hw hset hnone := by
    rw [Bool.eq_false_iff]
    intro hcontains
    rcases ((contains_iff_completes c d).1 hcontains).reach? hw with ⟨x, hx, -⟩ | ⟨-, hempty⟩
    · rw [hnone] at hx
      cases hx
    · rw [hset] at hempty
      cases hempty
  resized c d path xs ws hws hxs hlength := by
    refine contains_eq_false hws hxs fun hcompletes => ?_
    cases hcompletes with
    | scalar h => cases h
    | items hsame _ => exact hlength hsame
  broken c d path xs ws i x w hws hxs hx hw hnot := by
    refine contains_eq_false hws hxs fun hcompletes => ?_
    cases hcompletes with
    | scalar h => cases h
    | items _ hitems => exact hnot (hitems i x w hx hw)

end Json

end GatewayOperator
