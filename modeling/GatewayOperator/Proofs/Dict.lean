import GatewayOperator.Dict

/-!
# Bindings of dictionaries

What union, emptiness and the list of keys say about the bindings of a dictionary. Together with
`Dict.ext_get?` they decide equations between dictionaries key by key.
-/

namespace GatewayOperator

namespace Dict

variable {α β : Type}

/-! ## Entries -/

/-- A binding that is found stands among the entries. -/
theorem mem_of_lookup_eq_some {k : String} {v : α} {es : List (String × α)}
    (h : lookup k es = some v) : (k, v) ∈ es := by
  induction es with
  | nil => simp [lookup] at h
  | cons e rest ih =>
    obtain ⟨j, w⟩ := e
    by_cases hk : k = j
    · subst hk
      have hw : w = v := by simpa [lookup] using h
      simp [hw]
    · have hrest : lookup k rest = some v := by simpa [lookup, hk] using h
      exact List.mem_cons_of_mem _ (ih hrest)

/-- Among ascending entries every entry is found. -/
theorem lookup_eq_some_of_mem {k : String} {v : α} {es : List (String × α)}
    (ha : es.Pairwise (fun a b => a.1 < b.1)) (h : (k, v) ∈ es) : lookup k es = some v := by
  induction es with
  | nil => cases h
  | cons e rest ih =>
    obtain ⟨j, w⟩ := e
    rw [List.pairwise_cons] at ha
    rcases List.mem_cons.1 h with heq | hmem
    · obtain ⟨rfl, rfl⟩ := Prod.mk.inj heq
      simp [lookup]
    · have hlt : j < k := ha.1 (k, v) hmem
      have hne : k ≠ j := by
        intro heq
        rw [heq] at hlt
        exact String.lt_irrefl j hlt
      simpa [lookup, hne] using ih ha.2 hmem

/-! ## Keys and emptiness -/

/-- The keys are those that are bound. -/
theorem mem_keys {d : Dict α} {k : String} : k ∈ d.keys ↔ (d.get? k).isSome = true := by
  unfold keys
  rw [List.mem_map]
  constructor
  · rintro ⟨⟨j, v⟩, hmem, rfl⟩
    have hget : d.get? j = some v := lookup_eq_some_of_mem d.ascending hmem
    simp [hget]
  · intro h
    obtain ⟨v, hv⟩ := Option.isSome_iff_exists.1 h
    exact ⟨(k, v), mem_of_lookup_eq_some hv, rfl⟩

theorem get?_eq_none {d : Dict α} {k : String} (h : k ∉ d.keys) : d.get? k = none := by
  rw [mem_keys] at h
  simpa using h

/-- A dictionary is empty exactly if it binds nothing. -/
theorem isEmpty_iff {d : Dict α} : d.isEmpty = true ↔ ∀ k, d.get? k = none := by
  constructor
  · intro h k
    have hnil : d.entries = [] := by simpa [isEmpty] using h
    simp [get?, hnil, lookup]
  · intro h
    cases he : d.entries with
    | nil => simp [isEmpty, he]
    | cons e rest =>
      obtain ⟨k, v⟩ := e
      have hget : d.get? k = some v := by simp [get?, he, lookup]
      rw [h k] at hget
      cases hget

theorem eq_empty_of_isEmpty {d : Dict α} (h : d.isEmpty = true) : d = ∅ :=
  ext_get? fun k => by rw [isEmpty_iff.1 h k, get?_empty]

@[simp] theorem isEmpty_empty : (∅ : Dict α).isEmpty = true := rfl

/-- An unset dictionary and an empty one bind alike. -/
theorem getD_nonempty? (d : Dict α) : d.nonempty?.getD ∅ = d := by
  cases h : d.isEmpty with
  | true => simp [nonempty?, eq_empty_of_isEmpty h]
  | false => simp [nonempty?, h]

/-- What an unset dictionary binds. -/
theorem get?_getD (d : Option (Dict α)) (k : String) :
    (d.getD ∅).get? k = d.bind fun d => d.get? k := by
  cases d <;> rfl

/-! ## Insertion and union -/

theorem get?_insert (d : Dict α) (k j : String) (v : α) :
    (d.insert k v).get? j = if j = k then some v else d.get? j := by
  by_cases h : j = k
  · subst h
    simp
  · simp [get?_insert_ne d v h, h]

/-- When every entry of a list decides the binding of its own key, the whole list decides those of
its keys. -/
theorem get?_foldl {step : Dict β → String × α → Dict β} {f : α → Option β}
    (hstep : ∀ d x j, (step d x).get? j = if j = x.1 then f x.2 else d.get? j)
    {es : List (String × α)} (ha : es.Pairwise (fun a b => a.1 < b.1)) (d : Dict β) (k : String) :
    (es.foldl step d).get? k = ((lookup k es).map f).getD (d.get? k) := by
  induction es generalizing d with
  | nil => rfl
  | cons e rest ih =>
    obtain ⟨j, v⟩ := e
    rw [List.pairwise_cons] at ha
    rw [List.foldl_cons, ih ha.2, hstep]
    by_cases h : k = j
    · subst h
      -- the entries are ascending, so no later one decides the same key
      simp [lookup, lookup_eq_none ha.1]
    · simp [lookup, h]

/-- In a union the bindings of the second dictionary come first. -/
theorem get?_union (d e : Dict α) (k : String) :
    (d.union e).get? k = (e.get? k).or (d.get? k) := by
  have hfold : (d.union e).get? k = ((e.get? k).map some).getD (d.get? k) :=
    get?_foldl (fun d x j => get?_insert d x.1 j x.2) e.ascending d k
  rw [hfold]
  cases e.get? k <;> rfl

/-- A dictionary is made of its entries. -/
theorem ofList_entries (d : Dict α) : ofList d.entries = d := by
  refine ext_get? fun k => ?_
  change (d.entries.foldl (fun (acc : Dict α) e => acc.insert e.1 e.2) ∅).get? k = d.get? k
  rw [get?_foldl (fun d x j => get?_insert d x.1 j x.2) d.ascending ∅ k]
  change ((d.get? k).map some).getD none = d.get? k
  cases d.get? k <;> rfl

/-! ## Filters -/

/-- A test that every key passes filters nothing. -/
theorem filterKeys_eq_self {d : Dict α} {p : String → Bool} (h : ∀ k, p k = true) :
    d.filterKeys p = d :=
  ext_get? fun k => by simp [get?_filterKeys, h k]

end Dict

end GatewayOperator
