/-!
# Dictionaries

`Dict α` is a finite map from text to `α`, kept as its entries in ascending order of their keys,
the order of their code points. Two dictionaries with the same bindings are therefore equal
(`Dict.ext_get?`), and the order in which a dictionary is written out is part of the value.
Labels, annotations, selectors and environment variables are dictionaries.
-/

namespace GatewayOperator

/-- A finite map from text, its entries ascending by key. -/
structure Dict (α : Type) where
  entries : List (String × α)
  ascending : entries.Pairwise (fun a b => a.1 < b.1)
  deriving DecidableEq

namespace Dict

variable {α β : Type}

/-! ## Entries in order -/

/-- The binding of a key in a list of entries. -/
def lookup (k : String) : List (String × α) → Option α
  | [] => none
  | (k', v) :: rest => if k = k' then some v else lookup k rest

/-- Put a binding at its place among ascending entries, over an earlier one of its key. -/
def place (k : String) (v : α) : List (String × α) → List (String × α)
  | [] => [(k, v)]
  | (k', v') :: rest =>
    if k < k' then (k, v) :: (k', v') :: rest
    else if k = k' then (k, v) :: rest
    else (k', v') :: place k v rest

theorem lookup_nil (k : String) : lookup k ([] : List (String × α)) = none := rfl

theorem lookup_cons (k : String) (e : String × α) (rest : List (String × α)) :
    lookup k (e :: rest) = if k = e.1 then some e.2 else lookup k rest := rfl

theorem place_nil (k : String) (v : α) : place k v [] = [(k, v)] := rfl

theorem place_cons (k : String) (v : α) (e : String × α) (rest : List (String × α)) :
    place k v (e :: rest) =
      if k < e.1 then (k, v) :: e :: rest
      else if k = e.1 then (k, v) :: rest
      else e :: place k v rest := rfl

theorem lt_of_not_lt {a b : String} (h : ¬ a < b) (hne : a ≠ b) : b < a :=
  Std.lt_of_le_of_ne (String.not_lt.1 h) (Ne.symm hne)

theorem mem_place {k : String} {v : α} {x : String × α} {es : List (String × α)}
    (h : x ∈ place k v es) : x = (k, v) ∨ x ∈ es := by
  induction es with
  | nil => simpa [place_nil] using h
  | cons e rest ih =>
    obtain ⟨k', v'⟩ := e
    simp only [place_cons] at h
    split at h
    · simpa using h
    · split at h
      · rcases List.mem_cons.1 h with h | h
        · exact Or.inl h
        · exact Or.inr (List.mem_cons_of_mem _ h)
      · rcases List.mem_cons.1 h with h | h
        · exact Or.inr (h ▸ List.mem_cons_self)
        · exact (ih h).imp_right (List.mem_cons_of_mem _)

theorem place_ascending {k : String} {v : α} {es : List (String × α)}
    (h : es.Pairwise (fun a b => a.1 < b.1)) :
    (place k v es).Pairwise (fun a b => a.1 < b.1) := by
  induction es with
  | nil => simp [place_nil]
  | cons e rest ih =>
    obtain ⟨k', v'⟩ := e
    rw [List.pairwise_cons] at h
    simp only [place_cons]
    split
    · rename_i hk
      refine List.pairwise_cons.2 ⟨fun x hx => ?_, List.pairwise_cons.2 h⟩
      rcases List.mem_cons.1 hx with rfl | hx
      · exact hk
      · exact String.lt_trans hk (h.1 x hx)
    · rename_i hk
      split
      · rename_i he
        subst he
        exact List.pairwise_cons.2 ⟨fun x hx => h.1 x hx, h.2⟩
      · rename_i hne
        refine List.pairwise_cons.2 ⟨fun x hx => ?_, ih h.2⟩
        rcases mem_place hx with rfl | hx
        · exact lt_of_not_lt hk hne
        · exact h.1 x hx

theorem lookup_place_self (k : String) (v : α) (es : List (String × α)) :
    lookup k (place k v es) = some v := by
  induction es with
  | nil => simp [place_nil, lookup_cons]
  | cons e rest ih =>
    obtain ⟨k', v'⟩ := e
    simp only [place_cons]
    split
    · simp [lookup_cons]
    · split
      · simp [lookup_cons]
      · rename_i hne
        simp [lookup_cons, hne, ih]

theorem lookup_place_ne {k j : String} (v : α) (es : List (String × α)) (h : j ≠ k) :
    lookup j (place k v es) = lookup j es := by
  induction es with
  | nil => simp [place_nil, lookup_cons, lookup_nil, h]
  | cons e rest ih =>
    obtain ⟨k', v'⟩ := e
    simp only [place_cons]
    split
    · simp [lookup_cons, h]
    · split
      · rename_i he
        subst he
        simp [lookup_cons, h]
      · simp [lookup_cons, ih]

theorem lookup_eq_none {k : String} {es : List (String × α)} (h : ∀ x ∈ es, k < x.1) :
    lookup k es = none := by
  induction es with
  | nil => rfl
  | cons e rest ih =>
    have hk := h e List.mem_cons_self
    have hne : k ≠ e.1 := fun he => String.lt_irrefl e.1 (by rw [he] at hk; exact hk)
    simp only [lookup_cons, hne, if_false]
    exact ih fun x hx => h x (List.mem_cons_of_mem _ hx)

theorem entries_ext {as bs : List (String × α)} (ha : as.Pairwise (fun a b => a.1 < b.1))
    (hb : bs.Pairwise (fun a b => a.1 < b.1)) (h : ∀ k, lookup k as = lookup k bs) : as = bs := by
  induction as generalizing bs with
  | nil =>
    cases bs with
    | nil => rfl
    | cons b bs => have := h b.1; simp [lookup_nil, lookup_cons] at this
  | cons a as ih =>
    obtain ⟨k, v⟩ := a
    cases bs with
    | nil => have := h k; simp [lookup_nil, lookup_cons] at this
    | cons b bs =>
      obtain ⟨j, w⟩ := b
      rw [List.pairwise_cons] at ha hb
      have hkj : k = j := by
        refine Classical.byContradiction fun hne => ?_
        rcases Classical.em (k < j) with hlt | hlt
        · have h1 := h k
          have hj : lookup k ((j, w) :: bs) = none := by
            apply lookup_eq_none
            intro x hx
            rcases List.mem_cons.1 hx with rfl | hx
            · exact hlt
            · exact String.lt_trans hlt (hb.1 x hx)
          rw [hj] at h1
          simp [lookup_cons] at h1
        · have hlt := lt_of_not_lt hlt hne
          have h1 := h j
          have hj : lookup j ((k, v) :: as) = none := by
            apply lookup_eq_none
            intro x hx
            rcases List.mem_cons.1 hx with rfl | hx
            · exact hlt
            · exact String.lt_trans hlt (ha.1 x hx)
          rw [hj] at h1
          simp [lookup_cons] at h1
      subst hkj
      have hv : v = w := by simpa [lookup_cons] using h k
      subst hv
      have : as = bs := by
        refine ih ha.2 hb.2 fun i => ?_
        by_cases hi : i = k
        · subst hi
          rw [lookup_eq_none fun x hx => ha.1 x hx, lookup_eq_none fun x hx => hb.1 x hx]
        · simpa [lookup_cons, hi] using h i
      rw [this]

/-! ## Operations -/

/-- The dictionary without bindings. -/
def empty : Dict α := ⟨[], List.Pairwise.nil⟩

instance : EmptyCollection (Dict α) := ⟨empty⟩

instance : Inhabited (Dict α) := ⟨empty⟩

/-- The value bound to a key. -/
def get? (d : Dict α) (k : String) : Option α := lookup k d.entries

/-- Bind a key, over an earlier binding of it. -/
def insert (d : Dict α) (k : String) (v : α) : Dict α :=
  ⟨place k v d.entries, place_ascending d.ascending⟩

/-- Keep the bindings whose key satisfies a test. -/
def filterKeys (d : Dict α) (p : String → Bool) : Dict α :=
  ⟨d.entries.filter fun e => p e.1, d.ascending.filter _⟩

/-- Forget a key. -/
def erase (d : Dict α) (k : String) : Dict α := d.filterKeys (· ≠ k)

def isEmpty (d : Dict α) : Bool := d.entries.isEmpty

def size (d : Dict α) : Nat := d.entries.length

/-- The keys, ascending. -/
def keys (d : Dict α) : List String := d.entries.map (·.1)

def contains (d : Dict α) (k : String) : Bool := (d.get? k).isSome

/-- The bindings of a list, the last of each key. -/
def ofList (es : List (String × α)) : Dict α :=
  es.foldl (fun d e => d.insert e.1 e.2) empty

/-- `d` with all bindings of `e` put over its own. -/
def union (d e : Dict α) : Dict α :=
  e.entries.foldl (fun d x => d.insert x.1 x.2) d

/-- The same keys with their values changed. -/
def map (f : α → β) (d : Dict α) : Dict β :=
  ⟨d.entries.map fun e => (e.1, f e.2), by
    rw [List.pairwise_map]
    exact d.ascending⟩

/-- The dictionary when it binds something. -/
def nonempty? (d : Dict α) : Option (Dict α) := if d.isEmpty then none else some d

/-! ## What the operations do to the bindings -/

/-- Dictionaries with the same bindings are equal. -/
theorem ext_get? {d e : Dict α} (h : ∀ k, d.get? k = e.get? k) : d = e := by
  obtain ⟨ds, hd⟩ := d
  obtain ⟨es, he⟩ := e
  have : ds = es := entries_ext hd he h
  subst this
  rfl

@[simp] theorem get?_empty (k : String) : (∅ : Dict α).get? k = none := rfl

@[simp] theorem get?_insert_self (d : Dict α) (k : String) (v : α) :
    (d.insert k v).get? k = some v :=
  lookup_place_self k v d.entries

theorem get?_insert_ne (d : Dict α) {k j : String} (v : α) (h : j ≠ k) :
    (d.insert k v).get? j = d.get? j :=
  lookup_place_ne v d.entries h

theorem lookup_filter_keys (p : String → Bool) (k : String) (es : List (String × α)) :
    lookup k (es.filter fun e => p e.1) = if p k then lookup k es else none := by
  induction es with
  | nil => simp [lookup_nil]
  | cons e rest ih =>
    by_cases hp : p e.1 = true
    · rw [List.filter_cons_of_pos (by simpa using hp)]
      by_cases hk : k = e.1
      · subst hk
        simp [lookup_cons, hp]
      · simp [lookup_cons, hk, ih]
    · rw [List.filter_cons_of_neg (by simpa using hp), ih]
      by_cases hk : k = e.1
      · subst hk
        simp [hp]
      · simp [lookup_cons, hk]

/-- A key keeps its binding exactly if it passes the test. -/
theorem get?_filterKeys (d : Dict α) (p : String → Bool) (k : String) :
    (d.filterKeys p).get? k = if p k then d.get? k else none :=
  lookup_filter_keys p k d.entries

theorem get?_erase (d : Dict α) (k j : String) :
    (d.erase k).get? j = if j = k then none else d.get? j := by
  unfold erase
  rw [get?_filterKeys]
  by_cases h : j = k <;> simp [h]

end Dict

end GatewayOperator
