import GatewayOperator.Json.Reader
import GatewayOperator.Json.Text

/-!
# Reading back compact text

`parse?_compact` says that the compact text of a value without numbers reads as that value. It rests
on

* `quoted?_escaped`, which undoes the escapes of a quoted text, and
* `reads`, an induction on the fuel that reads values, lists of items and lists of fields at once.
-/

namespace GatewayOperator

namespace Json

mutual

/-- Whether a value holds no numbers. -/
def isNumberFree : Json → Bool
  | .int _ | .float _ => false
  | .null | .bool _ | .str _ => true
  | .arr items => isNumberFreeItems items
  | .obj fields => isNumberFreeFields fields

def isNumberFreeItems : List Json → Bool
  | [] => true
  | x :: xs => isNumberFree x && isNumberFreeItems xs

def isNumberFreeFields : Fields → Bool
  | [] => true
  | (_, v) :: rest => isNumberFree v && isNumberFreeFields rest

end

/-! ## Escapes -/

theorem hexValue?_hexDigit : ∀ n < 16, hexValue? (hexDigit n) = some n := by decide

/-- The escape of a control character names its code point. -/
theorem hexQuad?_control {c : Char} (h : c.toNat < 0x20) (rest : List Char) :
    hexQuad? ('0' :: '0' :: hexDigit (c.toNat / 16) :: hexDigit c.toNat :: rest) =
      some (c.toNat, rest) := by
  have hzero : hexValue? '0' = some 0 := by decide
  have hhigh : hexValue? (hexDigit (c.toNat / 16)) = some (c.toNat / 16) :=
    hexValue?_hexDigit _ (by omega)
  have hlow : hexValue? (hexDigit c.toNat) = some (c.toNat % 16) := by
    have hmod : hexDigit c.toNat = hexDigit (c.toNat % 16) := by simp [hexDigit]
    rw [hmod]
    exact hexValue?_hexDigit _ (by omega)
  have hsum : c.toNat / 16 * 16 + c.toNat % 16 = c.toNat := by omega
  simp [hexQuad?, hzero, hhigh, hlow, hsum]

/-- Reading one character that stands for itself. -/
theorem quoted?_plain {c : Char} (hquote : c ≠ '"') (hslash : c ≠ '\\') (hplain : 0x20 ≤ c.toNat)
    (fuel : Nat) (acc rest : List Char) :
    quoted? (fuel + 1) acc (c :: rest) = quoted? fuel (c :: acc) rest := by
  have hcontrol : ¬ c.toNat < 0x20 := Nat.not_lt.2 hplain
  rw [quoted?]
  · exact if_neg hcontrol
  · exact hquote
  · exact hslash

/-- Reading one escaped character. -/
theorem quoted?_escapeChar (c : Char) (fuel : Nat) (acc rest : List Char) :
    quoted? (fuel + 1) acc (escapeChar c ++ rest) = quoted? fuel (c :: acc) rest := by
  unfold escapeChar
  -- the order of the cases is that of the writer: escapes of their own, plain characters, code
  -- points
  split
  · subst_vars
    simp [quoted?, escape?]
  split
  · subst_vars
    simp [quoted?, escape?]
  split
  · rename_i hquote hslash hplain
    exact quoted?_plain hquote hslash hplain fuel acc rest
  split
  · subst_vars
    simp [quoted?, escape?]
  split
  · subst_vars
    simp [quoted?, escape?]
  split
  · subst_vars
    simp [quoted?, escape?]
  split
  · subst_vars
    simp [quoted?, escape?]
  split
  · subst_vars
    simp [quoted?, escape?]
  · rename_i hplain _ _ _ _ _
    have hcontrol : c.toNat < 0x20 := by omega
    -- a control character is no half of a surrogate pair
    have hlow : ¬ (0xd800 ≤ c.toNat ∧ c.toNat < 0xdc00) := by omega
    have hhigh : ¬ (0xdc00 ≤ c.toNat ∧ c.toNat < 0xe000) := by omega
    simp [quoted?, escape?, hexQuad?_control hcontrol, hlow, hhigh]

/-- A quoted text reads as the text. -/
theorem quoted?_escaped (cs acc rest : List Char) (fuel : Nat) (h : cs.length < fuel) :
    quoted? fuel acc (cs.flatMap escapeChar ++ '"' :: rest) =
      some (String.ofList (acc.reverse ++ cs), rest) := by
  induction cs generalizing acc fuel with
  | nil =>
    obtain ⟨fuel, rfl⟩ : ∃ n, fuel = n + 1 := ⟨fuel - 1, by simp at h; omega⟩
    simp [quoted?]
  | cons c cs ih =>
    obtain ⟨fuel, rfl⟩ : ∃ n, fuel = n + 1 := ⟨fuel - 1, by simp at h; omega⟩
    rw [List.flatMap_cons, List.append_assoc, quoted?_escapeChar,
      ih (c :: acc) fuel (by simp at h; omega)]
    simp

theorem length_le_length_escaped (cs : List Char) : cs.length ≤ (cs.flatMap escapeChar).length := by
  induction cs with
  | nil => simp
  | cons c cs ih =>
    have hc : 1 ≤ (escapeChar c).length := by
      unfold escapeChar
      repeat' split
      all_goals simp
    simp only [List.flatMap_cons, List.length_append, List.length_cons]
    omega

theorem toList_quote (s : String) :
    (quote s).toList = '"' :: (s.toList.flatMap escapeChar ++ ['"']) := by
  simp [quote]

/-! ## Values -/

/-- The text of a value without numbers starts with a character that neither ends a list nor is
blank. -/
theorem compact_head {j : Json} (h : j.isNumberFree = true) :
    ∃ c cs, j.compact.toList = c :: cs ∧ isBlank c = false ∧ c ≠ ']' := by
  cases j with
  | null => exact ⟨'n', ['u', 'l', 'l'], by simp [compact], by decide, by decide⟩
  | bool b =>
    cases b with
    | true => exact ⟨'t', ['r', 'u', 'e'], by simp [compact], by decide, by decide⟩
    | false => exact ⟨'f', ['a', 'l', 's', 'e'], by simp [compact], by decide, by decide⟩
  | int n => simp [isNumberFree] at h
  | float x => simp [isNumberFree] at h
  | str s => exact ⟨'"', _, by rw [compact, toList_quote], by decide, by decide⟩
  | arr items => exact ⟨'[', (compactItems items).toList ++ [']'], by simp [compact], by decide,
      by decide⟩
  | obj fields => exact ⟨'{', (compactFields fields).toList ++ ['}'], by simp [compact], by decide,
      by decide⟩

/-- Nothing is skipped where no blank stands. -/
theorem skipBlanks_cons {c : Char} (h : isBlank c = false) (cs : List Char) :
    skipBlanks (c :: cs) = c :: cs := by
  simp [skipBlanks, h]

/-- A quoted text at the front reads as a value. -/
theorem value?_quote (s : String) (fuel : Nat) (rest : List Char) :
    value? (fuel + 1) ((quote s).toList ++ rest) = some (.str s, rest) := by
  have hread : ∀ n, s.toList.length < n →
      quoted? n [] (s.toList.flatMap escapeChar ++ '"' :: rest) = some (s, rest) := by
    intro n hn
    simpa using quoted?_escaped s.toList [] rest n hn
  have hlength := length_le_length_escaped s.toList
  rw [toList_quote, List.cons_append, List.append_assoc, List.singleton_append]
  simp only [value?, skipBlanks_cons (c := '"') (by decide)]
  rw [hread _ (by simp only [List.length_append]; omega)]
  rfl

theorem toList_compactItems_cons (x y : Json) (ys : List Json) :
    (compactItems (x :: y :: ys)).toList =
      x.compact.toList ++ ',' :: (compactItems (y :: ys)).toList := by
  simp [compactItems]

theorem toList_compactFields_cons (k : String) (v : Json) (f : String × Json) (fs : Fields) :
    (compactFields ((k, v) :: f :: fs)).toList =
      (quote k).toList ++ ':' :: (v.compact.toList ++ ',' :: (compactFields (f :: fs)).toList) := by
  obtain ⟨j, w⟩ := f
  simp [compactFields]

/-- With this fuel every value reads from its text and leaves what comes after it. -/
def ReadsValues (fuel : Nat) : Prop :=
  ∀ (j : Json) (rest : List Char), j.isNumberFree = true → j.compact.toList.length < fuel →
    value? fuel (j.compact.toList ++ rest) = some (j, rest)

/-- With this fuel the items of a list read up to its bracket. -/
def ReadsItems (fuel : Nat) : Prop :=
  ∀ (x : Json) (xs acc : List Json) (rest : List Char), isNumberFreeItems (x :: xs) = true →
    (compactItems (x :: xs)).toList.length + 1 < fuel →
    items? fuel acc ((compactItems (x :: xs)).toList ++ ']' :: rest) =
      some (.arr (acc.reverse ++ x :: xs), rest)

/-- With this fuel the fields of an object read up to its brace. -/
def ReadsFields (fuel : Nat) : Prop :=
  ∀ (k : String) (v : Json) (fs acc : Fields) (rest : List Char),
    isNumberFreeFields ((k, v) :: fs) = true →
    (compactFields ((k, v) :: fs)).toList.length + 1 < fuel →
    fields? fuel acc ((compactFields ((k, v) :: fs)).toList ++ '}' :: rest) =
      some (.obj (acc.reverse ++ (k, v) :: fs), rest)

theorem readsArray {fuel : Nat} (hitems : ReadsItems fuel) (x : Json) (xs : List Json)
    (rest : List Char) (h : isNumberFreeItems (x :: xs) = true)
    (hfuel : (compactItems (x :: xs)).toList.length + 1 < fuel) :
    value? (fuel + 1) ('[' :: ((compactItems (x :: xs)).toList ++ ']' :: rest)) =
      some (.arr (x :: xs), rest) := by
  have hread := hitems x xs [] rest h hfuel
  -- the first item tells the list from the empty one
  have hx : x.isNumberFree = true := by
    rw [isNumberFreeItems, Bool.and_eq_true] at h
    exact h.1
  obtain ⟨c, cs, hc, hblank, hend⟩ := compact_head hx
  obtain ⟨ds, hds⟩ : ∃ ds, (compactItems (x :: xs)).toList = c :: ds := by
    cases xs with
    | nil => exact ⟨cs, by rw [compactItems, hc]⟩
    | cons y ys => exact ⟨_, by rw [toList_compactItems_cons, hc, List.cons_append]⟩
  rw [hds, List.cons_append] at hread ⊢
  simp only [value?, skipBlanks_cons (c := '[') (by decide), skipBlanks_cons hblank]
  split
  · rename_i heq
    exact absurd (List.cons.inj heq).1 hend
  · exact hread

theorem readsObject {fuel : Nat} (hfields : ReadsFields fuel) (k : String) (v : Json) (fs : Fields)
    (rest : List Char) (h : isNumberFreeFields ((k, v) :: fs) = true)
    (hfuel : (compactFields ((k, v) :: fs)).toList.length + 1 < fuel) :
    value? (fuel + 1) ('{' :: ((compactFields ((k, v) :: fs)).toList ++ '}' :: rest)) =
      some (.obj ((k, v) :: fs), rest) := by
  have hread := hfields k v fs [] rest h hfuel
  -- the quote of the first name tells the object from the empty one
  obtain ⟨ds, hds⟩ : ∃ ds, (compactFields ((k, v) :: fs)).toList = '"' :: ds := by
    cases fs with
    | nil =>
      refine ⟨k.toList.flatMap escapeChar ++ '"' :: ':' :: v.compact.toList, ?_⟩
      simp [compactFields, toList_quote]
    | cons f fs => exact ⟨_, by rw [toList_compactFields_cons, toList_quote, List.cons_append]⟩
  rw [hds, List.cons_append] at hread ⊢
  simp only [value?, skipBlanks_cons (c := '{') (by decide), skipBlanks_cons (c := '"') (by decide)]
  exact hread

theorem readsValues_succ {fuel : Nat} (hitems : ReadsItems fuel) (hfields : ReadsFields fuel) :
    ReadsValues (fuel + 1) := by
  intro j rest h hfuel
  cases j with
  | null => simp [compact, value?, skipBlanks_cons, isBlank, literal?, List.isPrefixOf]
  | bool b =>
    cases b <;> simp [compact, value?, skipBlanks_cons, isBlank, literal?, List.isPrefixOf]
  | int n => simp [isNumberFree] at h
  | float x => simp [isNumberFree] at h
  | str s => rw [compact, value?_quote]
  | arr items =>
    cases items with
    | nil => simp [compact, compactItems, value?, skipBlanks_cons, isBlank]
    | cons x xs =>
      have hlength : (compactItems (x :: xs)).toList.length + 1 < fuel := by
        simp [compact] at hfuel
        simpa using hfuel
      simpa [compact] using readsArray hitems x xs rest (by simpa [isNumberFree] using h) hlength
  | obj fields =>
    cases fields with
    | nil => simp [compact, compactFields, value?, skipBlanks_cons, isBlank]
    | cons f fs =>
      obtain ⟨k, v⟩ := f
      have hlength : (compactFields ((k, v) :: fs)).toList.length + 1 < fuel := by
        simp [compact] at hfuel
        simpa using hfuel
      simpa [compact] using readsObject hfields k v fs rest
        (by simpa [isNumberFree] using h) hlength

theorem readsItems_succ {fuel : Nat} (hvalues : ReadsValues fuel) (hitems : ReadsItems fuel) :
    ReadsItems (fuel + 1) := by
  intro x xs acc rest h hfuel
  rw [isNumberFreeItems, Bool.and_eq_true] at h
  cases xs with
  | nil =>
    have hread := hvalues x (']' :: rest) h.1 (by
      simp only [compactItems] at hfuel
      omega)
    simp [compactItems, items?, hread, skipBlanks_cons, isBlank]
  | cons y ys =>
    rw [toList_compactItems_cons] at hfuel ⊢
    simp only [List.length_append, List.length_cons] at hfuel
    have hread := hvalues x (',' :: ((compactItems (y :: ys)).toList ++ ']' :: rest)) h.1 (by omega)
    have hrest := hitems y ys (x :: acc) rest h.2 (by omega)
    simp [items?, hread, hrest, skipBlanks_cons, isBlank]

/-- The name of a field and what comes after its colon. -/
theorem fields?_quote (fuel : Nat) (acc : Fields) (k : String) (rest : List Char) :
    fields? (fuel + 1) acc ((quote k).toList ++ ':' :: rest) =
      match value? fuel rest with
      | none => none
      | some (v, rest) =>
        match skipBlanks rest with
        | ',' :: rest => fields? fuel ((k, v) :: acc) rest
        | '}' :: rest => some (.obj ((k, v) :: acc).reverse, rest)
        | _ => none := by
  have hread : ∀ n, k.toList.length < n →
      quoted? n [] (k.toList.flatMap escapeChar ++ '"' :: ':' :: rest) = some (k, ':' :: rest) := by
    intro n hn
    simpa using quoted?_escaped k.toList [] (':' :: rest) n hn
  have hlength := length_le_length_escaped k.toList
  rw [toList_quote, List.cons_append, List.append_assoc, List.singleton_append]
  simp only [fields?, skipBlanks_cons (c := '"') (by decide)]
  rw [hread _ (by simp only [List.length_append]; omega)]
  -- the colon is no blank, so what remains computes
  rfl

theorem readsFields_succ {fuel : Nat} (hvalues : ReadsValues fuel) (hfields : ReadsFields fuel) :
    ReadsFields (fuel + 1) := by
  intro k v fs acc rest h hfuel
  rw [isNumberFreeFields, Bool.and_eq_true] at h
  cases fs with
  | nil =>
    have hread := hvalues v ('}' :: rest) h.1 (by
      simp only [compactFields, String.toList_append, List.length_append] at hfuel
      omega)
    have htext : (compactFields [(k, v)]).toList ++ '}' :: rest =
        (quote k).toList ++ ':' :: (v.compact.toList ++ '}' :: rest) := by
      simp [compactFields]
    rw [htext, fields?_quote, hread]
    simp [skipBlanks_cons, isBlank]
  | cons f fs =>
    obtain ⟨j, w⟩ := f
    rw [toList_compactFields_cons] at hfuel ⊢
    simp only [List.length_append, List.length_cons] at hfuel
    have hread := hvalues v (',' :: ((compactFields ((j, w) :: fs)).toList ++ '}' :: rest)) h.1
      (by omega)
    have hrest := hfields j w fs ((k, v) :: acc) rest h.2 (by omega)
    simp only [List.append_assoc, List.cons_append]
    rw [fields?_quote, hread]
    simp [hrest, skipBlanks_cons, isBlank]

theorem reads (fuel : Nat) : ReadsValues fuel ∧ ReadsItems fuel ∧ ReadsFields fuel := by
  -- a list reads its items and an object its fields with one unit less than they have themselves
  induction fuel with
  | zero =>
    refine ⟨?_, ?_, ?_⟩
    · intro j rest _ hfuel
      exact absurd hfuel (Nat.not_lt_zero _)
    · intro x xs acc rest _ hfuel
      exact absurd hfuel (Nat.not_lt_zero _)
    · intro k v fs acc rest _ hfuel
      exact absurd hfuel (Nat.not_lt_zero _)
  | succ fuel ih =>
    obtain ⟨hvalues, hitems, hfields⟩ := ih
    exact ⟨readsValues_succ hitems hfields, readsItems_succ hvalues hitems,
      readsFields_succ hvalues hfields⟩

/-- The compact text of a value without numbers reads as the value. -/
theorem parse?_compact {j : Json} (h : j.isNumberFree = true) : parse? j.compact = some j := by
  have hread := (reads (j.compact.toList.length + 1)).1 j [] h (by omega)
  rw [List.append_nil] at hread
  simp [parse?, hread, skipBlanks]

end Json

end GatewayOperator
