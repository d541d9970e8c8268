import GatewayOperator.Overlay.Fingerprint
import GatewayOperator.Proofs.Dict
import GatewayOperator.Proofs.Json.Text

/-!
# Overlays of metadata

What `Metadata.overlay` leaves on a live object:

* `OwnedKeys.parse?_text`: the record of owned keys reads back,
* `Metadata.recorded_overlay`: the record names exactly the keys that were rendered,
* `Metadata.overlay_overlay`: a second overlay of the same metadata changes nothing,
* `Metadata.stamp_overlay_stamp`: nor does it between two stamps of one body, even where the desired
  annotations themselves name the fingerprint,
* `Metadata.label_overlay`, `Metadata.annotation_overlay` and `Metadata.owner_overlay`: everything
  that is desired is there.
-/

namespace GatewayOperator

/-! ## The record of owned keys -/

namespace OwnedKeys

/-- A list of texts holds no numbers. -/
theorem isNumberFree_texts (xs : List String) : (Json.texts xs).isNumberFree = true := by
  unfold Json.texts
  rw [Json.isNumberFree]
  induction xs with
  | nil => rfl
  | cons x xs ih => simpa [Json.isNumberFreeItems, Json.isNumberFree] using ih

theorem textList?_texts (xs : List String) : textList? (Json.texts xs) = some xs := by
  show (xs.map Json.str).mapM Json.text? = some xs
  induction xs with
  | nil => rfl
  | cons x xs ih => simp [Json.text?, ih]

/-- The record reads back from its text. -/
theorem parse?_text (o : OwnedKeys) : parse? o.text = some o := by
  obtain ⟨labels, annotations⟩ := o
  have hlabels := isNumberFree_texts labels
  have hannotations := isNumberFree_texts annotations
  unfold parse? text
  -- a list without keys is left out, so there are four texts
  by_cases hl : labels = [] <;> by_cases ha : annotations = []
  all_goals
    rw [Json.parse?_compact (by
      simp [hl, ha, Json.isNumberFree, Json.isNumberFreeFields, hlabels, hannotations])]
    simp [hl, ha, list?, textList?_texts]

/-- An empty record says nothing. -/
theorem eq_of_isEmpty {o : OwnedKeys} (h : o.isEmpty = true) : o = {} := by
  obtain ⟨labels, annotations⟩ := o
  simpa [isEmpty] using h

end OwnedKeys

/-! ## Bindings after a merge -/

/-- After a merge the desired bindings come first. -/
theorem get?_mergeBindings (current desired : Option (Dict String)) (k : String) :
    ((mergeBindings current desired).getD ∅).get? k =
      ((desired.getD ∅).get? k).or ((current.getD ∅).get? k) := by
  cases desired with
  | none => simp [mergeBindings]
  | some d =>
    cases he : d.isEmpty with
    | true => simp [mergeBindings, he, Dict.isEmpty_iff.1 he k]
    | false => simp [mergeBindings, he, Dict.get?_union]

/-- The record of owned keys is the only binding that keeping it changes. -/
theorem get?_recordOwned (annotations : Option (Dict String)) (o : OwnedKeys) (k : String) :
    ((recordOwned annotations o).getD ∅).get? k =
      if k = ownedKeysAnnotation then (if o.isEmpty then none else some o.text)
      else (annotations.getD ∅).get? k := by
  unfold recordOwned
  cases he : o.isEmpty with
  | false => simp [Dict.get?_insert]
  | true =>
    -- no key is owned, so an old record goes
    cases annotations with
    | none => simp
    | some d =>
      cases hc : d.contains ownedKeysAnnotation with
      | true => simp [hc, Dict.getD_nonempty?, Dict.get?_erase]
      | false =>
        have hnone : d.get? ownedKeysAnnotation = none := by simpa [Dict.contains] using hc
        by_cases hk : k = ownedKeysAnnotation
        · subst hk
          simp [hc, hnone]
        · simp [hc, hk]

/-- What an earlier convergence rendered and this one does not is gone, everything else stays. -/
theorem get?_dropReleased (current : Option (Dict String)) (before now : List String) (k : String) :
    ((dropReleased current before now).getD ∅).get? k =
      if k ∈ before ∧ k ∉ now then none else (current.getD ∅).get? k := by
  cases current with
  | none => simp [dropReleased]
  | some d =>
    have hkept : (d.filterKeys fun k => !before.contains k || now.contains k).get? k =
        if k ∈ before ∧ k ∉ now then none else d.get? k := by
      rw [Dict.get?_filterKeys]
      by_cases hb : k ∈ before <;> by_cases hn : k ∈ now <;> simp [hb, hn]
    simp only [dropReleased, Option.bind_some, Option.getD_some]
    rw [← hkept]
    split
    · rename_i hgone
      -- an emptied dictionary binds nothing either
      rw [Option.getD_none, Dict.get?_empty, Dict.isEmpty_iff.1 hgone.2 k]
    · rw [Option.getD_some]

/-- What was rendered before and is rendered again stays. -/
theorem dropReleased_self (current : Option (Dict String)) (keys : List String) :
    dropReleased current keys keys = current := by
  cases current with
  | none => rfl
  | some d =>
    have hkept : (d.filterKeys fun k => !keys.contains k || keys.contains k) = d :=
      Dict.filterKeys_eq_self fun k => by cases keys.contains k <;> rfl
    simp only [dropReleased, Option.bind_some, hkept]
    simp

/-- A second merge of the same bindings changes nothing. -/
theorem mergeBindings_mergeBindings (current desired : Option (Dict String)) :
    mergeBindings (mergeBindings current desired) desired = mergeBindings current desired := by
  cases desired with
  | none => rfl
  | some d =>
    cases he : d.isEmpty with
    | true => simp [mergeBindings, he]
    | false =>
      have hunion : (((current.getD ∅).union d).union d) = (current.getD ∅).union d := by
        apply Dict.ext_get?
        intro k
        simp only [Dict.get?_union]
        cases d.get? k <;> rfl
      simp [mergeBindings, he, hunion]

/-- Merging the desired bindings again under the record gives the same bindings. -/
theorem getD_recordOwned_merge (current desired : Option (Dict String)) (o : OwnedKeys) :
    (recordOwned (mergeBindings (recordOwned (mergeBindings current desired) o) desired) o).getD ∅ =
      (recordOwned (mergeBindings current desired) o).getD ∅ := by
  apply Dict.ext_get?
  intro k
  simp only [get?_recordOwned, get?_mergeBindings]
  by_cases hk : k = ownedKeysAnnotation
  · simp [hk]
  · simp only [hk, if_false]
    cases (desired.getD ∅).get? k <;> rfl

/-- A dictionary that holds the record of owned keys and nothing else. -/
def HoldsOnlyRecord (d : Dict String) : Prop :=
  ∀ k, (d.get? k).isSome = true ↔ k = ownedKeysAnnotation

theorem holdsOnlyRecord_iff {d : Dict String} : HoldsOnlyRecord d ↔
    d.contains ownedKeysAnnotation = true ∧ (d.erase ownedKeysAnnotation).isEmpty = true := by
  unfold HoldsOnlyRecord
  rw [Dict.isEmpty_iff]
  constructor
  · intro h
    refine ⟨(h _).2 rfl, fun k => ?_⟩
    rw [Dict.get?_erase]
    by_cases hk : k = ownedKeysAnnotation
    · simp [hk]
    · have hnone : d.get? k = none := by simpa using fun hs => hk ((h k).1 hs)
      simp [hk, hnone]
  · rintro ⟨hc, he⟩ k
    by_cases hk : k = ownedKeysAnnotation
    · subst hk
      simpa [Dict.contains] using hc
    · have hnone := he k
      rw [Dict.get?_erase, if_neg hk] at hnone
      simp [hk, hnone]

/-- Without owned keys a dictionary that holds only the record is unset. -/
theorem recordOwned_of_holdsOnlyRecord {d : Dict String} {o : OwnedKeys} (ho : o.isEmpty = true)
    (h : HoldsOnlyRecord d) : recordOwned (some d) o = none := by
  obtain ⟨hc, he⟩ := holdsOnlyRecord_iff.1 h
  simp [recordOwned, ho, hc, Dict.nonempty?, he]

/-- Without owned keys any other dictionary loses the record. -/
theorem recordOwned_of_not_holdsOnlyRecord {d : Dict String} {o : OwnedKeys} (ho : o.isEmpty = true)
    (h : ¬ HoldsOnlyRecord d) : recordOwned (some d) o = some (d.erase ownedKeysAnnotation) := by
  rw [holdsOnlyRecord_iff] at h
  cases hc : d.contains ownedKeysAnnotation with
  | true =>
    have he : (d.erase ownedKeysAnnotation).isEmpty = false := by simpa [hc] using h
    simp [recordOwned, ho, hc, Dict.nonempty?, he]
  | false =>
    have hself : d.erase ownedKeysAnnotation = d := by
      apply Dict.ext_get?
      intro k
      rw [Dict.get?_erase]
      by_cases hk : k = ownedKeysAnnotation
      · subst hk
        have hnone : d.get? ownedKeysAnnotation = none := by simpa [Dict.contains] using hc
        simp [hnone]
      · simp [hk]
    simp [recordOwned, ho, hc, hself]

/-- If a union holds only the record, so does its second part. -/
theorem HoldsOnlyRecord.of_union {c d : Dict String} (hd : d.isEmpty = false)
    (h : HoldsOnlyRecord (c.union d)) : HoldsOnlyRecord d := by
  have hsub : ∀ k, (d.get? k).isSome = true → k = ownedKeysAnnotation := by
    intro k hk
    apply (h k).1
    rw [Dict.get?_union]
    cases hv : d.get? k with
    | none => simp [hv] at hk
    | some v => rfl
  intro k
  refine ⟨hsub k, ?_⟩
  rintro rfl
  -- something is bound, and it can only be the record
  obtain ⟨j, hj⟩ : ∃ j, (d.get? j).isSome = true := by
    apply Classical.byContradiction
    intro hnone
    have hempty : d.isEmpty = true :=
      Dict.isEmpty_iff.2 fun k => by simpa using fun hs => hnone ⟨k, hs⟩
    rw [hd] at hempty
    cases hempty
  rw [← hsub j hj]
  exact hj

/-- What was merged and lost the record holds only the record after a second merge if it did
before. -/
theorem HoldsOnlyRecord.of_erase_union {c d : Dict String}
    (h : HoldsOnlyRecord (((c.union d).erase ownedKeysAnnotation).union d)) :
    HoldsOnlyRecord (c.union d) := by
  intro k
  have hk := h k
  rw [Dict.get?_union, Dict.get?_erase, Dict.get?_union] at hk
  rw [Dict.get?_union]
  by_cases heq : k = ownedKeysAnnotation
  · subst heq
    have hbound : (d.get? ownedKeysAnnotation).isSome = true := by simpa using hk
    simp [hbound]
  · have hnone : ¬ ((d.get? k).isSome = true ∨ (c.get? k).isSome = true) := by simpa [heq] using hk
    simpa [heq] using hnone

theorem recordOwned_recordOwned (current : Option (Dict String)) {o : OwnedKeys}
    (ho : o.isEmpty = true) : recordOwned (recordOwned current o) o = recordOwned current o := by
  cases current with
  | none => simp [recordOwned, ho]
  | some d =>
    by_cases h : HoldsOnlyRecord d
    · rw [recordOwned_of_holdsOnlyRecord ho h]
      simp [recordOwned, ho]
    · rw [recordOwned_of_not_holdsOnlyRecord ho h]
      have hnone : (d.erase ownedKeysAnnotation).contains ownedKeysAnnotation = false := by
        simp [Dict.contains, Dict.get?_erase]
      simp [recordOwned, ho, hnone]

/-- A second merge under the record changes nothing. -/
theorem recordOwned_merge_recordOwned (current desired : Option (Dict String)) (o : OwnedKeys) :
    recordOwned (mergeBindings (recordOwned (mergeBindings current desired) o) desired) o =
      recordOwned (mergeBindings current desired) o := by
  have hbound := getD_recordOwned_merge current desired o
  cases ho : o.isEmpty with
  | false =>
    -- the record is written, so both sides are set
    simp only [recordOwned, ho] at hbound ⊢
    simpa using hbound
  | true =>
    cases desired with
    | none => exact recordOwned_recordOwned current ho
    | some d =>
      cases hd : d.isEmpty with
      | true => simpa [mergeBindings, hd] using recordOwned_recordOwned current ho
      | false =>
        have hmerge (x : Option (Dict String)) :
            mergeBindings x (some d) = some ((x.getD ∅).union d) := by simp [mergeBindings, hd]
        rw [hmerge current] at hbound ⊢
        by_cases h : HoldsOnlyRecord ((current.getD ∅).union d)
        · -- the desired bindings are the record alone, and go again
          rw [recordOwned_of_holdsOnlyRecord ho h, hmerge none]
          apply recordOwned_of_holdsOnlyRecord ho
          have hunion : (none.getD ∅ : Dict String).union d = d := by
            apply Dict.ext_get?
            intro k
            simp [Dict.get?_union]
          rw [hunion]
          exact HoldsOnlyRecord.of_union hd h
        · rw [recordOwned_of_not_holdsOnlyRecord ho h] at hbound ⊢
          rw [hmerge] at hbound ⊢
          have hagain : ¬ HoldsOnlyRecord
              (((some (((current.getD ∅).union d).erase ownedKeysAnnotation)).getD ∅).union d) :=
            fun hall => h (HoldsOnlyRecord.of_erase_union hall)
          rw [recordOwned_of_not_holdsOnlyRecord ho hagain] at hbound ⊢
          simpa using hbound

/-! ## Lists that grow by what is missing -/

section Missing

variable {α : Type} (p : α → α → Bool)

/-- Add an item, unless one is there that counts as the same. -/
def addMissing (ys : List α) (x : α) : List α := if ys.any fun y => p y x then ys else ys ++ [x]

theorem prefix_addMissing (ys : List α) (x : α) : ys <+: addMissing p ys x := by
  unfold addMissing
  split
  · exact List.prefix_rfl
  · exact List.prefix_append ys [x]

/-- Items are added after those that are there. -/
theorem prefix_foldl_addMissing (xs ys : List α) : ys <+: xs.foldl (addMissing p) ys := by
  induction xs generalizing ys with
  | nil => exact List.prefix_rfl
  | cons x xs ih => exact (prefix_addMissing p ys x).trans (ih _)

/-- Nothing goes away while items are added. -/
theorem mem_foldl_addMissing {xs ys : List α} {y : α} (h : y ∈ ys) :
    y ∈ xs.foldl (addMissing p) ys :=
  (prefix_foldl_addMissing p xs ys).subset h

/-- Nothing is there afterwards but what was there and what was added. -/
theorem mem_of_mem_foldl_addMissing {xs ys : List α} {y : α}
    (h : y ∈ xs.foldl (addMissing p) ys) : y ∈ ys ∨ y ∈ xs := by
  induction xs generalizing ys with
  | nil => exact Or.inl h
  | cons x xs ih =>
    rcases ih h with hys | hxs
    · unfold addMissing at hys
      split at hys
      · exact Or.inl hys
      · rcases List.mem_append.1 hys with hys | hx
        · exact Or.inl hys
        · exact Or.inr (List.mem_cons.2 (Or.inl (List.mem_singleton.1 hx)))
    · exact Or.inr (List.mem_cons_of_mem _ hxs)

/-- Every added item counts as there afterwards. -/
theorem any_foldl_addMissing (hp : ∀ x, p x x = true) {xs ys : List α} {x : α} (h : x ∈ xs) :
    ∃ y ∈ xs.foldl (addMissing p) ys, p y x = true := by
  induction xs generalizing ys with
  | nil => cases h
  | cons z xs ih =>
    rcases List.mem_cons.1 h with rfl | hmem
    · obtain ⟨y, hy, hpy⟩ : ∃ y ∈ addMissing p ys x, p y x = true := by
        unfold addMissing
        split
        · rename_i hany
          exact List.any_eq_true.1 hany
        · exact ⟨x, by simp, hp x⟩
      have hfold : y ∈ xs.foldl (addMissing p) (addMissing p ys x) := mem_foldl_addMissing p hy
      exact ⟨y, hfold, hpy⟩
    · exact ih hmem

/-- Items that count as there are not added. -/
theorem foldl_addMissing_eq_self {xs ys : List α} (h : ∀ x ∈ xs, ∃ y ∈ ys, p y x = true) :
    xs.foldl (addMissing p) ys = ys := by
  induction xs with
  | nil => rfl
  | cons x xs ih =>
    have hany : (ys.any fun y => p y x) = true := List.any_eq_true.2 (h x List.mem_cons_self)
    have hself : addMissing p ys x = ys := by simp [addMissing, hany]
    rw [List.foldl_cons, hself]
    exact ih fun z hz => h z (List.mem_cons_of_mem _ hz)

/-- Adding the same items again adds nothing. -/
theorem foldl_addMissing_twice (hp : ∀ x, p x x = true) (xs ys : List α) :
    xs.foldl (addMissing p) (xs.foldl (addMissing p) ys) = xs.foldl (addMissing p) ys :=
  foldl_addMissing_eq_self p fun _ hx => any_foldl_addMissing p hp hx

end Missing

/-- Owners are told apart by their uid. -/
def OwnerReference.sharesUid (o r : OwnerReference) : Bool := o.uid == r.uid

theorem mergeOwners_some (current : Option (List OwnerReference)) (refs : List OwnerReference) :
    mergeOwners current (some refs) =
      some (refs.foldl (addMissing OwnerReference.sharesUid) (current.getD [])) := rfl

theorem mergeOwners_mergeOwners (current desired : Option (List OwnerReference)) :
    mergeOwners (mergeOwners current desired) desired = mergeOwners current desired := by
  cases desired with
  | none => rfl
  | some refs =>
    have htwice := foldl_addMissing_twice OwnerReference.sharesUid
      (fun o => by simp [OwnerReference.sharesUid]) refs (current.getD [])
    simp only [mergeOwners_some, Option.getD_some, htwice]

/-! ## Metadata -/

namespace Metadata

theorem nsOrEmpty_of_ns {m : Metadata} {ns : String} (h : m.ns = some ns) : m.nsOrEmpty = ns := by
  simp [nsOrEmpty, h]

/-- The record names exactly the keys that were rendered. -/
theorem recorded_overlay (m d : Metadata) :
    OwnedKeys.recorded (m.overlay d) = OwnedKeys.ofMetadata d := by
  have hbound := get?_recordOwned (mergeBindings (dropReleased m.annotations
    (OwnedKeys.recorded m).annotations (OwnedKeys.ofMetadata d).annotations) d.annotations)
    (OwnedKeys.ofMetadata d) ownedKeysAnnotation
  unfold OwnedKeys.recorded overlay
  simp only [← Dict.get?_getD, hbound, if_true]
  cases ho : (OwnedKeys.ofMetadata d).isEmpty with
  | true => simpa using (OwnedKeys.eq_of_isEmpty ho).symm
  | false => simp [OwnedKeys.parse?_text]

/-- On metadata whose record names the desired keys an overlay takes nothing away. -/
theorem overlay_of_recorded {m d : Metadata}
    (h : OwnedKeys.recorded m = OwnedKeys.ofMetadata d) :
    m.overlay d = { m with
      labels := mergeBindings m.labels d.labels
      annotations := recordOwned (mergeBindings m.annotations d.annotations)
        (OwnedKeys.ofMetadata d)
      ownerReferences := mergeOwners m.ownerReferences d.ownerReferences } := by
  unfold overlay
  simp only [h, dropReleased_self]

/-- A second overlay of the same metadata changes nothing. -/
theorem overlay_overlay (m d : Metadata) : (m.overlay d).overlay d = m.overlay d := by
  rw [overlay_of_recorded (recorded_overlay m d)]
  unfold overlay
  simp only [mergeBindings_mergeBindings, recordOwned_merge_recordOwned, mergeOwners_mergeOwners]

/-! ## Stamps -/

theorem get?_stamp (m : Metadata) (body : Json) (k : String) :
    ((m.stamp body).annotations.getD ∅).get? k =
      if k = fingerprintAnnotation then some (fingerprint body)
      else (m.annotations.getD ∅).get? k := by
  simp [stamp, Dict.get?_insert]

/-- A stamp is another annotation than the record of owned keys. -/
theorem recorded_stamp (m : Metadata) (body : Json) :
    OwnedKeys.recorded (m.stamp body) = OwnedKeys.recorded m := by
  have hne : ownedKeysAnnotation ≠ fingerprintAnnotation := by decide
  have hkeep := get?_stamp m body ownedKeysAnnotation
  rw [if_neg hne] at hkeep
  unfold OwnedKeys.recorded
  rw [← Dict.get?_getD, ← Dict.get?_getD, hkeep]

/-- A body that is recorded already is not stamped again. -/
theorem stamp_eq_self {m : Metadata} {body : Json} (h : m.fingerprint? = some (fingerprint body)) :
    m.stamp body = m := by
  obtain ⟨d, hd, hget⟩ := Option.bind_eq_some_iff.1 h
  have hinsert : d.insert fingerprintAnnotation (fingerprint body) = d := by
    apply Dict.ext_get?
    intro k
    rw [Dict.get?_insert]
    by_cases hk : k = fingerprintAnnotation
    · subst hk
      simp [hget]
    · simp [hk]
  unfold stamp
  rw [hd, Option.getD_some, hinsert, ← hd]

/-- Between two stamps of one body an overlay changes nothing, even where the desired annotations
name the fingerprint themselves. -/
theorem stamp_overlay_stamp (m d : Metadata) (body : Json) :
    (((m.overlay d).stamp body).overlay d).stamp body = (m.overlay d).stamp body := by
  have hrecorded : OwnedKeys.recorded ((m.overlay d).stamp body) = OwnedKeys.ofMetadata d := by
    rw [recorded_stamp, recorded_overlay]
  rw [overlay_of_recorded hrecorded]
  have hlabels : mergeBindings (m.overlay d).labels d.labels = (m.overlay d).labels :=
    mergeBindings_mergeBindings _ _
  have howners : mergeOwners (m.overlay d).ownerReferences d.ownerReferences =
      (m.overlay d).ownerReferences := mergeOwners_mergeOwners _ _
  -- key by key: the fingerprint is written anew, every other key is as after the first overlay
  have hannotations : ((recordOwned (mergeBindings ((m.overlay d).stamp body).annotations
      d.annotations) (OwnedKeys.ofMetadata d)).getD ∅).insert fingerprintAnnotation
        (fingerprint body) =
      ((m.overlay d).annotations.getD ∅).insert fingerprintAnnotation (fingerprint body) := by
    apply Dict.ext_get?
    intro k
    have hover : ((m.overlay d).annotations.getD ∅).get? k =
        ((recordOwned (mergeBindings (m.overlay d).annotations d.annotations)
          (OwnedKeys.ofMetadata d)).getD ∅).get? k := by
      have htwice := congrArg (fun n => (n.annotations.getD ∅).get? k) (overlay_overlay m d)
      rw [overlay_of_recorded (recorded_overlay m d)] at htwice
      exact htwice.symm
    rw [Dict.get?_insert, Dict.get?_insert, hover]
    by_cases hk : k = fingerprintAnnotation
    · simp [hk]
    · rw [if_neg hk, if_neg hk, get?_recordOwned, get?_recordOwned, get?_mergeBindings,
        get?_mergeBindings, get?_stamp, if_neg hk]
  simp only [stamp] at hannotations ⊢
  rw [hlabels, howners, hannotations]

/-! ## What is there afterwards -/

theorem label_overlay (m d : Metadata) {k v : String} (h : (d.labels.getD ∅).get? k = some v) :
    ((m.overlay d).labels.getD ∅).get? k = some v := by
  unfold overlay
  simp [get?_mergeBindings, h]

/-- Desired annotations are there afterwards, the operator's own records apart. -/
theorem annotation_overlay (m d : Metadata) {k v : String} (hk : isBookkeeping k = false)
    (h : (d.annotations.getD ∅).get? k = some v) :
    ((m.overlay d).annotations.getD ∅).get? k = some v := by
  have hne : k ≠ ownedKeysAnnotation := by
    rintro rfl
    simp [isBookkeeping] at hk
  unfold overlay
  simp [get?_recordOwned, get?_mergeBindings, hne, h]

/-- A stamp leaves every annotation alone but the fingerprint. -/
theorem annotation_stamp (m : Metadata) (body : Json) {k : String} (hk : isBookkeeping k = false) :
    ((m.stamp body).annotations.getD ∅).get? k = (m.annotations.getD ∅).get? k := by
  have hne : k ≠ fingerprintAnnotation := by
    rintro rfl
    simp [isBookkeeping] at hk
  rw [get?_stamp, if_neg hne]

/-- Every desired owner is there afterwards, by its uid. -/
theorem owner_overlay (m d : Metadata) {refs : List OwnerReference} {o : OwnerReference}
    (h : d.ownerReferences = some refs) (ho : o ∈ refs) :
    ∃ p ∈ (m.overlay d).ownerReferences.getD [], p.uid = o.uid := by
  obtain ⟨p, hp, huid⟩ := any_foldl_addMissing OwnerReference.sharesUid
    (fun o => by simp [OwnerReference.sharesUid]) ho
  refine ⟨p, ?_, by simpa [OwnerReference.sharesUid] using huid⟩
  unfold overlay
  rw [h, mergeOwners_some]
  exact hp

end Metadata

end GatewayOperator
