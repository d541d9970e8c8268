import GatewayOperator.Compile.Access
import GatewayOperator.Proofs.Overlay.Resource
import GatewayOperator.Proofs.Resource.Same

/-!
# Objects that are rendered in turns

Objects of the whole cluster may be compiled by several owners, each from its own labels.
`Dict.TakesTurns` says when the labels of two owners can be rendered one after the other and again:
then the second overlay leaves what the first one finds unchanged (`Metadata.overlay_turn`). Where
it does not hold, metadata that is unchanged for the one is changed by the other
(`Metadata.takesTurns_of_settled`).

For the two kinds of shared objects, an object that is written like its overlay is equal to it
(`clusterRole_eq_of_sameAs`, `clusterRoleBinding_eq_of_sameAs`), so that turns can be reasoned about
by equations.
-/

namespace GatewayOperator

/-! ## Labels -/

/-- Labels that two owners can render in turns: they have the same keys, the operator's own records
apart, and no key has two values. -/
structure Dict.TakesTurns (a b : Dict String) : Prop where
  keys : OwnedKeys.keysOf (some a) = OwnedKeys.keysOf (some b)
  values : ∀ key v w, a.get? key = some v → b.get? key = some w → v = w

theorem Dict.TakesTurns.refl (a : Dict String) : a.TakesTurns a :=
  ⟨rfl, fun _ _ _ hv hw => Option.some.inj (hv.symm.trans hw)⟩

/-- A merge that changed nothing found every binding. -/
theorem get?_of_mergeBindings_self {current : Option (Dict String)} {a : Dict String}
    (h : mergeBindings current (some a) = current) {key v : String} (hv : a.get? key = some v) :
    (current.getD ∅).get? key = some v := by
  have hbound := get?_mergeBindings current (some a) key
  rw [h, Option.getD_some, hv] at hbound
  exact hbound

/-- A dictionary that binds all of another one's keys alike is not changed by its merge. -/
theorem mergeBindings_eq_self {d a : Dict String}
    (h : ∀ key v, a.get? key = some v → d.get? key = some v) :
    mergeBindings (some d) (some a) = some d := by
  cases hempty : a.isEmpty with
  | true => simp [mergeBindings, hempty]
  | false =>
    have hmerged : mergeBindings (some d) (some a) = some (d.union a) := by
      simp [mergeBindings, hempty]
    refine hmerged.trans (congrArg some (Dict.ext_get? fun key => ?_))
    rw [Dict.get?_union]
    cases ha : a.get? key with
    | none => rfl
    | some v => exact (h key v ha).symm

/-- Labels that were there stay so after the other owner's turn. -/
theorem mergeBindings_turn {current : Option (Dict String)} {a b : Dict String}
    (h : mergeBindings current (some a) = current)
    (hvalues : ∀ key v w, a.get? key = some v → b.get? key = some w → v = w) :
    mergeBindings (mergeBindings current (some b)) (some a) = mergeBindings current (some b) := by
  cases hmerged : mergeBindings current (some b) with
  | some d =>
    refine mergeBindings_eq_self fun key v hv => ?_
    have hbound := get?_mergeBindings current (some b) key
    rw [hmerged, Option.getD_some, Option.getD_some, get?_of_mergeBindings_self h hv] at hbound
    rw [hbound]
    cases hb : b.get? key with
    | none => rfl
    | some w => exact congrArg some (hvalues key v w hv hb).symm
  | none =>
    -- where nothing is after a merge, nothing was before
    have hnone : current = none := by
      cases current with
      | none => rfl
      | some d =>
        unfold mergeBindings at hmerged
        dsimp only at hmerged
        split at hmerged <;> cases hmerged
    rw [hnone] at h
    exact h

/-! ## Metadata -/

namespace Metadata

variable {m : Metadata} {name : String} {a b : Dict String}

/-- Metadata that an overlay leaves as it is records what the overlay renders. -/
theorem recorded_of_settled {d : Metadata} (h : m.overlay d = m) :
    OwnedKeys.recorded m = OwnedKeys.ofMetadata d := by
  rw [← recorded_overlay m d, h]

theorem ofMetadata_clusterMetadata (name : String) (a : Dict String) :
    OwnedKeys.ofMetadata (clusterMetadata name a) = ⟨OwnedKeys.keysOf (some a), []⟩ := rfl

/-- After the other owner's turn an overlay still changes nothing. -/
theorem overlay_turn (h : m.overlay (clusterMetadata name a) = m) (hturn : a.TakesTurns b) :
    (m.overlay (clusterMetadata name b)).overlay (clusterMetadata name a) =
      m.overlay (clusterMetadata name b) := by
  have howned : OwnedKeys.ofMetadata (clusterMetadata name a) =
      OwnedKeys.ofMetadata (clusterMetadata name b) := by
    rw [ofMetadata_clusterMetadata, ofMetadata_clusterMetadata, hturn.keys]
  have hrecorded := recorded_of_settled h
  have hlabels : mergeBindings m.labels (some a) = m.labels := by
    rw [overlay_of_recorded hrecorded] at h
    exact congrArg Metadata.labels h
  have hagain : mergeBindings (m.overlay (clusterMetadata name b)).labels (some a) =
      (m.overlay (clusterMetadata name b)).labels := by
    rw [overlay_of_recorded (hrecorded.trans howned)]
    exact mergeBindings_turn hlabels hturn.values
  -- annotations and owners come out alike, whoever's turn it is
  have hlike : (m.overlay (clusterMetadata name b)).overlay (clusterMetadata name a) =
      { (m.overlay (clusterMetadata name b)).overlay (clusterMetadata name b) with
        labels := mergeBindings (m.overlay (clusterMetadata name b)).labels (some a) } := by
    have hrecorded' := recorded_overlay m (clusterMetadata name b)
    rw [overlay_of_recorded hrecorded', overlay_of_recorded (hrecorded'.trans howned.symm), howned]
    rfl
  rw [hlike, overlay_overlay, hagain]

/-- Metadata that both owners leave as it is: they can take turns. -/
theorem takesTurns_of_settled (ha : m.overlay (clusterMetadata name a) = m)
    (hb : m.overlay (clusterMetadata name b) = m) : a.TakesTurns b := by
  refine ⟨?_, fun key v w hv hw => ?_⟩
  · have howned := (recorded_of_settled ha).symm.trans (recorded_of_settled hb)
    exact congrArg OwnedKeys.labels howned
  · have hav := label_overlay m (clusterMetadata name a) (k := key) (v := v) hv
    have hbw := label_overlay m (clusterMetadata name b) (k := key) (v := w) hw
    rw [ha] at hav
    rw [hb] at hbw
    exact Option.some.inj (hav.symm.trans hbw)

/-- An overlay touches labels, annotations and owners only. -/
theorem overlay_eq_self {m d : Metadata} (hlabels : (m.overlay d).labels = m.labels)
    (hannotations : (m.overlay d).annotations = m.annotations)
    (howners : (m.overlay d).ownerReferences = m.ownerReferences) : m.overlay d = m := by
  have heq : m.overlay d = { m with
      labels := (m.overlay d).labels, annotations := (m.overlay d).annotations
      ownerReferences := (m.overlay d).ownerReferences } := rfl
  rw [heq, hlabels, hannotations, howners]

end Metadata

/-! ## Roles and bindings of the cluster -/

namespace Resource

/-- A role of the cluster that is written like its overlay is equal to it. -/
theorem clusterRole_eq_of_sameAs {r d : Resource .clusterRole}
    (h : (r.overlay d).sameAs r = true) : r.overlay d = r := by
  have hmarks := sameMarks_of_sameAs (by simp) (by simp) h
  have hmeta : r.metadata.overlay d.metadata = r.metadata :=
    Metadata.overlay_eq_self hmarks.labels hmarks.annotations hmarks.owners
  have hfield := content_of_sameAs h (show "rules" ∉ Kind.headFields by simp [Kind.headFields])
  have hrules : (r.overlay d).content.rules = r.content.rules :=
    PolicyRule.faithful.arr.eq_of_sameIfSet (by simpa [Kind.contentFields, rulesField] using hfield)
  have hcontent : (r.overlay d).content = r.content :=
    congrArg (fun rules => ({ r.content with rules := rules } : ClusterRoleContent)) hrules
  have heta : r.overlay d = ⟨r.metadata.overlay d.metadata, (r.overlay d).content⟩ := rfl
  rw [heta, hmeta, hcontent]

/-- A binding of the cluster that is written like its overlay is equal to it. -/
theorem clusterRoleBinding_eq_of_sameAs {r d : Resource .clusterRoleBinding}
    (h : (r.overlay d).sameAs r = true) : r.overlay d = r := by
  have hmarks := sameMarks_of_sameAs (by simp) (by simp) h
  have hmeta : r.metadata.overlay d.metadata = r.metadata :=
    Metadata.overlay_eq_self hmarks.labels hmarks.annotations hmarks.owners
  have hroleRef := content_of_sameAs h (show "roleRef" ∉ Kind.headFields by simp [Kind.headFields])
  have hsubjects := content_of_sameAs h
    (show "subjects" ∉ Kind.headFields by simp [Kind.headFields])
  have hcontent : (r.overlay d).content = r.content := by
    have hrole : some (r.overlay d).content.roleRef = some r.content.roleRef :=
      RoleRef.faithful.eq_of_sameIfSet
        (by simpa [Kind.contentFields, BindingContent.toFields] using hroleRef)
    have heta : (r.overlay d).content =
        ⟨(r.overlay d).content.roleRef, (r.overlay d).content.subjects⟩ := rfl
    rw [heta, Option.some.inj hrole, BindingContent.subjects_of_same hsubjects]
  have heta : r.overlay d = ⟨r.metadata.overlay d.metadata, (r.overlay d).content⟩ := rfl
  rw [heta, hmeta, hcontent]

variable {name : String} {a b : Dict String}

/-- A role that is as its owner wants it stays so after the turn of an owner that wants the same
rules. -/
theorem clusterRole_turn {r : Resource .clusterRole} {content : ClusterRoleContent}
    (h : r.overlay ⟨clusterMetadata name a, content⟩ = r) (hturn : a.TakesTurns b) :
    (r.overlay ⟨clusterMetadata name b, content⟩).overlay ⟨clusterMetadata name a, content⟩ =
      r.overlay ⟨clusterMetadata name b, content⟩ := by
  have hmeta : r.metadata.overlay (clusterMetadata name a) = r.metadata :=
    congrArg Resource.metadata h
  exact congrArg (fun m => (⟨m, { r.content with rules := content.rules }⟩ : Resource .clusterRole))
    (Metadata.overlay_turn hmeta hturn)

/-- The subjects that a binding is to have are among those of a binding that is as it is wanted. -/
theorem subject_of_settled {r d : Resource .clusterRoleBinding} (h : r.overlay d = r) {x : Subject}
    (hx : x ∈ d.content.subjects.getD []) :
    ∃ y ∈ r.content.subjects.getD [], y.isSameAs x = true := by
  obtain ⟨y, hy, hsame⟩ : ∃ y ∈ (d.content.subjects.getD []).foldl Subject.add
      (r.content.subjects.getD []), y.isSameAs x = true :=
    any_foldl_addMissing Subject.isSameAs Subject.isSameAs_self hx
  have hsubjects : (r.overlay d).content.subjects = r.content.subjects := by rw [h]
  refine ⟨y, ?_, hsame⟩
  rw [← hsubjects]
  exact hy

/-- A binding whose metadata an overlay leaves, that grants the role that is wanted and has every
subject that is wanted, is left as it is. -/
theorem overlay_binding_eq {r d : Resource .clusterRoleBinding} {subjects : List Subject}
    (hmeta : r.metadata.overlay d.metadata = r.metadata)
    (hrole : d.content.roleRef = r.content.roleRef) (hsome : r.content.subjects = some subjects)
    (hsubjects : ∀ x ∈ d.content.subjects.getD [], ∃ y ∈ subjects, y.isSameAs x = true) :
    r.overlay d = r := by
  have hfold : (d.content.subjects.getD []).foldl Subject.add subjects = subjects :=
    foldl_addMissing_eq_self Subject.isSameAs hsubjects
  obtain ⟨m, roleRef, current⟩ := r
  obtain rfl : current = some subjects := hsome
  show (⟨m.overlay d.metadata,
    ⟨d.content.roleRef, some ((d.content.subjects.getD []).foldl Subject.add subjects)⟩⟩ :
      Resource .clusterRoleBinding) = _
  rw [hfold, hrole]
  exact congrArg (fun m => (⟨m, ⟨roleRef, some subjects⟩⟩ : Resource .clusterRoleBinding)) hmeta

/-- A binding that is as its owner wants it stays so after the turn of an owner that binds the same
role. -/
theorem clusterRoleBinding_turn {r : Resource .clusterRoleBinding} {roleRef : RoleRef}
    {xs ys : Option (List Subject)} (h : r.overlay ⟨clusterMetadata name a, ⟨roleRef, xs⟩⟩ = r)
    (hturn : a.TakesTurns b) :
    (r.overlay ⟨clusterMetadata name b, ⟨roleRef, ys⟩⟩).overlay
        ⟨clusterMetadata name a, ⟨roleRef, xs⟩⟩ =
      r.overlay ⟨clusterMetadata name b, ⟨roleRef, ys⟩⟩ := by
  have hmeta : r.metadata.overlay (clusterMetadata name a) = r.metadata :=
    congrArg Resource.metadata h
  refine overlay_binding_eq (Metadata.overlay_turn hmeta hturn) rfl rfl fun x hx => ?_
  -- the other owner's turn adds subjects and takes none away
  obtain ⟨y, hy, hsame⟩ := subject_of_settled h hx
  exact ⟨y, mem_foldl_addMissing Subject.isSameAs hy, hsame⟩

/-- A binding that is as its owner wants it stays so when another subject is taken out of it. -/
theorem clusterRoleBinding_pruned {r d : Resource .clusterRoleBinding} (h : r.overlay d = r)
    {account ns : String}
    (hother : ∀ x ∈ d.content.subjects.getD [], x.isAccount account ns = false) :
    (⟨r.metadata, { r.content with
        subjects := some (Subject.prune (r.content.subjects.getD []) account ns) }⟩ :
      Resource .clusterRoleBinding).overlay d =
      ⟨r.metadata, { r.content with
        subjects := some (Subject.prune (r.content.subjects.getD []) account ns) }⟩ := by
  have hmeta : r.metadata.overlay d.metadata = r.metadata := congrArg Resource.metadata h
  have hrole : (r.overlay d).content.roleRef = r.content.roleRef := by rw [h]
  refine overlay_binding_eq hmeta hrole rfl fun x hx => ?_
  obtain ⟨y, hy, hsame⟩ := subject_of_settled h hx
  refine ⟨y, List.mem_filter.2 ⟨hy, ?_⟩, hsame⟩
  -- subjects that are the same are the same account
  simp only [Subject.isSameAs, Bool.and_eq_true, beq_iff_eq] at hsame
  have hnot := hother x hx
  simp only [Subject.isAccount] at hnot ⊢
  rw [hsame.1.1, hsame.1.2, hsame.2, hnot]
  rfl

end Resource

end GatewayOperator
