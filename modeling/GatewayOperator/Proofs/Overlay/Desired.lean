import GatewayOperator.Proofs.Json.Containment
import GatewayOperator.Proofs.Overlay.Resource
import GatewayOperator.Proofs.Resource.Same

/-!
# What an overlay establishes

`Resource.Shows before live desired` says what a live object shows of a desired one, by the merge
policy of its kind: rules, role references and data are the desired ones, specifications that a
cluster completes contain the desired ones, and a shared binding holds every desired subject.

* `shows_overlay`: an overlay shows what was overlaid, whatever stood there before,
* `Shows.of_sameAs`: so does every object that is written alike.
-/

namespace GatewayOperator

open Wire (encode)

/-! ## Contents -/

/-- What a live content holds of a desired one, where another one stood before. -/
def Kind.Holds : (k : Kind) → (before live desired : k.Content) → Prop
  | .role, _, c, d => c.rules = d.rules
  | .clusterRole, _, c, d => c.rules = d.rules
  | .roleBinding, _, c, d => c.roleRef = d.roleRef ∧ c.subjects = d.subjects
  | .clusterRoleBinding, b, c, d => c.roleRef = d.roleRef ∧
      ∀ x ∈ d.subjects.getD [], x ∈ c.subjects.getD [] ∨
        -- a subject that stood there in another API group stands for the desired one
        ∃ y ∈ b.subjects.getD [], y ∈ c.subjects.getD [] ∧ y.isSameAs x = true ∧
          y.apiGroup ≠ x.apiGroup
  | .configMap, _, c, d => c.data = d.data
  | .deployment, _, c, d =>
      ∃ spec, c.spec = some spec ∧ spec.toJson.contains (d.spec.getD {}).toJson = true
  | .service, _, c, d =>
      ∃ spec, c.spec = some spec ∧ spec.toJson.contains (d.spec.getD {}).toJson = true
  | .definition, _, c, d => c.spec.contains d.spec = true
  | .autoscaler .v2, _, c, d =>
      ∃ spec, c.spec = some spec ∧ spec.toJson.contains (d.spec.getD {}).toJson = true
  | .autoscaler .v2beta2, _, c, d => (encode c).contains (encode d) = true
  | .autoscaler .v2beta1, _, c, d => (encode c).contains (encode d) = true
  | _, _, _, _ => True

/-- Desired content as it is compiled: the body of a Deployment is an object without a replica
count, nothing of a Service is assigned, and a shared binding names each subject once. -/
def Kind.IsRendered : (k : Kind) → k.Content → Prop
  | .deployment, d => ∃ fs, (d.spec.getD {}).shape = .obj fs ∧
    Json.Fields.last? fs "replicas" = none
  | .service, d => (d.spec.getD {}).assigned = []
  | .clusterRoleBinding, d =>
      ∀ x ∈ d.subjects.getD [], ∀ y ∈ d.subjects.getD [], y.isSameAs x = true → y = x
  | _, _ => True

/-- What stays of a body and what is written of it contain the desired one. -/
theorem overlayBody_contains {α : Type} (write : α → Json) (m : Metadata) (current desired : α) :
    (write (overlayBody write m current desired).2).contains (write desired) = true := by
  unfold overlayBody
  split
  · exact Json.contains_self _
  · rename_i hkept
    simp only [needsUpdate, Bool.or_eq_true, not_or, Bool.not_eq_true', Bool.not_eq_false] at hkept
    exact hkept.2

theorem DeploymentSpec.toJson_of_obj {s : DeploymentSpec} {fs : Json.Fields}
    (h : s.shape = .obj fs) :
    ∃ gs, s.toJson = .obj gs ∧ ∀ k, Json.Fields.last? gs k =
      if k = "replicas" then (s.replicas.map Json.ofInt32).or (Json.Fields.last? fs k)
      else Json.Fields.last? fs k := by
  unfold toJson
  rw [h]
  cases hr : s.replicas with
  | none => exact ⟨fs, rfl, fun k => by simp⟩
  | some n =>
    refine ⟨_, rfl, fun k => ?_⟩
    by_cases hk : k = "replicas" <;> simp [Json.fields, hk]

theorem overlayDeployment_contains (m : Metadata) (current : DeploymentSpec)
    {desired : DeploymentSpec} {fs : Json.Fields} (hshape : desired.shape = .obj fs)
    (hreplicas : Json.Fields.last? fs "replicas" = none) :
    ((overlayDeployment m current desired).2.toJson).contains desired.toJson = true := by
  -- the number of replicas is no part of the body that is overlaid
  have hbody := overlayBody_contains id m current.shape desired.shape
  simp only [id, hshape] at hbody
  obtain ⟨cs, hcs⟩ := Json.obj_of_contains hbody
  have hkept : (overlayDeployment m current desired).2.shape = .obj cs := by
    simpa [overlayDeployment, hshape] using hcs
  obtain ⟨gs, hwritten, hgs⟩ := DeploymentSpec.toJson_of_obj hkept
  obtain ⟨ws, hdesired, hws⟩ := DeploymentSpec.toJson_of_obj hshape
  rw [hcs, Json.contains_obj_iff] at hbody
  rw [hwritten, hdesired, Json.contains_obj_iff]
  intro k w hw
  rw [hws] at hw
  rw [hgs]
  by_cases hk : k = "replicas"
  · -- a count that is desired is written
    subst hk
    cases hr : desired.replicas with
    | none => simp [hr, hreplicas] at hw
    | some n =>
      obtain rfl : Json.ofInt32 n = w := by simpa [hr] using hw
      simpa [overlayDeployment, hr, Json.HoldsField] using Json.contains_self _
  · rw [if_neg hk] at hw ⊢
    exact hbody k w hw

theorem keepNodePort_contains (assigned : List (String × Int32)) (p : ServicePort) :
    (keepNodePort assigned p).toJson.contains p.toJson = true := by
  apply Json.contains_of_covers
  intro k w hw
  refine ⟨w, ?_, Json.contains_self w⟩
  by_cases hk : k = "nodePort"
  · subst hk
    obtain ⟨n, hn, rfl⟩ : ∃ n, p.nodePort = some n ∧ Json.ofInt32 n = w := by simpa using hw
    simp [keepNodePort, hn]
  · simpa [keepNodePort, hk] using hw

/-- The fields of a Service's specification but for those that a cluster assigns. -/
def ServiceSpec.rendered (s : ServiceSpec) : Json.Fields :=
  Json.ofText? "externalTrafficPolicy" s.externalTrafficPolicy ++
    Json.ofText? "loadBalancerIP" s.loadBalancerIP ++
    Json.optional "loadBalancerSourceRanges" (s.loadBalancerSourceRanges.map Json.texts) ++
    Json.optional "ports" (s.ports.map fun ps => .arr (ps.map ServicePort.toJson)) ++
    Json.optional "selector" (s.selector.map Json.ofDict) ++ Json.ofText? "type" s.type

theorem ServiceSpec.toJson_eq (s : ServiceSpec) :
    s.toJson = .obj (Json.Fields.ascending (s.assigned ++ s.rendered)) := by
  simp [toJson, rendered, List.append_assoc]

/-- Ports that keep node ports cover the ports without them. -/
theorem ServiceSpec.rendered_covers (s : ServiceSpec) (assigned : List (String × Int32)) :
    Json.Fields.Covers
      (rendered { s with ports := s.ports.map fun ps => ps.map (keepNodePort assigned) })
      s.rendered := by
  intro k w hw
  by_cases hk : k = "ports"
  · subst hk
    obtain ⟨ports, hports, rfl⟩ : ∃ ports, s.ports = some ports ∧
        .arr (ports.map ServicePort.toJson) = w := by simpa [rendered] using hw
    refine ⟨.arr ((ports.map (keepNodePort assigned)).map ServicePort.toJson),
      by simp [rendered, hports], ?_⟩
    rw [List.map_map]
    exact Json.contains_arr_map (keepNodePort_contains assigned) ports
  · refine ⟨w, ?_, Json.contains_self w⟩
    rw [← hw]
    simp [rendered, hk]

theorem overlayService_contains (m : Metadata) (current : ServiceSpec) {desired : ServiceSpec}
    (hassigned : desired.assigned = []) :
    ((overlayService m current desired).2.toJson).contains desired.toJson = true := by
  unfold overlayService
  split
  · simp only [ServiceSpec.toJson_eq, hassigned, List.nil_append]
    apply Json.contains_of_covers
    intro k w hw
    rw [Json.Fields.last?_ascending] at hw
    obtain ⟨c, hc, hcontains⟩ := desired.rendered_covers (nodePorts (current.ports.getD [])) k w hw
    refine ⟨c, ?_, hcontains⟩
    rw [Json.Fields.last?_ascending, Json.Fields.last?_append]
    have hrendered : Json.Fields.last? (ServiceSpec.rendered { desired with
        assigned := current.assigned
        ports := desired.ports.map fun ps =>
          ps.map (keepNodePort (nodePorts (current.ports.getD []))) }) k = some c := hc
    rw [hrendered]
    rfl
  · rename_i hkept
    simp only [needsUpdate, Bool.or_eq_true, not_or, Bool.not_eq_true', Bool.not_eq_false] at hkept
    exact hkept.2

theorem contains_overlayDefinition (current desired : Json) :
    (overlayDefinition current desired).contains desired = true := by
  unfold overlayDefinition
  split
  · assumption
  · exact Json.contains_self desired

theorem Subject.eq_of_isSameAs {x y : Subject} (h : y.isSameAs x = true)
    (hgroup : y.apiGroup = x.apiGroup) : y = x := by
  cases x
  cases y
  simp only [isSameAs, Bool.and_eq_true, beq_iff_eq] at h
  simp_all

/-- Every desired subject is in a shared binding afterwards, or one that stood there before stands
for it. -/
theorem mem_overlayShared {current desired : BindingContent} {x : Subject}
    (hx : x ∈ desired.subjects.getD [])
    (honce : ∀ y ∈ desired.subjects.getD [], y.isSameAs x = true → y = x) :
    x ∈ (overlayShared current desired).subjects.getD [] ∨
      ∃ y ∈ current.subjects.getD [], y ∈ (overlayShared current desired).subjects.getD [] ∧
        y.isSameAs x = true ∧ y.apiGroup ≠ x.apiGroup := by
  have hsubjects :
      (overlayShared current desired).subjects.getD [] =
        (desired.subjects.getD []).foldl (addMissing Subject.isSameAs)
          (current.subjects.getD []) := rfl
  rw [hsubjects]
  -- some subject counts as `x` afterwards: `x` itself or one of another API group
  obtain ⟨y, hy, hsame⟩ := any_foldl_addMissing Subject.isSameAs Subject.isSameAs_self hx
  by_cases hgroup : y.apiGroup = x.apiGroup
  · exact Or.inl (Subject.eq_of_isSameAs hsame hgroup ▸ hy)
  · rcases mem_of_mem_foldl_addMissing Subject.isSameAs hy with hbefore | hdesired
    · exact Or.inr ⟨y, hbefore, hy, hsame, hgroup⟩
    · exact Or.inl (honce y hdesired hsame ▸ hy)

/-- An overlaid content holds what is desired. -/
theorem holds_overlayContent (k : Kind) (m : Metadata) {c d : k.Content} (hd : k.IsRendered d) :
    k.Holds c (overlayContent k m c d).2 d := by
  cases k with
  | deployment =>
    obtain ⟨fs, hshape, hreplicas⟩ := hd
    exact ⟨_, rfl, overlayDeployment_contains m _ hshape hreplicas⟩
  | service => exact ⟨_, rfl, overlayService_contains m _ hd⟩
  | clusterRoleBinding => exact ⟨rfl, fun x hx => mem_overlayShared hx (hd x hx)⟩
  | roleBinding => exact ⟨rfl, rfl⟩
  | definition => exact contains_overlayDefinition c.spec d.spec
  | autoscaler version =>
    cases version with
    | v2 => exact ⟨_, rfl, overlayBody_contains AutoscalerSpec.toJson m _ _⟩
    | v2beta2 => exact overlayBody_contains encode m c d
    | v2beta1 => exact overlayBody_contains encode m c d
  | role => exact rfl
  | clusterRole => exact rfl
  | configMap => exact rfl
  | _ => trivial

/-! ## Contents that are written alike -/

/-- Specifications that are written alike contain the same. -/
theorem Json.SameIfSet.contains {α : Type} {write : α → Json} {a b : Option α} {w : Json}
    (h : SameIfSet (a.map write) (b.map write))
    (ha : ∃ spec, a = some spec ∧ (write spec).contains w = true) :
    ∃ spec, b = some spec ∧ (write spec).contains w = true := by
  obtain ⟨spec, rfl, hcontains⟩ := ha
  cases b with
  | none => cases h
  | some spec' =>
    cases h with
    | some hsame => exact ⟨spec', rfl, contains_of_same hsame hcontains⟩

/-- What is desired does not depend on how a content is held, only on how it is written. -/
theorem Kind.Holds.of_same {k : Kind} {b c c' d : k.Content} (h : k.Holds b c d)
    (hsame : ∀ name ∉ Kind.headFields, Json.SameIfSet (Json.Fields.last? (k.contentFields c) name)
      (Json.Fields.last? (k.contentFields c') name)) : k.Holds b c' d := by
  have hspec := hsame "spec" (by simp [Kind.headFields])
  have hrules := hsame "rules" (by simp [Kind.headFields])
  have hdata := hsame "data" (by simp [Kind.headFields])
  have hroleRef := hsame "roleRef" (by simp [Kind.headFields])
  have hsubjects := hsame "subjects" (by simp [Kind.headFields])
  -- the two kinds of bindings write their contents alike
  have hbinding {b b' : BindingContent}
      (hroleRef : Json.SameIfSet (Json.Fields.last? b.toFields "roleRef")
        (Json.Fields.last? b'.toFields "roleRef"))
      (hsubjects : Json.SameIfSet (Json.Fields.last? b.toFields "subjects")
        (Json.Fields.last? b'.toFields "subjects")) :
      b.roleRef = b'.roleRef ∧ b.subjects = b'.subjects := by
    have hrole : some b.roleRef = some b'.roleRef :=
      RoleRef.faithful.eq_of_sameIfSet (by simpa [BindingContent.toFields] using hroleRef)
    exact ⟨Option.some.inj hrole, BindingContent.subjects_of_same hsubjects⟩
  cases k with
  | role =>
    have heq : c.rules = c'.rules := PolicyRule.faithful.arr.eq_of_sameIfSet
      (by simpa [Kind.contentFields, rulesField] using hrules)
    exact heq.symm.trans h
  | clusterRole =>
    have heq : c.rules = c'.rules := PolicyRule.faithful.arr.eq_of_sameIfSet
      (by simpa [Kind.contentFields, rulesField] using hrules)
    exact heq.symm.trans h
  | roleBinding =>
    obtain ⟨hrole, hsubject⟩ := hbinding hroleRef hsubjects
    exact ⟨hrole.symm.trans h.1, hsubject.symm.trans h.2⟩
  | clusterRoleBinding =>
    obtain ⟨hrole, hsubject⟩ := hbinding hroleRef hsubjects
    refine ⟨hrole.symm.trans h.1, ?_⟩
    rw [← hsubject]
    exact h.2
  | configMap =>
    have heq : c.data = c'.data := Json.faithful_ofDict.eq_of_sameIfSet
      (by simpa [Kind.contentFields] using hdata)
    exact heq.symm.trans h
  | deployment =>
    exact Json.SameIfSet.contains (by simpa [Kind.contentFields] using hspec) h
  | service =>
    exact Json.SameIfSet.contains (by simpa [Kind.contentFields] using hspec) h
  | definition =>
    have hspec : c.spec.same c'.spec = true := by simpa [Kind.contentFields] using hspec
    exact Json.contains_of_same hspec h
  | autoscaler version =>
    cases version with
    | v2 => exact Json.SameIfSet.contains (by simpa [Kind.contentFields] using hspec) h
    | v2beta2 =>
      have hspec : (encode c).same (encode c') = true := by simpa [Kind.contentFields] using hspec
      exact Json.contains_of_same hspec h
    | v2beta1 =>
      have hspec : (encode c).same (encode c') = true := by simpa [Kind.contentFields] using hspec
      exact Json.contains_of_same hspec h
  | _ => trivial

/-! ## Objects -/

namespace Resource

variable {k : Kind}

/-- What a live object shows of a desired one, where another one stood before. -/
structure Shows (before live desired : Resource k) : Prop where
  labels : ∀ name value, (desired.metadata.labels.getD ∅).get? name = some value →
    (live.metadata.labels.getD ∅).get? name = some value
  annotations : ∀ name value, isBookkeeping name = false →
    (desired.metadata.annotations.getD ∅).get? name = some value →
    (live.metadata.annotations.getD ∅).get? name = some value
  owners : ∀ o ∈ desired.metadata.ownerReferences.getD [],
    ∃ p ∈ live.metadata.ownerReferences.getD [], p.uid = o.uid
  content : k.Holds before.content live.content desired.content

/-- An overlay shows what was overlaid. -/
theorem shows_overlay (live : Resource k) {d : Resource k} (hd : k.IsRendered d.content) :
    live.Shows (live.overlay d) d := by
  have hcontent := holds_overlayContent k (live.metadata.overlay d.metadata) (c := live.content) hd
  have howners (o : OwnerReference) (ho : o ∈ d.metadata.ownerReferences.getD []) :
      ∃ p ∈ (live.metadata.overlay d.metadata).ownerReferences.getD [], p.uid = o.uid := by
    cases hrefs : d.metadata.ownerReferences with
    | none => simp [hrefs] at ho
    | some refs =>
      rw [hrefs] at ho
      exact Metadata.owner_overlay live.metadata d.metadata hrefs ho
  -- a stamp adds an annotation of the operator's own, which nobody desires
  rcases overlay_stamps live d with hmeta | ⟨body, hmeta⟩
  · refine ⟨?_, ?_, ?_, hcontent⟩ <;> rw [hmeta]
    · exact fun _ _ => Metadata.label_overlay _ _
    · exact fun _ _ => Metadata.annotation_overlay _ _
    · exact howners
  · refine ⟨?_, ?_, ?_, hcontent⟩ <;> rw [hmeta]
    · exact fun _ _ => Metadata.label_overlay _ _
    · intro name value hname hvalue
      rw [Metadata.annotation_stamp _ body hname]
      exact Metadata.annotation_overlay _ _ hname hvalue
    · exact howners

/-- What the store assigns shows nothing. -/
theorem Shows.issued {before live d : Resource k} (h : before.Shows live d)
    (version uid : Option String) : before.Shows (live.issued version uid) d :=
  ⟨h.labels, h.annotations, h.owners, h.content⟩

/-- An object that is written like one that shows what is desired shows it as well. -/
theorem Shows.of_sameAs {before live live' d : Resource k} (haccount : k ≠ .serviceAccount)
    (hevent : k ≠ .event) (h : before.Shows live d) (hsame : live.sameAs live' = true) :
    before.Shows live' d := by
  obtain ⟨hlabels, hannotations, howners⟩ := sameMarks_of_sameAs haccount hevent hsame
  refine ⟨?_, ?_, ?_, h.content.of_same fun _ => content_of_sameAs hsame⟩
  · rw [← hlabels]
    exact h.labels
  · rw [← hannotations]
    exact h.annotations
  · rw [← howners]
    exact h.owners

end Resource

end GatewayOperator
