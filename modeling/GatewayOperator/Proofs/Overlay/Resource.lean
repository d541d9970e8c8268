import GatewayOperator.Overlay.Resource
import GatewayOperator.Proofs.Overlay.Metadata

/-!
# Overlays of objects

An overlay keeps what the store and others own (`overlay_metadata`, `withStatusOf_overlay`), does
not look at what the store assigns (`overlay_issued`), and is done after one time
(`overlay_overlay`): the object that a convergence writes is a fixed point of the next one. For a
Service this needs that each name stands for one port (`UniqueNames`), which every compiled Service
satisfies (`uniqueNames_mergePorts`).
-/

namespace GatewayOperator

/-! ## Bodies under a fingerprint -/

/-- A stamped body stays stamped under a second overlay: it is stamped again, or it carries the
fingerprint already. -/
theorem stamp_settles (m d : Metadata) (current body : Json) :
    let stamped := (m.overlay d).stamp body
    (if needsUpdate (stamped.overlay d) current body then (stamped.overlay d).stamp body
      else stamped.overlay d) = stamped := by
  intro stamped
  have hstamp : (stamped.overlay d).stamp body = stamped := Metadata.stamp_overlay_stamp m d body
  split
  · exact hstamp
  · rename_i hagain
    have hrecorded : (stamped.overlay d).fingerprint? = some (fingerprint body) := by
      simp [needsUpdate] at hagain
      exact hagain.1
    rwa [Metadata.stamp_eq_self hrecorded] at hstamp

/-- Metadata that is left as it is or gets the fingerprint of a body. -/
def Metadata.StampsTo (m n : Metadata) : Prop := n = m ∨ ∃ body, n = m.stamp body

/-- Metadata as the store gives it back: with a version and a uid. -/
def Metadata.issued (m : Metadata) (version uid : Option String) : Metadata :=
  { m with resourceVersion := version, uid := uid }

section Body

variable {α : Type} (write : α → Json)

theorem overlayBody_eq (m : Metadata) (current desired : α) :
    overlayBody write m current desired =
      (if needsUpdate m (write current) (write desired) then m.stamp (write desired) else m,
        if needsUpdate m (write current) (write desired) then desired else current) := by
  unfold overlayBody
  split <;> rfl

/-- An overlaid body is overlaid again with no difference: a body that was written is the desired
one, and one that was left stays. -/
theorem overlayBody_overlayBody (m d : Metadata) (current desired : α) :
    overlayBody write (((overlayBody write (m.overlay d) current desired).1).overlay d)
        (overlayBody write (m.overlay d) current desired).2 desired =
      overlayBody write (m.overlay d) current desired := by
  rw [overlayBody_eq write (m.overlay d) current desired]
  cases h : needsUpdate (m.overlay d) (write current) (write desired) with
  | false => simp [Metadata.overlay_overlay, overlayBody, h]
  | true =>
    simp only [if_true]
    rw [overlayBody_eq, stamp_settles]
    simp

/-- A body's overlay stamps the metadata or leaves it. -/
theorem overlayBody_stamps (m : Metadata) (current desired : α) :
    m.StampsTo (overlayBody write m current desired).1 := by
  unfold overlayBody
  split
  · exact Or.inr ⟨_, rfl⟩
  · exact Or.inl rfl

theorem overlayBody_issued (m : Metadata) (current desired : α) (version uid : Option String) :
    overlayBody write (m.issued version uid) current desired =
      ((overlayBody write m current desired).1.issued version uid,
        (overlayBody write m current desired).2) := by
  have hneeds : needsUpdate (m.issued version uid) (write current) (write desired) =
      needsUpdate m (write current) (write desired) := rfl
  unfold overlayBody
  rw [hneeds]
  split <;> rfl

end Body

/-! ## Node ports -/

/-- Ports of which no two share a name. -/
def UniqueNames (ports : List ServicePort) : Prop :=
  ports.Pairwise fun p q => p.sharesName q = false

/-- The merged ports of a Service have unique names. -/
theorem uniqueNames_mergePorts {ports extra : List ServicePort} (h : UniqueNames ports) :
    UniqueNames (mergePorts ports extra) := by
  induction extra generalizing ports with
  | nil => exact h
  | cons q extra ih =>
    apply ih
    unfold addPort
    split
    · exact h
    · rename_i hany
      refine List.pairwise_append.2 ⟨h, List.pairwise_singleton _ _, ?_⟩
      intro p hp r hr
      obtain rfl := List.mem_singleton.1 hr
      cases hs : p.sharesName r with
      | false => rfl
      | true => exact absurd (List.any_eq_true.2 ⟨p, hp, hs⟩) hany

/-- Among ports with unique names, a name belongs to one port. -/
theorem UniqueNames.eq_of_name {ports : List ServicePort} (h : UniqueNames ports)
    {p q : ServicePort} (hp : p ∈ ports) (hq : q ∈ ports) {n : String} (hpn : p.name = some n)
    (hqn : q.name = some n) : p = q := by
  have hshares {a b : ServicePort} (ha : a.name = some n) (hb : b.name = some n) :
      a.sharesName b = true := by simp [ServicePort.sharesName, ha, hb]
  induction ports with
  | nil => cases hp
  | cons r ports ih =>
    have hcons := List.pairwise_cons.1 h
    rcases List.mem_cons.1 hp with rfl | hp'
    · rcases List.mem_cons.1 hq with rfl | hq'
      · rfl
      · have hfalse := hcons.1 q hq'
        rw [hshares hpn hqn] at hfalse
        cases hfalse
    · rcases List.mem_cons.1 hq with rfl | hq'
      · have hfalse := hcons.1 p hp'
        rw [hshares hqn hpn] at hfalse
        cases hfalse
      · exact ih hcons.2 hp' hq'

theorem mem_of_nodePort? {assigned : List (String × Int32)} {n : String} {v : Int32}
    (h : nodePort? assigned n = some v) : (n, v) ∈ assigned := by
  obtain ⟨before, after, heq, -⟩ := List.lookup_eq_some_iff.1 h
  rw [← List.mem_reverse, heq]
  simp

theorem mem_nodePorts {ports : List ServicePort} {n : String} {v : Int32} :
    (n, v) ∈ nodePorts ports ↔ ∃ p ∈ ports, p.name = some n ∧ p.nodePort = some v := by
  unfold nodePorts
  rw [List.mem_filterMap]
  constructor
  · rintro ⟨p, hp, heq⟩
    obtain ⟨n', hn, heq⟩ := Option.bind_eq_some_iff.1 heq
    obtain ⟨v', hv, heq⟩ := Option.map_eq_some_iff.1 heq
    obtain ⟨rfl, rfl⟩ := Prod.mk.inj heq
    exact ⟨p, hp, hn, hv⟩
  · rintro ⟨p, hp, hn, hv⟩
    exact ⟨p, hp, by simp [hn, hv]⟩

/-- Among ports with unique names, the node port of a name is that of the port of this name. -/
theorem nodePort?_eq_some_iff {ports : List ServicePort} (h : UniqueNames ports) {n : String}
    {v : Int32} :
    nodePort? (nodePorts ports) n = some v ↔
      ∃ p ∈ ports, p.name = some n ∧ p.nodePort = some v := by
  constructor
  · intro hv
    exact mem_nodePorts.1 (mem_of_nodePort? hv)
  · rintro ⟨p, hp, hn, hv⟩
    cases hl : nodePort? (nodePorts ports) n with
    | none =>
      have hmem : (n, v) ∈ nodePorts ports := mem_nodePorts.2 ⟨p, hp, hn, hv⟩
      have hnone := List.lookup_eq_none_iff.1 hl (n, v) (List.mem_reverse.2 hmem)
      simp at hnone
    | some w =>
      -- whatever is found under the name belongs to the one port
      obtain ⟨q, hq, hqn, hqw⟩ := mem_nodePorts.1 (mem_of_nodePort? hl)
      obtain rfl : q = p := h.eq_of_name hq hp hqn hn
      exact hqw.symm.trans hv

/-- A port keeps its name when it keeps its node port. -/
theorem UniqueNames.map_keepNodePort {ports : List ServicePort} (h : UniqueNames ports)
    (assigned : List (String × Int32)) : UniqueNames (ports.map (keepNodePort assigned)) :=
  List.pairwise_map.2 h

/-- A port that has kept its node port finds it again among the ports that were written. -/
theorem nodePort?_kept {ports : List ServicePort} (h : UniqueNames ports)
    (assigned : List (String × Int32)) {p : ServicePort} (hp : p ∈ ports)
    (hport : p.nodePort = none) {n : String} (hn : p.name = some n) :
    nodePort? (nodePorts (ports.map (keepNodePort assigned))) n = nodePort? assigned n := by
  apply Option.ext
  intro v
  rw [nodePort?_eq_some_iff (h.map_keepNodePort assigned)]
  constructor
  · rintro ⟨q, hq, hqn, hqv⟩
    obtain ⟨q', hq', rfl⟩ := List.mem_map.1 hq
    obtain rfl : q' = p := h.eq_of_name hq' hp hqn hn
    simpa [keepNodePort, hport, hn] using hqv
  · intro hv
    exact ⟨keepNodePort assigned p, List.mem_map_of_mem hp, hn, by
      simp [keepNodePort, hport, hn, hv]⟩

theorem keepNodePort_congr {a b : List (String × Int32)} {p : ServicePort}
    (h : p.nodePort = none → ∀ n, p.name = some n → nodePort? a n = nodePort? b n) :
    keepNodePort a p = keepNodePort b p := by
  unfold keepNodePort
  cases hport : p.nodePort with
  | some v => rfl
  | none =>
    cases hn : p.name with
    | none => rfl
    | some n =>
      simp only [Option.bind_some]
      rw [h hport n hn]

/-- Ports that have kept their node ports keep them. -/
theorem keepNodePort_kept {ports : List ServicePort} (h : UniqueNames ports)
    (assigned : List (String × Int32)) :
    ports.map (keepNodePort (nodePorts (ports.map (keepNodePort assigned)))) =
      ports.map (keepNodePort assigned) := by
  apply List.map_congr_left
  intro p hp
  apply keepNodePort_congr
  intro hport n hn
  exact nodePort?_kept h assigned hp hport hn

/-! ## Contents -/

theorem overlayService_eq (m : Metadata) (current desired : ServiceSpec) :
    overlayService m current desired =
      (if needsUpdate m current.toJson desired.toJson then m.stamp desired.toJson else m,
        if needsUpdate m current.toJson desired.toJson then
          { desired with
            assigned := current.assigned
            ports := desired.ports.map fun ps =>
              ps.map (keepNodePort (nodePorts (current.ports.getD []))) }
        else current) := by
  unfold overlayService
  split <;> rfl

/-- A Service's specification is overlaid again with no difference. -/
theorem overlayService_overlayService (m d : Metadata) (current desired : ServiceSpec)
    (h : ∀ ports, desired.ports = some ports → UniqueNames ports) :
    overlayService (((overlayService (m.overlay d) current desired).1).overlay d)
        (overlayService (m.overlay d) current desired).2 desired =
      overlayService (m.overlay d) current desired := by
  rw [overlayService_eq (m.overlay d) current desired]
  cases hneeds : needsUpdate (m.overlay d) current.toJson desired.toJson with
  | false => simp [Metadata.overlay_overlay, overlayService, hneeds]
  | true =>
    -- the ports were written with the live node ports, and keep them
    have hports : (desired.ports.map fun ps => ps.map (keepNodePort (nodePorts
        ((desired.ports.map fun ps => ps.map (keepNodePort (nodePorts
          (current.ports.getD [])))).getD [])))) =
        desired.ports.map fun ps => ps.map (keepNodePort (nodePorts (current.ports.getD []))) := by
      cases hp : desired.ports with
      | none => rfl
      | some ports =>
        simp only [Option.map_some, Option.getD_some]
        rw [keepNodePort_kept (h ports hp)]
    simp only [if_true]
    rw [overlayService_eq, stamp_settles]
    simp only [hports, ite_self]

theorem overlayService_issued (m : Metadata) (current desired : ServiceSpec)
    (version uid : Option String) :
    overlayService (m.issued version uid) current desired =
      ((overlayService m current desired).1.issued version uid,
        (overlayService m current desired).2) := by
  have hneeds : needsUpdate (m.issued version uid) current.toJson desired.toJson =
      needsUpdate m current.toJson desired.toJson := rfl
  unfold overlayService
  rw [hneeds]
  split <;> rfl

theorem overlayService_stamps (m : Metadata) (current desired : ServiceSpec) :
    m.StampsTo (overlayService m current desired).1 := by
  unfold overlayService
  split
  · exact Or.inr ⟨_, rfl⟩
  · exact Or.inl rfl

theorem overlayDefinition_overlayDefinition (current desired : Json) :
    overlayDefinition (overlayDefinition current desired) desired =
      overlayDefinition current desired := by
  unfold overlayDefinition
  cases h : current.contains desired with
  | true => simp [h]
  | false => simp

/-- Subjects are told apart by everything but their API group. -/
theorem Subject.isSameAs_self (s : Subject) : s.isSameAs s = true := by simp [isSameAs]

theorem overlayShared_overlayShared (current desired : BindingContent) :
    overlayShared (overlayShared current desired) desired = overlayShared current desired := by
  have htwice := foldl_addMissing_twice Subject.isSameAs Subject.isSameAs_self
    (desired.subjects.getD []) (current.subjects.getD [])
  unfold overlayShared
  rw [BindingContent.mk.injEq]
  exact ⟨rfl, congrArg some htwice⟩

/-! ## Objects -/

namespace Resource

variable {k : Kind}

/-- A content's overlay stamps the metadata or leaves it. -/
theorem overlayContent_stamps (k : Kind) (m : Metadata) (c d : k.Content) :
    m.StampsTo (overlayContent k m c d).1 := by
  cases k with
  | deployment => exact overlayBody_stamps id m _ _
  | service => exact overlayService_stamps m _ _
  | autoscaler v =>
    cases v with
    | v2 => exact overlayBody_stamps AutoscalerSpec.toJson m _ _
    | v2beta2 => exact overlayBody_stamps Wire.encode m c d
    | v2beta1 => exact overlayBody_stamps Wire.encode m c d
  | _ => exact Or.inl rfl

/-- An object's metadata after an overlay is the overlaid one, stamped or not. -/
theorem overlay_stamps (live desired : Resource k) :
    (live.metadata.overlay desired.metadata).StampsTo (live.overlay desired).metadata :=
  overlayContent_stamps k _ live.content desired.content

/-- An overlay touches no metadata but labels, annotations and owners. -/
theorem overlay_metadata (live desired : Resource k) : ∃ labels annotations owners,
    (live.overlay desired).metadata = { live.metadata with
      labels := labels, annotations := annotations, ownerReferences := owners } := by
  rcases overlay_stamps live desired with h | ⟨body, h⟩
  · exact ⟨_, _, _, h⟩
  · exact ⟨_, _, _, h⟩

@[simp] theorem key_overlay (live desired : Resource k) :
    (live.overlay desired).key = live.key := by
  obtain ⟨labels, annotations, owners, h⟩ := overlay_metadata live desired
  simp [key, h, Metadata.key]

/-! ## Status -/

theorem contentWithStatusOf_self (content : k.Content) :
    contentWithStatusOf k content content = content := by
  cases k with
  | autoscaler version => cases version <;> rfl
  | _ => rfl

theorem contentWithStatusOf_twice (content first last : k.Content) :
    contentWithStatusOf k (contentWithStatusOf k content first) last =
      contentWithStatusOf k content last := by
  cases k with
  | autoscaler version => cases version <;> rfl
  | _ => rfl

theorem contentWithStatusOf_status (content other status : k.Content) :
    contentWithStatusOf k content (contentWithStatusOf k other status) =
      contentWithStatusOf k content status := by
  cases k with
  | autoscaler version => cases version <;> rfl
  | _ => rfl

theorem withStatusOf_self (r : Resource k) : r.withStatusOf r = r := by
  unfold withStatusOf
  rw [contentWithStatusOf_self]

/-- An overlay leaves the status alone. -/
theorem withStatusOf_overlay (live desired : Resource k) :
    (live.overlay desired).withStatusOf live = live.overlay desired := by
  cases k with
  | autoscaler v => cases v <;> rfl
  | _ => rfl

/-! ## What the store assigns -/

theorem overlayContent_issued (k : Kind) (m : Metadata) (c d : k.Content)
    (version uid : Option String) :
    overlayContent k (m.issued version uid) c d =
      ((overlayContent k m c d).1.issued version uid, (overlayContent k m c d).2) := by
  cases k with
  | deployment => simp only [overlayContent, overlayDeployment, overlayBody_issued]
  | service => simp only [overlayContent, overlayService_issued]
  | autoscaler v =>
    cases v with
    | v2 => simp only [overlayContent, overlayBody_issued]
    | v2beta2 => exact overlayBody_issued Wire.encode m c d version uid
    | v2beta1 => exact overlayBody_issued Wire.encode m c d version uid
  | _ => rfl

/-- The object as the store gives it back: with a version and a uid. -/
def issued (r : Resource k) (version uid : Option String) : Resource k :=
  r.withMetadata fun m => m.issued version uid

/-- An overlay does not look at what the store assigns. -/
theorem overlay_issued (live desired : Resource k) (version uid : Option String) :
    (live.issued version uid).overlay desired = (live.overlay desired).issued version uid := by
  have hmeta : (live.metadata.issued version uid).overlay desired.metadata =
      (live.metadata.overlay desired.metadata).issued version uid := rfl
  simp only [overlay, issued, withMetadata, hmeta, overlayContent_issued]

/-! ## Repeated overlays -/

/-- Whether a desired object can be overlaid twice: the ports of a Service have unique names. -/
def HasUniquePorts : (k : Kind) → k.Content → Prop
  | .service, c => ∀ ports, (c.spec.getD {}).ports = some ports → UniqueNames ports
  | _, _ => True

/-- A second overlay of the same object changes nothing. -/
theorem overlay_overlay (live desired : Resource k) (h : HasUniquePorts k desired.content) :
    (live.overlay desired).overlay desired = live.overlay desired := by
  obtain ⟨m, c⟩ := live
  obtain ⟨n, d⟩ := desired
  cases k with
  | deployment =>
    -- replicas are overlaid apart from the rest of the body
    have hbody := overlayBody_overlayBody id m n (c.spec.getD {}).shape (d.spec.getD {}).shape
    have hreplicas (a b : Option Int32) : (a <|> (a <|> b)) = (a <|> b) := by cases a <;> rfl
    simp only [overlay, overlayContent, overlayDeployment, Option.getD_some, hbody, hreplicas]
  | service =>
    have hbody := overlayService_overlayService m n (c.spec.getD {}) (d.spec.getD {}) h
    simp only [overlay, overlayContent, Option.getD_some, hbody]
  | autoscaler v =>
    cases v with
    | v2 =>
      have hbody := overlayBody_overlayBody AutoscalerSpec.toJson m n (c.spec.getD {})
        (d.spec.getD {})
      simp only [overlay, overlayContent, Option.getD_some, hbody]
    | v2beta2 =>
      have hbody := overlayBody_overlayBody Wire.encode m n c d
      simp only [overlay, overlayContent, hbody]
    | v2beta1 =>
      have hbody := overlayBody_overlayBody Wire.encode m n c d
      simp only [overlay, overlayContent, hbody]
  | definition =>
    simp only [overlay, overlayContent, Metadata.overlay_overlay,
      overlayDefinition_overlayDefinition]
  | clusterRoleBinding =>
    simp only [overlay, overlayContent, Metadata.overlay_overlay, overlayShared_overlayShared]
  -- all other kinds take over the desired content as it is
  | _ => simp only [overlay, overlayContent, Metadata.overlay_overlay]

end Resource

end GatewayOperator
