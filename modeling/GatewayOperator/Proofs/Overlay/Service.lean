import GatewayOperator.Compile.Gateway
import GatewayOperator.Proofs.Overlay.Body
import Mathlib.Data.List.Forall2
import Mathlib.Data.List.Nodup
import Mathlib.Data.List.Pairwise

/-!
# Services under an overlay

The overlay of a Service leaves its specification or writes the fields that are compiled; the ports
are the compiled ones, each with the live node port of its name where it asks for none
(`ServiceSpec.IsWrittenOver`).

* `overlay_keeps_assigned`: either way all that the cluster assigned stays, and what is compiled is
  there,
* `nodePorts_distinct_iff`: a specification that is written repeats no node port unless a port asks
  for the one that another port keeps (`NodePortsContend`). The name of a port is all that is looked
  at when a node port is kept, so a number that moves from one name to another is then held by both.
-/

namespace GatewayOperator

/-! ## What is written over a specification -/

/-- A Service's specification; one that is unset sets nothing. -/
def Resource.serviceSpec (r : Resource .service) : ServiceSpec := r.content.spec.getD {}

/-- A Service's ports. -/
def Resource.servicePorts (r : Resource .service) : List ServicePort := r.serviceSpec.ports.getD []

/-- A port as it is written over live ones: the desired port, with the live node port of its name
where it asks for none. -/
structure ServicePort.IsWrittenOver (live : List ServicePort)
    (desired written : ServicePort) : Prop where
  rest : written = { desired with nodePort := written.nodePort }
  nodePort : ∀ v, written.nodePort = some v ↔ desired.nodePort = some v ∨
    desired.nodePort = none ∧ ∃ q ∈ live, q.sharesName desired = true ∧ q.nodePort = some v

/-- A specification as it is written over a live one: the desired fields, the desired ports one by
one. -/
structure ServiceSpec.IsWrittenOver (live desired written : ServiceSpec) : Prop where
  type : written.type = desired.type
  selector : written.selector = desired.selector
  loadBalancerIP : written.loadBalancerIP = desired.loadBalancerIP
  loadBalancerSourceRanges : written.loadBalancerSourceRanges = desired.loadBalancerSourceRanges
  externalTrafficPolicy : written.externalTrafficPolicy = desired.externalTrafficPolicy
  ports : Option.Rel (List.Forall₂ (ServicePort.IsWrittenOver (live.ports.getD [])))
    desired.ports written.ports

theorem ServicePort.sharesName_iff {p q : ServicePort} :
    p.sharesName q = true ↔ ∃ n, p.name = some n ∧ q.name = some n := by
  unfold sharesName
  cases p.name with
  | none => simp
  | some n =>
    rw [Option.isSome_some, Bool.true_and, beq_iff_eq]
    exact ⟨fun h => ⟨n, rfl, h.symm⟩, fun ⟨m, hn, hm⟩ => hn.trans hm.symm⟩

/-- A port that keeps its node port keeps that of the live port of its name. -/
theorem isWrittenOver_keepNodePort {live : List ServicePort} (h : UniqueNames live)
    (p : ServicePort) :
    p.IsWrittenOver live (keepNodePort (nodePorts live) p) := by
  refine ⟨rfl, fun v => ?_⟩
  cases hasked : p.nodePort with
  | some w => simp [keepNodePort, hasked]
  | none =>
    have hkept : (keepNodePort (nodePorts live) p).nodePort =
        p.name.bind (nodePort? (nodePorts live)) := by
      simp [keepNodePort, hasked]
    rw [hkept, Option.bind_eq_some_iff]
    simp only [nodePort?_eq_some_iff h, ServicePort.sharesName_iff, true_and]
    constructor
    · rintro ⟨n, hn, q, hq, hqn, hqv⟩
      exact Or.inr ⟨q, hq, ⟨n, hqn, hn⟩, hqv⟩
    · rintro (hv | ⟨q, hq, ⟨n, hqn, hn⟩, hqv⟩)
      · cases hv
      · exact ⟨n, hn, q, hq, hqn, hqv⟩

/-- An overlay leaves a specification, or writes it over. -/
theorem overlayService_writes (m : Metadata) {live : ServiceSpec} (desired : ServiceSpec)
    (h : UniqueNames (live.ports.getD [])) :
    (overlayService m live desired).2 = live ∧ live.toJson.contains desired.toJson = true ∨
      live.IsWrittenOver desired (overlayService m live desired).2 := by
  rw [overlayService_eq]
  cases hneeds : needsUpdate m live.toJson desired.toJson with
  | false =>
    simp only [needsUpdate, Bool.or_eq_false_iff, Bool.not_eq_false'] at hneeds
    exact Or.inl ⟨rfl, hneeds.2⟩
  | true =>
    refine Or.inr ⟨rfl, rfl, rfl, rfl, rfl, ?_⟩
    simp only [if_true]
    cases desired.ports with
    | none => exact .none
    | some ports =>
      exact .some (List.forall₂_map_right_iff.2
        (List.forall₂_same.2 fun p _ => isWrittenOver_keepNodePort h p))

/-- What the operator does not render is not touched by an overlay. -/
theorem assigned_overlayService (m : Metadata) (live desired : ServiceSpec) :
    (overlayService m live desired).2.assigned = live.assigned := by
  rw [overlayService_eq]
  cases needsUpdate m live.toJson desired.toJson <;> rfl

/-- A field that the operator does not render is one of the assigned ones. -/
theorem ServiceSpec.field?_of_not_own (s : ServiceSpec) {name : String} (h : name ∉ ownFields) :
    s.toJson.field? name = Json.Fields.last? s.assigned name := by
  have hfield : s.toJson.field? name = Json.Fields.last? (s.assigned ++ s.rendered) name := by
    rw [toJson_eq]
    rfl
  simp only [ownFields, List.mem_cons, List.not_mem_nil, or_false, not_or] at h
  obtain ⟨htype, hselector, hip, hranges, hpolicy, hports⟩ := h
  simp [hfield, rendered, htype, hselector, hip, hranges, hpolicy, hports]

/-! ## The record of a specification -/

namespace Resource

variable {live d : Resource .service}

/-- The specification after an overlay. -/
theorem spec_overlay (live d : Resource .service) : (live.overlay d).content.spec =
    some (overlayService (live.metadata.overlay d.metadata) live.serviceSpec d.serviceSpec).2 := rfl

/-- Whether an overlay writes the specification. -/
def NeedsRewrite (live d : Resource .service) : Prop :=
  needsUpdate (live.metadata.overlay d.metadata) live.serviceSpec.toJson d.serviceSpec.toJson = true

theorem overlay_of_needsRewrite (h : live.NeedsRewrite d) : live.overlay d =
    ⟨(live.metadata.overlay d.metadata).stamp d.serviceSpec.toJson,
      { live.content with spec := some { d.serviceSpec with
          assigned := live.serviceSpec.assigned
          ports := d.serviceSpec.ports.map fun ps =>
            ps.map (keepNodePort (nodePorts live.servicePorts)) } }⟩ := by
  have heq := overlayService_eq (live.metadata.overlay d.metadata) live.serviceSpec d.serviceSpec
  have hneeds : needsUpdate (live.metadata.overlay d.metadata) live.serviceSpec.toJson
      d.serviceSpec.toJson = true := h
  rw [hneeds, if_pos rfl, if_pos rfl] at heq
  exact congrArg (fun x => (⟨x.1, { live.content with spec := some x.2 }⟩ : Resource .service)) heq

theorem overlay_of_not_needsRewrite (h : ¬ live.NeedsRewrite d) : live.overlay d =
    ⟨live.metadata.overlay d.metadata, { live.content with spec := some live.serviceSpec }⟩ := by
  have heq := overlayService_eq (live.metadata.overlay d.metadata) live.serviceSpec d.serviceSpec
  have hneeds : needsUpdate (live.metadata.overlay d.metadata) live.serviceSpec.toJson
      d.serviceSpec.toJson = false := Bool.eq_false_iff.2 h
  rw [hneeds, if_neg Bool.false_ne_true, if_neg Bool.false_ne_true] at heq
  exact congrArg (fun x => (⟨x.1, { live.content with spec := some x.2 }⟩ : Resource .service)) heq

/-- A Service that carries the record of a desired one: the keys that it renders and the fingerprint
of its specification. -/
structure RecordsSpec (r d : Resource .service) : Prop where
  keys : OwnedKeys.recorded r.metadata = OwnedKeys.ofMetadata d.metadata
  print : r.metadata.fingerprint? = some (fingerprint d.serviceSpec.toJson)

theorem RecordsSpec.of_sameRecords {r s : Resource .service} (h : r.RecordsSpec d)
    (hsame : s.metadata.SameRecords r.metadata) : s.RecordsSpec d :=
  ⟨hsame.recorded.trans h.keys, hsame.fingerprint?.trans h.print⟩

/-- Whatever stood there before, an overlay leaves the record of what it rendered. -/
theorem recordsSpec_overlay (live d : Resource .service) : (live.overlay d).RecordsSpec d := by
  by_cases h : live.NeedsRewrite d
  · rw [overlay_of_needsRewrite h]
    refine ⟨(Metadata.recorded_stamp _ _).trans (Metadata.recorded_overlay _ _), ?_⟩
    simp [Metadata.fingerprint?, Metadata.stamp]
  · rw [overlay_of_not_needsRewrite h]
    refine ⟨Metadata.recorded_overlay _ _, ?_⟩
    simp only [NeedsRewrite, needsUpdate, Bool.or_eq_true, not_or, decide_eq_true_eq,
      Decidable.not_not] at h
    exact h.1

/-- A desired Service that names a fingerprint itself, and not its own: no overlay of it is ever
done. -/
def MisnamesPrint (d : Resource .service) : Prop :=
  ∃ print, (d.metadata.annotations.getD ∅).get? fingerprintAnnotation = some print ∧
    print ≠ fingerprint d.serviceSpec.toJson

/-- Where the record is that of the desired Service, containment decides whether the specification
is written. -/
theorem RecordsSpec.needsRewrite_iff (h : live.RecordsSpec d) :
    live.NeedsRewrite d ↔
      live.serviceSpec.toJson.contains d.serviceSpec.toJson = false ∨ d.MisnamesPrint := by
  have hkeys : fingerprintAnnotation ∉ (OwnedKeys.recorded live.metadata).annotations := by
    rw [h.keys]
    exact OwnedKeys.not_mem_keysOf rfl _
  have hprint := Metadata.fingerprint?_overlay_eq (d := d.metadata) hkeys
  rw [h.print] at hprint
  unfold NeedsRewrite needsUpdate MisnamesPrint
  rw [hprint, Bool.or_eq_true, decide_eq_true_iff, Bool.not_eq_true']
  cases (d.metadata.annotations.getD ∅).get? fingerprintAnnotation with
  | none => simp
  | some print => simp [or_comm]

end Resource

/-! ## Node ports that two ports hold -/

/-- Ports of which no two have the same node port. -/
def NodePortsDistinct (ports : List ServicePort) : Prop := (ports.filterMap (·.nodePort)).Nodup

/-- A desired port asks for the node port that another one keeps from its live port. -/
def NodePortsContend (live desired : List ServicePort) : Prop :=
  ∃ p ∈ desired, ∃ q ∈ desired, ∃ r ∈ live, ∃ v, p.nodePort = some v ∧
    q.nodePort = none ∧ r.sharesName q = true ∧ r.nodePort = some v

section Distinct

variable {live ports : List ServicePort}

theorem nodePortsDistinct_iff : NodePortsDistinct ports ↔
    ports.Pairwise fun p q => ∀ v, p.nodePort = some v → q.nodePort ≠ some v := by
  unfold NodePortsDistinct List.Nodup
  rw [List.pairwise_filterMap]
  refine ⟨fun h => h.imp fun hne v hp hq => hne v hp v hq rfl,
    fun h => h.imp fun hne v hp w hq hvw => ?_⟩
  exact hne v hp (hvw ▸ hq)

/-- Of ports with distinct node ports, one port has a node port. -/
theorem NodePortsDistinct.eq_of_nodePort (h : NodePortsDistinct ports) {p q : ServicePort}
    (hp : p ∈ ports) (hq : q ∈ ports) {v : Int32} (hpv : p.nodePort = some v)
    (hqv : q.nodePort = some v) : p = q := by
  have hsymm : Std.Symm fun p q : ServicePort => ∀ v, p.nodePort = some v → q.nodePort ≠ some v :=
    ⟨fun _ _ hne v hq hp => hne v hp hq⟩
  by_contra hne
  exact (nodePortsDistinct_iff.1 h).forall hp hq hne v hpv hqv

/-- Ports that keep the live node ports of their names have distinct ones, unless one asks for what
another keeps. -/
theorem nodePortsDistinct_kept_iff (hlive : UniqueNames live) (hassigned : NodePortsDistinct live)
    (hports : UniqueNames ports) (hasked : NodePortsDistinct ports) :
    NodePortsDistinct (ports.map (keepNodePort (nodePorts live))) ↔
      ¬ NodePortsContend live ports := by
  have hkept (p : ServicePort) := (isWrittenOver_keepNodePort hlive p).nodePort
  constructor
  · rintro hdistinct ⟨p, hp, q, hq, r, hr, v, hpv, hqnone, hname, hrv⟩
    have hpkept := (hkept p v).2 (Or.inl hpv)
    have hqkept := (hkept q v).2 (Or.inr ⟨hqnone, r, hr, hname, hrv⟩)
    have hsame : keepNodePort (nodePorts live) p = keepNodePort (nodePorts live) q :=
      hdistinct.eq_of_nodePort (List.mem_map_of_mem hp) (List.mem_map_of_mem hq) hpkept hqkept
    -- the two have one name then, and are one port
    obtain ⟨n, -, hqn⟩ := ServicePort.sharesName_iff.1 hname
    have hpn : p.name = some n := (congrArg ServicePort.name hsame).trans hqn
    obtain rfl : p = q := hports.eq_of_name hp hq hpn hqn
    rw [hpv] at hqnone
    cases hqnone
  · intro hfree
    rw [nodePortsDistinct_iff, List.pairwise_map]
    refine (hports.and (nodePortsDistinct_iff.1 hasked)).imp_of_mem
      fun {p q} hp hq hpq v hpv hqv => ?_
    obtain ⟨hname, hne⟩ := hpq
    rcases (hkept p v).1 hpv with hpv | ⟨hpnone, r, hr, hrp, hrv⟩
    · rcases (hkept q v).1 hqv with hqv | ⟨hqnone, r, hr, hrq, hrv⟩
      · exact hne v hpv hqv
      · exact hfree ⟨p, hp, q, hq, r, hr, v, hpv, hqnone, hrq, hrv⟩
    · rcases (hkept q v).1 hqv with hqv | ⟨-, r', hr', hrq, hrv'⟩
      · exact hfree ⟨q, hq, p, hp, r, hr, v, hqv, hpnone, hrp, hrv⟩
      · -- a live port has one name, and so have the ports that keep its number
        obtain rfl : r = r' := hassigned.eq_of_nodePort hr hr' hrv hrv'
        obtain ⟨n, hrn, hpn⟩ := ServicePort.sharesName_iff.1 hrp
        obtain ⟨n', hrn', hqn⟩ := ServicePort.sharesName_iff.1 hrq
        obtain rfl : n = n' := Option.some.inj (hrn.symm.trans hrn')
        rw [ServicePort.sharesName_iff.2 ⟨n, hpn, hqn⟩] at hname
        cases hname

theorem sublist_mergePorts (ports extra : List ServicePort) :
    (mergePorts ports extra).Sublist (ports ++ extra) := by
  induction extra generalizing ports with
  | nil => simp [mergePorts]
  | cons q extra ih =>
    have hadded : (addPort ports q ++ extra).Sublist (ports ++ q :: extra) := by
      unfold addPort
      split
      · exact (List.sublist_cons_self q extra).append_left ports
      · simp
    exact (ih (addPort ports q)).trans hadded

end Distinct

/-! ## The Service of a component -/

namespace Exposure

variable {k : Kind}

theorem isRendered_compile (owner : Resource k) (e : Exposure) :
    Kind.service.IsRendered (e.compile owner).content := rfl

/-- A compiled specification names a type, which an unset one does not. -/
theorem not_contains_unset (owner : Resource k) (e : Exposure) :
    ({} : ServiceSpec).toJson.contains (e.compile owner).serviceSpec.toJson = false := by
  rw [← Bool.not_eq_true, ServiceSpec.toJson_eq, ServiceSpec.toJson_eq, Json.contains_obj_iff]
  intro hcontains
  have htype := hcontains "type"
  simp [ServiceSpec.rendered, Resource.serviceSpec, compile, Json.HoldsField, Json.canonical,
    Json.isEmptyValue] at htype

/-- The overlay of a compiled Service keeps all that the cluster assigned. Its specification is the
one that stood there, or the compiled fields are written over it; what is compiled is there in both
cases. -/
theorem overlay_keeps_assigned (owner : Resource k) (e : Exposure) (live : Resource .service)
    (hnames : UniqueNames live.servicePorts) :
    ∃ spec, (live.overlay (e.compile owner)).content.spec = some spec ∧
      (∀ name ∉ ServiceSpec.ownFields,
        spec.toJson.field? name = live.serviceSpec.toJson.field? name) ∧
      (live.content.spec = some spec ∨
        live.serviceSpec.IsWrittenOver (e.compile owner).serviceSpec spec) ∧
      spec.toJson.contains (e.compile owner).serviceSpec.toJson = true := by
  refine ⟨_, live.spec_overlay (e.compile owner), fun name hname => ?_, ?_,
    overlayService_contains _ _ (isRendered_compile owner e)⟩
  · rw [ServiceSpec.field?_of_not_own _ hname, ServiceSpec.field?_of_not_own _ hname,
      assigned_overlayService]
  · rcases overlayService_writes (live.metadata.overlay (e.compile owner).metadata)
      (e.compile owner).serviceSpec hnames with ⟨hkept, hcontains⟩ | hwritten
    · left
      cases hspec : live.content.spec with
      | some spec =>
        rw [hkept]
        simp [Resource.serviceSpec, hspec]
      | none =>
        -- an unset specification is always written
        rw [Resource.serviceSpec, hspec, Option.getD_none, not_contains_unset] at hcontains
        cases hcontains
    · exact Or.inr hwritten

/-! The cluster gave an address and a node port to a gateway's Service. Then the user asks for this
node port under another name. -/

def assignedService : Resource .service where
  metadata := { name := some "edge", ns := some "ns" }
  content :=
    { spec := some {
        type := some "NodePort"
        ports := some [{ ServicePort.tcp "http2" 80 80 with nodePort := some 30080 }]
        assigned := [("clusterIP", .str "10.0.0.10")] } }

def portedGateway : Gateway where
  metadata := { name := some "edge", ns := some "ns" }
  content :=
    { spec := { common := { service := some {
        type := "NodePort"
        ports := [.tcp "http2" 80 80,
          { ServicePort.tcp "admin" 8080 8080 with nodePort := some 30080 }] } } } }

theorem uniqueNames_assignedService : UniqueNames assignedService.servicePorts :=
  List.pairwise_singleton _ _

theorem overlay_keeps_assigned_clusterIP : UniqueNames assignedService.servicePorts ∧
    ∃ spec,
      (assignedService.overlay (GatewayCompile.service portedGateway)).content.spec = some spec ∧
      spec.toJson.field? "clusterIP" = some (.str "10.0.0.10") := by
  obtain ⟨spec, hspec, hkept, -⟩ := overlay_keeps_assigned portedGateway
    (GatewayCompile.exposure portedGateway) assignedService uniqueNames_assignedService
  refine ⟨uniqueNames_assignedService, spec, hspec, (hkept "clusterIP" ?_).trans ?_⟩
  · decide
  · decide +kernel

/-- The ports of a component have unique names. -/
theorem uniqueNames_ports (e : Exposure) : UniqueNames e.ports :=
  uniqueNames_mergePorts (uniqueNames_mergePorts List.Pairwise.nil)

/-- The ports of a component ask for no node port twice if those that it is configured with do
not. -/
theorem nodePortsDistinct_ports {e : Exposure}
    (h : NodePortsDistinct (e.chosenPorts ++ e.fixedPorts)) :
    NodePortsDistinct e.ports := by
  have hchosen : (mergePorts [] e.chosenPorts).Sublist e.chosenPorts :=
    sublist_mergePorts [] e.chosenPorts
  have hports : e.ports.Sublist (e.chosenPorts ++ e.fixedPorts) :=
    (sublist_mergePorts _ _).trans (hchosen.append_right e.fixedPorts)
  exact h.sublist (hports.filterMap _)

/-- An overlay of a compiled Service leaves the specification, or lets the compiled ports keep their
node ports. -/
theorem servicePorts_overlay (owner : Resource k) (e : Exposure) (live : Resource .service) :
    (live.overlay (e.compile owner)).serviceSpec = live.serviceSpec ∨
      (live.overlay (e.compile owner)).servicePorts =
        e.ports.map (keepNodePort (nodePorts live.servicePorts)) := by
  have hspec : (live.overlay (e.compile owner)).serviceSpec =
      (overlayService (live.metadata.overlay (e.compile owner).metadata) live.serviceSpec
        (e.compile owner).serviceSpec).2 := rfl
  rw [Resource.servicePorts, hspec, overlayService_eq]
  cases needsUpdate (live.metadata.overlay (e.compile owner).metadata) live.serviceSpec.toJson
    (e.compile owner).serviceSpec.toJson with
  | false => exact Or.inl rfl
  | true => exact Or.inr rfl

/-- Under an overlay node ports stay distinct exactly if the specification is left, or no compiled
port asks for a node port that another one keeps by its name. -/
theorem nodePorts_distinct_iff (owner : Resource k) (e : Exposure) (live : Resource .service)
    (hnames : UniqueNames live.servicePorts) (hassigned : NodePortsDistinct live.servicePorts)
    (hasked : NodePortsDistinct (e.chosenPorts ++ e.fixedPorts)) :
    NodePortsDistinct (live.overlay (e.compile owner)).servicePorts ↔
      (live.overlay (e.compile owner)).serviceSpec = live.serviceSpec ∨
        ¬ NodePortsContend live.servicePorts e.ports := by
  have hwritten := nodePortsDistinct_kept_iff hnames hassigned e.uniqueNames_ports
    (nodePortsDistinct_ports hasked)
  have hleft (h : (live.overlay (e.compile owner)).serviceSpec = live.serviceSpec) :
      NodePortsDistinct (live.overlay (e.compile owner)).servicePorts := by
    rw [Resource.servicePorts, h]
    exact hassigned
  rcases servicePorts_overlay owner e live with hsame | hkept
  · exact iff_of_true (hleft hsame) (Or.inl hsame)
  · rw [← hkept] at hwritten
    exact ⟨fun h => Or.inr (hwritten.1 h), fun h => h.elim hleft hwritten.2⟩

/-- The number moves to the new name, and the old name keeps it. -/
theorem nodePorts_collide_portedGateway :
    UniqueNames assignedService.servicePorts ∧ NodePortsDistinct assignedService.servicePorts ∧
      NodePortsDistinct ((GatewayCompile.exposure portedGateway).chosenPorts ++
        (GatewayCompile.exposure portedGateway).fixedPorts) ∧
      ¬ NodePortsDistinct
          (assignedService.overlay (GatewayCompile.service portedGateway)).servicePorts := by
  have hassigned : NodePortsDistinct assignedService.servicePorts := by
    unfold NodePortsDistinct
    decide
  have hasked : NodePortsDistinct ((GatewayCompile.exposure portedGateway).chosenPorts ++
      (GatewayCompile.exposure portedGateway).fixedPorts) := by
    unfold NodePortsDistinct
    decide
  refine ⟨uniqueNames_assignedService, hassigned, hasked, fun hdistinct => ?_⟩
  rcases (nodePorts_distinct_iff portedGateway (GatewayCompile.exposure portedGateway)
    assignedService uniqueNames_assignedService hassigned hasked).1 hdistinct with hsame | hfree
  · -- one port was there, and two are rendered
    have hlength := congrArg (fun spec => (spec.ports.getD []).length) hsame
    revert hlength
    decide +kernel
  · refine hfree ⟨{ ServicePort.tcp "admin" 8080 8080 with nodePort := some 30080 }, ?_,
      .tcp "http2" 80 80, ?_, { ServicePort.tcp "http2" 80 80 with nodePort := some 30080 }, ?_,
      30080, rfl, rfl, rfl, rfl⟩ <;> decide

end Exposure

end GatewayOperator
