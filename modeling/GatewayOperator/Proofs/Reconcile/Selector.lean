import GatewayOperator.Proofs.Overlay.Service
import GatewayOperator.Proofs.Reconcile.Drift
import GatewayOperator.Proofs.Reconcile.Workload

/-!
# The selector of a Service

A component's Service finds its pods by a selector, which is compiled from the same labels as the
pods of its Deployment (`podLabel?_compiled`). Others may edit the live selector, and what an
overlay makes of an edit depends on whether it writes the specification again:

* it then leaves the compiled selector (`selectorValue?_of_needsRewrite`), and otherwise the edited
  one, with all the entries of the compiled one in either case (`selectorValue?_overlay`),
* an entry that was added, and nothing else, is no reason to write it. So `selects_iff_after_edit`
  has a condition, and a Service may lose its pods (`selects_iff_after_edit_passedStore`).
-/

namespace GatewayOperator

/-! ## Selectors and labels of pods -/

namespace Resource

/-- What the selector of a Service asks of a label. -/
def selectorValue? (r : Resource .service) (name : String) : Option String :=
  r.serviceSpec.toJson.textAlong? [.field "selector", .field name]

/-- A label of the pods that a Deployment makes. -/
def podLabel? (r : Resource .deployment) (name : String) : Option String :=
  (r.content.spec.getD {}).toJson.textAlong?
    [.field "template", .field "metadata", .field "labels", .field name]

/-- Whether a Service selects the pods of a Deployment: every entry of its selector is one of their
labels. -/
def Selects (service : Resource .service) (deployment : Resource .deployment) : Prop :=
  ∀ name value, service.selectorValue? name = some value → deployment.podLabel? name = some value

end Resource

/-- Under the names of a dictionary are its bindings. -/
theorem Json.textAlong?_ofDict (d : Dict String) (name : String) :
    (Json.ofDict d).textAlong? [.field name] = d.get? name := by
  have hlast : (Json.ofDict d).inside? (.field name) = (d.get? name).map .str :=
    Json.last?_entries d.ascending name
  unfold textAlong?
  rw [reach?, hlast]
  cases d.get? name <;> rfl

theorem Json.textAlong?_cons {j x : Json} {step : Step} (h : j.inside? step = some x)
    (path : List Step) :
    j.textAlong? (step :: path) = x.textAlong? path := by
  unfold textAlong?
  rw [reach?, h]
  rfl

namespace Resource

theorem selectorValue?_of_selector {r : Resource .service} {d : Dict String}
    (h : r.serviceSpec.selector = some d) (name : String) :
    r.selectorValue? name = d.get? name := by
  have hselector : r.serviceSpec.toJson.inside? (.field "selector") = some (Json.ofDict d) := by
    rw [ServiceSpec.toJson_eq]
    simp [Json.inside?, ServiceSpec.rendered, h]
  unfold selectorValue?
  rw [Json.textAlong?_cons hselector, Json.textAlong?_ofDict]

theorem selectorValue?_of_sameAs {r s : Resource .service} (h : r.sameAs s = true) (name : String) :
    r.selectorValue? name = s.selectorValue? name := by
  have hfield := content_of_sameAs h (show "spec" ∉ Kind.headFields by simp [Kind.headFields])
  have hspec : Json.SameIfSet (r.content.spec.map ServiceSpec.toJson)
      (s.content.spec.map ServiceSpec.toJson) := by simpa [Kind.contentFields] using hfield
  unfold selectorValue? serviceSpec
  generalize r.content.spec = a at hspec
  generalize s.content.spec = b at hspec
  cases a <;> cases b <;> cases hspec
  case none.none.none => rfl
  case some.some.some hsame => exact Json.textAlong?_of_same hsame _

/-- The pods of a Deployment that holds a compiled body have the compiled labels. -/
theorem podLabel?_of_holds {b r d : Resource .deployment}
    (h : Kind.Holds .deployment b.content r.content d.content)
    {name value : String} (hv : d.podLabel? name = some value) : r.podLabel? name = some value := by
  obtain ⟨spec, hspec, hcontains⟩ := h
  unfold podLabel?
  rw [hspec]
  exact Json.textAlong?_of_contains hcontains hv

/-- The template from which the pods of a workload are made. -/
theorem inside?_template (w : Workload) (m : Metadata) :
    ((w.deployment m).content.spec.getD {}).toJson.inside? (.field "template") =
      some (.obj
        [("metadata", .obj (Json.optional "annotations" (w.podAnnotations.map Json.ofDict) ++
          [("labels", Json.ofDict w.podLabels)])), ("spec", w.pod.toJson)]) := by
  obtain ⟨gs, hjson, hgs⟩ :=
    DeploymentSpec.toJson_of_obj (s := { replicas := w.replicas, shape := w.shape }) rfl
  refine (congrArg (fun j => Json.inside? j (.field "template")) hjson).trans ?_
  simp [Json.inside?, hgs]

/-- A Deployment makes pods with the labels of its workload. -/
theorem podLabel?_deployment (w : Workload) (m : Metadata) (name : String) :
    (w.deployment m).podLabel? name = w.podLabels.get? name := by
  let metadata : Json := .obj (Json.optional "annotations" (w.podAnnotations.map Json.ofDict) ++
    [("labels", Json.ofDict w.podLabels)])
  have hmetadata :
      (Json.obj [("metadata", metadata), ("spec", w.pod.toJson)]).inside? (.field "metadata") =
        some metadata := by
    simp [Json.inside?]
  have hlabels : metadata.inside? (.field "labels") = some (Json.ofDict w.podLabels) := by
    simp [metadata, Json.inside?]
  unfold podLabel?
  rw [Json.textAlong?_cons (inside?_template w m), Json.textAlong?_cons hmetadata,
    Json.textAlong?_cons hlabels, Json.textAlong?_ofDict]

end Resource

/-! ## Selectors under an overlay -/

namespace Resource

variable {live d : Resource .service}

/-- A selector that has to be written again is the desired one. -/
theorem selectorValue?_of_needsRewrite {selector : Dict String} (h : live.NeedsRewrite d)
    (hd : d.serviceSpec.selector = some selector) (name : String) :
    (live.overlay d).selectorValue? name = selector.get? name := by
  apply selectorValue?_of_selector
  rw [overlay_of_needsRewrite h]
  exact hd

/-- Any other one stays. -/
theorem selectorValue?_of_not_needsRewrite (h : ¬ live.NeedsRewrite d) (name : String) :
    (live.overlay d).selectorValue? name = live.selectorValue? name := by
  rw [overlay_of_not_needsRewrite h]
  rfl

/-- Either way an overlay keeps the entries that are desired. -/
theorem selectorValue?_overlay (hd : Kind.service.IsRendered d.content) {name value : String}
    (hv : d.selectorValue? name = some value) : (live.overlay d).selectorValue? name = some value :=
  Json.textAlong?_of_contains
    (overlayService_contains (live.metadata.overlay d.metadata) live.serviceSpec hd) hv

end Resource

section Overlaid

variable {s t : Server} {d r : Resource .service}

/-- A convergence leaves the selector of the overlay. -/
theorem Server.Overlaid.selectorValue? (h : s.Overlaid t d) (hr : t.find? .service d.key = some r)
    (name : String) : r.selectorValue? name =
      ((s.standing .service d.key).overlay d).selectorValue? name := by
  obtain ⟨x, hx, hwritten⟩ := h
  obtain rfl : x = r := Option.some.inj (hx.symm.trans hr)
  rcases hwritten with ⟨hfound, hsame⟩ | ⟨version, uid, rfl⟩
  · rw [Server.standing_of_found hfound]
    exact (Resource.selectorValue?_of_sameAs hsame name).symm
  · rfl

/-- And it leaves the record of what it rendered. -/
theorem Server.Overlaid.recordsSpec (h : s.Overlaid t d) (hr : t.find? .service d.key = some r) :
    r.RecordsSpec d := by
  obtain ⟨x, hx, hwritten⟩ := h
  obtain rfl : x = r := Option.some.inj (hx.symm.trans hr)
  rcases hwritten with ⟨-, hsame⟩ | ⟨version, uid, rfl⟩
  · have hmarks := Resource.sameMarks_of_sameAs (by simp) (by simp) hsame
    exact (Resource.recordsSpec_overlay x d).of_sameRecords fun _ _ => by rw [hmarks.annotations]
  · exact (Resource.recordsSpec_overlay _ d).of_sameRecords fun _ _ => rfl

end Overlaid

/-! ## The Service of a component -/

namespace Component

variable {c : Component} {settings settings' : PassSettings} {s t t' u : Server} {ns name : String}
  {raw : Resource c.kind} {live edited : Resource .service} {deployment : Resource .deployment}

theorem selector_service (owner : Resource c.kind) :
    (c.service owner).serviceSpec.selector = some (c.common owner).selectorLabels := by
  cases c <;> rfl

/-- Selector and pods are compiled from the same labels. -/
theorem podLabel?_compiled (owner : Resource c.kind) (label : String) :
    (c.deployment owner).podLabel? label = (c.common owner).selectorLabels.get? label := by
  cases c <;> exact Resource.podLabel?_deployment _ _ label

/-- Somebody edited the specification of a component's live Service, and left alone the operator's
records on it, the Deployment and the component's own object. -/
structure ServiceEdited (c : Component) (key : Key) (owner : Resource c.kind) (t t' : Server)
    (live edited : Resource .service) (deployment : Resource .deployment) : Prop where
  service : t.Edited t' (c.service owner).key live edited
  /-- no deletion takes it away -/
  held : Server.isReleased edited = false
  pods : t.find? .deployment (c.deployment owner).key = some deployment
  untouched : t'.find? .deployment (c.deployment owner).key = some deployment
  object : t'.find? c.kind key = t.find? c.kind key

/-- A converged pass leaves a Deployment whose pods have the compiled labels. -/
theorem podLabel?_of_overlaid {owner : Resource c.kind} (h : s.Overlaid t (c.deployment owner))
    (hpods : t.find? .deployment (c.deployment owner).key = some deployment) {label value : String}
    (hv : (c.common owner).selectorLabels.get? label = some value) :
    deployment.podLabel? label = some value := by
  obtain ⟨r, hr, hshows, -⟩ := provides_of_overlaid (isCompiledFor_deployment owner) h
  obtain rfl : r = deployment := Option.some.inj (hr.symm.trans hpods)
  exact Resource.podLabel?_of_holds hshows.content ((podLabel?_compiled owner label).trans hv)

/-- The next converged pass finds a Service with the operator's records, overlays it, and leaves the
Deployment of the first pass as it was. -/
theorem overlaid_after_edit
    (h : (c.pass settings (.inNamespace ns name)).run Server.world s = (.ok .converged, t))
    (hraw : s.find? c.kind (.inNamespace ns name) = some raw)
    (hedit : c.ServiceEdited (.inNamespace ns name) (c.withDefaults raw) t t' live edited
      deployment)
    (h' : (c.pass settings' (.inNamespace ns name)).run Server.world t' = (.ok .converged, u)) :
    edited.RecordsSpec (c.service (c.withDefaults raw)) ∧
      t'.Overlaid u (c.service (c.withDefaults raw)) ∧
      s.Overlaid t (c.deployment (c.withDefaults raw)) ∧
      u.find? .deployment (c.deployment (c.withDefaults raw)).key = some deployment := by
  obtain ⟨raw₁, hraw₁, ⟨finalizers, version, status, hobject⟩, hpods, hservice⟩ := amended_of_pass h
  obtain rfl : raw₁ = raw := Option.some.inj (hraw₁.symm.trans hraw)
  obtain ⟨raw₂, hraw₂, -, hpods', hservice'⟩ := amended_of_pass h'
  -- the object is as the first pass left it, so the same is compiled from it
  obtain rfl : raw₂ = raw₁.restated finalizers version status :=
    Option.some.inj (hraw₂.symm.trans (hedit.object.trans hobject))
  rw [deployment_restated] at hpods'
  rw [service_restated] at hservice'
  have hover := hpods.of_stored hedit.pods
  -- the Deployment was settled, and the second pass leaves it as it is
  have hsettled : t'.Settled (c.deployment (c.withDefaults raw₁)) := by
    obtain ⟨r, hr, hsame⟩ := hover.settled trivial
    obtain rfl : r = deployment := Option.some.inj (hr.symm.trans hedit.pods)
    exact ⟨r, hedit.untouched, hsame⟩
  have hrecords : edited.RecordsSpec (c.service (c.withDefaults raw₁)) :=
    ((hservice.of_stored hedit.service.before).recordsSpec hedit.service.before).of_sameRecords
      hedit.service.records
  have hover' : t'.Overlaid u (c.service (c.withDefaults raw₁)) := hservice'.of_held fun r hr => by
    obtain rfl : edited = r := Option.some.inj (hedit.service.after.symm.trans hr)
    exact hedit.held
  exact ⟨hrecords, hover', hover, (hpods'.settled hsettled).trans hedit.untouched⟩

/-- After an edit of its specification, the Service selects the pods of the next converged pass
exactly if it did so when it was edited, or the edit took away or changed something that is
compiled; a Service that names another fingerprint than its own is written by every pass. The
compiled entries are there in any case. -/
theorem selects_iff_after_edit
    (h : (c.pass settings (.inNamespace ns name)).run Server.world s = (.ok .converged, t))
    (hraw : s.find? c.kind (.inNamespace ns name) = some raw)
    (hedit : c.ServiceEdited (.inNamespace ns name) (c.withDefaults raw) t t' live edited
      deployment)
    (h' : (c.pass settings' (.inNamespace ns name)).run Server.world t' = (.ok .converged, u)) :
    ∃ service, u.find? .service (c.service (c.withDefaults raw)).key = some service ∧
      u.find? .deployment (c.deployment (c.withDefaults raw)).key = some deployment ∧
      (∀ label value, (c.common (c.withDefaults raw)).selectorLabels.get? label = some value →
        service.selectorValue? label = some value ∧ deployment.podLabel? label = some value) ∧
      (service.Selects deployment ↔ edited.Selects deployment ∨
        edited.serviceSpec.toJson.contains
          (c.service (c.withDefaults raw)).serviceSpec.toJson = false ∨
        (c.service (c.withDefaults raw)).MisnamesPrint) := by
  obtain ⟨hrecords, hover', hover, hkept⟩ := overlaid_after_edit h hraw hedit h'
  have hlabels {label value : String}
      (hv : (c.common (c.withDefaults raw)).selectorLabels.get? label = some value) :
      deployment.podLabel? label = some value := podLabel?_of_overlaid hover hedit.pods hv
  obtain ⟨service, hfind, -⟩ := id hover'
  have hentry := hover'.selectorValue? hfind
  rw [Server.standing_of_found hedit.service.after] at hentry
  refine ⟨service, hfind, hkept, fun label value hv => ⟨?_, hlabels hv⟩, ?_⟩
  · rw [hentry]
    refine Resource.selectorValue?_overlay (isCompiledFor_service _).content ?_
    rw [Resource.selectorValue?_of_selector (selector_service _), hv]
  · rw [← hrecords.needsRewrite_iff]
    by_cases hneeds : edited.NeedsRewrite (c.service (c.withDefaults raw))
    · refine iff_of_true (fun label value hv => hlabels ?_) (Or.inr hneeds)
      rwa [hentry, Resource.selectorValue?_of_needsRewrite hneeds (selector_service _)] at hv
    · have hsame (label : String) : service.selectorValue? label = edited.selectorValue? label :=
        (hentry label).trans (Resource.selectorValue?_of_not_needsRewrite hneeds label)
      simp only [Resource.Selects, hsame, hneeds, or_false]

/-! Somebody adds an entry to the selector of a gateway's Service. -/

/-- A Service that asks for one more label. -/
def zoned (r : Resource .service) : Resource .service :=
  { r with content := { r.content with spec := some { r.serviceSpec with
      selector := some ((r.serviceSpec.selector.getD ∅).insert "zone" "a") } } }

/-- A store in which a gateway's pass converged. -/
def passedStore : Server :=
  ((gateway.pass {} (.inNamespace "higress-system" "edge")).run Server.world groupedStore).2

/-- The gateway, its settings filled in. -/
def passedGateway : Gateway := gateway.withDefaults appliedGateway

theorem serviceEdited_passedStore : ∃ live deployment,
    passedStore.find? .service (gateway.service passedGateway).key = some live ∧
    gateway.ServiceEdited (.inNamespace "higress-system" "edge") passedGateway passedStore
      (passedStore.put (.inNamespace "higress-system" "edge") (zoned live)) live (zoned live)
      deployment ∧
    (zoned live).serviceSpec.toJson.contains
      (gateway.service passedGateway).serviceSpec.toJson = true ∧
    deployment.podLabel? "zone" = none := by
  have hlive : (passedStore.find? .service (gateway.service passedGateway).key).map (fun r =>
      ((zoned r).serviceSpec.toJson.contains (gateway.service passedGateway).serviceSpec.toJson,
        Server.isReleased r)) = some (true, false) := by decide +kernel
  have hpods : (passedStore.find? .deployment (gateway.deployment passedGateway).key).map
      (fun r => r.podLabel? "zone") = some none := by decide +kernel
  obtain ⟨live, hlive, hcontains⟩ := Option.map_eq_some_iff.1 hlive
  obtain ⟨deployment, hpods, hlabel⟩ := Option.map_eq_some_iff.1 hpods
  obtain ⟨hcontains, hheld⟩ := Prod.mk.inj hcontains
  have hkey : live.key = .inNamespace "higress-system" "edge" := Server.key_of_find? hlive
  change (zoned live).key = _ at hkey
  have hother {k : Kind} (hk : k ≠ .service) (key : Key) :
      (passedStore.put (.inNamespace "higress-system" "edge") (zoned live)).find? k key =
        passedStore.find? k key := Server.find?_put_other _ hkey fun h => hk h.1
  exact ⟨live, deployment, hlive,
    ⟨⟨hlive, Server.find?_put_self _ hkey, fun _ _ => rfl⟩, hheld, hpods,
      (hother (by simp) _).trans hpods, hother (by simp) _⟩, hcontains, hlabel⟩

theorem pass_converges_zoned {live : Resource .service} {deployment : Resource .deployment}
    (h : (gateway.pass {} (.inNamespace "higress-system" "edge")).run Server.world groupedStore =
      (.ok .converged, passedStore))
    (hlive : passedStore.find? .service (gateway.service passedGateway).key = some live)
    (hedit : gateway.ServiceEdited (.inNamespace "higress-system" "edge") passedGateway passedStore
      (passedStore.put (.inNamespace "higress-system" "edge") (zoned live)) live (zoned live)
      deployment) :
    ∃ u, (gateway.pass {} (.inNamespace "higress-system" "edge")).run Server.world
        (passedStore.put (.inNamespace "higress-system" "edge") (zoned live)) =
      (.ok .converged, u) := by
  obtain ⟨raw, hraw, ⟨finalizers, version, status, hobject⟩, -, -⟩ := amended_of_pass h
  obtain rfl : appliedGateway = raw := Option.some.inj hraw
  have hkey : live.key = .inNamespace "higress-system" "edge" := Server.key_of_find? hlive
  change (zoned live).key = _ at hkey
  have hactive : (passedStore.put (.inNamespace "higress-system" "edge") (zoned live)).isActive
      "higress-system" = true := by
    unfold Server.isActive
    rw [Server.find?_put_other _ hkey (by simp)]
    decide +kernel
  have hdefinitions : gateway.definitionTargets {} = .ok [] := rfl
  have htargets := gateway.targets_restated {} appliedGateway finalizers version status
  exact pass_converges (rejected_of_run h) (hedit.object.trans hobject) rfl hactive hdefinitions
    (by simp) (htargets.trans rfl)

/-- The next pass converges and leaves the entry, which is no label of the pods. -/
theorem selects_iff_after_edit_passedStore : ∃ live u service deployment,
    (gateway.pass {} (.inNamespace "higress-system" "edge")).run Server.world groupedStore =
      (.ok .converged, passedStore) ∧
    passedStore.find? .service (gateway.service passedGateway).key = some live ∧
    (gateway.pass {} (.inNamespace "higress-system" "edge")).run Server.world
      (passedStore.put (.inNamespace "higress-system" "edge") (zoned live)) = (.ok .converged, u) ∧
    u.find? .service (gateway.service passedGateway).key = some service ∧
    u.find? .deployment (gateway.deployment passedGateway).key = some deployment ∧
    ¬ service.Selects deployment := by
  have hfirst :
      (gateway.pass {} (.inNamespace "higress-system" "edge")).run Server.world groupedStore =
        (.ok .converged, passedStore) := Prod.ext rfl rfl
  have happlied : groupedStore.find? .gateway (.inNamespace "higress-system" "edge") =
      some appliedGateway := rfl
  obtain ⟨live, deployment, hlive, hedit, hcontains, hlabel⟩ := serviceEdited_passedStore
  obtain ⟨u, hsecond⟩ := pass_converges_zoned hfirst hlive hedit
  obtain ⟨service, hservice, hdeployment, -, hiff⟩ :=
    selects_iff_after_edit hfirst happlied hedit hsecond
  refine ⟨live, u, service, deployment, hfirst, hlive, hsecond, hservice, hdeployment, ?_⟩
  rw [hiff]
  rintro (hselects | hdrifted | ⟨print, hprint, -⟩)
  · have hentry : (zoned live).selectorValue? "zone" = some "a" := by
      rw [Resource.selectorValue?_of_selector rfl, Dict.get?_insert, if_pos rfl]
    rw [hselects "zone" "a" hentry] at hlabel
    cases hlabel
  · exact absurd (hcontains.symm.trans hdrifted) (by simp)
  · cases hprint

end Component

end GatewayOperator
