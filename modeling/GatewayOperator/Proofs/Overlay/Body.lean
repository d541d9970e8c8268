import GatewayOperator.Proofs.Json.Completion
import GatewayOperator.Proofs.Overlay.Desired

/-!
# Bodies under a fingerprint

Deployments and autoscalers have a body that is written as a whole or left as it is. An overlay
leaves a record of what it rendered (`Resource.Records`): the keys and the fingerprint of the body,
whatever stood there before (`records_overlay`). While nobody touches the operator's annotations the
record lasts (`Records.of_sameRecords`), and the next overlay is decided by it:

* `rewritten_of_changed`: an object that records another body is written over with the desired one,
* `rewritten_of_drifted`: so is one whose body does not complete the desired one,
* `overlay_of_completes`: a body that completes the desired one stays,
* `overlay_eq_self_of_completes`: and nothing at all happens to an object on which only the body was
  completed.
-/

namespace GatewayOperator

open Wire (encode)

/-! ## Kinds with a body -/

namespace Kind

/-- Kinds whose objects have one body, which is written as a whole. -/
inductive IsWhole : Kind → Prop
  | deployment : IsWhole .deployment
  | autoscaler (version : AutoscalingVersion) : IsWhole (.autoscaler version)

/-- The body of a content; for a Deployment, what it specifies but for the replica count. -/
def body : (k : Kind) → k.Content → Json
  | .deployment, c => (c.spec.getD {}).shape
  | .autoscaler .v2, c => (c.spec.getD {}).toJson
  | .autoscaler .v2beta2, c => encode c
  | .autoscaler .v2beta1, c => encode c
  | _, _ => .null

/-- A live content with the desired body. A replica count stays where none is desired. -/
def withBodyOf : (k : Kind) → (live desired : k.Content) → k.Content
  | .deployment, c, d => { c with spec := some {
      replicas := (d.spec.getD {}).replicas <|> (c.spec.getD {}).replicas
      shape := (d.spec.getD {}).shape } }
  | .autoscaler .v2, c, d => { c with spec := some (d.spec.getD {}) }
  | .autoscaler .v2beta2, _, d => d
  | .autoscaler .v2beta1, _, d => d
  | _, c, _ => c

/-- A live content with its own body, and with the replica count that is desired. -/
def recounted : (k : Kind) → (live desired : k.Content) → k.Content
  | .deployment, c, d => { c with spec := some {
      replicas := (d.spec.getD {}).replicas <|> (c.spec.getD {}).replicas
      shape := (c.spec.getD {}).shape } }
  | .autoscaler .v2, c, _ => { c with spec := some (c.spec.getD {}) }
  | _, c, _ => c

variable {k : Kind}

theorem overlayContent_of_isWhole (hk : k.IsWhole) (m : Metadata) (c d : k.Content) :
    overlayContent k m c d =
      if needsUpdate m (k.body c) (k.body d) then (m.stamp (k.body d), k.withBodyOf c d)
      else (m, k.recounted c d) := by
  cases hneeds : needsUpdate m (k.body c) (k.body d) <;> cases hk with
  | deployment =>
    simp only [body] at hneeds
    simp only [overlayContent, overlayDeployment, overlayBody, id, hneeds]
    rfl
  | autoscaler version =>
    cases version <;> simp only [body] at hneeds <;>
      simp only [overlayContent, overlayBody, hneeds] <;> rfl

/-- The body of a Deployment that is read is an object without a replica count. -/
theorem isRendered_contentOf (hk : k.IsWhole) (j : Json) : k.IsRendered (k.contentOf j) := by
  cases hk with
  | autoscaler version => trivial
  | deployment =>
    cases hspec : j.field? "spec" with
    | none =>
      refine ⟨[("selector", .obj []), ("template", .obj [])], ?_, by simp⟩
      simp [contentOf, hspec]
    | some spec =>
      refine ⟨spec.rest ["replicas"], by simp [contentOf, hspec, DeploymentSpec.ofJson], ?_⟩
      cases hcount : Json.Fields.last? (spec.rest ["replicas"]) "replicas" with
      | none => rfl
      | some count =>
        have hmem := Json.Fields.mem_of_last? hcount
        simp [Json.rest] at hmem

/-- A content that holds what is desired has a body that contains the desired one. -/
theorem contains_body_of_holds (hk : k.IsWhole) {b c d : k.Content} (hc : k.IsRendered c)
    (hd : k.IsRendered d) (h : k.Holds b c d) : (k.body c).contains (k.body d) = true := by
  cases hk with
  | autoscaler version =>
    cases version with
    | v2 =>
      obtain ⟨spec, hspec, hcontains⟩ := h
      show (c.spec.getD {}).toJson.contains (d.spec.getD {}).toJson = true
      rw [hspec]
      exact hcontains
    | v2beta2 => exact h
    | v2beta1 => exact h
  | deployment =>
    obtain ⟨spec, hspec, hcontains⟩ := h
    obtain ⟨cs, hcs, -⟩ := hc
    obtain ⟨ds, hds, hcount⟩ := hd
    have hshape : spec.shape = .obj cs := by rw [← hcs, hspec]; rfl
    obtain ⟨gs, hlive, hgs⟩ := DeploymentSpec.toJson_of_obj hshape
    obtain ⟨ws, hdesired, hws⟩ := DeploymentSpec.toJson_of_obj hds
    rw [hlive, hdesired, Json.contains_obj_iff] at hcontains
    show (c.spec.getD {}).shape.contains (d.spec.getD {}).shape = true
    rw [hcs, hds, Json.contains_obj_iff]
    intro name w hw
    -- beside the replica count a specification is its body
    have hname : name ≠ "replicas" := by
      rintro rfl
      rw [hcount] at hw
      cases hw
    have hfield := hcontains name w (by rw [hws, if_neg hname]; exact hw)
    rwa [hgs, if_neg hname] at hfield

/-- A Deployment that holds what is desired has the replica count that is desired. -/
theorem replicas_of_holds {b c d : DeploymentContent} {n : Int32}
    (hc : Kind.IsRendered .deployment c)
    (hd : Kind.IsRendered .deployment d) (h : Kind.Holds .deployment b c d)
    (hn : (d.spec.getD {}).replicas = some n) : (c.spec.getD {}).replicas = some n := by
  obtain ⟨spec, hspec, hcontains⟩ := h
  obtain ⟨cs, hcs, hlive⟩ := hc
  obtain ⟨ds, hds, -⟩ := hd
  have hshape : spec.shape = .obj cs := by rw [← hcs, hspec]; rfl
  obtain ⟨gs, hwritten, hgs⟩ := DeploymentSpec.toJson_of_obj hshape
  obtain ⟨ws, hdesired, hws⟩ := DeploymentSpec.toJson_of_obj hds
  rw [hwritten, hdesired, Json.contains_obj_iff] at hcontains
  have hcount := hcontains "replicas" (Json.ofInt32 n) (by rw [hws, if_pos rfl, hn]; rfl)
  rw [hgs, if_pos rfl, hlive, Option.or_none] at hcount
  rw [hspec]
  show spec.replicas = some n
  cases hcurrent : spec.replicas with
  | none =>
    rw [hcurrent] at hcount
    cases hcount
  | some m =>
    rw [hcurrent] at hcount
    have hsame : m.toInt = n.toInt := by
      simpa [Json.HoldsField, Json.ofInt32, Json.contains, Json.canonical, Json.containsCanonical,
        Json.sameScalar] using hcount
    rw [Int32.toInt_inj.1 hsame]

end Kind

/-! ## The operator's annotations -/

namespace Metadata

/-- Metadata that renders none of the operator's own records. -/
def RendersNoRecord (m : Metadata) : Prop :=
  ∀ key, isBookkeeping key = true → (m.annotations.getD ∅).get? key = none

/-- Metadata with the same records. -/
def SameRecords (m n : Metadata) : Prop :=
  ∀ key, isBookkeeping key = true →
    (m.annotations.getD ∅).get? key = (n.annotations.getD ∅).get? key

theorem SameRecords.fingerprint? {m n : Metadata} (h : m.SameRecords n) :
    m.fingerprint? = n.fingerprint? := by
  unfold Metadata.fingerprint?
  rw [← Dict.get?_getD, ← Dict.get?_getD]
  exact h fingerprintAnnotation rfl

theorem SameRecords.recorded {m n : Metadata} (h : m.SameRecords n) :
    OwnedKeys.recorded m = OwnedKeys.recorded n := by
  unfold OwnedKeys.recorded
  rw [← Dict.get?_getD, ← Dict.get?_getD, h ownedKeysAnnotation rfl]

/-- An overlay leaves the fingerprint that the desired metadata names, or else the one that is
there, unless the record of owned keys names it. -/
theorem fingerprint?_overlay_eq {m d : Metadata}
    (hkeys : fingerprintAnnotation ∉ (OwnedKeys.recorded m).annotations) :
    (m.overlay d).fingerprint? =
      ((d.annotations.getD ∅).get? fingerprintAnnotation).or m.fingerprint? := by
  have hne : fingerprintAnnotation ≠ ownedKeysAnnotation := by decide
  unfold fingerprint? overlay
  rw [← Dict.get?_getD, ← Dict.get?_getD, get?_recordOwned, if_neg hne, get?_mergeBindings,
    get?_dropReleased, if_neg fun h => hkeys h.1]

/-- An overlay that renders no record keeps the fingerprint, unless the record of owned keys names
it. -/
theorem fingerprint?_overlay {m d : Metadata}
    (hkeys : fingerprintAnnotation ∉ (OwnedKeys.recorded m).annotations) (hd : d.RendersNoRecord) :
    (m.overlay d).fingerprint? = m.fingerprint? := by
  rw [fingerprint?_overlay_eq hkeys, hd fingerprintAnnotation rfl, Option.none_or]

/-- An overlay looks at labels, annotations and owners and at nothing else. -/
theorem overlay_eq_of_marks {m n : Metadata} (d : Metadata) (hlabels : m.labels = n.labels)
    (hannotations : m.annotations = n.annotations)
    (howners : m.ownerReferences = n.ownerReferences) :
    m.overlay d = { m with
      labels := (n.overlay d).labels
      annotations := (n.overlay d).annotations
      ownerReferences := (n.overlay d).ownerReferences } := by
  unfold overlay OwnedKeys.recorded
  rw [hlabels, hannotations, howners]

end Metadata

theorem OwnedKeys.not_mem_keysOf {key : String} (h : isBookkeeping key = true)
    (d : Option (Dict String)) : key ∉ keysOf d := by
  simp [keysOf, h]

/-- Two bodies that are written differently and have one fingerprint. -/
def Collide (a b : Json) : Prop := a.compact ≠ b.compact ∧ fingerprint a = fingerprint b

/-! ## Records of a body -/

namespace Resource

variable {k : Kind}

/-- An object that carries the record of a desired one: the keys that it renders and the fingerprint
of its body. -/
structure Records (r d : Resource k) : Prop where
  keys : OwnedKeys.recorded r.metadata = OwnedKeys.ofMetadata d.metadata
  print : r.metadata.fingerprint? = some (fingerprint (k.body d.content))

/-- A record lasts while nobody touches the operator's annotations. -/
theorem Records.of_sameRecords {r s d : Resource k} (h : r.Records d)
    (hsame : s.metadata.SameRecords r.metadata) : s.Records d :=
  ⟨hsame.recorded.trans h.keys, hsame.fingerprint?.trans h.print⟩

theorem SameMarks.sameRecords {r s : Resource k} (h : r.SameMarks s) :
    r.metadata.SameRecords s.metadata := fun _ _ => by rw [h.annotations]

/-- A record names no record, so the fingerprint outlasts the next overlay. -/
theorem Records.print_overlay {r d e : Resource k} (h : r.Records d)
    (he : e.metadata.RendersNoRecord) :
    (r.metadata.overlay e.metadata).fingerprint? = some (fingerprint (k.body d.content)) := by
  have hkeys : fingerprintAnnotation ∉ (OwnedKeys.recorded r.metadata).annotations := by
    rw [h.keys]
    exact OwnedKeys.not_mem_keysOf rfl _
  rw [Metadata.fingerprint?_overlay hkeys he, h.print]

/-- An object that was written over with the desired body, and records that body. -/
structure Rewritten (before after d : Resource k) : Prop where
  content : after.content = k.withBodyOf before.content d.content
  print : after.metadata.fingerprint? = some (fingerprint (k.body d.content))

theorem Rewritten.issued {before after d : Resource k} (h : before.Rewritten after d)
    (version uid : Option String) : before.Rewritten (after.issued version uid) d :=
  ⟨h.content, h.print⟩

/-- An object whose body was left as it is, with the replica count that it had or that is
desired. -/
def KeepsBody (before after d : Resource k) : Prop :=
  after.content = before.content ∨ after.content = k.recounted before.content d.content

theorem overlay_of_isWhole (hk : k.IsWhole) (live d : Resource k) :
    live.overlay d =
      if needsUpdate (live.metadata.overlay d.metadata) (k.body live.content)
        (k.body d.content) then
        ⟨(live.metadata.overlay d.metadata).stamp (k.body d.content),
          k.withBodyOf live.content d.content⟩
      else ⟨live.metadata.overlay d.metadata, k.recounted live.content d.content⟩ := by
  unfold overlay
  rw [Kind.overlayContent_of_isWhole hk]
  cases needsUpdate (live.metadata.overlay d.metadata) (k.body live.content) (k.body d.content) <;>
    rfl

/-- Whatever stood there before, an overlay leaves the record of what it rendered. -/
theorem records_overlay (hk : k.IsWhole) (live d : Resource k) : (live.overlay d).Records d := by
  rw [overlay_of_isWhole hk]
  split
  · refine ⟨?_, ?_⟩
    · rw [Metadata.recorded_stamp, Metadata.recorded_overlay]
    · simp [Metadata.fingerprint?, Metadata.stamp]
  · rename_i hkept
    refine ⟨Metadata.recorded_overlay _ _, ?_⟩
    simp only [needsUpdate, Bool.or_eq_true, not_or, decide_eq_true_eq, Decidable.not_not] at hkept
    exact hkept.1

/-- A body that has to be written again is replaced. -/
theorem rewritten_of_needsUpdate (hk : k.IsWhole) {live d : Resource k}
    (h : needsUpdate (live.metadata.overlay d.metadata) (k.body live.content)
      (k.body d.content) = true) :
    live.Rewritten (live.overlay d) d := by
  refine ⟨?_, (records_overlay hk live d).print⟩
  rw [overlay_of_isWhole hk, if_pos h]

/-- A fresh object records nothing, so it gets the desired body. -/
theorem rewritten_of_empty (hk : k.IsWhole) (key : Key) {d : Resource k}
    (hd : d.metadata.RendersNoRecord) : (empty k key).Rewritten ((empty k key).overlay d) d := by
  have hnone : ((empty k key).metadata.overlay d.metadata).fingerprint? = none := by
    have hmetadata : (empty k key).metadata.annotations = none := by
      unfold empty
      split <;> rfl
    rw [Metadata.fingerprint?_overlay (by simp [OwnedKeys.recorded, hmetadata]) hd]
    simp [Metadata.fingerprint?, hmetadata]
  apply rewritten_of_needsUpdate hk
  simp [needsUpdate, hnone]

/-- An object that records another body is written over with the desired one. -/
theorem rewritten_of_changed (hk : k.IsWhole) {live d e : Resource k} (hlive : live.Records d)
    (he : e.metadata.RendersNoRecord)
    (hchanged : fingerprint (k.body d.content) ≠ fingerprint (k.body e.content)) :
    live.Rewritten (live.overlay e) e := by
  apply rewritten_of_needsUpdate hk
  simp [needsUpdate, hlive.print_overlay he, hchanged]

/-- So is one whose body does not complete the desired one. -/
theorem rewritten_of_drifted (hk : k.IsWhole) {live d : Resource k}
    (hdrifted : ¬ (k.body live.content).Completes (k.body d.content)) :
    live.Rewritten (live.overlay d) d := by
  apply rewritten_of_needsUpdate hk
  rw [← Json.contains_iff_completes, Bool.not_eq_true] at hdrifted
  simp [needsUpdate, hdrifted]

/-- A body that completes the recorded one stays. -/
theorem overlay_of_completes (hk : k.IsWhole) {live d : Resource k} (hlive : live.Records d)
    (hd : d.metadata.RendersNoRecord)
    (hcompletes : (k.body live.content).Completes (k.body d.content)) :
    live.overlay d =
      ⟨live.metadata.overlay d.metadata, k.recounted live.content d.content⟩ := by
  have hcontains := (Json.contains_iff_completes _ _).2 hcompletes
  rw [overlay_of_isWhole hk, if_neg]
  simp [needsUpdate, hlive.print_overlay hd, hcontains]

/-- Where the record is the desired one already, a body is stamped with what is there. -/
theorem Records.metadata_overlay (hk : k.IsWhole) {live d : Resource k} (hlive : live.Records d)
    (hd : d.metadata.RendersNoRecord) :
    (live.overlay d).metadata = live.metadata.overlay d.metadata := by
  rw [overlay_of_isWhole hk]
  split
  · exact Metadata.stamp_eq_self (hlive.print_overlay hd)
  · rfl

/-- An object on which only the body was completed is not changed at all. -/
theorem overlay_eq_self_of_completes (hk : k.IsWhole) {live edited d : Resource k}
    (hlive : live.Records d)
    (hsettled : (live.overlay d).SameMarks live) (hmarks : edited.SameMarks live)
    (hd : d.metadata.RendersNoRecord)
    (hcompletes : (k.body edited.content).Completes (k.body d.content))
    (hcount : k.recounted edited.content d.content = edited.content) :
    edited.overlay d = edited := by
  have hmetadata : edited.metadata.overlay d.metadata = edited.metadata := by
    obtain ⟨hlabels, hannotations, howners⟩ := hsettled
    rw [hlive.metadata_overlay hk hd] at hlabels hannotations howners
    rw [Metadata.overlay_eq_of_marks d.metadata hmarks.labels hmarks.annotations hmarks.owners,
      hlabels, hannotations, howners, ← hmarks.labels, ← hmarks.annotations, ← hmarks.owners]
  rw [overlay_of_completes hk (hlive.of_sameRecords hmarks.sameRecords) hd hcompletes, hmetadata,
    hcount]

/-- A body that is written like an overlay of the desired one completes it. -/
theorem completes_of_sameAs (hk : k.IsWhole) {live d : Resource k}
    (hlive : k.IsRendered live.content)
    (hd : k.IsRendered d.content) (h : (live.overlay d).sameAs live = true) :
    (k.body live.content).Completes (k.body d.content) := by
  have haccount : k ≠ .serviceAccount := by rintro rfl; cases hk
  have hevent : k ≠ .event := by rintro rfl; cases hk
  have hshows := (shows_overlay live hd).of_sameAs haccount hevent h
  exact (Json.contains_iff_completes _ _).1 (Kind.contains_body_of_holds hk hlive hd hshows.content)

end Resource

end GatewayOperator
