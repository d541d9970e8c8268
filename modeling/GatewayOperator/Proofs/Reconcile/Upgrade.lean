import GatewayOperator.Proofs.Reconcile.Drift

/-!
# Upgrades of definitions

A definition has no fingerprint: its specification is written again only if something that is
desired is not there. So an upgrade brings whatever the new version has
(`contains_overlayDefinition`), and it takes away what the new version dropped only together with
something that is new. `upgrade_takes_effect_iff` says when that is.
-/

namespace GatewayOperator

/-- A value with nothing in it, empty values apart, for which another one has no place. -/
def Json.HasNoMoreThan (c d : Json) : Prop :=
  ∀ (path : List Step) (x : Json), c.reach? path = some x → x.isEmptyValue = false →
    (d.reach? path).isSome = true

theorem Json.HasNoMoreThan.refl (d : Json) : d.HasNoMoreThan d := by
  intro path x hx _
  rw [hx]
  rfl

/-- What was dropped is gone unless everything else was there already. -/
theorem hasNoMoreThan_overlayDefinition_iff (current desired : Json) :
    (overlayDefinition current desired).HasNoMoreThan desired ↔
      (current.contains desired = true → current.HasNoMoreThan desired) := by
  unfold overlayDefinition
  split
  · rename_i hcontains
    exact ⟨fun h _ => h, fun h => h hcontains⟩
  · rename_i hnot
    exact ⟨fun _ hcontains => absurd hcontains hnot, fun _ => .refl desired⟩

/-- A definition that is written like its overlay has the specification of the overlay. -/
theorem spec_of_sameAs {r d : Resource .definition} (h : (r.overlay d).sameAs r = true) :
    r.content.spec = overlayDefinition r.content.spec d.content.spec := by
  have hspec : "spec" ∉ Kind.headFields := by simp [Kind.headFields]
  have hsame : (r.overlay d).content.spec.same r.content.spec = true := by
    simpa [Kind.contentFields] using Resource.content_of_sameAs h hspec
  have hcontains : r.content.spec.contains d.content.spec = true :=
    Json.contains_of_same hsame (contains_overlayDefinition r.content.spec d.content.spec)
  rw [overlayDefinition, if_pos hcontains]

/-- An installation of one definition overlays the specification of what stood there. -/
theorem turned_of_ensureDefinitions {d : Resource .definition} {s t : Server} {n : Nat}
    (h : (ensureDefinitions [d]).run Server.world s = (.ok n, t)) :
    s.Turned t d.key fun before after : Resource .definition =>
      after.content.spec = overlayDefinition before.content.spec d.content.spec := by
  obtain ⟨o, u, hrun, hrest⟩ := Program.run_bind_ok.1 h
  cases hrest
  exact turned_of_run hrun (fun _ _ => rfl) fun r _ hsame => spec_of_sameAs hsame

/-- After an upgrade everything is there that the new version has. What the old version had and the
new one has not is gone exactly if the old version lacked something of the new one, or had nothing
more. -/
theorem upgrade_takes_effect_iff (d₁ d₂ : Resource .definition) (hkey : d₂.key = d₁.key)
    {s t u : Server} {n m : Nat}
    (h₁ : (ensureDefinitions [d₁]).run Server.world s = (.ok n, t))
    (h₂ : (ensureDefinitions [d₂]).run Server.world t = (.ok m, u)) :
    (s.Turned t d₁.key fun before after : Resource .definition =>
      after.content.spec = overlayDefinition before.content.spec d₁.content.spec) ∧
    t.Turned u d₁.key fun before after : Resource .definition =>
      after.content.spec = overlayDefinition before.content.spec d₂.content.spec ∧
      after.content.spec.contains d₂.content.spec = true ∧
      (after.content.spec.HasNoMoreThan d₂.content.spec ↔
        (before.content.spec.contains d₂.content.spec = true →
          before.content.spec.HasNoMoreThan d₂.content.spec)) := by
  refine ⟨turned_of_ensureDefinitions h₁, ?_⟩
  rw [← hkey]
  refine (turned_of_ensureDefinitions h₂).mono fun before after hspec => ⟨hspec, ?_⟩
  rw [hspec]
  exact ⟨contains_overlayDefinition _ _, hasNoMoreThan_overlayDefinition_iff _ _⟩

/-! An upgrade that drops a property and brings nothing new. -/

/-- A definition of objects with properties that are texts. -/
def definitionOf (properties : List String) : Resource .definition where
  metadata := { name := some "wasmplugins.extensions.higress.io" }
  content := { spec := .obj [("group", .str "extensions.higress.io"), ("versions", .arr [.obj [
    ("name", .str "v1alpha1"), ("schema", .obj [("properties", .obj (properties.map fun name =>
      (name, .obj [("type", .str "string")])))])]])] }

theorem run_ensureDefinitions_singleton {d : Resource .definition} {s t : Server} {o : Outcome}
    (h : (convergeTo d).run Server.world s = (.ok o, t)) :
    (ensureDefinitions [d]).run Server.world s = (.ok 1, t) :=
  (Program.run_bind_of_ok h).trans rfl

/-- The property is still there after the upgrade. -/
theorem upgrade_takes_effect_iff_wasmPlugins :
    ∃ n t m u r,
      (ensureDefinitions [definitionOf ["phase", "url"]]).run Server.world {} = (.ok n, t) ∧
      (ensureDefinitions [definitionOf ["url"]]).run Server.world t = (.ok m, u) ∧
      u.find? .definition (definitionOf ["phase", "url"]).key = some r ∧
      r.content.spec = (definitionOf ["phase", "url"]).content.spec ∧
      ¬ r.content.spec.HasNoMoreThan (definitionOf ["url"]).content.spec := by
  obtain ⟨o, t, ht⟩ := convergeTo_succeeds (d := definitionOf ["phase", "url"]) (s := {}) rfl
    (Or.inr rfl)
  obtain ⟨o', u, hu⟩ := convergeTo_succeeds (d := definitionOf ["url"])
    (rejects_of_run ht .definition) (Or.inr rfl)
  obtain ⟨hinstalled, hupgraded⟩ := upgrade_takes_effect_iff (definitionOf ["phase", "url"])
    (definitionOf ["url"]) rfl (run_ensureDefinitions_singleton ht)
    (run_ensureDefinitions_singleton hu)
  rcases hinstalled with ⟨left, hleft, hspec⟩ | ⟨-, r, hr, -⟩
  · have hmark : left.metadata.deletionTimestamp = none := deletionTimestamp_of_run ht hleft
    obtain ⟨r, hr, hkept, -, heffect⟩ := hupgraded.of_found hleft (congrArg Option.isSome hmark)
    have hleft : left.content.spec = (definitionOf ["phase", "url"]).content.spec := hspec.trans rfl
    have hcontains : left.content.spec.contains (definitionOf ["url"]).content.spec = true := by
      rw [hleft]
      decide +kernel
    refine ⟨1, t, 1, u, r, run_ensureDefinitions_singleton ht,
      run_ensureDefinitions_singleton hu, hr, ?_, fun hnothing => ?_⟩
    · rw [hkept, overlayDefinition, if_pos hcontains, hleft]
    · have hmore := heffect.1 hnothing hcontains
      rw [hleft] at hmore
      have hphase := hmore [.field "versions", .item 0, .field "schema", .field "properties",
        .field "phase"] (.obj [("type", .str "string")]) rfl rfl
      cases hphase
  · cases hr

end GatewayOperator
