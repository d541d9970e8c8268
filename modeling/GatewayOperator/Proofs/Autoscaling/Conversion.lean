import GatewayOperator.Autoscaling.Conversion
import Mathlib.Data.List.Forall2

/-!
# What an older version keeps of an autoscaler

Only the newest version of the API can say everything about an autoscaler. This module describes
what is left of one that is converted to an older version and back.

Both conversions there and back are one narrowing (`Resource.narrowed`) with a different idea of
which metrics the older version can express, and of the form in which they return
(`fromV2beta2_toV2beta2`, `fromV2beta1_toV2beta1`). What a narrowing keeps is said once, by
`IsNarrowing`: the metadata, the bounds and the scaled workload as they are, of the metrics those
that the older version holds, in their order, and nothing else. `isNarrowing_conversions` is the
result about both versions.
-/

namespace GatewayOperator

/-! ## Metrics that an older version holds -/

/-- A metric on a resource of the pods. -/
def Metric.isOnResource (m : Metric) : Bool := m.type == resourceMetricType && m.resource.isSome

/-- The target is an average: a share of what the pods ask for, or a value. -/
def MetricTarget.isAverage (t : MetricTarget) : Bool :=
  t.type == utilizationType || t.type == averageValueType

/-- A metric on a resource of the pods whose target is an average. -/
def Metric.isOnAverage (m : Metric) : Bool :=
  m.isOnResource && m.resource.any fun r => r.target.isAverage

/-- The target has the one value that its type calls for, if any, and no other. -/
inductive MetricTarget.IsSingle : MetricTarget → Prop
  | utilization (u : Int32) : IsSingle { type := utilizationType, averageUtilization := some u }
  | averageValue (v : Option String) : IsSingle { type := averageValueType, averageValue := v }

/-- What is kept of the metric `old` as the metric `new`: the name of the resource, and the
resource's target where that is `intact`. -/
structure Metric.IsKeptAs (intact : MetricTarget → Prop) (old new : Metric) : Prop where
  type : new.type = old.type
  name : new.resource.map (·.name) = old.resource.map (·.name)
  resource : ∀ r, old.resource = some r → intact r.target → new.resource = some r
  otherSources : new.otherSources = []
  eq_of_intact : old.otherSources = [] → (∀ r, old.resource = some r → intact r.target) → new = old

/-- What a conversion there and back keeps of an autoscaler, where the older version holds the
metrics in `held` and returns unchanged those targets that are `intact`. -/
structure IsNarrowing (held : Metric → Bool) (intact : MetricTarget → Prop)
    (back : Resource (.autoscaler .v2) → Resource (.autoscaler .v2)) : Prop where
  metadata : ∀ a, (back a).metadata = a.metadata
  status : ∀ a, (back a).content.status = none
  /-- An autoscaler without a specification is read as one with the empty specification. -/
  spec : ∀ a, ∃ s, (back a).content.spec = some s ∧
    s.scaleTargetRef = (a.content.spec.getD {}).scaleTargetRef ∧
    s.minReplicas = (a.content.spec.getD {}).minReplicas ∧
    s.maxReplicas = (a.content.spec.getD {}).maxReplicas ∧
    s.behavior = none ∧
    ∃ kept, List.Forall₂ (Metric.IsKeptAs intact)
        ((((a.content.spec.getD {}).metrics).getD []).filter held) kept ∧
      s.metrics = if kept = [] then none else some kept
  fixed : ∀ a, back (back a) = back a
  compiled : ∀ {k : Kind} (owner : Resource k) (name component : String)
    (settings : AutoscalingSettings),
    back (compileAutoscaler owner name component settings) =
      compileAutoscaler owner name component settings

/-! ## Narrowing -/

/-- A metric on a resource of the pods in the form in which it returns, if it does. -/
def Metric.narrowed (narrow : ResourceMetric → Option ResourceMetric) (m : Metric) :
    Option Metric :=
  if m.type = resourceMetricType then (m.resource.bind narrow).map Metric.ofResource else none

/-- What is left of a specification of which `narrow` gives the resource metrics that return. -/
def AutoscalerSpec.narrowed (narrow : ResourceMetric → Option ResourceMetric) (s : AutoscalerSpec) :
    AutoscalerSpec where
  scaleTargetRef := s.scaleTargetRef
  minReplicas := s.minReplicas
  maxReplicas := s.maxReplicas
  metrics := unsetIfNil ((s.metrics.getD []).filterMap (Metric.narrowed narrow))

/-- What is left of an autoscaler of which `narrow` gives the resource metrics that return. -/
def Resource.narrowed (narrow : ResourceMetric → Option ResourceMetric)
    (a : Resource (.autoscaler .v2)) : Resource (.autoscaler .v2) :=
  ⟨a.metadata, { spec := some ((a.content.spec.getD {}).narrowed narrow) }⟩

@[simp]
theorem unsetIfNil_getD {α : Type} (xs : List α) : (unsetIfNil xs).getD [] = xs := by
  cases xs <;> rfl

theorem unsetIfNil_eq_ite {α : Type} [DecidableEq α] (xs : List α) :
    unsetIfNil xs = if xs = [] then none else some xs := by
  cases xs <;> rfl

theorem Metric.narrowed_eq_some {narrow : ResourceMetric → Option ResourceMetric} {m n : Metric} :
    m.narrowed narrow = some n ↔ m.type = resourceMetricType ∧
      ∃ r r', m.resource = some r ∧ narrow r = some r' ∧ n = Metric.ofResource r' := by
  unfold Metric.narrowed
  split
  · rename_i htype
    rw [Option.map_eq_some_iff]
    constructor
    · rintro ⟨r', hr', rfl⟩
      obtain ⟨r, hr, hnarrow⟩ := Option.bind_eq_some_iff.1 hr'
      exact ⟨htype, r, r', hr, hnarrow, rfl⟩
    · rintro ⟨-, r, r', hr, hnarrow, rfl⟩
      exact ⟨r', Option.bind_eq_some_iff.2 ⟨r, hr, hnarrow⟩, rfl⟩
  · rename_i htype
    constructor
    · intro h
      cases h
    · rintro ⟨hresource, -⟩
      exact absurd hresource htype

/-- The narrowed metrics are the resource metrics that `narrow` gives. -/
theorem AutoscalerSpec.filterMap_narrowed (narrow : ResourceMetric → Option ResourceMetric)
    (s : AutoscalerSpec) :
    (s.metrics.getD []).filterMap (Metric.narrowed narrow) =
      (s.resourceMetrics.filterMap narrow).map Metric.ofResource := by
  unfold AutoscalerSpec.resourceMetrics
  induction s.metrics.getD [] with
  | nil => rfl
  | cons m ms ih =>
    by_cases type : m.type = resourceMetricType
    · cases resource : m.resource with
      | none => simpa [Metric.narrowed, type, resource] using ih
      | some r => cases kept : narrow r <;> simpa [Metric.narrowed, type, resource, kept] using ih
    · simpa [Metric.narrowed, type] using ih

/-- `List.filterMap` gives one item for each of those that it does not drop, in their order. -/
theorem forall₂_filterMap {α β : Type} {f : α → Option β} {p : α → Bool} {R : α → β → Prop}
    (dropped : ∀ a, p a = false → f a = none) (kept : ∀ a, p a = true → ∃ b, f a = some b ∧ R a b)
    (xs : List α) : List.Forall₂ R (xs.filter p) (xs.filterMap f) := by
  induction xs with
  | nil => exact .nil
  | cons a as ih =>
    cases hp : p a with
    | false => simpa [hp, dropped a hp] using ih
    | true =>
      obtain ⟨b, hb, related⟩ := kept a hp
      simpa [hp, hb] using And.intro related ih

/-- What a conversion of resource metrics there and back has to give: those that are held return
under their name, unchanged where they are intact, and what returned once returns unchanged. -/
structure Returns (held : Metric → Bool) (intact : MetricTarget → Prop)
    (narrow : ResourceMetric → Option ResourceMetric) : Prop where
  isOnResource : ∀ m, held m = true → m.type = resourceMetricType ∧ ∃ r, m.resource = some r
  dropped : ∀ m r, m.type = resourceMetricType → m.resource = some r → held m = false →
    narrow r = none
  kept : ∀ m r, held m = true → m.resource = some r →
    ∃ r', narrow r = some r' ∧ r'.name = r.name ∧ (intact r.target → r' = r)
  stable : ∀ r r', narrow r = some r' → narrow r' = some r'
  compiled : ∀ u, narrow { name := "cpu", target :=
      { type := utilizationType, averageUtilization := some u } } =
    some { name := "cpu", target := { type := utilizationType, averageUtilization := some u } }

namespace Returns

variable {held : Metric → Bool} {intact : MetricTarget → Prop}
  {narrow : ResourceMetric → Option ResourceMetric}

/-- The metrics that are held are kept, one for one. -/
theorem forall₂_kept (returns : Returns held intact narrow) (ms : List Metric) :
    List.Forall₂ (Metric.IsKeptAs intact) (ms.filter held)
      (ms.filterMap (Metric.narrowed narrow)) := by
  apply forall₂_filterMap
  · intro m out
    cases narrowed : m.narrowed narrow with
    | none => rfl
    | some n =>
      obtain ⟨type, r, r', resource, given, -⟩ := Metric.narrowed_eq_some.1 narrowed
      simp [returns.dropped m r type resource out] at given
  · intro m within
    obtain ⟨type, r, resource⟩ := returns.isOnResource m within
    obtain ⟨r', given, name, unchanged⟩ := returns.kept m r within resource
    refine ⟨Metric.ofResource r', Metric.narrowed_eq_some.2 ⟨type, r, r', resource, given, rfl⟩, ?_⟩
    constructor
    · exact type.symm
    · simp [Metric.ofResource, resource, name]
    · intro r₀ resource₀ whole
      obtain rfl := Option.some.inj (resource₀.symm.trans resource)
      rw [Metric.ofResource, unchanged whole]
    · rfl
    · intro others whole
      obtain rfl := unchanged (whole r resource)
      cases m
      simp_all [Metric.ofResource]

/-- What was narrowed once is not narrowed further. -/
theorem narrowed_narrowed (returns : Returns held intact narrow) (s : AutoscalerSpec) :
    (s.narrowed narrow).narrowed narrow = s.narrowed narrow := by
  have again : ∀ m ∈ (s.metrics.getD []).filterMap (Metric.narrowed narrow),
      m.narrowed narrow = some m := by
    intro m isMetric
    obtain ⟨old, -, narrowed⟩ := List.mem_filterMap.1 isMetric
    obtain ⟨-, r, r', -, given, rfl⟩ := Metric.narrowed_eq_some.1 narrowed
    exact Metric.narrowed_eq_some.2 ⟨rfl, r', r', rfl, returns.stable r r' given, rfl⟩
  simp only [AutoscalerSpec.narrowed, unsetIfNil_getD]
  rw [List.filterMap_congr again, List.filterMap_some]

/-- An autoscaler that is compiled has nothing that is lost. -/
theorem narrowed_compile (returns : Returns held intact narrow) {k : Kind} (owner : Resource k)
    (name component : String) (settings : AutoscalingSettings) :
    (compileAutoscaler owner name component settings).narrowed narrow =
      compileAutoscaler owner name component settings := by
  have cpu := returns.compiled
  cases target : settings.targetCpuUtilizationPercentage <;>
    simp [Resource.narrowed, AutoscalerSpec.narrowed, compileAutoscaler, target, unsetIfNil,
      Metric.narrowed, cpu, Metric.ofResource]

/-- What a narrowing keeps, from what it does with one resource metric. -/
theorem isNarrowing (returns : Returns held intact narrow) :
    IsNarrowing held intact (Resource.narrowed narrow) where
  metadata _ := rfl
  status _ := rfl
  spec a := ⟨_, rfl, rfl, rfl, rfl, rfl, _, returns.forall₂_kept _, unsetIfNil_eq_ite _⟩
  fixed a := by
    simp only [Resource.narrowed, Option.getD_some, returns.narrowed_narrowed]
  compiled := returns.narrowed_compile

end Returns

/-! ## The two older versions -/

/-- The version before the newest returns every resource metric as it is. -/
theorem fromV2beta2_toV2beta2 (a : Resource (.autoscaler .v2)) :
    fromV2beta2 (toV2beta2 a) = a.narrowed some := by
  simp [fromV2beta2, toV2beta2, Resource.narrowed, AutoscalerSpec.narrowed,
    V2beta2.AutoscalerSpec.toNewest, V2beta2.AutoscalerSpec.ofNewest,
    AutoscalerSpec.filterMap_narrowed, List.filterMap_map]

/-- The oldest version returns resource metrics in the form that it can express. -/
theorem fromV2beta1_toV2beta1 (a : Resource (.autoscaler .v2)) :
    fromV2beta1 (toV2beta1 a) =
      a.narrowed fun m => (V2beta1.ResourceMetric.ofNewest? m).map (·.toNewest) := by
  have resources : ∀ ms : List V2beta1.ResourceMetric, ms.filterMap
      ((fun m : V2beta1.Metric => m.resource) ∘ fun m => ⟨resourceMetricType, some m⟩) = ms := by
    intro ms
    exact List.filterMap_some
  simp only [fromV2beta1, toV2beta1, Resource.narrowed, AutoscalerSpec.narrowed,
    V2beta1.AutoscalerSpec.toNewest, V2beta1.AutoscalerSpec.ofNewest,
    AutoscalerSpec.filterMap_narrowed, unsetIfNil_getD, List.filterMap_map, resources]
  rw [← List.map_filterMap, List.map_map]
  rfl

theorem Metric.isOnResource_iff {m : Metric} :
    m.isOnResource = true ↔ m.type = resourceMetricType ∧ ∃ r, m.resource = some r := by
  simp [Metric.isOnResource, Option.isSome_iff_exists]

theorem returns_v2beta2 : Returns Metric.isOnResource (fun _ => True) some where
  isOnResource _ within := Metric.isOnResource_iff.1 within
  dropped m r type resource out := by simp [Metric.isOnResource, type, resource] at out
  kept _ r _ _ := ⟨r, rfl, rfl, fun _ => rfl⟩
  stable _ _ given := given ▸ rfl
  compiled _ := rfl

/-- The oldest version expresses exactly the targets that are averages. -/
theorem ofNewest?_isSome (r : ResourceMetric) :
    (V2beta1.ResourceMetric.ofNewest? r).isSome = r.target.isAverage := by
  unfold V2beta1.ResourceMetric.ofNewest? MetricTarget.isAverage
  split
  · simp_all
  · split <;> simp_all

/-- A target returns with one value, and returns unchanged if it had only that. -/
theorem toNewest_ofNewest? {r : ResourceMetric} {old : V2beta1.ResourceMetric}
    (given : V2beta1.ResourceMetric.ofNewest? r = some old) :
    old.toNewest.name = r.name ∧ old.toNewest.target.IsSingle ∧
      (r.target.IsSingle → old.toNewest = r) := by
  obtain ⟨name, target⟩ := r
  unfold V2beta1.ResourceMetric.ofNewest? at given
  split at given
  · obtain rfl := Option.some.inj given
    refine ⟨rfl, ?_, ?_⟩
    · cases share : target.averageUtilization with
      | some u => simpa [V2beta1.ResourceMetric.toNewest, share] using .utilization u
      | none => simpa [V2beta1.ResourceMetric.toNewest, share] using .averageValue none
    · intro single
      cases single with
      | utilization u => rfl
      | averageValue v => simp [utilizationType, averageValueType] at *
  · split at given
    · obtain rfl := Option.some.inj given
      refine ⟨rfl, .averageValue _, ?_⟩
      intro single
      cases single with
      | utilization u => contradiction
      | averageValue v => rfl
    · simp at given

/-- Targets with one value are held by the oldest version. -/
theorem MetricTarget.IsSingle.isAverage {t : MetricTarget} (single : t.IsSingle) :
    t.isAverage = true := by
  cases single <;> rfl

theorem returns_v2beta1 : Returns Metric.isOnAverage MetricTarget.IsSingle
    fun m => (V2beta1.ResourceMetric.ofNewest? m).map (·.toNewest) where
  isOnResource m within := by
    simp only [Metric.isOnAverage, Bool.and_eq_true] at within
    exact Metric.isOnResource_iff.1 within.1
  dropped m r type resource out := by
    have noAverage : r.target.isAverage = false := by
      simpa [Metric.isOnAverage, Metric.isOnResource, type, resource] using out
    rw [← ofNewest?_isSome, Option.isSome_eq_false_iff, Option.isNone_iff_eq_none]
      at noAverage
    simp [noAverage]
  kept m r within resource := by
    simp only [Metric.isOnAverage, Bool.and_eq_true, resource, Option.any_some,
      ← ofNewest?_isSome, Option.isSome_iff_exists] at within
    obtain ⟨-, old, given⟩ := within
    obtain ⟨name, -, unchanged⟩ := toNewest_ofNewest? given
    exact ⟨old.toNewest, by simp [given], name, unchanged⟩
  stable r r' given := by
    obtain ⟨old, held, rfl⟩ := Option.map_eq_some_iff.1 given
    -- What returned has one value, so it is held again and returns unchanged.
    obtain ⟨-, single, -⟩ := toNewest_ofNewest? held
    have heldAgain := ofNewest?_isSome old.toNewest
    rw [single.isAverage, Option.isSome_iff_exists] at heldAgain
    obtain ⟨older, heldAgain⟩ := heldAgain
    simp [heldAgain, (toNewest_ofNewest? heldAgain).2.2 single]
  compiled _ := rfl

/-- Converting an autoscaler to an older version and back loses nothing of what both versions have,
and exactly the rest: status, scaling behaviour, metrics that are not on a resource of the pods and,
in the oldest version, those whose target is not an average. -/
theorem isNarrowing_conversions :
    IsNarrowing Metric.isOnResource (fun _ => True) (fun a => fromV2beta2 (toV2beta2 a)) ∧
      IsNarrowing Metric.isOnAverage MetricTarget.IsSingle
        (fun a => fromV2beta1 (toV2beta1 a)) := by
  constructor
  · simpa only [fromV2beta2_toV2beta2] using returns_v2beta2.isNarrowing
  · simpa only [fromV2beta1_toV2beta1] using returns_v2beta1.isNarrowing

end GatewayOperator
