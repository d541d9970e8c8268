import GatewayOperator.Compile.Ownership

/-!
# Autoscalers in every version

An autoscaler is compiled in the newest version of its API and converted to the one that the cluster
serves. Only metrics on resources of the pods survive a conversion; they are the only ones that are
compiled.
-/

namespace GatewayOperator

/-- The type of metrics on resources of the pods. -/
def resourceMetricType : String := "Resource"

/-- Targets as a share of what the pods ask for. -/
def utilizationType : String := "Utilization"

/-- Targets as an average over the pods. -/
def averageValueType : String := "AverageValue"

/-- Compile the autoscaler of a Deployment. -/
def compileAutoscaler {k : Kind} (owner : Resource k) (name component : String)
    (settings : AutoscalingSettings) : Resource (.autoscaler .v2) where
  metadata := ownedMetadata owner name (standardLabels owner component)
  content := { spec := some {
    scaleTargetRef := { apiVersion := some "apps/v1", kind := "Deployment", name := name }
    minReplicas := settings.minReplicas
    maxReplicas := settings.maxReplicas
    metrics := settings.targetCpuUtilizationPercentage.map fun target =>
      [{ type := resourceMetricType
         resource := some {
           name := "cpu"
           target := { type := utilizationType, averageUtilization := some target } } }] } }

/-- A list that is unset when it has no items. -/
def unsetIfNil {α : Type} (xs : List α) : Option (List α) := if xs.isEmpty then none else some xs

/-- The metrics on resources of the pods. -/
def AutoscalerSpec.resourceMetrics (s : AutoscalerSpec) : List ResourceMetric :=
  ((s.metrics.getD []).filter fun m => m.type == resourceMetricType).filterMap (·.resource)

/-- A metric on a resource of the pods. -/
def Metric.ofResource (m : ResourceMetric) : Metric where
  type := resourceMetricType
  resource := some m

namespace V2beta2

/-- The specification in this version. -/
def AutoscalerSpec.ofNewest (s : GatewayOperator.AutoscalerSpec) : AutoscalerSpec where
  scaleTargetRef := s.scaleTargetRef
  minReplicas := s.minReplicas
  maxReplicas := s.maxReplicas
  metrics := unsetIfNil (s.resourceMetrics.map fun m =>
    { type := resourceMetricType, resource := some m })

/-- The specification in the newest version. -/
def AutoscalerSpec.toNewest (s : AutoscalerSpec) : GatewayOperator.AutoscalerSpec where
  scaleTargetRef := s.scaleTargetRef
  minReplicas := s.minReplicas
  maxReplicas := s.maxReplicas
  metrics := unsetIfNil (((s.metrics.getD []).filterMap (·.resource)).map
    GatewayOperator.Metric.ofResource)

end V2beta2

namespace V2beta1

/-- A metric in this version, which has no plain values as targets. -/
def ResourceMetric.ofNewest? (m : GatewayOperator.ResourceMetric) : Option ResourceMetric :=
  if m.target.type = utilizationType then
    some { name := m.name, targetAverageUtilization := m.target.averageUtilization }
  else if m.target.type = averageValueType then
    some { name := m.name, targetAverageValue := m.target.averageValue }
  else none

/-- A metric in the newest version. -/
def ResourceMetric.toNewest (m : ResourceMetric) : GatewayOperator.ResourceMetric where
  name := m.name
  target :=
    match m.targetAverageUtilization with
    | some u => { type := utilizationType, averageUtilization := some u }
    | none => { type := averageValueType, averageValue := m.targetAverageValue }

/-- The specification in this version. -/
def AutoscalerSpec.ofNewest (s : GatewayOperator.AutoscalerSpec) : AutoscalerSpec where
  scaleTargetRef := s.scaleTargetRef
  minReplicas := s.minReplicas
  maxReplicas := s.maxReplicas
  metrics := unsetIfNil ((s.resourceMetrics.filterMap ResourceMetric.ofNewest?).map fun m =>
    { type := resourceMetricType, resource := some m })

/-- The specification in the newest version. -/
def AutoscalerSpec.toNewest (s : AutoscalerSpec) : GatewayOperator.AutoscalerSpec where
  scaleTargetRef := s.scaleTargetRef
  minReplicas := s.minReplicas
  maxReplicas := s.maxReplicas
  metrics := unsetIfNil (((s.metrics.getD []).filterMap (·.resource)).map fun m =>
    GatewayOperator.Metric.ofResource m.toNewest)

end V2beta1

/-- An autoscaler in the version before the newest. -/
def toV2beta2 (a : Resource (.autoscaler .v2)) : Resource (.autoscaler .v2beta2) :=
  ⟨a.metadata, .ofNewest (a.content.spec.getD {})⟩

def fromV2beta2 (a : Resource (.autoscaler .v2beta2)) : Resource (.autoscaler .v2) :=
  ⟨a.metadata, { spec := some (V2beta2.AutoscalerSpec.toNewest a.content) }⟩

/-- An autoscaler in the oldest version. -/
def toV2beta1 (a : Resource (.autoscaler .v2)) : Resource (.autoscaler .v2beta1) :=
  ⟨a.metadata, .ofNewest (a.content.spec.getD {})⟩

def fromV2beta1 (a : Resource (.autoscaler .v2beta1)) : Resource (.autoscaler .v2) :=
  ⟨a.metadata, { spec := some (V2beta1.AutoscalerSpec.toNewest a.content) }⟩

end GatewayOperator
