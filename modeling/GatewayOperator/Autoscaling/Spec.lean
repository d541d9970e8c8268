import GatewayOperator.Wire

/-!
# Autoscaler specifications

What an autoscaler asks for, in each version of the API. `AutoscalerSpec` is the newest one; the two
older ones (`V2beta2.AutoscalerSpec`, `V2beta1.AutoscalerSpec`) hold scale bounds, the scaled
workload and resource metrics, and no more.
-/

namespace GatewayOperator

open Wire

/-! ## Shared parts -/

/-- The workload that is scaled. -/
structure ScaleTarget where
  apiVersion : Option String := none
  kind : String := ""
  name : String := ""
  deriving DecidableEq, Repr, Inhabited

namespace ScaleTarget

instance : Wire ScaleTarget where
  encode t := .obj (maybe "apiVersion" t.apiVersion ++ always "kind" t.kind ++ always "name" t.name)
  decode j := do
    let fs ← fieldsOf? ["apiVersion", "kind", "name"] j
    pure {
      apiVersion := ← orUnset fs "apiVersion"
      kind := ← required fs "kind"
      name := ← required fs "name" }

/-- The target of a normal form. -/
def ofJson (j : Json) : ScaleTarget where
  apiVersion := j.textAt? "apiVersion"
  kind := j.textAt "kind"
  name := j.textAt "name"

end ScaleTarget

/-- The value that a metric is kept at. -/
structure MetricTarget where
  type : String := ""
  averageUtilization : Option Int32 := none
  averageValue : Option String := none
  value : Option String := none
  deriving DecidableEq, Repr, Inhabited

namespace MetricTarget

instance : Wire MetricTarget where
  encode t := .obj (always "type" t.type ++ maybe "averageUtilization" t.averageUtilization ++
    maybe "averageValue" t.averageValue ++ maybe "value" t.value)
  decode j := do
    let fs ← fieldsOf? ["type", "averageUtilization", "averageValue", "value"] j
    pure {
      type := ← required fs "type"
      averageUtilization := ← orUnset fs "averageUtilization"
      averageValue := ← orUnset fs "averageValue"
      value := ← orUnset fs "value" }

/-- The target with its fields ascending by name. -/
def toJson (t : MetricTarget) : Json :=
  .obj (maybe "averageUtilization" t.averageUtilization ++ maybe "averageValue" t.averageValue ++
    always "type" t.type ++ maybe "value" t.value)

/-- The target of a normal form. -/
def ofJson (j : Json) : MetricTarget where
  type := j.textAt "type"
  averageUtilization := j.int32At? "averageUtilization"
  averageValue := j.textAt? "averageValue"
  value := j.textAt? "value"

end MetricTarget

/-- A resource of the pods, such as their processor time, and its target. -/
structure ResourceMetric where
  name : String := ""
  target : MetricTarget := {}
  deriving DecidableEq, Repr, Inhabited

namespace ResourceMetric

instance : Wire ResourceMetric where
  encode m := .obj (always "name" m.name ++ always "target" m.target)
  decode j := do
    let fs ← fieldsOf? ["name", "target"] j
    pure {
      name := ← required fs "name"
      target := ← required fs "target" }

def toJson (m : ResourceMetric) : Json :=
  .obj [("name", .str m.name), ("target", m.target.toJson)]

/-- The metric of a normal form. -/
def ofJson (j : Json) : ResourceMetric where
  name := j.textAt "name"
  target := MetricTarget.ofJson ((j.field? "target").getD .null)

end ResourceMetric

/-! ## The newest version -/

/-- A metric; sources other than a resource of the pods are passed on as they are. -/
structure Metric where
  type : String := ""
  resource : Option ResourceMetric := none
  otherSources : Json.Fields := []
  deriving DecidableEq, Inhabited

namespace Metric

def toJson (m : Metric) : Json :=
  .obj (Json.Fields.ascending (m.otherSources ++
    Json.optional "resource" (m.resource.map ResourceMetric.toJson) ++ [("type", .str m.type)]))

/-- The metric of a normal form. -/
def ofJson (j : Json) : Metric where
  type := j.textAt "type"
  resource := (j.field? "resource").map ResourceMetric.ofJson
  otherSources := j.rest ["resource", "type"]

end Metric

/-- What an autoscaler asks for. -/
structure AutoscalerSpec where
  behavior : Option Json := none
  maxReplicas : Int32 := 0
  metrics : Option (List Metric) := none
  minReplicas : Option Int32 := none
  scaleTargetRef : ScaleTarget := {}
  deriving DecidableEq, Inhabited

namespace AutoscalerSpec

def toJson (s : AutoscalerSpec) : Json :=
  .obj (Json.optional "behavior" s.behavior ++ [("maxReplicas", Json.ofInt32 s.maxReplicas)] ++
    Json.optional "metrics" (s.metrics.map fun ms => .arr (ms.map Metric.toJson)) ++
    Json.optional "minReplicas" (s.minReplicas.map Json.ofInt32) ++
    [("scaleTargetRef", encode s.scaleTargetRef)])

/-- The specification of a normal form. -/
def ofJson (j : Json) : AutoscalerSpec where
  behavior := j.field? "behavior"
  maxReplicas := j.int32At "maxReplicas"
  metrics := (j.itemsAt? "metrics").map fun ms => ms.map Metric.ofJson
  minReplicas := j.int32At? "minReplicas"
  scaleTargetRef := ScaleTarget.ofJson ((j.field? "scaleTargetRef").getD .null)

end AutoscalerSpec

/-! ## The version before it -/

namespace V2beta2

/-- A metric; only resources of the pods are held. -/
structure Metric where
  type : String := ""
  resource : Option ResourceMetric := none
  deriving DecidableEq, Repr, Inhabited

instance : Wire Metric where
  encode m := .obj (always "type" m.type ++ maybe "resource" m.resource)
  decode j := do
    let fs ← fieldsOf? ["type", "resource"] j
    pure {
      type := ← required fs "type"
      resource := ← orUnset fs "resource" }

/-- What an autoscaler asks for. -/
structure AutoscalerSpec where
  scaleTargetRef : ScaleTarget := {}
  minReplicas : Option Int32 := none
  maxReplicas : Int32 := 0
  metrics : Option (List Metric) := none
  deriving DecidableEq, Repr, Inhabited

instance : Wire AutoscalerSpec where
  encode s := .obj (always "scaleTargetRef" s.scaleTargetRef ++ maybe "minReplicas" s.minReplicas ++
    always "maxReplicas" s.maxReplicas ++ maybe "metrics" s.metrics)
  decode j := do
    let fs ← fieldsOf? ["scaleTargetRef", "minReplicas", "maxReplicas", "metrics"] j
    pure {
      scaleTargetRef := ← required fs "scaleTargetRef"
      minReplicas := ← orUnset fs "minReplicas"
      maxReplicas := ← required fs "maxReplicas"
      metrics := ← orUnset fs "metrics" }

end V2beta2

/-! ## The oldest version -/

namespace V2beta1

/-- A resource of the pods with its target's values beside its name. -/
structure ResourceMetric where
  name : String := ""
  targetAverageUtilization : Option Int32 := none
  targetAverageValue : Option String := none
  deriving DecidableEq, Repr, Inhabited

instance : Wire ResourceMetric where
  encode m := .obj (always "name" m.name ++
    maybe "targetAverageUtilization" m.targetAverageUtilization ++
    maybe "targetAverageValue" m.targetAverageValue)
  decode j := do
    let fs ← fieldsOf? ["name", "targetAverageUtilization", "targetAverageValue"] j
    pure {
      name := ← required fs "name"
      targetAverageUtilization := ← orUnset fs "targetAverageUtilization"
      targetAverageValue := ← orUnset fs "targetAverageValue" }

/-- A metric; only resources of the pods are held. -/
structure Metric where
  type : String := ""
  resource : Option ResourceMetric := none
  deriving DecidableEq, Repr, Inhabited

instance : Wire Metric where
  encode m := .obj (always "type" m.type ++ maybe "resource" m.resource)
  decode j := do
    let fs ← fieldsOf? ["type", "resource"] j
    pure {
      type := ← required fs "type"
      resource := ← orUnset fs "resource" }

/-- What an autoscaler asks for. -/
structure AutoscalerSpec where
  scaleTargetRef : ScaleTarget := {}
  minReplicas : Option Int32 := none
  maxReplicas : Int32 := 0
  metrics : Option (List Metric) := none
  deriving DecidableEq, Repr, Inhabited

instance : Wire AutoscalerSpec where
  encode s := .obj (always "scaleTargetRef" s.scaleTargetRef ++ maybe "minReplicas" s.minReplicas ++
    always "maxReplicas" s.maxReplicas ++ maybe "metrics" s.metrics)
  decode j := do
    let fs ← fieldsOf? ["scaleTargetRef", "minReplicas", "maxReplicas", "metrics"] j
    pure {
      scaleTargetRef := ← required fs "scaleTargetRef"
      minReplicas := ← orUnset fs "minReplicas"
      maxReplicas := ← required fs "maxReplicas"
      metrics := ← orUnset fs "metrics" }

end V2beta1

end GatewayOperator
