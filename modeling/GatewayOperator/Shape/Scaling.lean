import GatewayOperator.Shape.Basic

/-!
# Fields: autoscalers
-/

namespace GatewayOperator

namespace Shape

/-- Autoscalers. -/
def scalingTypes : Types :=
  [("HorizontalPodAutoscalerSpec",
     [opt "behavior" (.record "HorizontalPodAutoscalerBehavior"), reqInt "maxReplicas",
      opt "metrics" (.list (.record "MetricSpec")), opt "minReplicas" .int32,
      reqRecord "scaleTargetRef" "CrossVersionObjectReference" ["kind", "name"]]),
   ("HorizontalPodAutoscalerBehavior",
     [opt "scaleDown" (.record "HPAScalingRules"), opt "scaleUp" (.record "HPAScalingRules")]),
   ("HPAScalingRules",
     [opt "policies" (.list (.record "HPAScalingPolicy")), opt "selectPolicy" .text,
      opt "stabilizationWindowSeconds" .int32]),
   ("HPAScalingPolicy",
     [reqInt "periodSeconds", reqText "type", reqInt "value"]),
   ("CrossVersionObjectReference",
     [opt "apiVersion" .text, reqText "kind", reqText "name"]),
   ("MetricSpec",
     [opt "containerResource" (.record "ContainerResourceMetricSource"),
      opt "external" (.record "ExternalMetricSource"),
      opt "object" (.record "ObjectMetricSource"), opt "pods" (.record "PodsMetricSource"),
      opt "resource" (.record "ResourceMetricSource"), reqText "type"]),
   ("ContainerResourceMetricSource",
     [reqText "container", reqText "name", reqRecord "target" "MetricTarget" ["type"]]),
   ("ExternalMetricSource",
     [reqRecord "metric" "MetricIdentifier" ["name"], reqRecord "target" "MetricTarget" ["type"]]),
   ("ObjectMetricSource",
     [reqRecord "describedObject" "CrossVersionObjectReference" ["kind", "name"],
      reqRecord "metric" "MetricIdentifier" ["name"], reqRecord "target" "MetricTarget" ["type"]]),
   ("PodsMetricSource",
     [reqRecord "metric" "MetricIdentifier" ["name"], reqRecord "target" "MetricTarget" ["type"]]),
   ("ResourceMetricSource",
     [reqText "name", reqRecord "target" "MetricTarget" ["type"]]),
   ("MetricIdentifier",
     [reqText "name", opt "selector" (.record "LabelSelector")]),
   ("MetricTarget",
     [opt "averageUtilization" .int32, opt "averageValue" .text, reqText "type",
      opt "value" .text]),
   ("HorizontalPodAutoscalerStatus",
     [opt "conditions" (.list (.record "HorizontalPodAutoscalerCondition")),
      opt "currentMetrics" (.list (.record "MetricStatus")), opt "currentReplicas" .int32,
      reqInt "desiredReplicas", opt "lastScaleTime" .time, opt "observedGeneration" .int64]),
   ("HorizontalPodAutoscalerCondition",
     [opt "lastTransitionTime" .time, opt "message" .text, opt "reason" .text, reqText "status",
      reqText "type"]),
   ("MetricStatus",
     [opt "containerResource" (.record "ContainerResourceMetricStatus"),
      opt "external" (.record "ExternalMetricStatus"),
      opt "object" (.record "ObjectMetricStatus"), opt "pods" (.record "PodsMetricStatus"),
      opt "resource" (.record "ResourceMetricStatus"), reqText "type"]),
   ("ContainerResourceMetricStatus",
     [reqText "container", reqRecord "current" "MetricValueStatus" [], reqText "name"]),
   ("ExternalMetricStatus",
     [reqRecord "current" "MetricValueStatus" [], reqRecord "metric" "MetricIdentifier" ["name"]]),
   ("ObjectMetricStatus",
     [reqRecord "current" "MetricValueStatus" [],
      reqRecord "describedObject" "CrossVersionObjectReference" ["kind", "name"],
      reqRecord "metric" "MetricIdentifier" ["name"]]),
   ("PodsMetricStatus",
     [reqRecord "current" "MetricValueStatus" [], reqRecord "metric" "MetricIdentifier" ["name"]]),
   ("ResourceMetricStatus",
     [reqRecord "current" "MetricValueStatus" [], reqText "name"]),
   ("MetricValueStatus",
     [opt "averageUtilization" .int32, opt "averageValue" .text, opt "value" .text])]

end Shape

end GatewayOperator
