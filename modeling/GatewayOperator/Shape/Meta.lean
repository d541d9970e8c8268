import GatewayOperator.Shape.Basic

/-!
# Fields: metadata of objects, and the references between them
-/

namespace GatewayOperator

namespace Shape

/-- Metadata of objects, and the references between them. -/
def metadataTypes : Types :=
  [("ManagedFieldsEntry",
     [opt "apiVersion" .text, opt "fieldsType" .text, opt "fieldsV1" .any, opt "manager" .text,
      opt "operation" .text, opt "subresource" .text, opt "time" .time]),
   ("OwnerReference",
     [reqText "apiVersion", opt "blockOwnerDeletion" .flag, opt "controller" .flag,
      reqText "kind", reqText "name", reqText "uid"]),
   ("ObjectMeta",
     [opt "annotations" (.dict .text), opt "creationTimestamp" .time,
      opt "deletionGracePeriodSeconds" .int64, opt "deletionTimestamp" .time,
      opt "finalizers" (.list .text), opt "generateName" .text, opt "generation" .int64,
      opt "labels" (.dict .text), opt "managedFields" (.list (.record "ManagedFieldsEntry")),
      opt "name" .text, opt "namespace" .text,
      opt "ownerReferences" (.list (.record "OwnerReference")), opt "resourceVersion" .text,
      opt "selfLink" .text, opt "uid" .text]),
   ("LabelSelectorRequirement",
     [reqText "key", reqText "operator", opt "values" (.list .text)]),
   ("LabelSelector",
     [opt "matchExpressions" (.list (.record "LabelSelectorRequirement")),
      opt "matchLabels" (.dict .text)]),
   ("LocalObjectReference",
     [opt "name" .text]),
   ("ObjectReference",
     [opt "apiVersion" .text, opt "fieldPath" .text, opt "kind" .text, opt "name" .text,
      opt "namespace" .text, opt "resourceVersion" .text, opt "uid" .text]),
   ("TypedLocalObjectReference",
     [opt "apiGroup" .text, reqText "kind", reqText "name"]),
   ("TypedObjectReference",
     [opt "apiGroup" .text, reqText "kind", reqText "name", opt "namespace" .text]),
   ("Condition",
     [req "lastTransitionTime" .time (.str "1970-01-01T00:00:00Z"), reqText "message",
      opt "observedGeneration" .int64, reqText "reason", reqText "status", reqText "type"])]

end Shape

end GatewayOperator
