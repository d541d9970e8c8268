import GatewayOperator.Shape.Basic

/-!
# Fields: definitions of custom resources and their schemas
-/

namespace GatewayOperator

namespace Shape

/-- Definitions of custom resources and their schemas. -/
def definitionTypes : Types :=
  [("CustomResourceDefinitionSpec",
     [opt "conversion" (.record "CustomResourceConversion"), reqText "group",
      reqRecord "names" "CustomResourceDefinitionNames" ["kind", "plural"],
      opt "preserveUnknownFields" .flag, reqText "scope",
      reqList "versions" (.record "CustomResourceDefinitionVersion")]),
   ("CustomResourceConversion",
     [reqText "strategy", opt "webhook" (.record "WebhookConversion")]),
   ("WebhookConversion",
     [opt "clientConfig" (.record "WebhookClientConfig"),
      reqList "conversionReviewVersions" .text]),
   ("WebhookClientConfig",
     [opt "caBundle" .bytes, opt "service" (.record "ServiceReference"), opt "url" .text]),
   ("ServiceReference",
     [reqText "name", reqText "namespace", opt "path" .text, opt "port" .int32]),
   ("CustomResourceDefinitionNames",
     [opt "categories" (.list .text), reqText "kind", opt "listKind" .text, reqText "plural",
      opt "shortNames" (.list .text), opt "singular" .text]),
   ("CustomResourceDefinitionVersion",
     [opt "additionalPrinterColumns" (.list (.record "CustomResourceColumnDefinition")),
      opt "deprecated" .flag, opt "deprecationWarning" .text, reqText "name",
      opt "schema" (.record "CustomResourceValidation"),
      opt "selectableFields" (.list (.record "SelectableField")),
      req "served" .flag (.bool false), req "storage" .flag (.bool false),
      opt "subresources" (.record "CustomResourceSubresources")]),
   ("SelectableField",
     [reqText "jsonPath"]),
   ("CustomResourceColumnDefinition",
     [opt "description" .text, opt "format" .text, reqText "jsonPath", reqText "name",
      opt "priority" .int32, reqText "type"]),
   ("CustomResourceValidation",
     [opt "openAPIV3Schema" (.record "JSONSchemaProps")]),
   ("CustomResourceSubresources",
     [opt "scale" (.record "CustomResourceSubresourceScale"), opt "status" .any]),
   ("CustomResourceSubresourceScale",
     [opt "labelSelectorPath" .text, reqText "specReplicasPath", reqText "statusReplicasPath"]),
   ("CustomResourceDefinitionStatus",
     [opt "acceptedNames" (.record "CustomResourceDefinitionNames"),
      opt "conditions" (.list (.record "CustomResourceDefinitionCondition")),
      opt "storedVersions" (.list .text)]),
   ("CustomResourceDefinitionCondition",
     [opt "lastTransitionTime" .time, opt "message" .text, opt "reason" .text, reqText "status",
      reqText "type"]),
   ("ExternalDocumentation",
     [opt "description" .text, opt "url" .text]),
   ("ValidationRule",
     [opt "fieldPath" .text, opt "message" .text, opt "messageExpression" .text,
      opt "optionalOldSelf" .flag, opt "reason" .text, reqText "rule"]),
   ("JSONSchemaProps",
     [opt "$ref" .text, opt "$schema" .text, opt "additionalItems" (.flagOr "JSONSchemaProps"),
      opt "additionalProperties" (.flagOr "JSONSchemaProps"),
      opt "allOf" (.list (.record "JSONSchemaProps")),
      opt "anyOf" (.list (.record "JSONSchemaProps")), opt "default" .any,
      opt "definitions" (.dict (.record "JSONSchemaProps")),
      opt "dependencies" (.dict (.textsOr "JSONSchemaProps")), opt "description" .text,
      opt "enum" (.list .any), opt "example" .any, opt "exclusiveMaximum" .flag,
      opt "exclusiveMinimum" .flag, opt "externalDocs" (.record "ExternalDocumentation"),
      opt "format" .text, opt "id" .text, opt "items" (.oneOrMore "JSONSchemaProps"),
      opt "maxItems" .int64, opt "maxLength" .int64, opt "maxProperties" .int64,
      opt "maximum" .number, opt "minItems" .int64, opt "minLength" .int64,
      opt "minProperties" .int64, opt "minimum" .number, opt "multipleOf" .number,
      opt "not" (.record "JSONSchemaProps"), opt "nullable" .flag,
      opt "oneOf" (.list (.record "JSONSchemaProps")), opt "pattern" .text,
      opt "patternProperties" (.dict (.record "JSONSchemaProps")),
      opt "properties" (.dict (.record "JSONSchemaProps")), opt "required" (.list .text),
      opt "title" .text, opt "type" .text, opt "uniqueItems" .flag,
      opt "x-kubernetes-embedded-resource" .flag, opt "x-kubernetes-int-or-string" .flag,
      opt "x-kubernetes-list-map-keys" (.list .text), opt "x-kubernetes-list-type" .text,
      opt "x-kubernetes-map-type" .text, opt "x-kubernetes-preserve-unknown-fields" .flag,
      opt "x-kubernetes-validations" (.list (.record "ValidationRule"))])]

end Shape

end GatewayOperator
