import GatewayOperator.Shape.Basic

/-!
# Fields: deployments, pods and their containers
-/

namespace GatewayOperator

namespace Shape

/-- Deployments, pods and their containers. -/
def workloadTypes : Types :=
  [("DeploymentSpec",
     [opt "minReadySeconds" .int32, opt "paused" .flag, opt "progressDeadlineSeconds" .int32,
      opt "replicas" .int32, opt "revisionHistoryLimit" .int32,
      reqRecord "selector" "LabelSelector" [], opt "strategy" (.record "DeploymentStrategy"),
      reqRecord "template" "PodTemplateSpec" []]),
   ("DeploymentStrategy",
     [opt "rollingUpdate" (.record "RollingUpdateDeployment"), opt "type" .text]),
   ("RollingUpdateDeployment",
     [opt "maxSurge" .intOrText, opt "maxUnavailable" .intOrText]),
   ("DeploymentStatus",
     [opt "availableReplicas" .int32, opt "collisionCount" .int32,
      opt "conditions" (.list (.record "DeploymentCondition")), opt "observedGeneration" .int64,
      opt "readyReplicas" .int32, opt "replicas" .int32, opt "unavailableReplicas" .int32,
      opt "updatedReplicas" .int32]),
   ("DeploymentCondition",
     [opt "lastTransitionTime" .time, opt "lastUpdateTime" .time, opt "message" .text,
      opt "reason" .text, reqText "status", reqText "type"]),
   ("PodTemplateSpec",
     [opt "metadata" (.record "ObjectMeta"), opt "spec" (.record "PodSpec")]),
   ("PodSpec",
     [opt "activeDeadlineSeconds" .int64, opt "affinity" (.record "Affinity"),
      opt "automountServiceAccountToken" .flag, reqList "containers" (.record "Container"),
      opt "dnsConfig" (.record "PodDNSConfig"), opt "dnsPolicy" .text,
      opt "enableServiceLinks" .flag,
      opt "ephemeralContainers" (.list (.record "EphemeralContainer")),
      opt "hostAliases" (.list (.record "HostAlias")), opt "hostIPC" .flag,
      opt "hostNetwork" .flag, opt "hostPID" .flag, opt "hostUsers" .flag, opt "hostname" .text,
      opt "imagePullSecrets" (.list (.record "LocalObjectReference")),
      opt "initContainers" (.list (.record "Container")), opt "nodeName" .text,
      opt "nodeSelector" (.dict .text), opt "os" (.record "PodOS"), opt "overhead" (.dict .text),
      opt "preemptionPolicy" .text, opt "priority" .int32, opt "priorityClassName" .text,
      opt "readinessGates" (.list (.record "PodReadinessGate")),
      opt "resourceClaims" (.list (.record "PodResourceClaim")), opt "restartPolicy" .text,
      opt "runtimeClassName" .text, opt "schedulerName" .text,
      opt "schedulingGates" (.list (.record "PodSchedulingGate")),
      opt "securityContext" (.record "PodSecurityContext"), opt "serviceAccount" .text,
      opt "serviceAccountName" .text, opt "setHostnameAsFQDN" .flag,
      opt "shareProcessNamespace" .flag, opt "subdomain" .text,
      opt "terminationGracePeriodSeconds" .int64,
      opt "tolerations" (.list (.record "Toleration")),
      opt "topologySpreadConstraints" (.list (.record "TopologySpreadConstraint")),
      opt "volumes" (.list (.record "Volume"))]),
   ("Affinity",
     [opt "nodeAffinity" (.record "NodeAffinity"), opt "podAffinity" (.record "PodAffinity"),
      opt "podAntiAffinity" (.record "PodAntiAffinity")]),
   ("NodeAffinity",
     [opt "preferredDuringSchedulingIgnoredDuringExecution"
       (.list (.record "PreferredSchedulingTerm")),
      opt "requiredDuringSchedulingIgnoredDuringExecution" (.record "NodeSelector")]),
   ("PreferredSchedulingTerm",
     [reqRecord "preference" "NodeSelectorTerm" [], reqInt "weight"]),
   ("NodeSelector",
     [reqList "nodeSelectorTerms" (.record "NodeSelectorTerm")]),
   ("NodeSelectorTerm",
     [opt "matchExpressions" (.list (.record "NodeSelectorRequirement")),
      opt "matchFields" (.list (.record "NodeSelectorRequirement"))]),
   ("NodeSelectorRequirement",
     [reqText "key", reqText "operator", opt "values" (.list .text)]),
   ("PodAffinity",
     [opt "preferredDuringSchedulingIgnoredDuringExecution"
       (.list (.record "WeightedPodAffinityTerm")),
      opt "requiredDuringSchedulingIgnoredDuringExecution" (.list (.record "PodAffinityTerm"))]),
   ("PodAntiAffinity",
     [opt "preferredDuringSchedulingIgnoredDuringExecution"
       (.list (.record "WeightedPodAffinityTerm")),
      opt "requiredDuringSchedulingIgnoredDuringExecution" (.list (.record "PodAffinityTerm"))]),
   ("WeightedPodAffinityTerm",
     [reqRecord "podAffinityTerm" "PodAffinityTerm" ["topologyKey"], reqInt "weight"]),
   ("PodAffinityTerm",
     [opt "labelSelector" (.record "LabelSelector"), opt "matchLabelKeys" (.list .text),
      opt "mismatchLabelKeys" (.list .text), opt "namespaceSelector" (.record "LabelSelector"),
      opt "namespaces" (.list .text), reqText "topologyKey"]),
   ("PodDNSConfig",
     [opt "nameservers" (.list .text), opt "options" (.list (.record "PodDNSConfigOption")),
      opt "searches" (.list .text)]),
   ("PodDNSConfigOption",
     [opt "name" .text, opt "value" .text]),
   ("HostAlias",
     [opt "hostnames" (.list .text), reqText "ip"]),
   ("PodOS",
     [reqText "name"]),
   ("PodReadinessGate",
     [reqText "conditionType"]),
   ("PodResourceClaim",
     [reqText "name", opt "source" (.record "ClaimSource")]),
   ("ClaimSource",
     [opt "resourceClaimName" .text, opt "resourceClaimTemplateName" .text]),
   ("PodSchedulingGate",
     [reqText "name"]),
   ("PodSecurityContext",
     [opt "appArmorProfile" (.record "AppArmorProfile"), opt "fsGroup" .int64,
      opt "fsGroupChangePolicy" .text, opt "runAsGroup" .int64, opt "runAsNonRoot" .flag,
      opt "runAsUser" .int64, opt "seLinuxOptions" (.record "SELinuxOptions"),
      opt "seccompProfile" (.record "SeccompProfile"), opt "supplementalGroups" (.list .int64),
      opt "sysctls" (.list (.record "Sysctl")),
      opt "windowsOptions" (.record "WindowsSecurityContextOptions")]),
   ("AppArmorProfile",
     [opt "localhostProfile" .text, reqText "type"]),
   ("SELinuxOptions",
     [opt "level" .text, opt "role" .text, opt "type" .text, opt "user" .text]),
   ("SeccompProfile",
     [opt "localhostProfile" .text, reqText "type"]),
   ("Sysctl",
     [reqText "name", reqText "value"]),
   ("WindowsSecurityContextOptions",
     [opt "gmsaCredentialSpec" .text, opt "gmsaCredentialSpecName" .text,
      opt "hostProcess" .flag, opt "runAsUserName" .text]),
   ("Toleration",
     [opt "effect" .text, opt "key" .text, opt "operator" .text, opt "tolerationSeconds" .int64,
      opt "value" .text]),
   ("TopologySpreadConstraint",
     [opt "labelSelector" (.record "LabelSelector"), opt "matchLabelKeys" (.list .text),
      reqInt "maxSkew", opt "minDomains" .int32, opt "nodeAffinityPolicy" .text,
      opt "nodeTaintsPolicy" .text, reqText "topologyKey", reqText "whenUnsatisfiable"]),
   ("Container",
     [opt "args" (.list .text), opt "command" (.list .text),
      opt "env" (.list (.record "EnvVar")), opt "envFrom" (.list (.record "EnvFromSource")),
      opt "image" .text, opt "imagePullPolicy" .text, opt "lifecycle" (.record "Lifecycle"),
      opt "livenessProbe" (.record "Probe"), reqText "name",
      opt "ports" (.list (.record "ContainerPort")), opt "readinessProbe" (.record "Probe"),
      opt "resizePolicy" (.list (.record "ContainerResizePolicy")),
      opt "resources" (.record "ResourceRequirements"), opt "restartPolicy" .text,
      opt "securityContext" (.record "SecurityContext"), opt "startupProbe" (.record "Probe"),
      opt "stdin" .flag, opt "stdinOnce" .flag, opt "terminationMessagePath" .text,
      opt "terminationMessagePolicy" .text, opt "tty" .flag,
      opt "volumeDevices" (.list (.record "VolumeDevice")),
      opt "volumeMounts" (.list (.record "VolumeMount")), opt "workingDir" .text]),
   ("EphemeralContainer",
     [opt "args" (.list .text), opt "command" (.list .text),
      opt "env" (.list (.record "EnvVar")), opt "envFrom" (.list (.record "EnvFromSource")),
      opt "image" .text, opt "imagePullPolicy" .text, opt "lifecycle" (.record "Lifecycle"),
      opt "livenessProbe" (.record "Probe"), reqText "name",
      opt "ports" (.list (.record "ContainerPort")), opt "readinessProbe" (.record "Probe"),
      opt "resizePolicy" (.list (.record "ContainerResizePolicy")),
      opt "resources" (.record "ResourceRequirements"), opt "restartPolicy" .text,
      opt "securityContext" (.record "SecurityContext"), opt "startupProbe" (.record "Probe"),
      opt "stdin" .flag, opt "stdinOnce" .flag, opt "targetContainerName" .text,
      opt "terminationMessagePath" .text, opt "terminationMessagePolicy" .text, opt "tty" .flag,
      opt "volumeDevices" (.list (.record "VolumeDevice")),
      opt "volumeMounts" (.list (.record "VolumeMount")), opt "workingDir" .text]),
   ("EnvVar",
     [reqText "name", opt "value" .text, opt "valueFrom" (.record "EnvVarSource")]),
   ("EnvVarSource",
     [opt "configMapKeyRef" (.record "ConfigMapKeySelector"),
      opt "fieldRef" (.record "ObjectFieldSelector"),
      opt "resourceFieldRef" (.record "ResourceFieldSelector"),
      opt "secretKeyRef" (.record "SecretKeySelector")]),
   ("ConfigMapKeySelector",
     [reqText "key", opt "name" .text, opt "optional" .flag]),
   ("ObjectFieldSelector",
     [opt "apiVersion" .text, reqText "fieldPath"]),
   ("ResourceFieldSelector",
     [opt "containerName" .text, opt "divisor" .text, reqText "resource"]),
   ("SecretKeySelector",
     [reqText "key", opt "name" .text, opt "optional" .flag]),
   ("EnvFromSource",
     [opt "configMapRef" (.record "ConfigMapEnvSource"), opt "prefix" .text,
      opt "secretRef" (.record "SecretEnvSource")]),
   ("ConfigMapEnvSource",
     [opt "name" .text, opt "optional" .flag]),
   ("SecretEnvSource",
     [opt "name" .text, opt "optional" .flag]),
   ("Lifecycle",
     [opt "postStart" (.record "LifecycleHandler"), opt "preStop" (.record "LifecycleHandler")]),
   ("LifecycleHandler",
     [opt "exec" (.record "ExecAction"), opt "httpGet" (.record "HTTPGetAction"),
      opt "sleep" (.record "SleepAction"), opt "tcpSocket" (.record "TCPSocketAction")]),
   ("ExecAction",
     [opt "command" (.list .text)]),
   ("HTTPGetAction",
     [opt "host" .text, opt "httpHeaders" (.list (.record "HTTPHeader")), opt "path" .text,
      req "port" .intOrText (.int 0), opt "scheme" .text]),
   ("HTTPHeader",
     [reqText "name", reqText "value"]),
   ("SleepAction",
     [req "seconds" .int64 (.int 0)]),
   ("TCPSocketAction",
     [opt "host" .text, req "port" .intOrText (.int 0)]),
   ("Probe",
     [opt "exec" (.record "ExecAction"), opt "failureThreshold" .int32,
      opt "grpc" (.record "GRPCAction"), opt "httpGet" (.record "HTTPGetAction"),
      opt "initialDelaySeconds" .int32, opt "periodSeconds" .int32,
      opt "successThreshold" .int32, opt "tcpSocket" (.record "TCPSocketAction"),
      opt "terminationGracePeriodSeconds" .int64, opt "timeoutSeconds" .int32]),
   ("GRPCAction",
     [reqInt "port", opt "service" .text]),
   ("ContainerPort",
     [reqInt "containerPort", opt "hostIP" .text, opt "hostPort" .int32, opt "name" .text,
      opt "protocol" .text]),
   ("ContainerResizePolicy",
     [reqText "resourceName", reqText "restartPolicy"]),
   ("ResourceRequirements",
     [opt "claims" (.list (.record "ResourceClaim")), opt "limits" (.dict .text),
      opt "requests" (.dict .text)]),
   ("ResourceClaim",
     [reqText "name"]),
   ("SecurityContext",
     [opt "allowPrivilegeEscalation" .flag, opt "appArmorProfile" (.record "AppArmorProfile"),
      opt "capabilities" (.record "Capabilities"), opt "privileged" .flag, opt "procMount" .text,
      opt "readOnlyRootFilesystem" .flag, opt "runAsGroup" .int64, opt "runAsNonRoot" .flag,
      opt "runAsUser" .int64, opt "seLinuxOptions" (.record "SELinuxOptions"),
      opt "seccompProfile" (.record "SeccompProfile"),
      opt "windowsOptions" (.record "WindowsSecurityContextOptions")]),
   ("Capabilities",
     [opt "add" (.list .text), opt "drop" (.list .text)]),
   ("VolumeDevice",
     [reqText "devicePath", reqText "name"]),
   ("VolumeMount",
     [reqText "mountPath", opt "mountPropagation" .text, reqText "name", opt "readOnly" .flag,
      opt "recursiveReadOnly" .text, opt "subPath" .text, opt "subPathExpr" .text])]

end Shape

end GatewayOperator
