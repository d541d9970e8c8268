import GatewayOperator.Resource.Wire

/-!
# Workloads

The pods that the operator runs: containers with their environment and mounts, the volumes behind
the mounts, and the Deployment that keeps the pods. `Workload.deployment` gives the stored object.
-/

namespace GatewayOperator

/-! ## Containers -/

/-- A variable of a container's environment. -/
inductive EnvVar where
  /-- a variable with a fixed value -/
  | value (name value : String)
  /-- a variable that takes a field of the pod -/
  | field (name path : String)
  deriving DecidableEq, Repr

namespace EnvVar

/-- A field of the pod by its path. -/
def fieldRef (path : String) : Json := .obj [("apiVersion", .str "v1"), ("fieldPath", .str path)]

def toJson : EnvVar → Json
  | .value name v => .obj [("name", .str name), ("value", .str v)]
  | .field name path =>
    .obj [("name", .str name), ("valueFrom", .obj [("fieldRef", fieldRef path)])]

/-- The user's variables, which come after the built-in ones. -/
def ofUser (env : Dict String) : List EnvVar := env.entries.map fun e => .value e.1 e.2

end EnvVar

/-- Where a container sees a volume. -/
structure Mount where
  volume : String
  path : String
  readOnly : Option Bool := none
  deriving DecidableEq, Repr

def Mount.toJson (m : Mount) : Json :=
  .obj ([("mountPath", .str m.path), ("name", .str m.volume)] ++
    Json.optional "readOnly" (m.readOnly.map .bool))

/-- A container of a pod. -/
structure Container where
  name : String
  image : String
  pullPolicy : Option String
  args : List String
  env : List EnvVar
  ports : List (Fragment "ContainerPort")
  securityContext : Fragment "SecurityContext"
  readinessProbe : Option (Fragment "Probe")
  resources : Option (Fragment "ResourceRequirements")
  mounts : Option (List Mount)
  deriving DecidableEq

def Container.toJson (c : Container) : Json :=
  .obj ([("args", Json.texts c.args), ("env", .arr (c.env.map EnvVar.toJson)),
      ("image", .str c.image)] ++
    Json.ofText? "imagePullPolicy" c.pullPolicy ++
    [("name", .str c.name), ("ports", .arr (c.ports.map (·.value)))] ++
    Json.optional "readinessProbe" (c.readinessProbe.map (·.value)) ++
    Json.optional "resources" (c.resources.map (·.value)) ++
    [("securityContext", c.securityContext.value)] ++
    Json.optional "volumeMounts" (c.mounts.map fun ms => .arr (ms.map Mount.toJson)))

/-- A TCP port of a container. -/
def containerPort (name : Option String) (port : Int32) (hostPort : Option Int32) :
    Fragment "ContainerPort" :=
  ⟨.obj ([("containerPort", Json.ofInt32 port)] ++
    Json.optional "hostPort" (hostPort.map Json.ofInt32) ++ Json.ofText? "name" name ++
    [("protocol", .str "TCP")])⟩

/-- No root user, no writable root directory, no capabilities. -/
def restrictedSecurityContext : Fragment "SecurityContext" :=
  ⟨.obj [("capabilities", .obj [("drop", Json.texts ["ALL"])]),
    ("readOnlyRootFilesystem", .bool true), ("runAsGroup", .int 1337), ("runAsNonRoot", .bool true),
    ("runAsUser", .int 1337)]⟩

/-! ## Volumes -/

/-- The mode of mounted files: readable by all, writable by their owner. -/
def fileMode : Int := 0o644

/-- Where a volume's files come from. -/
inductive VolumeSource where
  | configMap (name : String) (mode : Option Int)
  | emptyDir
  /-- labels, annotations and processor limits of a container's pod -/
  | podInfo (container : String)
  /-- a service-account token for another audience -/
  | token (path audience : String) (seconds : Int)
  /-- an existing directory of the host -/
  | hostPath (path : String)
  deriving DecidableEq, Repr

namespace VolumeSource

/-- A file that shows a field of the pod. -/
def fieldFile (path fieldPath : String) : Json :=
  .obj [("fieldRef", EnvVar.fieldRef fieldPath), ("path", .str path)]

/-- A file that shows a resource of a container. -/
def resourceFile (container path resource : String) : Json :=
  .obj [("path", .str path),
    ("resourceFieldRef", .obj [("containerName", .str container), ("divisor", .str "1m"),
      ("resource", .str resource)])]

/-- The field of a volume that holds the source. -/
def toField : VolumeSource → String × Json
  | .configMap name mode =>
    ("configMap", .obj (Json.optional "defaultMode" (mode.map .int) ++ [("name", .str name)]))
  | .emptyDir => ("emptyDir", .obj [])
  | .podInfo container =>
    ("downwardAPI", .obj [("defaultMode", .int fileMode),
      ("items", .arr [fieldFile "labels" "metadata.labels",
        fieldFile "annotations" "metadata.annotations",
        resourceFile container "cpu-request" "requests.cpu",
        resourceFile container "cpu-limit" "limits.cpu"])])
  | .token path audience seconds =>
    ("projected", .obj [("sources", .arr [.obj [("serviceAccountToken",
      .obj [("audience", .str audience), ("expirationSeconds", .int seconds),
        ("path", .str path)])]])])
  | .hostPath path => ("hostPath", .obj [("path", .str path), ("type", .str "Directory")])

end VolumeSource

/-- A volume of a pod. -/
structure Volume where
  name : String
  source : VolumeSource
  deriving DecidableEq, Repr

def Volume.toJson (v : Volume) : Json :=
  .obj (Json.Fields.ascending [v.source.toField, ("name", .str v.name)])

/-- The volume of the token that the mesh exchanges for certificates. -/
def tokenVolume : Volume := ⟨"istio-token", .token "istio-token" "istio-ca" 43200⟩

/-- Where the token is mounted. -/
def tokenMountPath : String := "/var/run/secrets/tokens"

def tokenMount : Mount := ⟨"istio-token", tokenMountPath, some true⟩

/-! ## Pods and Deployments -/

/-- What runs in a pod. -/
structure Pod where
  serviceAccountName : String
  containers : List Container
  volumes : Option (List Volume)
  nodeSelector : Option (Dict String)
  affinity : Option (Fragment "Affinity")
  tolerations : List (Fragment "Toleration")
  securityContext : Option (Fragment "PodSecurityContext")
  imagePullSecrets : List (Fragment "LocalObjectReference")
  hostNetwork : Bool
  deriving DecidableEq

/-- Fragments as a list that is left out when it is empty. -/
def fragmentsField {type : String} (name : String) (fs : List (Fragment type)) : Json.Fields :=
  if fs.isEmpty then [] else [(name, .arr (fs.map (·.value)))]

def Pod.toJson (p : Pod) : Json :=
  .obj (Json.optional "affinity" (p.affinity.map (·.value)) ++
    [("containers", .arr (p.containers.map Container.toJson))] ++
    (if p.hostNetwork then
      [("dnsPolicy", .str "ClusterFirstWithHostNet"), ("hostNetwork", .bool true)] else []) ++
    fragmentsField "imagePullSecrets" p.imagePullSecrets ++
    Json.optional "nodeSelector" (p.nodeSelector.map Json.ofDict) ++
    Json.optional "securityContext" (p.securityContext.map (·.value)) ++
    [("serviceAccountName", .str p.serviceAccountName)] ++
    fragmentsField "tolerations" p.tolerations ++
    Json.optional "volumes" (p.volumes.map fun vs => .arr (vs.map Volume.toJson)))

/-- How the pods of a Deployment are replaced, a few at a time. -/
structure RollingUpdate where
  maxSurge : Option IntOrText
  maxUnavailable : Option IntOrText
  deriving DecidableEq, Repr

def RollingUpdate.toJson (u : RollingUpdate) : Json :=
  .obj [("rollingUpdate", .obj (Json.optional "maxSurge" (u.maxSurge.map IntOrText.toJson) ++
    Json.optional "maxUnavailable" (u.maxUnavailable.map IntOrText.toJson))),
    ("type", .str "RollingUpdate")]

/-- Pods of one template, found by their labels. -/
structure Workload where
  replicas : Option Int32
  podLabels : Dict String
  podAnnotations : Option (Dict String)
  rollingUpdate : Option RollingUpdate
  pod : Pod
  deriving DecidableEq

namespace Workload

/-- Selector, update strategy and pod template, without the replica count. -/
def shape (w : Workload) : Json :=
  .obj ([("selector", .obj [("matchLabels", Json.ofDict w.podLabels)])] ++
    Json.optional "strategy" (w.rollingUpdate.map RollingUpdate.toJson) ++
    [("template", .obj [
      ("metadata", .obj (Json.optional "annotations" (w.podAnnotations.map Json.ofDict) ++
        [("labels", Json.ofDict w.podLabels)])),
      ("spec", w.pod.toJson)])])

/-- The Deployment of a workload. -/
def deployment (w : Workload) (metadata : Metadata) : Resource .deployment where
  metadata := metadata
  content := { spec := some { replicas := w.replicas, shape := w.shape } }

end Workload

end GatewayOperator
