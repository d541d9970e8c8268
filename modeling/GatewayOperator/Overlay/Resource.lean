import GatewayOperator.Overlay.Fingerprint
import GatewayOperator.Resource.Wire

/-!
# Overlays

`Resource.overlay live desired` puts the fields that the operator owns onto a live object and leaves
all others alone, so that an object that has converged is equal to itself in the next pass.
-/

namespace GatewayOperator

open Wire

/-- A body with the metadata that records its fingerprint: the desired body where the live one has
to be written again. `write` gives a body's JSON. -/
def overlayBody {α : Type} (write : α → Json) (m : Metadata) (current desired : α) : Metadata × α :=
  if needsUpdate m (write current) (write desired) then (m.stamp (write desired), desired)
  else (m, current)

/-- A Deployment's specification. The replica count is outside of the fingerprint, so that an
autoscaler may own it. -/
def overlayDeployment (m : Metadata) (current desired : DeploymentSpec) :
    Metadata × DeploymentSpec :=
  let (m, shape) := overlayBody id m current.shape desired.shape
  (m, { replicas := desired.replicas <|> current.replicas, shape := shape })

/-- The node ports of named ports. -/
def nodePorts (ports : List ServicePort) : List (String × Int32) :=
  ports.filterMap fun p => p.name.bind fun n => p.nodePort.map fun q => (n, q)

/-- The node port of a name; of repeated names the last one counts. -/
def nodePort? (assigned : List (String × Int32)) (name : String) : Option Int32 :=
  assigned.reverse.lookup name

/-- A port that asks for no node port keeps the live one of its name. -/
def keepNodePort (assigned : List (String × Int32)) (p : ServicePort) : ServicePort :=
  { p with nodePort := p.nodePort <|> p.name.bind (nodePort? assigned) }

/-- A Service's specification. What the cluster assigned stays, also the node ports. -/
def overlayService (m : Metadata) (current desired : ServiceSpec) : Metadata × ServiceSpec :=
  if needsUpdate m current.toJson desired.toJson then
    let assigned := nodePorts (current.ports.getD [])
    (m.stamp desired.toJson,
      { desired with
        assigned := current.assigned
        ports := desired.ports.map fun ps => ps.map (keepNodePort assigned) })
  else (m, current)

/-- A definition's specification: written again if something that is desired is not there. -/
def overlayDefinition (current desired : Json) : Json :=
  if current.contains desired then current else desired

/-- A binding that several namespaces share: subjects are added and never replaced. -/
def overlayShared (current desired : BindingContent) : BindingContent where
  roleRef := desired.roleRef
  subjects := some ((desired.subjects.getD []).foldl Subject.add (current.subjects.getD []))

/-- Put desired content onto live content, with the live metadata that records a fingerprint.
Contents that are never compiled stay as they are. -/
def overlayContent : (k : Kind) → Metadata → k.Content → k.Content → Metadata × k.Content
  | .deployment, m, c, d =>
    let (m, spec) := overlayDeployment m (c.spec.getD {}) (d.spec.getD {})
    (m, { c with spec := some spec })
  | .service, m, c, d =>
    let (m, spec) := overlayService m (c.spec.getD {}) (d.spec.getD {})
    (m, { c with spec := some spec })
  | .configMap, m, c, d => (m, { c with data := d.data })
  | .role, m, _, d => (m, d)
  | .clusterRole, m, c, d => (m, { c with rules := d.rules })
  | .roleBinding, m, _, d => (m, d)
  | .clusterRoleBinding, m, c, d => (m, overlayShared c d)
  | .definition, m, c, d => (m, { c with spec := overlayDefinition c.spec d.spec })
  | .autoscaler .v2, m, c, d =>
    let (m, spec) := overlayBody AutoscalerSpec.toJson m (c.spec.getD {}) (d.spec.getD {})
    (m, { c with spec := some spec })
  | .autoscaler .v2beta2, m, c, d => overlayBody encode m c d
  | .autoscaler .v2beta1, m, c, d => overlayBody encode m c d
  | .gateway, m, c, _ => (m, c)
  | .controller, m, c, _ => (m, c)
  | .serviceAccount, m, c, _ => (m, c)
  | .namespaceKind, m, c, _ => (m, c)
  | .event, m, c, _ => (m, c)

/-- Put a desired object onto a live one. -/
def Resource.overlay {k : Kind} (live desired : Resource k) : Resource k :=
  let (m, c) := overlayContent k (live.metadata.overlay desired.metadata) live.content
    desired.content
  ⟨m, c⟩

end GatewayOperator
