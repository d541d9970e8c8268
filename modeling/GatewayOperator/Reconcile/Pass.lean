import GatewayOperator.Compile.Access
import GatewayOperator.Compile.Controller
import GatewayOperator.Compile.Mesh
import GatewayOperator.Reconcile.Converge
import GatewayOperator.Reconcile.Finalizer

/-!
# Passes

A pass drives everything that belongs to one desired state towards it: identity and access,
configuration, workload, Service and autoscaler, and at last the reported status. A state under
deletion is torn down instead: its service account is taken out of the shared bindings, then its
finalizer goes.
-/

namespace GatewayOperator

open StoreProgram

/-- How a pass ends. -/
inductive PassEnd where
  /-- everything that belongs to the desired state converged -/
  | converged
  /-- there is no such desired state -/
  | notFound
  /-- the desired state was under deletion and is torn down -/
  | finalized
  /-- the namespace is gone or going; nothing was written -/
  | namespaceInactive
  deriving DecidableEq, Repr

/-- What passes of all desired states have in common. -/
structure PassSettings where
  version : AutoscalingVersion := .v2
  /-- the definitions that controllers install, if any, as they were read -/
  definitions : Option (Except Failure (List (Resource .definition))) := none

namespace Kind

/-- The status that a desired state reports. -/
def reported : (k : Kind) → k.Content → Option ComponentStatus
  | .gateway, c => c.status
  | .controller, c => c.status
  | _, _ => none

/-- A desired state with another status. -/
def withReported : (k : Kind) → k.Content → ComponentStatus → k.Content
  | .gateway, c, status => { c with status := some status }
  | .controller, c, status => { c with status := some status }
  | _, c, _ => c

end Kind

variable {k : Kind}

/-- The status that a desired state reports. -/
def Resource.reported (r : Resource k) : Option ComponentStatus := k.reported r.content

/-- The service account that was bound last. -/
def Resource.boundAccount? (r : Resource k) : Option String :=
  r.reported.bind (·.serviceAccountName)

/-! ## Parts of a pass -/

/-- Whether a namespace is there and not terminating. -/
def namespaceActive (ns : String) : StoreProgram Bool := do
  match ← get .namespaceKind (.inCluster ns) with
  | none => pure false
  | some n =>
    let phase := n.content.status.bind fun s => s.textAt? "phase"
    pure (phase ≠ some "Terminating")

/-- The service account of a component and the objects that grant it its access. -/
def ensureIdentity (owner : Resource k) (s : CommonSettings) (component : String)
    (rules : List PolicyRule) : StoreProgram Unit :=
  if !s.serviceAccountEnabled then pure ()
  else do
    let account := s.serviceAccountName owner.metadata.anyName
    let _ ← createIfAbsent
      (compileServiceAccount owner account component s.serviceAccountAnnotations)
    if !s.rbacEnabled then pure ()
    else do
      let access := compileAccess owner account component rules
      let _ ← convergeTo access.role
      let _ ← convergeTo access.roleBinding
      let _ ← convergeTo access.clusterRole
      let _ ← convergeTo access.clusterRoleBinding
      pure ()

/-- The autoscaler of a component, or none where scaling is disabled. -/
def ensureScaling (version : AutoscalingVersion) (owner : Resource k) (s : CommonSettings)
    (component : String) : StoreProgram Unit := do
  let name := owner.metadata.anyName
  let desired := match s.autoScaling with
    | some a => if a.enable then some (compileAutoscaler owner name component a) else none
    | none => none
  let _ ← ensureAutoscaler version (.inNamespace owner.metadata.nsOrEmpty name) desired
  pure ()

/-- Report a converged pass and the account that is bound. -/
def recordStatus (raw : Resource k) (account : String) : StoreProgram Unit :=
  let status : ComponentStatus := { deployed := true, serviceAccountName := some account }
  if raw.reported = some status then pure ()
  else do
    let _ ← updateStatus { raw with content := k.withReported raw.content status }
    pure ()

/-- Take the account that was bound last out of its bindings, if it is not the current one. -/
def releasePrevious (raw : Resource k) (account ns : String) (withRoleBinding : Bool) :
    StoreProgram Unit :=
  match raw.boundAccount? with
  | none => pure ()
  | some before =>
    if before = account then pure ()
    else do
      releaseClusterBinding before ns
      if withRoleBinding then releaseRoleBinding before ns else pure ()

/-! ## Gateways -/

/-- Everything that belongs to a gateway. -/
def convergeGateway (settings : PassSettings) (g : Gateway) : StoreProgram Unit := do
  let s := g.content.spec.common
  ensureIdentity g s gatewayComponent gatewayRules
  let _ ← convergeTo (GatewayCompile.meshConfiguration g)
  match ← ofExcept (GatewayCompile.bootstrap g) with
  | some m =>
    let _ ← convergeTo m
  | none => pure ()
  let _ ← convergeTo (GatewayCompile.deployment g)
  let _ ← convergeTo (GatewayCompile.service g)
  ensureScaling settings.version g s gatewayComponent

/-- One pass of the gateway at a key. -/
def gatewayPass (settings : PassSettings) (key : Key) : StoreProgram PassEnd := do
  match ← get .gateway key with
  | none => pure .notFound
  | some raw =>
    let g := raw.gatewayWithDefaults
    let ns := g.metadata.nsOrEmpty
    let account := g.content.spec.common.serviceAccountName g.metadata.anyName
    if raw.metadata.isBeingDeleted then
      if raw.metadata.hasFinalizer gatewayFinalizer then
        releaseClusterBinding account ns
        releasePrevious raw account ns false
        removeFinalizer raw gatewayFinalizer
      pure .finalized
    else if !(← namespaceActive ns) then pure .namespaceInactive
    else
      let stored ← addFinalizer raw gatewayFinalizer
      let raw := stored.getD raw
      releasePrevious raw account ns false
      convergeGateway settings g
      recordStatus raw account
      pure .converged

/-! ## Controllers -/

/-- Everything that belongs to a controller. -/
def convergeController (settings : PassSettings) (c : Controller) : StoreProgram Unit := do
  let s := c.content.spec.common
  ensureIdentity c s controllerComponent controllerRules
  let _ ← convergeTo (ControllerCompile.deployment c)
  let _ ← convergeTo (ControllerCompile.service c)
  ensureScaling settings.version c s controllerComponent

/-- The definitions of the data plane, if they are to be installed. -/
def installDefinitions (settings : PassSettings) : StoreProgram Unit :=
  match settings.definitions with
  | none => pure ()
  | some definitions => do
    let _ ← ensureDefinitions (← ofExcept definitions)
    pure ()

/-- One pass of the controller at a key. -/
def controllerPass (settings : PassSettings) (key : Key) : StoreProgram PassEnd := do
  match ← get .controller key with
  | none => pure .notFound
  | some raw =>
    let c := raw.controllerWithDefaults
    let ns := c.metadata.nsOrEmpty
    let account := c.content.spec.common.serviceAccountName c.metadata.anyName
    if raw.metadata.isBeingDeleted then
      if raw.metadata.hasFinalizer controllerFinalizer then
        releaseClusterBinding account ns
        releaseRoleBinding account ns
        releasePrevious raw account ns true
        removeFinalizer raw controllerFinalizer
      pure .finalized
    else if !(← namespaceActive ns) then pure .namespaceInactive
    else
      let stored ← addFinalizer raw controllerFinalizer
      let raw := stored.getD raw
      installDefinitions settings
      releasePrevious raw account ns true
      convergeController settings c
      recordStatus raw account
      pure .converged

end GatewayOperator
