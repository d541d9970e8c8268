import GatewayOperator.Store.Request

/-!
# Finalizers and release

Objects of a namespace go with their owner. The bindings that several objects share do not: a
desired state carries a finalizer that holds back its deletion until its service account has been
taken out of them.
-/

namespace GatewayOperator

/-- The finalizer of gateways. -/
def gatewayFinalizer : String := "higressgateway.higress.io/finalizer"

/-- The finalizer of controllers. -/
def controllerFinalizer : String := "higresscontroller.higress.io/finalizer"

/-- Metadata with one more finalizer. -/
def Metadata.addFinalizer (m : Metadata) (finalizer : String) : Metadata :=
  { m with finalizers := some (m.finalizers.getD [] ++ [finalizer]) }

/-- Metadata without a finalizer; the others keep their order. -/
def Metadata.removeFinalizer (m : Metadata) (finalizer : String) : Metadata :=
  { m with finalizers := some ((m.finalizers.getD []).filter (· ≠ finalizer)) }

open StoreProgram

variable {k : Kind}

/-- Add a finalizer where it is missing; the stored object if it was written. -/
def addFinalizer (r : Resource k) (finalizer : String) : StoreProgram (Option (Resource k)) :=
  if r.metadata.hasFinalizer finalizer then pure none
  else do
    let stored ← update (r.withMetadata fun m => m.addFinalizer finalizer)
    pure (some stored)

/-- Take away a finalizer where it is there, which completes a deletion. -/
def removeFinalizer (r : Resource k) (finalizer : String) : StoreProgram Unit :=
  if r.metadata.hasFinalizer finalizer then do
    let _ ← update (r.withMetadata fun m => m.removeFinalizer finalizer)
    pure ()
  else pure ()

/-- A binding without a service account; nothing if the account is not among its subjects. -/
def released? (b : BindingContent) (account ns : String) : Option BindingContent :=
  let subjects := b.subjects.getD []
  if subjects.any fun s => s.isAccount account ns then
    some { b with subjects := some (Subject.prune subjects account ns) }
  else none

/-- Take a service account out of the cluster-wide binding that is named after it. A binding or
subject that is not there counts as released. -/
def releaseClusterBinding (account ns : String) : StoreProgram Unit := do
  match ← get .clusterRoleBinding (.inCluster account) with
  | none => pure ()
  | some b =>
    match released? b.content account ns with
    | none => pure ()
    | some content =>
      let _ ← update (k := .clusterRoleBinding) { b with content := content }
      pure ()

/-- Take a service account out of its namespace's binding that is named after it. -/
def releaseRoleBinding (account ns : String) : StoreProgram Unit := do
  match ← get .roleBinding (.inNamespace ns account) with
  | none => pure ()
  | some b =>
    match released? b.content account ns with
    | none => pure ()
    | some content =>
      let _ ← update (k := .roleBinding) { b with content := content }
      pure ()

end GatewayOperator
