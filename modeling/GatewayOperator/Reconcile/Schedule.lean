import GatewayOperator.Instant
import GatewayOperator.Reconcile.Pass
import GatewayOperator.Remote.ApiServer

/-!
# The schedule of passes

Every desired state gets a pass at the start. A converged one is visited again after five minutes, a
pass that failed and may be retried is repeated after a quarter of a minute, and nothing else is due
until the state changes. A failure is reported as an event of the desired state, as far as that
succeeds.
-/

namespace GatewayOperator

/-- An object that passes are made for. -/
inductive DesiredState where
  | gateway (g : Gateway)
  | controller (c : Controller)

namespace DesiredState

def kind : DesiredState → Kind
  | .gateway _ => .gateway
  | .controller _ => .controller

def metadata : DesiredState → Metadata
  | .gateway g => g.metadata
  | .controller c => c.metadata

/-- One pass. -/
def pass (settings : PassSettings) : DesiredState → StoreProgram PassEnd
  | .gateway g => gatewayPass settings g.key
  | .controller c => controllerPass settings c.key

/-- A reference to the desired state. -/
def reference (d : DesiredState) : Json :=
  .obj ([("apiVersion", .str d.kind.apiVersion), ("kind", .str d.kind.name)] ++
    Json.ofText? "name" d.metadata.name ++ Json.ofText? "namespace" d.metadata.ns ++
    Json.ofText? "uid" d.metadata.uid)

end DesiredState

/-- The event that reports a failed pass. -/
def failureEvent (d : DesiredState) (f : Failure) (now : Instant) : Resource .event where
  metadata := {
    generateName := some (d.metadata.anyName ++ "-event-")
    ns := d.metadata.ns }
  content := {
    fields := [("count", .int 1), ("firstTimestamp", .str now.toSeconds),
      ("involvedObject", d.reference), ("lastTimestamp", .str now.toSeconds),
      ("message", .str f.message), ("reason", .str "ReconcileFailed"), ("type", .str "Warning")] }

/-- Seconds until a converged desired state is visited again. -/
def resyncInterval : Nat := 300

/-- Seconds until a failed pass is repeated. -/
def retryInterval : Nat := 15

/-- A pass with the report of its failure; after how many seconds the next one is due. -/
def attend (settings : PassSettings) (d : DesiredState) (now : Instant) :
    StoreProgram (Option Nat) := do
  match ← (d.pass settings).caught with
  | .ok .converged => pure (some resyncInterval)
  | .ok _ => pure none
  | .error f =>
    let _ ← StoreProgram.tryCreate (failureEvent d f now)
    pure (if f.isRetriable then some retryInterval else none)

/-! ## The agenda -/

/-- A pass that is due. -/
structure Appointment where
  time : Nat
  state : DesiredState

/-- Put an appointment behind all that are due no later. -/
def Appointment.enter (a : Appointment) : List Appointment → List Appointment
  | [] => [a]
  | b :: rest => if a.time < b.time then a :: b :: rest else b :: a.enter rest

/-- What a run is given. -/
structure RunSettings where
  passes : PassSettings := {}
  /-- whether this replica may write -/
  leads : Bool := true
  /-- how many seconds the run lasts -/
  seconds : Nat := 0
  /-- when it starts -/
  start : Instant := ⟨0, 0⟩

/-- Keep up to `fuel` appointments, in their order, until the run ends. -/
def keepAppointments (settings : RunSettings) : Nat → List Appointment → ApiServer → ApiServer
  | 0, _, s => s
  | _, [], s => s
  | fuel + 1, a :: rest, s =>
    if settings.seconds < a.time then s
    else
      let p := attend settings.passes a.state (settings.start.addSeconds a.time)
      let (pause, s) := p.run ApiServer.world (s.waitUntil a.time)
      let rest := match pause with
        | .ok (some n) => Appointment.enter ⟨a.time + n, a.state⟩ rest
        | _ => rest
      keepAppointments settings fuel rest s

/-- The desired states of a server. -/
def ApiServer.desiredStates (s : ApiServer) : List DesiredState :=
  (s.store.server.all .gateway).map .gateway ++ (s.store.server.all .controller).map .controller

/-- The kind of desired states that is not installed, if one is missing. -/
def ApiServer.uninstalled? (s : ApiServer) : Option Kind :=
  [Kind.gateway, Kind.controller].find? s.missing.contains

/-- Serve the desired states of a server for some time; why it ended early, if it did. A replica
that does not lead asks for nothing. -/
def runControllers (settings : RunSettings) (s : ApiServer) : Option Failure × ApiServer :=
  match s.uninstalled? with
  | some k => (some (.config (k.name ++ " CRD not installed")), s)
  | none =>
    if settings.leads then
      let agenda := s.desiredStates.map fun d => ⟨0, d⟩
      let passes := agenda.length * (settings.seconds / retryInterval + 1)
      (none, keepAppointments settings passes agenda s)
    else (none, s)

end GatewayOperator
