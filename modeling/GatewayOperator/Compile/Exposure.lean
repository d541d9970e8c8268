import GatewayOperator.Compile.Ownership

/-!
# Exposure of a component

The Service of a component. Its ports are the user's, or the default ones where the user names none,
and then the fixed ones; of each name the first port stands.
-/

namespace GatewayOperator

/-- What a Service is compiled from. -/
structure Exposure where
  name : String
  component : String
  selector : Dict String
  settings : Option ServiceSettings
  /-- ports where the settings hold none -/
  defaultPorts : List ServicePort := []
  /-- ports that are always there -/
  fixedPorts : List ServicePort := []
  extraLabels : Dict String := ∅

namespace Exposure

/-- A text that may be left out. -/
def nonblank? (s : String) : Option String := if s = "" then none else some s

/-- A list that may be left out. -/
def nonempty? {α : Type} (xs : List α) : Option (List α) := if xs.isEmpty then none else some xs

/-- The user's ports, or the default ones. -/
def chosenPorts (e : Exposure) : List ServicePort :=
  match e.settings with
  | some s => if s.ports.isEmpty then e.defaultPorts else s.ports
  | none => e.defaultPorts

/-- All ports of the Service. -/
def ports (e : Exposure) : List ServicePort := mergePorts (mergePorts [] e.chosenPorts) e.fixedPorts

/-- Compile the Service: reachable in the cluster only, unless the settings name a type. -/
def compile {k : Kind} (owner : Resource k) (e : Exposure) : Resource .service :=
  let settings := e.settings.getD {}
  let labels := (standardLabels owner e.component).union e.extraLabels
  { metadata := { ownedMetadata owner e.name labels with
      annotations := settings.annotations.nonempty? }
    content := { spec := some {
      type := some (if settings.type = "" then "ClusterIP" else settings.type)
      selector := some e.selector
      loadBalancerIP := nonblank? settings.loadBalancerIP
      loadBalancerSourceRanges := nonempty? settings.loadBalancerSourceRanges
      externalTrafficPolicy := nonblank? settings.externalTrafficPolicy
      ports := some e.ports } } }

end Exposure

end GatewayOperator
