import GatewayOperator.Wire

/-!
# Service ports

A port of a Service, and lists of ports in which a name occurs once: `mergePorts` adds ports to a
list and lets the first port of each name stand.
-/

namespace GatewayOperator

/-- A port that a Service exposes. -/
structure ServicePort where
  appProtocol : Option String := none
  name : Option String := none
  nodePort : Option Int32 := none
  port : Int32 := 0
  protocol : Option String := none
  targetPort : Option IntOrText := none
  deriving DecidableEq, Repr, Inhabited

namespace ServicePort

def toJson (p : ServicePort) : Json :=
  .obj (Json.ofText? "appProtocol" p.appProtocol ++ Json.ofText? "name" p.name ++
    Json.optional "nodePort" (p.nodePort.map Json.ofInt32) ++ [("port", Json.ofInt32 p.port)] ++
    Json.ofText? "protocol" p.protocol ++
    Json.optional "targetPort" (p.targetPort.map IntOrText.toJson))

/-- The port of a normal form. -/
def ofJson (j : Json) : ServicePort where
  appProtocol := j.textAt? "appProtocol"
  name := j.textAt? "name"
  nodePort := j.int32At? "nodePort"
  port := j.int32At "port"
  protocol := j.textAt? "protocol"
  targetPort := (j.field? "targetPort").bind IntOrText.ofJson?

instance : Wire ServicePort where
  encode := toJson
  decode j := (Shape.read (.record "ServicePort") j).toOption.map ofJson

/-- A named TCP port that leads to a port of the pod. -/
def tcp (name : String) (port target : Int32) : ServicePort where
  name := some name
  port := port
  targetPort := some (.int target)
  protocol := some "TCP"

/-- Whether two ports have one name. -/
def sharesName (p q : ServicePort) : Bool := p.name.isSome && p.name == q.name

end ServicePort

/-- Add a port unless one of its name is there. -/
def addPort (ports : List ServicePort) (port : ServicePort) : List ServicePort :=
  if ports.any (·.sharesName port) then ports else ports ++ [port]

/-- Add ports in order, keeping the first port of each name. -/
def mergePorts (ports extra : List ServicePort) : List ServicePort := extra.foldl addPort ports

end GatewayOperator
