import GatewayOperator.Json.Reader
import GatewayOperator.Text.Message
import GatewayOperator.Wire

/-!
# Exchanges over HTTP

A request has a method, a target and perhaps a JSON body; an answer has a status and a text. An
answer with a status of 400 or more is a refusal: its text says why, or else is quoted as it is.
-/

namespace GatewayOperator

inductive HttpMethod where
  | get
  | post
  | put
  | patch
  | delete
  deriving DecidableEq, Repr

/-- The method as requests name it. -/
def HttpMethod.text : HttpMethod → String
  | .get => "GET"
  | .post => "POST"
  | .put => "PUT"
  | .patch => "PATCH"
  | .delete => "DELETE"

structure HttpRequest where
  method : HttpMethod
  target : String
  body : Option Json := none
  deriving DecidableEq

structure HttpAnswer where
  status : Nat
  body : String
  deriving DecidableEq, Repr

/-! ## Status codes -/

/-- The standard phrases of refusals. -/
def phrases : List (Nat × String) :=
  [(400, "Bad Request"), (401, "Unauthorized"), (402, "Payment Required"), (403, "Forbidden"),
   (404, "Not Found"), (405, "Method Not Allowed"), (406, "Not Acceptable"),
   (407, "Proxy Authentication Required"), (408, "Request Timeout"), (409, "Conflict"),
   (410, "Gone"), (411, "Length Required"), (412, "Precondition Failed"),
   (413, "Payload Too Large"), (414, "URI Too Long"), (415, "Unsupported Media Type"),
   (416, "Range Not Satisfiable"), (417, "Expectation Failed"), (418, "I'm a teapot"),
   (421, "Misdirected Request"), (422, "Unprocessable Entity"), (423, "Locked"),
   (424, "Failed Dependency"), (426, "Upgrade Required"), (428, "Precondition Required"),
   (429, "Too Many Requests"), (431, "Request Header Fields Too Large"),
   (451, "Unavailable For Legal Reasons"), (500, "Internal Server Error"),
   (501, "Not Implemented"), (502, "Bad Gateway"), (503, "Service Unavailable"),
   (504, "Gateway Timeout"), (505, "HTTP Version Not Supported"),
   (506, "Variant Also Negotiates"), (507, "Insufficient Storage"), (508, "Loop Detected"),
   (510, "Not Extended"), (511, "Network Authentication Required")]

/-- A status code with its phrase. -/
def statusText (code : Nat) : String :=
  toString code ++ " " ++ (phrases.lookup code).getD "<unknown status code>"

/-! ## Refusals -/

/-- The refusal that a JSON value describes: status and code are needed, the rest may be missing. -/
def ApiStatus.ofJson? (j : Json) : Option ApiStatus := do
  let fs ← Wire.fieldsOf? ["status", "message", "reason", "code"] j
  let status : String ← Wire.required fs "status"
  let message : String ← Wire.orElse fs "message" ""
  let reason : String ← Wire.orElse fs "reason" ""
  let code ← (Json.Fields.get? fs "code").bind Json.int?
  if 0 ≤ code ∧ code < 65536 then some ⟨status, message, reason, code.toNat⟩ else none

namespace HttpAnswer

/-- Whether the answer is a refusal. -/
def isRefusal (a : HttpAnswer) : Bool := 400 ≤ a.status && a.status < 600

/-- The refusal in the text, or one that quotes the text. -/
def refusal (a : HttpAnswer) : ApiStatus :=
  match (Json.parse? a.body).bind ApiStatus.ofJson? with
  | some status => status
  | none => ⟨statusText a.status, Quoted.encode a.body, "Failed to parse error data", a.status⟩

/-- The value that an answer carries, unless it is a refusal. -/
def value (a : HttpAnswer) : Except ApiFailure Json :=
  if a.isRefusal then .error (.refused a.refusal)
  else
    match Json.parse? a.body with
    | some j => .ok j
    | none => .error (.unreadable "not JSON")

/-- What an answer carries, read by a reader of its values. -/
def readAs {α : Type} (read : Json → Except String α) (a : HttpAnswer) : Except ApiFailure α := do
  let j ← a.value
  match read j with
  | .ok x => .ok x
  | .error reason => .error (.unreadable reason)

end HttpAnswer

/-- A far side that answers requests, changing its state. -/
abbrev HttpWorld (σ : Type) := HttpRequest → σ → HttpAnswer × σ

end GatewayOperator
