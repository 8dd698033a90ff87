import Storefront.Fault
import Storefront.Http.Percent
import Storefront.Json.Reader
/-!
# Requests and responses

What comes in over HTTP and what goes out. A response holds a JSON value, the issues of a request
that is not well formed, or plain text.
-/

namespace Storefront.Http

/-- The body of a request. -/
inductive Body where
  | absent
  | json (value : Json)
  | malformed

/-- The body that some text is. -/
def Body.ofText (text : String) : Body :=
  if text.isEmpty then .absent
  else
    match Json.parse? text with
    | some value => .json value
    | none => .malformed

/-- A request. Of parameters with one name the last one counts. -/
structure Request where
  method : String
  path : String
  parameters : List (String × String)
  headers : List (String × String)
  body : Body

namespace Request

/-- The parameters as a row. -/
def query (request : Request) : Row :=
  Row.ofEntries (request.parameters.map fun (name, value) => (name, .str value))

/-- The decoded path. -/
def decodedPath (request : Request) : String := Percent.decode request.path

/-- The header with a name; the case of the name does not matter. -/
def header? (request : Request) (name : String) : Option String :=
  (request.headers.find? fun entry => entry.1.toLower == name.toLower).map (·.2)

end Request

/-- What a response holds. -/
inductive Payload where
  | json (value : Json)
  | issues (issues : List Issue)
  | text (text : String)

/-- A response, with the trace id that is sent back, if there is one. -/
structure Response where
  status : Nat
  payload : Payload
  traceId : Option String

namespace Response

/-- A response with a JSON value; numbers that JSON cannot write become null. -/
def json (status : Nat) (value : Json) : Response := ⟨status, .json value.writable, none⟩

/-- A response with the reason for a refusal. -/
def detail (status : Nat) (reason : String) : Response :=
  json status (.obj [("detail", .str reason)])

/-- The response to a request that is not well formed. -/
def unprocessable (issues : List Issue) : Response := ⟨422, .issues issues, none⟩

/-- The response to a fault that nothing foresaw. -/
def failure : Response := ⟨500, .text "Internal Server Error", none⟩

/-- The response to a fault: a bad request is told why, everything else is a failure. -/
def ofFault : Fault → Response
  | .badRequest reason => detail 400 reason
  | _ => failure

/-- The header that carries trace ids. -/
def traceHeader : String := "X-Request-ID"

/-- A response to a request with a trace id; a failure does not carry it. -/
def traced (request : Request) (response : Response) : Response :=
  if response.status = 500 then response
  else { response with traceId := request.header? traceHeader }

end Response

end Storefront.Http
