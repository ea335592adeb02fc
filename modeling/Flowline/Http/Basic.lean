import Flowline.Duration
import Flowline.Json.Reader
import Flowline.Lookup
import Flowline.NodeSettings

/-!
HTTP requests and responses, and clients, which exchange one for the other.
-/

namespace Flowline.Http

inductive HttpError where
  | invalidMethod (method : String)
  | invalidRequest (problem : String)
  | connect (problem : String)
  | timeout (problem : String)
  | request (problem : String)
deriving DecidableEq

def HttpError.message : HttpError → String
  | .invalidMethod method => "Invalid HTTP method '" ++ method ++ "'"
  | .invalidRequest problem => "Invalid request: " ++ problem
  | .connect problem => "Connection failed: " ++ problem
  | .timeout problem => "Request timed out: " ++ problem
  | .request problem => "Request failed: " ++ problem

inductive Body where
  | json (value : Json)
  | text (text : String)
deriving DecidableEq

namespace Body

/-- Text is sent as it is, `null` stands for no body, and other values are sent as JSON. -/
def ofJson? : Json → Option Body
  | .null => none
  | .string plain => some (.text plain)
  | other => some (.json other)

def toJson : Body → Json
  | .json value => Json.ofFields [("json", value)]
  | .text plain => Json.ofFields [("text", .string plain)]

end Body

structure Request where
  method : String
  url : String
  headers : Entries String := []
  body : Option Body := none
  timeout : Duration
  connectTimeout : Duration
deriving DecidableEq

namespace Request

def create (method url : String) (defaults : HttpDefaults) : Request where
  method
  url
  timeout := .ofSecs defaults.timeoutSecs
  connectTimeout := .ofSecs defaults.connectTimeoutSecs

/-- A timeout in seconds, if one is configured; what is not positive counts as none. -/
def configuredTimeout (nodeType : String) (config : Json.Object) (key : String) :
    Except RunError (Option Duration) :=
  match Json.Object.float? config key with
  | none => .ok none
  | some secs =>
    if secs.isNaN || Binary64.orderKey secs ≤ 0 then .ok none
    else
      match Duration.ofFloat? secs with
      | some duration => .ok (some duration)
      | none => .error (.invalidConfig nodeType (Duration.tooLongText key secs))

/-- Takes over the timeouts in the configuration of a node. -/
def withTimeouts (nodeType : String) (config : Json.Object) (request : Request) :
    Except RunError Request := do
  let timeout ← configuredTimeout nodeType config "timeout"
  let connectTimeout ← configuredTimeout nodeType config "connectTimeout"
  return { request with
    timeout := timeout.getD request.timeout
    connectTimeout := connectTimeout.getD request.connectTimeout }

def addHeader (headers : Entries String) (entry : String × Json) : Entries String :=
  match entry.2 with
  | .null => headers
  | value => Entries.insert headers entry.1 value.plainText

/-- Adds the fields of an object as headers, in place of headers of the same spelling; `null` and
whatever is no object add nothing. -/
def withHeaders (headers : Option Json) (request : Request) : Request :=
  match headers with
  | some (.object fields) => { request with headers := fields.foldl addHeader request.headers }
  | _ => request

def withBody (body : Option Body) (request : Request) : Request := { request with body }

def toJson (request : Request) : Json :=
  let duration (value : Duration) : Json :=
    Json.ofFields [("secs", Json.ofNat value.secs), ("nanos", Json.ofNat value.nanos)]
  Json.ofFields [
    ("method", .string request.method),
    ("url", .string request.url),
    ("headers", .object (Entries.mapValues Json.string request.headers)),
    ("body", Json.ofOption (request.body.map Body.toJson)),
    ("timeout", duration request.timeout),
    ("connectTimeout", duration request.connectTimeout)]

end Request

structure Response where
  status : Nat
  headers : Entries String := []
  body : String
deriving DecidableEq

namespace Response

def json? (response : Response) : Option Json := (Json.read response.body).toOption

def isSuccess (response : Response) : Bool :=
  decide (200 ≤ response.status) && decide (response.status < 300)

def contentType? (response : Response) : Option String :=
  Entries.get? response.headers "content-type"

end Response

/-- A client may change a state of type `σ` with every exchange. -/
structure Client (σ : Type) where
  send : Request → σ → Except HttpError Response × σ

end Flowline.Http
