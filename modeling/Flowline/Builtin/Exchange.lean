import Flowline.Http.Basic
import Flowline.Stamps

/-!
Nodes that send HTTP requests: any request, an event to a webhook, and the retrieval of a page. A
request that cannot be put together is an error and is not sent; what goes wrong afterwards is told
in the output.
-/

namespace Flowline

open Http (Request Response HttpError Client)

variable {σ : Type}

def failureFields (url : String) (error : HttpError) : List (String × Json) :=
  [("success", .bool false), ("url", .string url), ("status", Json.ofNat 0),
    ("error", .string error.message)]

/-- What the nodes tell of a response alike. -/
def responseFields (url : String) (response : Response) : List (String × Json) :=
  [("success", .bool response.isSuccess), ("url", .string url),
    ("status", Json.ofNat response.status)] ++
  if response.isSuccess then []
  else [("error", .string ("HTTP " ++ response.status.repr))]

/-- Sends a request that has been put together and tells what came of it. -/
def exchange (client : Client σ) (request : Except RunError Request)
    (told : Except HttpError Response → List (String × Json)) (state : σ) :
    Except RunError Output × σ :=
  match request with
  | .error error => (.error error, state)
  | .ok request =>
    let (answer, state) := client.send request state
    (.ok (.ofFields (told answer)), state)

def requireUrl (value : Option Json) : Except RunError String :=
  match (value.map Json.plainText).filter fun url => !Text.isBlankText url with
  | some url => .ok url
  | none => .error (.missingInput "url")

def urlText (value : Option Json) : String := (value.map Json.plainText).getD ""

/-! Any request. -/

def httpRequestDescriptor : Descriptor where
  type := "http_request"
  category := .http
  label := "HTTP Request"
  description := "Sends an HTTP request and returns the response"
  inputs := [.optional "url" "URL" .string, .optional "body" "Body" .any,
    .optional "headers" "Headers" .json]
  outputs := [.optional "success" "Success" .boolean, .optional "status" "Status" .number,
    .optional "headers" "Headers" .json, .optional "body" "Body" .string,
    .optional "json" "JSON" .any]
  config := [.mandatory "url" "URL" .string,
    (Port.optional "method" "Method" .string).withDefault (.string "GET")
      |>.withOptions ["GET", "POST", "PUT", "PATCH", "DELETE", "HEAD"],
    .optional "headers" "Headers" .json,
    .optional "body" "Body" .any,
    (Port.optional "timeout" "Timeout (s)" .number).withDefault (Json.ofNat 30),
    (Port.optional "connectTimeout" "Connect timeout (s)" .number).withDefault (Json.ofNat 10)]

/-- The method in capitals, the configured headers and over them those of the input. -/
def freeRequest (defaults : HttpDefaults) (inputs config : Json.Object) :
    Except RunError Request := do
  let url ← requireUrl (lookupOrConfig inputs config "url")
  let method := (Json.Object.stringOr config "method" "GET").toUpper
  let request ← (Request.create method url defaults).withTimeouts "http_request" config
  return request.withHeaders (Entries.get? config "headers")
    |>.withHeaders (lookup inputs "headers")
    |>.withBody ((lookupOrConfig inputs config "body").bind Http.Body.ofJson?)

def freeFields (url : String) : Except HttpError Response → List (String × Json)
  | .error error => failureFields url error
  | .ok response =>
    responseFields url response ++
      [("headers", .object (Entries.mapValues Json.string response.headers)),
        ("body", .string response.body), ("json", Json.ofOption response.json?)]

def httpRequest (client : Client σ) (defaults : HttpDefaults) : Processor σ where
  descriptor := httpRequestDescriptor
  process := fun inputs config =>
    exchange client (freeRequest defaults inputs config)
      (freeFields (urlText (lookupOrConfig inputs config "url")))

/-! Webhooks. -/

def defaultEvent : String := "workflow.node"

def webhookDescriptor : Descriptor where
  type := "webhook"
  category := .http
  label := "Webhook"
  description := "Posts workflow data to a webhook endpoint"
  inputs := [.optional "data" "Data" .any]
  outputs := [.optional "success" "Delivered" .boolean, .optional "status" "Status" .number,
    .optional "deliveryId" "Delivery ID" .string]
  config := [.mandatory "url" "Webhook URL" .string,
    (Port.optional "event" "Event name" .string).withDefault (.string defaultEvent),
    .optional "headers" "Headers" .json,
    .optional "timeout" "Timeout (s)" .number,
    .optional "connectTimeout" "Connect timeout (s)" .number]

/-- The event with its data: the input of that name, or else all inputs. -/
def envelope (stamps : Stamps) (inputs config : Json.Object) : Json :=
  Json.ofFields [
    ("id", .string stamps.id),
    ("event", .string (Json.Object.stringOr config "event" defaultEvent)),
    ("timestamp", .string stamps.timestamp),
    ("data", (lookup inputs "data").getD (.object inputs))]

def deliveryRequest (defaults : HttpDefaults) (stamps : Stamps) (inputs config : Json.Object) :
    Except RunError Request := do
  let url ← requireUrl (Entries.get? config "url")
  let request ← (Request.create "POST" url defaults).withTimeouts "webhook" config
  return request.withHeaders (Entries.get? config "headers")
    |>.withBody (some (.json (envelope stamps inputs config)))

def deliveryFields (stamps : Stamps) (url : String) :
    Except HttpError Response → List (String × Json)
  | .error error => failureFields url error ++ [("deliveryId", .string stamps.id)]
  | .ok response =>
    responseFields url response ++
      [("response", response.json?.getD (.string response.body)),
        ("deliveryId", .string stamps.id)]

def webhook (client : Client σ) (defaults : HttpDefaults) (stamps : Stamps) : Processor σ where
  descriptor := webhookDescriptor
  process := fun inputs config =>
    exchange client (deliveryRequest defaults stamps inputs config)
      (deliveryFields stamps (urlText (Entries.get? config "url")))

/-! Pages. -/

def urlFetchDescriptor : Descriptor where
  type := "url_fetch"
  category := .http
  label := "URL Fetch"
  description := "Downloads the content of a URL"
  inputs := [.optional "url" "URL" .string]
  outputs := [.optional "content" "Content" .string,
    .optional "contentType" "Content type" .string, .optional "status" "Status" .number]
  config := [.optional "url" "URL" .string, .optional "maxLength" "Max length" .number,
    .optional "timeout" "Timeout (s)" .number,
    .optional "connectTimeout" "Connect timeout (s)" .number]

def pageRequest (defaults : HttpDefaults) (inputs config : Json.Object) :
    Except RunError Request := do
  let url ← requireUrl (lookupOrConfig inputs config "url")
  (Request.create "GET" url defaults).withTimeouts "url_fetch" config

/-- The number of characters that are kept, if it is limited; a negative limit is none. -/
def lengthLimit? (config : Json.Object) : Option Nat :=
  ((Json.Object.float? config "maxLength").filter fun limit =>
    !limit.isNaN && decide (0 ≤ Binary64.orderKey limit)).map (Binary64.floorUpTo (UInt64.size - 1))

def pageFields (limit : Option Nat) (url : String) :
    Except HttpError Response → List (String × Json)
  | .error error => failureFields url error
  | .ok response =>
    let tooLong := limit.any fun limit => decide (limit < response.body.length)
    let content :=
      match limit with
      | some limit => String.ofList (response.body.toList.take limit)
      | none => response.body
    responseFields url response ++
      [("contentType", Json.ofString? response.contentType?), ("content", .string content),
        ("truncated", .bool tooLong)]

def urlFetch (client : Client σ) (defaults : HttpDefaults) : Processor σ where
  descriptor := urlFetchDescriptor
  process := fun inputs config =>
    exchange client (pageRequest defaults inputs config)
      (pageFields (lengthLimit? config) (urlText (lookupOrConfig inputs config "url")))

end Flowline
