import Flowline.Http.Basic
import Flowline.Url.Reader

/-!
A client without a network. It refuses what could not be sent and otherwise tells that no connection
was made.
-/

namespace Flowline.Http

def isTokenChar (c : Char) : Bool :=
  c.isAlphanum || "!#$%&\x27*+-.^_\x60|~".toList.contains c

def isToken (text : String) : Bool := !text.isEmpty && text.toList.all isTokenChar

/-- Tabs are the only controls in the value of a header. -/
def isHeaderValue (text : String) : Bool :=
  text.toList.all fun c => c == '\t' || (0x20 ≤ c.toNat && c != '\x7f')

def isHeader (header : String × String) : Bool := isToken header.1 && isHeaderValue header.2

/-- The address of a request that can be sent. -/
def Request.target (userAgent : String) (request : Request) : Except HttpError Url := do
  let refuse {α : Type} (problem : String) : Except HttpError α :=
    .error (.invalidRequest ("builder error" ++ problem))
  if !isToken request.method then .error (.invalidMethod request.method)
  else if !isHeaderValue userAgent then refuse ""
  else
    match Url.read? request.url with
    | none => refuse ""
    | some url =>
      if !url.hasHost then refuse (" for url (" ++ url.render ++ ")")
      else if !request.headers.all isHeader then refuse ""
      else if url.scheme ≠ "http" ∧ url.scheme ≠ "https" then
        refuse (" for url (" ++ url.render ++ ")")
      else .ok url

namespace Offline

def refusal (userAgent : String) (request : Request) : HttpError :=
  match request.target userAgent with
  | .error error => error
  | .ok url => .connect ("error sending request for url (" ++ url.render ++ ")")

def client {σ : Type} (userAgent : String) : Client σ where
  send := fun request state => (.error (refusal userAgent request), state)

end Offline

end Flowline.Http
