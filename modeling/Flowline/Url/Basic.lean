import Flowline.Url.Host

/-!
URLs without user information, and how they are written.
-/

namespace Flowline

/-- A path has segments, or it is plain text if nothing but the scheme stands before it. -/
inductive Url.Path where
  | segments (segments : List String)
  | text (text : String)
deriving DecidableEq

/-- The port is absent if it is the one that the scheme implies. -/
structure Url where
  scheme : String
  host : Option Url.Host := none
  port : Option Nat := none
  path : Url.Path
  query : Option String := none
  fragment : Option String := none
deriving DecidableEq

namespace Url

def defaultPorts : List (String × Nat) :=
  [("ftp", 21), ("http", 80), ("https", 443), ("ws", 80), ("wss", 443)]

/-- Special URLs name a domain and allow backslashes for slashes. -/
def isSpecialScheme (scheme : String) : Bool :=
  scheme = "file" || (defaultPorts.lookup scheme).isSome

def hasHost (url : Url) : Bool :=
  match url.host with
  | none | some (.name "") => false
  | some _ => true

def Path.render : Path → String
  | .segments parts => String.join (parts.map ("/" ++ ·))
  | .text plain => plain

/-- Two slashes in front of a path without host would read as a host. -/
def authorityText (url : Url) : String :=
  match url.host, url.path with
  | some host, _ =>
    "//" ++ host.text ++
      match url.port with
      | some port => ":" ++ port.repr
      | none => ""
  | none, .segments ("" :: _ :: _) => "/."
  | none, _ => ""

def render (url : Url) : String :=
  let after (mark : String) (part : Option String) : String :=
    match part with
    | some part => mark ++ part
    | none => ""
  url.scheme ++ ":" ++ url.authorityText ++ url.path.render ++ after "?" url.query ++
    after "#" url.fragment

end Url

end Flowline
