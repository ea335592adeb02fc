import Flowline.Url.Basic

/-!
Reading of URLs. Blanks around the text are dropped, and so are tabs and line breaks within; the
parts are percent-encoded where they need it, and dot segments are resolved. User information is
left out.
-/

namespace Flowline.Url

def isEdge (c : Char) : Bool := c.toNat ≤ 0x20

def isSkipped (c : Char) : Bool := c == '\t' || c == '\n' || c == '\r'

def cleaned (chars : List Char) : List Char :=
  ((chars.dropWhile isEdge).reverse.dropWhile isEdge).reverse.filter (!isSkipped ·)

/-- What stands before the first `mark`, and what stands after it if there is one. -/
def cut (mark : Char) (chars : List Char) : List Char × Option (List Char) :=
  match chars.dropWhile (· != mark) with
  | [] => (chars, none)
  | _ :: rest => (chars.takeWhile (· != mark), some rest)

def isSchemeChar (c : Char) : Bool := c.isAlphanum || c == '+' || c == '-' || c == '.'

def scheme? (chars : List Char) : Option (String × List Char) := do
  let (scheme, rest) := cut ':' chars
  let rest ← rest
  if (scheme.head?.any Char.isAlpha) && scheme.all isSchemeChar then
    some ((String.ofList scheme).toLower, rest)
  else none

def isSlash (special : Bool) (c : Char) : Bool := c == '/' || (special && c == '\\')

/-! Paths. -/

def plainDots : List Char → List Char
  | '%' :: '2' :: 'e' :: rest | '%' :: '2' :: 'E' :: rest => '.' :: plainDots rest
  | c :: rest => c :: plainDots rest
  | [] => []

/-- Follows the dot segments; `done` has the segments so far in reverse. -/
def resolve (done : List (List Char)) : List (List Char) → List (List Char)
  | [] => done.reverse
  | segment :: rest =>
    let dots := plainDots segment
    if dots = ['.', '.'] then
      if rest.isEmpty then ([] :: done.drop 1).reverse else resolve (done.drop 1) rest
    else if dots = ['.'] then
      if rest.isEmpty then ([] :: done).reverse else resolve done rest
    else resolve (segment :: done) rest

def segmentsOf (special : Bool) (chars : List Char) : Path :=
  .segments ((resolve [] (splitAt (isSlash special) chars)).map fun segment =>
    String.ofList (percentEncode escapesInPath segment))

def pathOf (special : Bool) (chars : List Char) : Path :=
  match chars with
  | [] => if special then .segments [""] else .segments []
  | _ :: rest => segmentsOf special rest

/-! Authorities. -/

def afterUser (chars : List Char) : List Char :=
  (chars.reverse.takeWhile (· != '@')).reverse

def splitPort (chars : List Char) : List Char × Option (List Char) :=
  match chars with
  | '[' :: _ =>
    match cut ']' chars with
    | (address, some []) => (address ++ [']'], none)
    | (address, some (':' :: port)) => (address ++ [']'], some port)
    | _ => (chars, none)
  | _ => cut ':' chars

def port? (scheme : String) : Option (List Char) → Option (Option Nat)
  | none | some [] => some none
  | some digits => do
    let port ← digits? 10 digits
    if port < UInt16.size then
      some (if defaultPorts.lookup scheme = some port then none else some port)
    else none

/-- The host and the port. Only a URL that is not special may have an empty host, and then it has
neither user nor port. -/
def authority? (scheme : String) (chars : List Char) : Option (Host × Option Nat) := do
  let special := isSpecialScheme scheme
  let (host, port) := splitPort (afterUser chars)
  if host.isEmpty ∧ (special ∨ chars ≠ []) then none
  else
    let host ← Host.read? special host
    some (host, ← port? scheme port)

/-- A file is on this machine if no other is named. -/
def fileHost? (chars : List Char) : Option Host := do
  if chars.isEmpty then some (.name "")
  else
    match ← Host.read? true chars with
    | .name "localhost" => some (.name "")
    | host => some host

/-- The URL with everything between the scheme and the query. -/
def ofHierarchy? (scheme : String) (chars : List Char) : Option Url :=
  let special := isSpecialScheme scheme
  let slash := isSlash special
  if scheme = "file" then
    match chars with
    | a :: b :: rest =>
      if slash a && slash b then do
        let host ← fileHost? (rest.takeWhile (!slash ·))
        some { scheme, host, path := pathOf true (rest.dropWhile (!slash ·)) }
      else
        let path := if slash a then segmentsOf true (b :: rest) else segmentsOf true chars
        some { scheme, host := some (.name ""), path }
    | _ =>
      some { scheme, host := some (.name ""), path := segmentsOf true (chars.filter (!slash ·)) }
  else if special then do
    let start := chars.dropWhile slash
    let (host, port) ← authority? scheme (start.takeWhile (!slash ·))
    some { scheme, host, port, path := pathOf true (start.dropWhile (!slash ·)) }
  else
    match chars with
    | '/' :: '/' :: start => do
      let (host, port) ← authority? scheme (start.takeWhile (!slash ·))
      some { scheme, host, port, path := pathOf false (start.dropWhile (!slash ·)) }
    | '/' :: _ => some { scheme, path := pathOf false chars }
    | _ => some { scheme, path := .text (String.ofList (percentEncode escapesAlways chars)) }

def read? (text : String) : Option Url := do
  let (scheme, rest) ← scheme? (cleaned text.toList)
  let (rest, fragment) := cut '#' rest
  let (rest, query) := cut '?' rest
  let url ← ofHierarchy? scheme rest
  let special := isSpecialScheme scheme
  some { url with
    query := query.map fun part =>
      String.ofList (percentEncode (escapesInQuery special) part)
    fragment := fragment.map fun part =>
      String.ofList (percentEncode escapesInFragment part) }

end Flowline.Url
