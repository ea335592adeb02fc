import Flowline.Json.Reader
import Flowline.Json.Skipper

/-!
Decoders read typed data from a JSON value or directly from JSON text. From a value the fields of a
record are visited in key order, from text in text order; the first field that does not fit is
reported, and once all fit, the first missing one in the order of declaration.
-/

namespace Flowline.Json

/-- Where a decoder reads: a value, or text that may still nest `depth` levels deep. -/
inductive Source where
  | value (json : Json)
  | text (depth : Nat) (chars : List Char)

/-- Together with the result a decoder returns the text that follows, which is empty after a
value. -/
abbrev Decoder (α : Type) := Source → Except ReadError (α × List Char)

namespace Decoder

def fromJson {α : Type} (decoder : Decoder α) (json : Json) : Except ReadError α :=
  (decoder (.value json)).map Prod.fst

def fromText {α : Type} (decoder : Decoder α) (text : String) : Except ReadError α :=
  decoder (.text maxDepth text.toList) >>= Scan.finish

/-- Refuses the value that starts the text; of a list or an object nothing but the bracket is
read. -/
def refuseText {α : Type} (expected : String) (chars : List Char) : Except ReadError α := do
  let refuse (found : Found) : Except ReadError α := .error (.invalidType found expected)
  match Scan.skipBlanks chars with
  | [] => malformed .endOfValue
  | 'n' :: rest => Scan.word ['u', 'l', 'l'] rest >>= fun _ => refuse .null
  | 't' :: rest => Scan.word ['r', 'u', 'e'] rest >>= fun _ => refuse (.bool true)
  | 'f' :: rest => Scan.word ['a', 'l', 's', 'e'] rest >>= fun _ => refuse (.bool false)
  | '"' :: rest => Scan.string rest >>= fun result => refuse (.string result.1)
  | '[' :: _ => refuse .sequence
  | '\x7b' :: _ => refuse .map
  | c :: rest =>
    if Scan.startsNumber c then
      Scan.number (c :: rest) >>= fun result => refuse (.ofNumber result.1)
    else malformed .expectedValue

def refuse {α : Type} (expected : String) : Source → Except ReadError α
  | .value json => .error (.invalidType (.ofJson json) expected)
  | .text _ chars => refuseText expected chars

def json : Decoder Json
  | .value json => .ok (json, [])
  | .text depth chars => Scan.value depth chars

/-- A scalar that `accept` takes; `expected` says what it is to be. -/
def scalar {α : Type} (expected : String) (accept : Json → Except ReadError α) : Decoder α
  | .value json => (accept json).map fun result => (result, [])
  | .text depth chars =>
    match Scan.skipBlanks chars with
    | '[' :: _ | '\x7b' :: _ => refuseText expected chars
    | start => do
      let (value, rest) ← Scan.value depth start
      .ok (← accept value, rest)

def mismatch {α : Type} (expected : String) (json : Json) : Except ReadError α :=
  .error (.invalidType (.ofJson json) expected)

def string : Decoder String :=
  scalar "a string" fun json =>
    match json with
    | .string text => .ok text
    | other => mismatch "a string" other

def bool : Decoder Bool :=
  scalar "a boolean" fun json =>
    match json with
    | .bool value => .ok value
    | other => mismatch "a boolean" other

def natural (limit : Nat) (name : String) : Decoder Nat :=
  scalar name fun json =>
    match json with
    | .number (.integer value _) =>
      if 0 ≤ value ∧ value < limit then .ok value.toNat
      else .error (.invalidValue (.integer value) name)
    | other => mismatch name other

def float : Decoder Float :=
  scalar "f64" fun json =>
    match json with
    | .number value => .ok value.toFloat
    | other => mismatch "f64" other

/-- Reads `null` as absent. -/
def option {α : Type} (decoder : Decoder α) : Decoder (Option α)
  | .value .null => .ok (none, [])
  | .value json => (decoder (.value json)).map fun result => (some result.1, result.2)
  | .text depth chars => do
    match Scan.skipBlanks chars with
    | [] => malformed .endOfValue
    | 'n' :: rest => .ok (none, (← Scan.word ['u', 'l', 'l'] rest).2)
    | start =>
      let (value, rest) ← decoder (.text depth start)
      .ok (some value, rest)

def listValues {α : Type} (decoder : Decoder α) : List Json → Except ReadError (List α)
  | [] => .ok []
  | item :: rest => do
    let value ← decoder.fromJson item
    let values ← listValues decoder rest
    .ok (value :: values)

def list {α : Type} (decoder : Decoder α) : Decoder (List α)
  | .value (.array items) => (listValues decoder items).map fun values => (values, [])
  | .value other => mismatch "a sequence" other
  | .text depth chars =>
    match Scan.skipBlanks chars with
    | '[' :: rest =>
      match depth with
      | 0 => malformed .tooDeep
      | depth + 1 =>
        Scan.items (fun start => decoder (.text depth start)) (rest.length + 1) true rest
    | start => refuseText "a sequence" start

def entryValues {α : Type} (decoder : Decoder α) :
    List (String × Json) → Except ReadError (List (String × α))
  | [] => .ok []
  | (key, json) :: rest => do
    let value ← decoder.fromJson json
    let values ← entryValues decoder rest
    .ok ((key, value) :: values)

def entries {α : Type} (decoder : Decoder α) : Decoder (Entries α)
  | .value (.object fields) => (entryValues decoder fields).map fun values => (values, [])
  | .value other => mismatch "a map" other
  | .text depth chars =>
    match Scan.skipBlanks chars with
    | '\x7b' :: rest =>
      match depth with
      | 0 => malformed .tooDeep
      | depth + 1 => do
        let (pairs, rest) ← Scan.fields (fun start => decoder (.text depth start))
          (rest.length + 1) true rest
        .ok (Entries.ofList pairs, rest)
    | start => refuseText "a map" start

def object : Decoder Object := entries json

/-! Names that stand for values. -/

def pick {α : Type} (variants : List (String × α)) (name : String) : Except ReadError α :=
  match Entries.get? variants name with
  | some value => .ok value
  | none => .error (.unknownVariant name (variants.map Prod.fst))

/-- Nothing but `null` goes with a name. -/
def unit : Decoder Unit :=
  scalar "unit" fun json =>
    match json with
    | .null => .ok ()
    | other => mismatch "unit" other

/-- One of the named values, written as the name or as an object with the name as its only key and
`null` as the content. -/
def choice {α : Type} (variants : List (String × α)) : Decoder α
  | .value (.string name) => (pick variants name).map fun value => (value, [])
  | .value (.object [(name, content)]) => do
    let value ← pick variants name
    let () ← unit.fromJson content
    .ok (value, [])
  | .value (.object _) => .error (.invalidValue .map "map with a single key")
  | .value other => mismatch "string or map" other
  | .text depth chars => do
    match Scan.skipBlanks chars with
    | [] => malformed .endOfValue
    | '"' :: rest =>
      let (name, rest) ← Scan.string rest
      .ok (← pick variants name, rest)
    | '\x7b' :: rest =>
      match depth with
      | 0 => malformed .tooDeep
      | depth + 1 =>
        let (name, rest) ← scalar "variant identifier" (fun json =>
          match json with
          | .string text => .ok text
          | other => mismatch "variant identifier" other) (.text depth rest)
        let value ← pick variants name
        let ((), rest) ← unit (.text depth (← Scan.colon rest))
        match Scan.skipBlanks rest with
        | [] => malformed .endOfObject
        | '\x7d' :: rest => .ok (value, rest)
        | _ => malformed .expectedValue
    | _ => malformed .expectedValue

/-! Pairs and records. -/

def pairExpected : String := "a tuple of size 2"

def pair {α β : Type} (first : Decoder α) (second : Decoder β) : Decoder (α × β)
  | .value (.array items) => do
    match items with
    | [] => .error (.invalidLength 0 pairExpected)
    | [left] =>
      let _ ← first.fromJson left
      .error (.invalidLength 1 pairExpected)
    | left :: right :: rest =>
      let a ← first.fromJson left
      let b ← second.fromJson right
      if rest.isEmpty then .ok ((a, b), [])
      else .error (.invalidLength items.length "fewer elements in array")
  | source => refuse pairExpected source

/-- What a field means that is not there: an error; in objects only, a value; or a value wherever
it is left out. -/
inductive Missing (α : Type) where
  | required
  | optional (value : α)
  | default (value : α)

/-- Whether a record is written with its field names or as a list of its fields. -/
inductive Style where
  | named
  | listed

end Decoder

/-- The fields of a record in the order of declaration. `check` reads one of them by name, `build`
reads all of them from their places and makes the record. -/
structure Record (α : Type) where
  names : List String
  check : String → Decoder Unit
  build : Decoder.Style → String → (String → Option Source) → Except ReadError α

namespace Record

open Decoder

def make {α : Type} (value : α) : Record α where
  names := []
  check := fun _ source => (json source).map fun result => ((), result.2)
  build := fun _ _ _ => .ok value

def field {α β : Type} (record : Record (α → β)) (name : String) (decoder : Decoder α)
    (missing : Missing α) : Record β where
  names := record.names ++ [name]
  check := fun key source =>
    if key = name then (decoder source).map fun result => ((), result.2)
    else record.check key source
  build := fun style expected place => do
    let make ← record.build style expected place
    match place name with
    | some source => .ok (make (← decoder source).1)
    | none =>
      match missing, style with
      | .default value, _ => .ok (make value)
      | .optional value, .named => .ok (make value)
      | _, .named => .error (.missingField name)
      | _, .listed => .error (.invalidLength record.names.length expected)

def checkFields {α : Type} (record : Record α) : List (String × Json) → Except ReadError Unit
  | [] => .ok ()
  | (key, value) :: rest => do
    if record.names.contains key then
      let _ ← record.check key (.value value)
    checkFields record rest

/-- Reads the items that stand for fields and returns their places. -/
def checkItems {α : Type} (record : Record α) :
    List String → List Json → Except ReadError (List (String × Source))
  | name :: names, item :: items => do
    let _ ← record.check name (.value item)
    let places ← checkItems record names items
    .ok ((name, .value item) :: places)
  | _, _ => .ok []

/-- The places of the fields of an object after its opening brace. -/
def scanFields {α : Type} (record : Record α) (depth : Nat) :
    Nat → Bool → List (String × Source) → Scan (List (String × Source))
  | 0, _, _, _ => malformed .endOfObject
  | fuel + 1, first, places, chars => do
    match ← Scan.nextKey first chars with
    | none => .ok (places, chars)
    | some start =>
      let (key, rest) ← Scan.string start
      if record.names.contains key then
        if Entries.has places key then .error (.duplicateField key)
        else
          let source : Source := .text depth (← Scan.colon rest)
          let ((), rest) ← record.check key source
          scanFields record depth fuel false (places ++ [(key, source)]) rest
      else
        let rest ← Scan.skipValue (← Scan.colon rest)
        scanFields record depth fuel false places rest

/-- The places of the items of a list, after its opening bracket, that stand for fields. -/
def scanItems {α : Type} (record : Record α) (depth : Nat) :
    List String → Bool → Scan (List (String × Source))
  | [], _, chars => .ok ([], chars)
  | name :: names, first, chars => do
    match ← Scan.nextItem first chars with
    | none => .ok ([], chars)
    | some start =>
      let source : Source := .text depth start
      let ((), rest) ← record.check name source
      let (places, rest) ← scanItems record depth names false rest
      .ok ((name, source) :: places, rest)

def elementsText (count : Nat) : String :=
  count.repr ++ (if count = 1 then " element" else " elements")

/-- Reads a record that goes by `name` from an object, or from the list of its fields. -/
def decoder {α : Type} (record : Record α) (name : String) : Decoder α :=
  let expected := "struct " ++ name
  let withLength := expected ++ " with " ++ elementsText record.names.length
  fun source => do
    match source with
    | .value (.object fields) =>
      checkFields record fields
      let value ← record.build .named withLength fun key =>
        (Entries.get? fields key).map Source.value
      .ok (value, [])
    | .value (.array items) =>
      let places ← checkItems record record.names items
      let value ← record.build .listed withLength (Entries.get? places)
      if items.length ≤ record.names.length then .ok (value, [])
      else .error (.invalidLength items.length "fewer elements in array")
    | .value other => mismatch expected other
    | .text depth chars =>
      match Scan.skipBlanks chars with
      | '\x7b' :: rest =>
        match depth with
        | 0 => malformed .tooDeep
        | depth + 1 =>
          let (places, rest) ← scanFields record depth (rest.length + 1) true [] rest
          let value ← record.build .named withLength (Entries.get? places)
          .ok (value, ← Scan.endObject rest)
      | '[' :: rest =>
        match depth with
        | 0 => malformed .tooDeep
        | depth + 1 =>
          let (places, rest) ← scanItems record depth record.names true rest
          let value ← record.build .listed withLength (Entries.get? places)
          .ok (value, ← Scan.endList rest)
      | start => refuseText expected start

end Record

end Flowline.Json
