import Flowline.Workflow.Format

/-!
Descriptions of processors: their ports and configuration fields, and the schemas drawn from them.
-/

namespace Flowline

open Json.Decoder (string bool json choice option list)

inductive PortType where
  | any
  | string
  | number
  | boolean
  | json
  | array
  | trigger
deriving DecidableEq

namespace PortType

def name : PortType → String
  | .any => "any"
  | .string => "string"
  | .number => "number"
  | .boolean => "boolean"
  | .json => "json"
  | .array => "array"
  | .trigger => "trigger"

def all : List PortType := [.any, .string, .number, .boolean, .json, .array, .trigger]

/-- The type named in a schema; a port of any type and a trigger have none. -/
def schemaType? : PortType → Option String
  | .any | .trigger => none
  | .string => some "string"
  | .number => some "number"
  | .boolean => some "boolean"
  | .json => some "object"
  | .array => some "array"

def decoder : Json.Decoder PortType := choice (all.map fun type => (type.name, type))

end PortType

inductive Category where
  | input
  | output
  | processing
  | control
  | http
  | ai
deriving DecidableEq

namespace Category

def name : Category → String
  | .input => "input"
  | .output => "output"
  | .processing => "processing"
  | .control => "control"
  | .http => "http"
  | .ai => "ai"

def all : List Category := [.input, .output, .processing, .control, .http, .ai]

def decoder : Json.Decoder Category := choice (all.map fun category => (category.name, category))

end Category

/-- A port or a configuration field; `options` lists the values allowed, if they are limited. -/
structure Port where
  id : PortId
  label : String
  type : PortType
  required : Bool := false
  defaultValue : Option Json := none
  options : List String := []
deriving DecidableEq

namespace Port

def optional (id : PortId) (label : String) (type : PortType) : Port := { id, label, type }

def mandatory (id : PortId) (label : String) (type : PortType) : Port :=
  { id, label, type, required := true }

def withDefault (port : Port) (value : Json) : Port := { port with defaultValue := some value }

def withOptions (port : Port) (options : List String) : Port := { port with options }

def schema (port : Port) : Json :=
  Json.ofFields <|
    Json.optionalField "type" (port.type.schemaType?.map .string) ++
    [("title", .string port.label)] ++
    Json.optionalField "default" port.defaultValue ++
    Json.nonEmptyField "enum" (port.options.map .string)

def toJson (port : Port) : Json :=
  Json.ofFields <|
    [("id", .string port.id), ("label", .string port.label), ("dataType", .string port.type.name),
      ("required", .bool port.required)] ++
    Json.optionalField "defaultValue" port.defaultValue ++
    Json.nonEmptyField "options" (port.options.map .string)

def decoder : Json.Decoder Port :=
  Json.Record.make Port.mk
    |>.field "id" string .required
    |>.field "label" string .required
    |>.field "dataType" PortType.decoder .required
    |>.field "required" bool .required
    |>.field "defaultValue" (option json) (.default none)
    |>.field "options" (list string) (.default [])
    |>.decoder "PortMetadata"

end Port

structure Descriptor where
  type : String
  category : Category
  label : String
  description : String
  inputs : List Port
  outputs : List Port
  config : List Port
deriving DecidableEq

def requiredIds (ports : List Port) : List PortId := (ports.filter Port.required).map Port.id

def objectSchema (ports : List Port) : Json :=
  Json.ofFields [
    ("type", .string "object"),
    ("properties", Json.ofFields (ports.map fun port => (port.id, port.schema))),
    ("required", Json.strings (requiredIds ports))]

namespace Descriptor

def requiredInputs (descriptor : Descriptor) : List PortId := requiredIds descriptor.inputs

def inputSchema (descriptor : Descriptor) : Json := objectSchema descriptor.inputs

def outputSchema (descriptor : Descriptor) : Json := objectSchema descriptor.outputs

def configSchema (descriptor : Descriptor) : Json := objectSchema descriptor.config

def toJson (descriptor : Descriptor) : Json :=
  Json.ofFields [
    ("nodeType", .string descriptor.type),
    ("category", .string descriptor.category.name),
    ("label", .string descriptor.label),
    ("description", .string descriptor.description),
    ("inputs", .array (descriptor.inputs.map Port.toJson)),
    ("outputs", .array (descriptor.outputs.map Port.toJson)),
    ("config", .array (descriptor.config.map Port.toJson))]

def decoder : Json.Decoder Descriptor :=
  Json.Record.make Descriptor.mk
    |>.field "nodeType" string .required
    |>.field "category" Category.decoder .required
    |>.field "label" string .required
    |>.field "description" string .required
    |>.field "inputs" (list Port.decoder) .required
    |>.field "outputs" (list Port.decoder) .required
    |>.field "config" (list Port.decoder) (.default [])
    |>.decoder "ProcessorMetadata"

end Descriptor

end Flowline
