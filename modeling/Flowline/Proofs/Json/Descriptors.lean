import Flowline.Descriptor
import Flowline.Proofs.Json.RoundTrip

/-!
Descriptors written as JSON and read again. A port without a default is written without one, and one
whose default is `null` with it; both are read as ports without a default. Nothing else is lost, and
the schemas drawn from what is read show no other difference.
-/

namespace Flowline

open Json (Record)
open Json.Record (make_reads)
open Json.Decoder (string_inverts bool_inverts)

namespace Json

/-- A value that may be absent, with `null` counted as absent. -/
def nonNull? (value : Option Json) : Option Json := value.filter fun json => !json.isNull

theorem nonNull?_eq_self_iff {value : Option Json} :
    nonNull? value = value ↔ value ≠ some .null := by
  cases value with
  | none => simp [nonNull?]
  | some json => cases json <;> simp [nonNull?, isNull]

/-- A field that may hold any value is written with `null` in it but read as if left out. -/
theorem Record.Reads.nullable {β : Type} {record : Record (Option Json → β)} {fields : Object}
    {assemble : Option Json → β} {name : String} {value : Option Json}
    (reads : record.Reads fields assemble) (held : Entries.get? fields name = value) :
    (record.field name (Decoder.option Decoder.json) (.default none)).Reads fields
      (assemble (nonNull? value)) := by
  cases value with
  | none => exact reads.absent _ none held
  | some json =>
      refine reads.found _ held ?_
      cases json <;> rfl

end Json

theorem PortType.decoder_inverts : PortType.decoder.Inverts fun type => .string type.name := by
  intro type
  cases type <;> rfl

theorem Category.decoder_inverts :
    Category.decoder.Inverts fun category => .string category.name := by
  intro category
  cases category <;> rfl

namespace Port

/-- What is left of a port once it has been written as JSON and read again. -/
def readBack (port : Port) : Port := { port with defaultValue := Json.nonNull? port.defaultValue }

theorem decoder_restores : decoder.Restores toJson readBack := by
  intro port
  refine Record.Reads.decoder ?_ _
  exact (make_reads _ Port.mk).field string_inverts .required (by simp)
    |>.field string_inverts .required (by simp)
    |>.field PortType.decoder_inverts .required (by simp)
    |>.field bool_inverts .required (by simp)
    |>.nullable (by simp)
    |>.listed string_inverts (by simp)

theorem readBack_eq_self_iff {port : Port} :
    port.readBack = port ↔ port.defaultValue ≠ some .null := by
  rw [← Json.nonNull?_eq_self_iff]
  exact ⟨fun same => congrArg defaultValue same, fun same => by rw [readBack, same]⟩

@[simp] theorem default_schema (port : Port) :
    port.schema.field? "default" = port.defaultValue := by
  simp [schema, Json.ofFields, Json.field?, Json.object?]

/-- The schema of a port shows its default, also if that is `null`. -/
theorem schema_readBack_iff {port : Port} :
    port.readBack.schema = port.schema ↔ port.defaultValue ≠ some .null := by
  rw [← readBack_eq_self_iff]
  refine ⟨fun same => ?_, fun same => by rw [same]⟩
  have defaults := congrArg (·.field? "default") same
  simp only [default_schema] at defaults
  rw [readBack_eq_self_iff, ← Json.nonNull?_eq_self_iff]
  exact defaults

end Port

section Ports

variable (ports : List Port)

/-- The port that a schema shows under an id: the last one of several. -/
def shown? (id : PortId) : Option Port := (ports.filter fun port => port.id == id).getLast?

/-- None of the ports that a schema shows has the default `null`. -/
def ShowsNoNull : Prop :=
  ∀ id port, shown? ports id = some port → port.defaultValue ≠ some .null

theorem shown?_map_readBack (id : PortId) :
    shown? (ports.map Port.readBack) id = (shown? ports id).map Port.readBack := by
  rw [shown?, List.filter_map, List.getLast?_map]
  rfl

theorem get?_properties (id : PortId) :
    Entries.get? (Entries.ofList (ports.map fun port => (port.id, port.schema))) id =
      (shown? ports id).map Port.schema := by
  rw [Entries.get?_ofList, List.filter_map, List.getLast?_map, Option.map_map]
  rfl

theorem requiredIds_map_readBack :
    requiredIds (ports.map Port.readBack) = requiredIds ports := by
  simp only [requiredIds, List.filter_map, List.map_map]
  rfl

theorem map_readBack_eq_self_iff :
    ports.map Port.readBack = ports ↔ ∀ port ∈ ports, port.defaultValue ≠ some .null := by
  simp only [← Port.readBack_eq_self_iff]
  nth_rewrite 2 [← List.map_id ports]
  exact List.map_inj_left

theorem properties_objectSchema :
    (objectSchema ports).field? "properties" =
      some (Json.ofFields (ports.map fun port => (port.id, port.schema))) := by
  simp [objectSchema, Json.ofFields, Json.field?, Json.object?]

theorem objectSchema_readBack_iff :
    objectSchema (ports.map Port.readBack) = objectSchema ports ↔ ShowsNoNull ports := by
  constructor
  · intro same id port shown
    have properties := congrArg (·.field? "properties") same
    simp only [properties_objectSchema, Option.some.injEq, Json.ofFields, Json.object.injEq]
      at properties
    have property := congrArg (Entries.get? · id) properties
    simp only [get?_properties, shown?_map_readBack, shown, Option.map_some, Option.some.injEq]
      at property
    exact Port.schema_readBack_iff.mp property
  · intro given
    have properties :
        Json.ofFields ((ports.map Port.readBack).map fun port => (port.id, port.schema)) =
          Json.ofFields (ports.map fun port => (port.id, port.schema)) := by
      refine congrArg Json.object ?_
      refine (Entries.sorted_ofList _).eq_of_get? (Entries.sorted_ofList _) fun id => ?_
      rw [get?_properties, get?_properties, shown?_map_readBack, Option.map_map]
      refine Option.map_congr fun port shown => ?_
      exact Port.schema_readBack_iff.mpr (given id port shown)
    rw [objectSchema, objectSchema, requiredIds_map_readBack, properties]

end Ports

namespace Descriptor

/-- The ports and the configuration fields. -/
def ports (descriptor : Descriptor) : List Port :=
  descriptor.inputs ++ descriptor.outputs ++ descriptor.config

def readBack (descriptor : Descriptor) : Descriptor :=
  { descriptor with
    inputs := descriptor.inputs.map Port.readBack
    outputs := descriptor.outputs.map Port.readBack
    config := descriptor.config.map Port.readBack }

theorem decoder_restores : decoder.Restores toJson readBack := by
  intro descriptor
  refine Record.Reads.decoder ?_ _
  exact (make_reads _ Descriptor.mk).field string_inverts .required (by simp)
    |>.field Category.decoder_inverts .required (by simp)
    |>.field string_inverts .required (by simp)
    |>.field string_inverts .required (by simp)
    |>.found .required (by simp) (Port.decoder_restores.list descriptor.inputs)
    |>.found .required (by simp) (Port.decoder_restores.list descriptor.outputs)
    |>.found (.default []) (by simp) (Port.decoder_restores.list descriptor.config)

theorem readBack_eq_self_iff {descriptor : Descriptor} :
    descriptor.readBack = descriptor ↔
      ∀ port ∈ descriptor.ports, port.defaultValue ≠ some .null := by
  obtain ⟨type, category, label, description, inputs, outputs, config⟩ := descriptor
  simp only [readBack, ports, mk.injEq, true_and, map_readBack_eq_self_iff, List.forall_mem_append,
    and_assoc]

/-- A descriptor is always read back from the JSON written of it, and as it was but for the defaults
that are `null`, which are lost. They are lost from the schemas as well, as far as these show them;
the inputs that are required stay the same. -/
theorem reads_back_but_null_defaults (descriptor : Descriptor) :
    decoder.fromJson descriptor.toJson = .ok descriptor.readBack ∧
      (decoder.fromJson descriptor.toJson = .ok descriptor ↔
        ∀ port ∈ descriptor.ports, port.defaultValue ≠ some .null) ∧
      descriptor.readBack.requiredInputs = descriptor.requiredInputs ∧
      (descriptor.readBack.inputSchema = descriptor.inputSchema ↔
        ShowsNoNull descriptor.inputs) ∧
      (descriptor.readBack.outputSchema = descriptor.outputSchema ↔
        ShowsNoNull descriptor.outputs) ∧
      (descriptor.readBack.configSchema = descriptor.configSchema ↔
        ShowsNoNull descriptor.config) := by
  have read := decoder_restores.fromJson descriptor
  refine ⟨read, ?_, requiredIds_map_readBack descriptor.inputs,
    objectSchema_readBack_iff descriptor.inputs, objectSchema_readBack_iff descriptor.outputs,
    objectSchema_readBack_iff descriptor.config⟩
  rw [read, Except.ok.injEq]
  exact readBack_eq_self_iff

/-- A field whose default is `null` comes back without one, and its schema no longer shows it. -/
theorem null_default_lost :
    let descriptor : Descriptor :=
      { type := "t", category := .control, label := "T", description := ""
        inputs := [], outputs := []
        config := [(Port.optional "fallback" "Fallback" .any).withDefault .null] }
    ∃ read, decoder.fromJson descriptor.toJson = .ok read ∧ read ≠ descriptor ∧
      read.configSchema ≠ descriptor.configSchema := by
  intro descriptor
  refine ⟨_, decoder_restores.fromJson descriptor, ?_, ?_⟩
  · decide
  · decide

end Descriptor

end Flowline
