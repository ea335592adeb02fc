import Flowline.Proofs.Entries
import Flowline.Workflow.Format

/-!
Decoders against the encoders whose values they read. A record is read from an object field by
field: what is found under the name of a field is decoded, and what is left out takes its default.
Other fields of the object make no difference.
-/

namespace Flowline

namespace Entries

universe u v

variable {α : Type u} {β : Type v}

@[simp] theorem get?_ofList_append (front back : List (String × α)) (key : String) :
    get? (ofList (front ++ back)) key = (get? (ofList back) key).or (get? (ofList front) key) := by
  simp only [get?_ofList, List.filter_append, List.getLast?_append]
  cases ((back.filter fun pair => pair.1 == key).getLast?) <;> rfl

@[simp] theorem get?_ofList_nil (key : String) :
    get? (ofList ([] : List (String × α))) key = none :=
  rfl

theorem get?_ofList_singleton (name : String) (value : α) (key : String) :
    get? (ofList [(name, value)]) key = if name = key then some value else none := rfl

@[simp] theorem get?_ofList_cons (name : String) (value : α) (rest : List (String × α))
    (key : String) :
    get? (ofList ((name, value) :: rest)) key =
      (get? (ofList rest) key).or (if name = key then some value else none) :=
  get?_ofList_append [(name, value)] rest key

end Entries

namespace Json

open Decoder

variable {α β : Type}

@[simp] theorem get?_optionalField (name : String) (value : Option Json) (key : String) :
    Entries.get? (Entries.ofList (optionalField name value)) key =
      if name = key then value else none := by
  cases value with
  | none => exact (ite_self none).symm
  | some value => exact Entries.get?_ofList_singleton name value key

@[simp] theorem get?_nonEmptyField (name : String) (items : List Json) (key : String) :
    Entries.get? (Entries.ofList (nonEmptyField name items)) key =
      if name = key then (if items.isEmpty then none else some (.array items)) else none := by
  cases items with
  | nil => exact (ite_self none).symm
  | cons item rest =>
      exact Entries.get?_ofList_singleton name (Json.array (item :: rest)) key

/-- The decoder reads back what the encoder writes. -/
def Decoder.Inverts (decoder : Decoder α) (encode : α → Json) : Prop :=
  ∀ value, decoder (.value (encode value)) = .ok (value, [])

/-- Of what the encoder writes, the decoder reads back what `restore` leaves. -/
def Decoder.Restores (decoder : Decoder α) (encode : α → Json) (restore : α → α) : Prop :=
  ∀ value, decoder (.value (encode value)) = .ok (restore value, [])

namespace Decoder

variable {decoder : Decoder α} {encode : α → Json}

theorem Restores.fromJson {restore : α → α} (restores : decoder.Restores encode restore)
    (value : α) : decoder.fromJson (encode value) = .ok (restore value) := by
  rw [Decoder.fromJson, restores value]
  rfl

theorem Inverts.restores (inverts : decoder.Inverts encode) : decoder.Restores encode id :=
  inverts

theorem Inverts.fromJson (inverts : decoder.Inverts encode) (value : α) :
    decoder.fromJson (encode value) = .ok value :=
  inverts.restores.fromJson value

theorem string_inverts : string.Inverts .string := fun _ => rfl

theorem bool_inverts : bool.Inverts .bool := fun _ => rfl

theorem json_inverts : json.Inverts id := fun _ => rfl

theorem Restores.list {restore : α → α} (restores : decoder.Restores encode restore) :
    (list decoder).Restores (fun values => .array (values.map encode)) (List.map restore) := by
  intro values
  have read : listValues decoder (values.map encode) = .ok (values.map restore) := by
    induction values with
    | nil => rfl
    | cons first rest ih =>
        rw [List.map_cons, listValues, restores.fromJson, ih]
        rfl
  rw [Decoder.list, read]
  rfl

theorem Inverts.list (inverts : decoder.Inverts encode) :
    (list decoder).Inverts fun values => .array (values.map encode) := by
  intro values
  have read := inverts.restores.list values
  rwa [List.map_id] at read

theorem Inverts.entries (inverts : decoder.Inverts encode) :
    (entries decoder).Inverts fun table => .object (Entries.mapValues encode table) := by
  intro table
  have read : entryValues decoder (Entries.mapValues encode table) = .ok table := by
    induction table with
    | nil => rfl
    | cons first rest ih =>
        rw [Entries.mapValues, List.map_cons, entryValues, inverts.fromJson,
          ← Entries.mapValues, ih]
        rfl
  rw [Decoder.entries, read]
  rfl

theorem object_inverts : object.Inverts .object := by
  intro fields
  have same : Entries.mapValues id fields = fields := List.map_id _
  have read := json_inverts.entries fields
  simp only [same] at read
  exact read

theorem option_of_ne_null (decoder : Decoder α) {value : Json} (given : value ≠ .null) :
    option decoder (.value value) =
      (decoder (.value value)).map fun result => (some result.1, result.2) := by
  cases value with
  | null => exact absurd rfl given
  | _ => rfl

end Decoder

namespace Record

/-- From the fields of an object the record makes `value`. -/
structure Reads (record : Record α) (fields : Object) (value : α) : Prop where
  accepts : ∀ name ∈ record.names, ∀ json, Entries.get? fields name = some json →
    ∃ rest, record.check name (.value json) = .ok ((), rest)
  build : ∀ expected, record.build .named expected
    (fun name => (Entries.get? fields name).map .value) = .ok value

theorem make_reads (fields : Object) (value : α) : (make value).Reads fields value where
  accepts := fun _ listed => absurd listed List.not_mem_nil
  build := fun _ => rfl

variable {record : Record (α → β)} {fields : Object} {assemble : α → β} {name : String}

/-- The last field of a record decides about its own name, the others about theirs. -/
theorem field_accepts {decoder : Decoder α} {missing : Missing α}
    (reads : record.Reads fields assemble)
    (read : ∀ json, Entries.get? fields name = some json →
      ∃ result, decoder (.value json) = .ok result)
    (other : String) (listed : other ∈ (record.field name decoder missing).names) (json : Json)
    (found : Entries.get? fields other = some json) :
    ∃ rest, (record.field name decoder missing).check other (.value json) = .ok ((), rest) := by
  simp only [field]
  by_cases same : other = name
  · subst same
    obtain ⟨result, accepted⟩ := read json found
    rw [if_pos rfl, accepted]
    exact ⟨result.2, rfl⟩
  · rw [if_neg same]
    have earlier : other ∈ record.names :=
      (List.mem_append.mp listed).resolve_right fun last => same (List.mem_singleton.mp last)
    exact reads.accepts other earlier json found

theorem Reads.found (reads : record.Reads fields assemble) {decoder : Decoder α} {json : Json}
    {value : α} (missing : Missing α) (found : Entries.get? fields name = some json)
    (decoded : decoder (.value json) = .ok (value, [])) :
    (record.field name decoder missing).Reads fields (assemble value) where
  accepts := by
    refine field_accepts reads fun other also => ?_
    cases found.symm.trans also
    exact ⟨_, decoded⟩
  build := by
    intro expected
    simp only [field, reads.build, found, Option.map_some, decoded]
    rfl

theorem Reads.absent (reads : record.Reads fields assemble) (decoder : Decoder α) (value : α)
    (absent : Entries.get? fields name = none) :
    (record.field name decoder (.default value)).Reads fields (assemble value) where
  accepts := by
    refine field_accepts reads fun other also => ?_
    cases absent.symm.trans also
  build := by
    intro expected
    simp only [field, reads.build, absent, Option.map_none]
    rfl

section Encoded

variable {decoder : Decoder α} {encode : α → Json}

theorem Reads.field (reads : record.Reads fields assemble) (inverts : decoder.Inverts encode)
    (missing : Missing α) {value : α} (held : Entries.get? fields name = some (encode value)) :
    (record.field name decoder missing).Reads fields (assemble value) :=
  reads.found missing held (inverts value)

/-- A value that may be absent is left out, and never written as `null`. -/
theorem Reads.optional {record : Record (Option α → β)} {assemble : Option α → β}
    (reads : record.Reads fields assemble) (inverts : decoder.Inverts encode)
    (given : ∀ value, encode value ≠ .null) {value : Option α}
    (held : Entries.get? fields name = value.map encode) :
    (record.field name (option decoder) (.default none)).Reads fields (assemble value) := by
  cases value with
  | none => exact reads.absent _ none held
  | some value =>
      refine reads.found _ held ?_
      rw [option_of_ne_null decoder (given value), inverts value]
      rfl

theorem Reads.listed {record : Record (List α → β)} {assemble : List α → β}
    (reads : record.Reads fields assemble) (inverts : decoder.Inverts encode) {values : List α}
    (held : Entries.get? fields name =
      if values.isEmpty then none else some (.array (values.map encode))) :
    (record.field name (list decoder) (.default [])).Reads fields (assemble values) := by
  cases values with
  | nil => exact reads.absent _ [] held
  | cons first rest => exact reads.field inverts.list _ held

end Encoded

theorem checkFields_eq_ok {record : Record α} {pairs : List (String × Json)}
    (accepts : ∀ pair ∈ pairs, pair.1 ∈ record.names →
      ∃ rest, record.check pair.1 (.value pair.2) = .ok ((), rest)) :
    record.checkFields pairs = .ok () := by
  induction pairs with
  | nil => rfl
  | cons pair rest ih =>
      obtain ⟨name, json⟩ := pair
      have remaining := ih fun other member => accepts other (List.mem_cons_of_mem _ member)
      rw [checkFields, remaining]
      by_cases known : name ∈ record.names
      · obtain ⟨left, accepted⟩ := accepts (name, json) List.mem_cons_self known
        rw [if_pos (List.contains_iff_mem.mpr known), accepted]
        rfl
      · rw [if_neg (mt List.contains_iff_mem.mp known)]

theorem Reads.decoder {record : Record α} {pairs : List (String × Json)} {value : α}
    (reads : record.Reads (Entries.ofList pairs) value) (name : String) :
    record.decoder name (.value (ofFields pairs)) = .ok (value, []) := by
  have unique := (Entries.sorted_ofList pairs).nodup_keys
  have checked : record.checkFields (Entries.ofList pairs) = .ok () :=
    checkFields_eq_ok fun pair member listed =>
      reads.accepts pair.1 listed pair.2 ((Entries.get?_eq_some_iff unique).mpr member)
  simp only [ofFields, Record.decoder, checked, reads.build]
  rfl

/-- What is read of a field in an object. -/
def readField (decoder : Decoder α) (missing : Missing α) (name : String) :
    Option Json → Except ReadError α
  | some json => decoder.fromJson json
  | none =>
    match missing with
    | .default value => .ok value
    | .optional value => .ok value
    | .required => .error (.missingField name)

theorem build_field (record : Record (α → β)) (name : String) (decoder : Decoder α)
    (missing : Missing α) (expected : String) (fields : Object) :
    (record.field name decoder missing).build .named expected
        (fun key => (Entries.get? fields key).map .value) =
      (record.build .named expected fun key => (Entries.get? fields key).map .value).bind
        fun make => (readField decoder missing name (Entries.get? fields name)).map make := by
  simp only [field, bind, readField, fromJson]
  congr 1
  funext make
  cases Entries.get? fields name with
  | none => cases missing <;> rfl
  | some json => cases found : decoder (.value json) <;> simp [found, Except.map, Except.bind]

theorem fromJson_decoder (record : Record α) (name : String) (fields : Object) :
    (record.decoder name).fromJson (.object fields) =
      (record.checkFields fields).bind fun _ =>
        record.build .named
          ("struct " ++ name ++ " with " ++ elementsText record.names.length)
          fun key => (Entries.get? fields key).map .value := by
  simp only [Record.decoder, fromJson, bind]
  cases record.checkFields fields with
  | error error => rfl
  | ok checked =>
      simp only [Except.bind]
      split <;> simp_all [Except.map]

theorem checkFields_insert (record : Record α) {key : String} {value : Json} (other : Json)
    (same : record.check key (.value value) = record.check key (.value other)) (fields : Object) :
    record.checkFields (Entries.insert fields key value) =
      record.checkFields (Entries.insert fields key other) := by
  induction fields with
  | nil => simp only [Entries.insert, checkFields, same]
  | cons first rest ih =>
      unfold Entries.insert
      split
      · simp only [checkFields, same]
      · split
        · simp only [checkFields, same]
        · simp only [checkFields, ih]

end Record

end Json

end Flowline
