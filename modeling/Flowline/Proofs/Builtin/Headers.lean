import Flowline.Proofs.Builtin.Sending

/-!
The headers that a free request is sent with. Under each spelling of a name stands what the input
gives for it, or else what is configured. Names are the same whatever their case, though: the input
overrides the configuration, and each name is sent once, just if no name comes in two spellings.
-/

namespace Flowline

open Http (Request Response HttpError Client Traffic)

variable {σ : Type}

namespace Http

/-- Header names that differ in case only are the same name. -/
def nameKey (name : String) : List Char := name.toList.map Char.toLower

/-- What a header is sent with; `null` stands for no header. -/
def headerText? (value : Json) : Option String :=
  if value.isNull then none else some value.plainText

/-- What an object of headers offers under one spelling of a name. -/
def offered? (headers : Option Json) (name : String) : Option String :=
  (headers.bind (Json.field? · name)).bind headerText?

/-- The name is spelled so in the input or in the configuration. -/
def Offered (configured given : Option Json) (name : String) : Prop :=
  (offered? given name).isSome ∨ (offered? configured name).isSome

/-- No name comes in two spellings. -/
def SpelledAlike (configured given : Option Json) : Prop :=
  ∀ left right, Offered configured given left → Offered configured given right →
    nameKey left = nameKey right → left = right

/-- Each name is there once, with what the input gives for it or else with what is configured. -/
structure Overrides (configured given : Option Json) (headers : Entries String) : Prop where
  once : ((Entries.keys headers).map nameKey).Nodup
  fromInput : ∀ name text, offered? given name = some text →
    ∃ header ∈ headers, nameKey header.1 = nameKey name ∧ header.2 = text
  fromConfig : ∀ name text, (∀ other, nameKey other = nameKey name → offered? given other = none) →
    offered? configured name = some text →
      ∃ header ∈ headers, nameKey header.1 = nameKey name ∧ header.2 = text
  only : ∀ header ∈ headers, ∃ name, nameKey name = nameKey header.1 ∧ Offered configured given name

/-- As in every object, the names ascend, so that none is there twice. -/
def Ascending (headers : Option Json) : Prop :=
  ∀ fields, headers = some (.object fields) → Entries.Sorted fields

theorem ascending_object {fields : Json.Object} (sorted : Entries.Sorted fields) :
    Ascending (some (.object fields)) := by
  intro other same
  cases same
  exact sorted

namespace Request

theorem get?_addHeader (headers : Entries String) (entry : String × Json) (name : String) :
    Entries.get? (addHeader headers entry) name =
      if entry.1 = name then (headerText? entry.2).or (Entries.get? headers name)
      else Entries.get? headers name := by
  obtain ⟨key, value⟩ := entry
  cases value with
  | null => simp [addHeader, headerText?, Json.isNull]
  | _ =>
      simp only [addHeader, headerText?, Json.isNull, Entries.get?_insert]
      rfl

theorem sorted_addHeader {headers : Entries String} (sorted : Entries.Sorted headers)
    (entry : String × Json) : Entries.Sorted (addHeader headers entry) := by
  unfold addHeader
  split
  · exact sorted
  · exact sorted.insert _ _

theorem get?_foldl_addHeader {fields : Json.Object} (unique : (Entries.keys fields).Nodup)
    (headers : Entries String) (name : String) :
    Entries.get? (fields.foldl addHeader headers) name =
      ((Entries.get? fields name).bind headerText?).or (Entries.get? headers name) := by
  induction fields generalizing headers with
  | nil => rfl
  | cons first rest ih =>
      obtain ⟨absent, unique⟩ := List.nodup_cons.mp unique
      rw [List.foldl_cons, ih unique, get?_addHeader, Entries.get?]
      split
      · rename_i same
        subst same
        rw [Entries.get?_eq_none_iff.mpr absent]
        rfl
      · rfl

theorem sorted_foldl_addHeader (fields : Json.Object) {headers : Entries String}
    (sorted : Entries.Sorted headers) : Entries.Sorted (fields.foldl addHeader headers) := by
  induction fields generalizing headers with
  | nil => exact sorted
  | cons first rest ih => exact ih (sorted_addHeader sorted first)

variable (request : Request)

/-- What an object offers under a name takes the place of what was there. -/
theorem get?_withHeaders {headers : Option Json} (ascending : Ascending headers) (name : String) :
    Entries.get? (request.withHeaders headers).headers name =
      (offered? headers name).or (Entries.get? request.headers name) := by
  unfold withHeaders
  split
  · rename_i fields
    exact get?_foldl_addHeader (ascending fields rfl).nodup_keys request.headers name
  · rename_i other
    have nothing : offered? headers name = none := by
      cases headers with
      | none => rfl
      | some value =>
          cases value with
          | object fields => exact absurd rfl (other fields)
          | _ => rfl
    rw [nothing, Option.none_or]

theorem sorted_withHeaders (headers : Option Json) (sorted : Entries.Sorted request.headers) :
    Entries.Sorted (request.withHeaders headers).headers := by
  unfold withHeaders
  split
  · exact sorted_foldl_addHeader _ sorted
  · exact sorted

theorem headers_withTimeouts {nodeType : String} {config : Json.Object} {timed : Request}
    (kept : request.withTimeouts nodeType config = .ok timed) :
    timed.headers = request.headers := by
  obtain ⟨timeout, _, kept⟩ := bind_eq_ok_iff.mp kept
  obtain ⟨connectTimeout, _, kept⟩ := bind_eq_ok_iff.mp kept
  cases kept
  rfl

end Request

end Http

section Assembled

variable {defaults : HttpDefaults} {inputs config : Json.Object} {request : Request}

theorem headers_freeRequest (assembled : freeRequest defaults inputs config = .ok request) :
    ∃ bare : Request, bare.headers = [] ∧
      request.headers = ((bare.withHeaders (Entries.get? config "headers")).withHeaders
        (lookup inputs "headers")).headers := by
  obtain ⟨url, _, assembled⟩ := bind_eq_ok_iff.mp assembled
  obtain ⟨timed, kept, assembled⟩ := bind_eq_ok_iff.mp assembled
  cases assembled
  exact ⟨timed, Request.headers_withTimeouts _ kept, rfl⟩

/-- Only a request that has been put together is sent. -/
theorem assembled_of_sent {client : Client σ} {assembled : Except RunError Request}
    {told : Except HttpError Response → List (String × Json)} {state : σ}
    {answer : Except HttpError Response}
    (sent : (request, answer) ∈ (exchange client.noted assembled told (state, [])).2.2) :
    assembled = .ok request := by
  cases assembled with
  | error error => cases sent
  | ok assembled =>
      cases List.mem_singleton.mp sent
      rfl

end Assembled

namespace Http

variable {configured given : Option Json} {headers : Entries String}

theorem mem_keys_iff_offered
    (found : ∀ name,
      Entries.get? headers name = (offered? given name).or (offered? configured name))
    (name : String) : name ∈ Entries.keys headers ↔ Offered configured given name := by
  rw [← Entries.has_iff, Entries.has, found, Option.isSome_or, Bool.or_eq_true, Offered]

/-- What stands under each spelling is as the names require just if they are spelled alike. -/
theorem overrides_iff (sorted : Entries.Sorted headers)
    (found : ∀ name,
      Entries.get? headers name = (offered? given name).or (offered? configured name)) :
    Overrides configured given headers ↔ SpelledAlike configured given := by
  have named := mem_keys_iff_offered found
  have unique := sorted.nodup_keys
  have listed {name text : String} (there : Entries.get? headers name = some text) :
      (name, text) ∈ headers := (Entries.get?_eq_some_iff unique).mp there
  constructor
  · intro overrides left right leftOffered rightOffered same
    exact List.inj_on_of_nodup_map overrides.once ((named left).mpr leftOffered)
      ((named right).mpr rightOffered) same
  · intro alike
    refine ⟨unique.map_on ?_, ?_, ?_, ?_⟩
    · intro left leftKey right rightKey same
      exact alike left right ((named left).mp leftKey) ((named right).mp rightKey) same
    · intro name text offered
      refine ⟨(name, text), listed ?_, rfl, rfl⟩
      rw [found, offered, Option.some_or]
    · intro name text ungiven offered
      refine ⟨(name, text), listed ?_, rfl, rfl⟩
      rw [found, ungiven name rfl, offered, Option.none_or]
    · intro header member
      exact ⟨header.1, rfl, (named header.1).mp (List.mem_map_of_mem member)⟩

end Http

open Http (Ascending offered? Overrides SpelledAlike)

/-- Under each spelling of a name, a request is sent with what the input gives, or else with what is
configured. So the input overrides the configuration, and each name is sent once, just if no name
comes in two spellings. -/
theorem sent_headers (client : Client σ) (defaults : HttpDefaults) {inputs config : Json.Object}
    (configuredAscending : Ascending (Entries.get? config "headers"))
    (givenAscending : Ascending (lookup inputs "headers")) (state : σ) {request : Request}
    {answer : Except HttpError Response}
    (sent : (request, answer) ∈
      ((httpRequest client.noted defaults).process inputs config (state, [])).2.2) :
    Entries.Sorted request.headers ∧
      (∀ name, Entries.get? request.headers name =
        (offered? (lookup inputs "headers") name).or
          (offered? (Entries.get? config "headers") name)) ∧
      (Overrides (Entries.get? config "headers") (lookup inputs "headers") request.headers ↔
        SpelledAlike (Entries.get? config "headers") (lookup inputs "headers")) := by
  obtain ⟨bare, empty, headers⟩ := headers_freeRequest (assembled_of_sent sent)
  have sorted : Entries.Sorted request.headers := by
    rw [headers]
    refine Request.sorted_withHeaders _ _ (Request.sorted_withHeaders _ _ ?_)
    rw [empty]
    exact List.Pairwise.nil
  have found (name : String) : Entries.get? request.headers name =
      (offered? (lookup inputs "headers") name).or
        (offered? (Entries.get? config "headers") name) := by
    rw [headers, Request.get?_withHeaders _ givenAscending,
      Request.get?_withHeaders _ configuredAscending, empty, Entries.get?_nil, Option.or_none]
  exact ⟨sorted, found, Http.overrides_iff sorted found⟩

/-- The requests that a script is sent. -/
def scripted (inputs config : Json.Object) : Traffic :=
  ((httpRequest Http.Script.client.noted {}).process inputs config ({}, [])).2.2

def tokenConfigured : Json.Object :=
  [("headers", .object [("X-Count", Json.ofNat 3), ("X-Token", .string "configured")]),
    ("url", .string "http://example")]

def tokenGiven : Json := .object [("Accept", .null), ("X-Token", .string "given")]

/-- In the same spelling, the token that is given takes the place of the configured one. -/
theorem sent_headers_replaced :
    ∃ request answer, (request, answer) ∈ scripted [("headers", tokenGiven)] tokenConfigured ∧
      request.headers = [("X-Count", "3"), ("X-Token", "given")] ∧
      Overrides (Entries.get? tokenConfigured "headers") (some tokenGiven) request.headers := by
  have configuredAscending : Ascending (Entries.get? tokenConfigured "headers") :=
    Http.ascending_object (List.pairwise_pair.mpr (by decide))
  have givenAscending : Ascending (lookup [("headers", tokenGiven)] "headers") :=
    Http.ascending_object (List.pairwise_pair.mpr (by decide))
  obtain ⟨request, answer, sent, headers⟩ : ∃ request answer,
      (request, answer) ∈ scripted [("headers", tokenGiven)] tokenConfigured ∧
        request.headers = [("X-Count", "3"), ("X-Token", "given")] :=
    ⟨_, _, List.mem_singleton_self _, by decide +kernel⟩
  obtain ⟨_, found, overrides_iff⟩ :=
    sent_headers Http.Script.client {} configuredAscending givenAscending {} sent
  refine ⟨request, answer, sent, headers, overrides_iff.mpr ?_⟩
  have offered (name : String) (offered : Http.Offered (Entries.get? tokenConfigured "headers")
      (lookup [("headers", tokenGiven)] "headers") name) : name = "X-Count" ∨ name = "X-Token" := by
    have listed := (Http.mem_keys_iff_offered found name).mpr offered
    simpa [headers, Entries.keys] using listed
  intro left right leftOffered rightOffered same
  rcases offered left leftOffered with rfl | rfl <;>
    rcases offered right rightOffered with rfl | rfl
  · rfl
  · exact absurd same (by decide)
  · exact absurd same (by decide)
  · rfl

/-- In another spelling, the token that is given is sent beside the configured one. -/
theorem spellings_side_by_side :
    let config : Json.Object := [("headers", .object [("X-Token", .string "configured")]),
      ("url", .string "http://example")]
    let given : Json := .object [("x-token", .string "given")]
    (scripted [("headers", given)] config).map (fun exchanged => exchanged.1.headers) =
        [[("X-Token", "configured"), ("x-token", "given")]] ∧
      ¬ Overrides (Entries.get? config "headers") (some given)
        [("X-Token", "configured"), ("x-token", "given")] := by
  intro config given
  refine ⟨by decide +kernel, fun overrides => ?_⟩
  exact absurd overrides.once (by decide)

end Flowline
