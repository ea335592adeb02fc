import Flowline.Builtin.Exchange
import Flowline.Http.Script
import Flowline.Proofs.Except
import Flowline.Proofs.Json.Records

/-!
What the HTTP nodes send. A node that fails has sent nothing; one that answers has sent one request,
and what it tells of success is what the client answered. It answers whenever it has an address and
the timeouts can be kept.
-/

namespace Flowline

variable {σ : Type}

namespace Http

abbrev Traffic : Type := List (Request × Except HttpError Response)

/-- The client, with the requests it is sent and its answers noted down. -/
def Client.noted (client : Client σ) : Client (σ × Traffic) where
  send := fun request world =>
    let (answer, state) := client.send request world.1
    (answer, state, world.2 ++ [(request, answer)])

/-- A response with a status from 200 to 299. -/
def Delivered (answer : Except HttpError Response) : Prop :=
  ∃ response, answer = .ok response ∧ 200 ≤ response.status ∧ response.status < 300

theorem delivered_ok_iff {response : Response} :
    Delivered (.ok response) ↔ response.isSuccess = true := by
  simp [Delivered, Response.isSuccess]

theorem not_delivered_error (error : HttpError) : ¬ Delivered (.error error) := nofun

end Http

open Http (Request Response HttpError Client Traffic Delivered)

/-- The output tells of success just if the answer does, and has an error just if it does not. -/
structure Output.Tells (output : Output) (answer : Except HttpError Response) : Prop where
  success : ∃ success, output.get? "success" = some (.bool success) ∧
    (success = true ↔ Delivered answer)
  error : (∃ problem, output.get? "error" = some problem) ↔
    output.get? "success" = some (.bool false)

section Told

variable {front others : List (String × Json)}

theorem get?_ofFields_append (front : List (String × Json)) {key : String}
    (apart : ∀ field ∈ others, field.1 ≠ key) :
    (Output.ofFields (front ++ others)).get? key = (Output.ofFields front).get? key := by
  have absent : Entries.get? (Entries.ofList others) key = none :=
    Entries.get?_ofList_eq_none apart
  simp [Output.ofFields, Output.get?, absent]

/-- Further fields make no difference if they have other names. -/
theorem Output.Tells.append {answer : Except HttpError Response}
    (tells : (Output.ofFields front).Tells answer)
    (apart : ∀ field ∈ others, field.1 ≠ "success" ∧ field.1 ≠ "error") :
    (Output.ofFields (front ++ others)).Tells answer := by
  have success := get?_ofFields_append front fun field member => (apart field member).1
  have problem := get?_ofFields_append front fun field member => (apart field member).2
  constructor
  · rw [success]
    exact tells.success
  · rw [success, problem]
    exact tells.error

theorem tells_failureFields (url : String) (error : HttpError) :
    (Output.ofFields (failureFields url error)).Tells (.error error) where
  success := ⟨false, by simp [Output.ofFields, Output.get?, failureFields],
    iff_of_false Bool.false_ne_true (Http.not_delivered_error error)⟩
  error := by simp [Output.ofFields, Output.get?, failureFields]

theorem tells_responseFields (url : String) (response : Response) :
    (Output.ofFields (responseFields url response)).Tells (.ok response) where
  success := by
    refine ⟨response.isSuccess, ?_, Http.delivered_ok_iff.symm⟩
    cases outcome : response.isSuccess <;>
      simp [Output.ofFields, Output.get?, responseFields, outcome]
  error := by
    cases outcome : response.isSuccess <;>
      simp [Output.ofFields, Output.get?, responseFields, outcome]

end Told

section Assembling

variable (nodeType : String) {config : Json.Object}

theorem exists_requireUrl_iff {value : Option Json} :
    (∃ url, requireUrl value = .ok url) ↔
      ∃ json, value = some json ∧ Text.isBlankText json.plainText = false := by
  unfold requireUrl
  cases value with
  | none => simp
  | some json => cases blank : Text.isBlankText json.plainText <;> simp [Option.filter, blank]

/-- If a timeout is configured, it is either none in effect or a span of time. -/
def Keepable (config : Json.Object) (key : String) : Prop :=
  ∀ secs, Json.Object.float? config key = some secs →
    secs.isNaN = true ∨ Binary64.orderKey secs ≤ 0 ∨
      ∃ duration, Duration.ofFloat? secs = some duration

theorem exists_configuredTimeout_iff (key : String) :
    (∃ timeout, Request.configuredTimeout nodeType config key = .ok timeout) ↔
      Keepable config key := by
  unfold Request.configuredTimeout Keepable
  cases Json.Object.float? config key with
  | none => exact iff_of_true ⟨none, rfl⟩ nofun
  | some secs =>
      simp only [Option.some.injEq, forall_eq']
      by_cases idle : (secs.isNaN || decide (Binary64.orderKey secs ≤ 0)) = true
      · refine iff_of_true ⟨none, if_pos idle⟩ ?_
        rw [Bool.or_eq_true, decide_eq_true_iff] at idle
        exact idle.imp_right Or.inl
      · simp only [if_neg idle]
        rw [Bool.or_eq_true, decide_eq_true_iff, not_or] at idle
        rw [or_iff_right idle.1, or_iff_right idle.2]
        cases Duration.ofFloat? secs with
        | none => exact iff_of_false nofun nofun
        | some duration => exact iff_of_true ⟨_, rfl⟩ ⟨_, rfl⟩

theorem exists_withTimeouts_iff (request : Request) :
    (∃ timed, request.withTimeouts nodeType config = .ok timed) ↔
      Keepable config "timeout" ∧ Keepable config "connectTimeout" := by
  rw [← exists_configuredTimeout_iff nodeType "timeout",
    ← exists_configuredTimeout_iff nodeType "connectTimeout"]
  exact exists_bind_eq_ok_iff fun timeout => exists_bind_ok_eq_ok_iff

end Assembling

/-- The nodes that send requests. -/
inductive Sender where
  | request
  | webhook
  | page

namespace Sender

def processor (sender : Sender) (client : Client σ) (defaults : HttpDefaults) (stamps : Stamps) :
    Processor σ :=
  match sender with
  | .request => httpRequest client defaults
  | .webhook => Flowline.webhook client defaults stamps
  | .page => urlFetch client defaults

/-- The request that is put together. -/
def assemble (sender : Sender) (defaults : HttpDefaults) (stamps : Stamps)
    (inputs config : Json.Object) : Except RunError Request :=
  match sender with
  | .request => freeRequest defaults inputs config
  | .webhook => deliveryRequest defaults stamps inputs config
  | .page => pageRequest defaults inputs config

/-- Where the address is looked for: a webhook has it in its configuration only. -/
def address? (sender : Sender) (inputs config : Json.Object) : Option Json :=
  match sender with
  | .request | .page => lookupOrConfig inputs config "url"
  | .webhook => Entries.get? config "url"

/-- What is told of the answer. -/
def fields (sender : Sender) (stamps : Stamps) (inputs config : Json.Object) :
    Except HttpError Response → List (String × Json) :=
  let url := urlText (sender.address? inputs config)
  match sender with
  | .request => freeFields url
  | .webhook => deliveryFields stamps url
  | .page => pageFields (lengthLimit? config) url

theorem process_eq (sender : Sender) (client : Client σ) (defaults : HttpDefaults)
    (stamps : Stamps) (inputs config : Json.Object) :
    (sender.processor client defaults stamps).process inputs config =
      exchange client (sender.assemble defaults stamps inputs config)
        (sender.fields stamps inputs config) := by
  cases sender <;> rfl

theorem tells_fields (sender : Sender) (stamps : Stamps) (inputs config : Json.Object)
    (answer : Except HttpError Response) :
    (Output.ofFields (sender.fields stamps inputs config answer)).Tells answer := by
  cases answer with
  | error error =>
      have tells := tells_failureFields (urlText (sender.address? inputs config)) error
      cases sender with
      | request => exact tells
      | webhook => exact tells.append (by simp)
      | page => exact tells
  | ok response =>
      have tells := tells_responseFields (urlText (sender.address? inputs config)) response
      cases sender <;> exact tells.append (by simp)

/-- There is an address, and both timeouts can be kept. -/
structure Sendable (sender : Sender) (inputs config : Json.Object) : Prop where
  addressed : ∃ url, sender.address? inputs config = some url ∧
    Text.isBlankText url.plainText = false
  timeout : Keepable config "timeout"
  connectTimeout : Keepable config "connectTimeout"

theorem exists_assemble_iff (sender : Sender) (defaults : HttpDefaults) (stamps : Stamps)
    (inputs config : Json.Object) :
    (∃ request, sender.assemble defaults stamps inputs config = .ok request) ↔
      sender.Sendable inputs config := by
  have assembled : (∃ request, sender.assemble defaults stamps inputs config = .ok request) ↔
      (∃ url, requireUrl (sender.address? inputs config) = .ok url) ∧
        Keepable config "timeout" ∧ Keepable config "connectTimeout" := by
    cases sender with
    | request =>
        refine exists_bind_eq_ok_iff fun url => ?_
        exact exists_bind_ok_eq_ok_iff.trans (exists_withTimeouts_iff _ _)
    | webhook =>
        refine exists_bind_eq_ok_iff fun url => ?_
        exact exists_bind_ok_eq_ok_iff.trans (exists_withTimeouts_iff _ _)
    | page => exact exists_bind_eq_ok_iff fun url => exists_withTimeouts_iff _ _
  rw [assembled, exists_requireUrl_iff]
  exact ⟨fun ⟨addressed, timeout, connectTimeout⟩ => ⟨addressed, timeout, connectTimeout⟩,
    fun sendable => ⟨sendable.addressed, sendable.timeout, sendable.connectTimeout⟩⟩

end Sender

section Exchange

variable (client : Client σ) (request : Except RunError Request)
  (told : Except HttpError Response → List (String × Json)) (state : σ) (traffic : Traffic)

/-- What is noted down changes nothing else. -/
theorem exchange_eq_noted :
    exchange client request told state =
      ((exchange client.noted request told (state, traffic)).1,
        (exchange client.noted request told (state, traffic)).2.1) := by
  cases request <;> rfl

end Exchange

/-- A node that fails has sent nothing, and one that answers has sent one request; its output tells
of success just if the client answered with a response of success, and of an error otherwise. It
answers just if it has an address and timeouts that can be kept. -/
theorem send_atomic (sender : Sender) (client : Client σ) (defaults : HttpDefaults)
    (stamps : Stamps) (inputs config : Json.Object) (state : σ) (traffic : Traffic) :
    let run := (sender.processor client.noted defaults stamps).process inputs config
      (state, traffic)
    (∀ error, run.1 = .error error → run.2 = (state, traffic)) ∧
      (∀ output, run.1 = .ok output → ∃ request answer,
        client.send request state = (answer, run.2.1) ∧
          run.2.2 = traffic ++ [(request, answer)] ∧ output.Tells answer) ∧
      ((∃ output, run.1 = .ok output) ↔ sender.Sendable inputs config) ∧
      (sender.processor client defaults stamps).process inputs config state =
        (run.1, run.2.1) := by
  intro run
  have ran : run = exchange client.noted (sender.assemble defaults stamps inputs config)
      (sender.fields stamps inputs config) (state, traffic) := by
    simp only [run, sender.process_eq]
  rw [sender.process_eq, exchange_eq_noted client _ _ state traffic, ← ran,
    ← sender.exists_assemble_iff defaults stamps]
  cases assembled : sender.assemble defaults stamps inputs config with
  | error error =>
      rw [assembled] at ran
      rw [ran]
      refine ⟨fun _ _ => rfl, nofun, iff_of_false nofun nofun, rfl⟩
  | ok request =>
      rw [assembled] at ran
      rw [ran]
      refine ⟨nofun, fun output put => ?_, iff_of_true ⟨_, rfl⟩ ⟨_, rfl⟩, rfl⟩
      cases put
      exact ⟨request, _, rfl, rfl, sender.tells_fields stamps inputs config _⟩

/-- A client that has an answer for one request: nothing is found. -/
def unhelpful : Http.Script := { answers := [.ok { status := 404, body := "" }] }

theorem send_atomic_unhelpful :
    let run (config : Json.Object) :=
      (Sender.webhook.processor Http.Script.client.noted {} .placeholder).process [] config
        (unhelpful, [])
    (∃ output, (run [("url", .string "http://example")]).1 = .ok output ∧
      (run [("url", .string "http://example")]).2.2.length = 1 ∧
      output.get? "success" = some (.bool false) ∧
      ∃ problem, output.get? "error" = some problem) ∧
    (run [("url", .string " ")]).1 = .error (.missingInput "url") ∧
      (run [("url", .string " ")]).2 = (unhelpful, []) := by
  intro run
  have unset (key : String) (apart : key ≠ "url") (url : String) :
      Keepable [("url", .string url)] key := by
    intro secs found
    simp [Json.Object.float?, Entries.get?, Ne.symm apart] at found
  obtain ⟨_, answers, answers_iff, _⟩ := send_atomic .webhook Http.Script.client {} .placeholder []
    [("url", .string "http://example")] unhelpful []
  obtain ⟨refuses, _⟩ := send_atomic .webhook Http.Script.client {} .placeholder []
    [("url", .string " ")] unhelpful []
  obtain ⟨output, put⟩ := answers_iff.mpr
    ⟨⟨_, rfl, by decide +kernel⟩, unset _ (by decide) _, unset _ (by decide) _⟩
  obtain ⟨request, answer, sent, noted, tells⟩ := answers output put
  obtain ⟨success, told, delivered⟩ := tells.success
  have missed : ¬ Delivered answer := by
    cases sent
    rintro ⟨response, given, _, below⟩
    cases given
    exact absurd below (by decide)
  have unsuccessful : success = false := Bool.eq_false_iff.mpr (mt delivered.mp missed)
  rw [unsuccessful] at told
  have blank : (run [("url", .string " ")]).1 = .error (.missingInput "url") := by
    decide +kernel
  refine ⟨⟨output, put, ?_, told, tells.error.mpr told⟩, blank, refuses _ blank⟩
  exact congrArg List.length noted

end Flowline
