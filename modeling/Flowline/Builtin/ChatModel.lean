import Flowline.Lookup
import Flowline.NodeSettings
import Flowline.Stamps

/-!
The node that stands in for a chat model: it answers with the prompt, behind the system prompt in
brackets, cut after so many words.
-/

namespace Flowline

def chatModelDescriptor : Descriptor where
  type := "chat_model"
  category := .ai
  label := "Chat Model"
  description := "Generates a chat response"
  inputs := [.mandatory "prompt" "Prompt" .string,
    .optional "systemPrompt" "System prompt" .string]
  outputs := [.optional "response" "Response" .string, .optional "model" "Model" .string,
    .optional "usage" "Usage" .json]
  config := [.optional "model" "Model" .string, .optional "temperature" "Temperature" .number,
    .optional "maxTokens" "Max tokens" .number,
    .optional "systemPrompt" "System prompt" .string]

def chatReply (systemPrompt prompt : String) (maxTokens : Option Nat) : String :=
  let reply := if systemPrompt.isEmpty then prompt else "[" ++ systemPrompt ++ "] " ++ prompt
  match maxTokens with
  | none => reply
  | some limit => " ".intercalate ((Text.words reply).take limit)

/-- Whole numbers from one on; less counts as no limit. -/
def tokenLimit? (config : Json.Object) : Option Nat :=
  ((Json.Object.float? config "maxTokens").map (Binary64.floorUpTo (UInt64.size - 1))).filter
    fun limit => decide (1 ≤ limit)

def chatUsage (promptTokens completionTokens : Nat) : Json :=
  Json.ofFields [
    ("promptTokens", Json.ofNat promptTokens),
    ("completionTokens", Json.ofNat completionTokens),
    ("totalTokens", Json.ofNat (promptTokens + completionTokens))]

def chat (defaults : ChatDefaults) (stamps : Stamps) (inputs config : Json.Object) : Output :=
  let prompt := lookupText inputs "prompt"
  let systemPrompt :=
    ((lookupOrConfig inputs config "systemPrompt").map Json.plainText).getD ""
  let temperature := (Json.Object.float? config "temperature").getD defaults.temperature
  let response := chatReply systemPrompt prompt (tokenLimit? config)
  .ofFields [
    ("response", .string response),
    ("model", .string (Json.Object.stringOr config "model" defaults.model)),
    ("temperature", Json.ofFloat temperature),
    ("usage", chatUsage (Text.words prompt).length (Text.words response).length),
    ("id", .string ("chatcmpl-" ++ stamps.id)),
    ("created", stamps.created)]

def chatModel {σ : Type} (defaults : ChatDefaults) (stamps : Stamps) : Processor σ :=
  .pure chatModelDescriptor (fun inputs config => .ok (chat defaults stamps inputs config))
    chatModelDescriptor.inputsFound

end Flowline
