import Flowline.Processor
import Flowline.Stamps

/-!
The node that starts a flow on demand: it puts out the configured payload, overlaid with whatever
reaches the node.
-/

namespace Flowline

variable {σ : Type}

def manualTriggerDescriptor : Descriptor where
  type := "manual_trigger"
  category := .input
  label := "Manual Trigger"
  description := "Starts the workflow when run manually"
  inputs := []
  outputs := [.optional "triggered" "Triggered" .boolean,
    .optional "timestamp" "Timestamp" .string, .optional "data" "Data" .json]
  config := [.optional "payload" "Payload" .json]

def triggerManually (stamps : Stamps) (inputs config : Json.Object) : Output :=
  let payload := ((Entries.get? config "payload").bind Json.object?).getD []
  .ofFields [
    ("triggered", .bool true),
    ("timestamp", .string stamps.timestamp),
    ("data", .object (Entries.overlay payload inputs))]

def manualTrigger (stamps : Stamps) : Processor σ :=
  .pure manualTriggerDescriptor fun inputs config => .ok (triggerManually stamps inputs config)

end Flowline
