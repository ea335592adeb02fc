import Flowline.Context
import Flowline.Proofs.Json.Records

/-!
Workflows, outputs and contexts are read back from the JSON that is written of them: what is left
out in writing is what reading puts in for a missing field.
-/

namespace Flowline

open Json (Record)
open Json.Record (make_reads)
open Json.Decoder (string_inverts json_inverts object_inverts)

theorem Json.string_ne_null (text : String) : Json.string text ≠ .null := nofun

namespace Workflow

theorem Node.decoder_inverts : Node.decoder.Inverts Node.toJson := by
  intro node
  refine Record.Reads.decoder ?_ _
  exact (make_reads _ Node.mk).field string_inverts .required (by simp)
    |>.field string_inverts .required (by simp)
    |>.field json_inverts (.default .null) (by simp)
    |>.optional string_inverts Json.string_ne_null (by simp)

theorem Edge.decoder_inverts : Edge.decoder.Inverts Edge.toJson := by
  intro edge
  refine Record.Reads.decoder ?_ _
  exact (make_reads _ Edge.mk).field string_inverts (.default "") (by simp)
    |>.field string_inverts .required (by simp)
    |>.field string_inverts .required (by simp)
    |>.optional string_inverts Json.string_ne_null (by simp)
    |>.optional string_inverts Json.string_ne_null (by simp)

theorem Connection.decoder_inverts : Connection.decoder.Inverts Connection.toJson := by
  intro connection
  refine Record.Reads.decoder ?_ _
  exact (make_reads _ Connection.mk).field string_inverts .required (by simp)
    |>.field string_inverts .required (by simp)

theorem decoder_inverts : decoder.Inverts toJson := by
  intro workflow
  refine Record.Reads.decoder ?_ _
  exact (make_reads _ Workflow.mk).field string_inverts .required (by simp)
    |>.field string_inverts (.default "") (by simp)
    |>.field Node.decoder_inverts.list (.default []) (by simp)
    |>.listed Edge.decoder_inverts (by simp)
    |>.listed Connection.decoder_inverts (by simp)

end Workflow

namespace Signal

theorem toJson_ne_null (signal : Signal) : signal.toJson ≠ .null := by
  cases signal <;> exact nofun

/-- The tag tells whether there is a content. -/
theorem decoder_inverts : decoder.Inverts toJson := by
  intro signal
  cases signal with
  | noBranch => rfl
  | branches names =>
      have read := string_inverts.list.fromJson names
      have content : ofContent .branches (Json.strings names) = .ok (.branches names) := by
        rw [ofContent, Json.strings, read]
        rfl
      have tag : Tag.decoder.fromJson (.string "active_branches") = .ok .branches := rfl
      have decoded : ofJson (toJson (.branches names)) = .ok (.branches names) := by
        simp [toJson, Json.ofFields, ofJson, tag, content, bind, Except.bind]
      rw [decoder, Json.Decoder.json]
      simp only [bind, Except.bind, decoded]

end Signal

theorem Output.decoder_inverts : Output.decoder.Inverts Output.toJson := by
  intro output
  refine Record.Reads.decoder ?_ _
  exact (make_reads _ Output.mk).field object_inverts .required (by simp [Output.toValue])
    |>.optional Signal.decoder_inverts Signal.toJson_ne_null (by simp)

theorem Context.decoder_inverts : Context.decoder.Inverts Context.toJson := by
  intro context
  refine Record.Reads.decoder ?_ _
  exact (make_reads _ Context.mk).field string_inverts .required (by simp)
    |>.field string_inverts .required (by simp)
    |>.field object_inverts .required (by simp)
    |>.field Output.decoder_inverts.entries .required (by simp)
    |>.field string_inverts.list .required (by simp [Json.strings])

/-- Workflows and the state of runs survive being written as JSON and read again. -/
theorem fromJson_toJson :
    (∀ workflow : Workflow, Workflow.decoder.fromJson workflow.toJson = .ok workflow) ∧
      (∀ output : Output, Output.decoder.fromJson output.toJson = .ok output) ∧
      ∀ context : Context, Context.decoder.fromJson context.toJson = .ok context :=
  ⟨Workflow.decoder_inverts.fromJson, Output.decoder_inverts.fromJson,
    Context.decoder_inverts.fromJson⟩

end Flowline
