import Flowline.Builtin.Branching
import Flowline.Builtin.Gateway
import Flowline.Proofs.Entries
import Flowline.Proofs.Except
import Flowline.Proofs.Signal

/-!
The built-in nodes that select branches. What they select can be told from their configuration and
the data that they put out.
-/

namespace Flowline

def BranchCondition.isMet (branch : BranchCondition) (value : Json) (caseSensitive : Bool) : Bool :=
  (branch.holds value caseSensitive).toOption.getD false

/-- The names of the branches that hold, or in the mode `first` of the first one only. -/
def metBranches (mode : MatchMode) (caseSensitive : Bool) (value : Json)
    (branches : List BranchCondition) : List String :=
  let met := branches.filter fun branch => branch.isMet value caseSensitive
  match mode with
  | .first => (met.map BranchCondition.name).take 1
  | .all => met.map BranchCondition.name

/-- The branches that are taken: those that hold, or the default one if there is none. -/
def GatewayConfig.selection (config : GatewayConfig) (value : Json) : List String :=
  match metBranches config.mode config.caseSensitive value config.branches with
  | [] => config.defaultBranch.toList
  | names => names

section Matching

variable {mode : MatchMode} {caseSensitive : Bool} {value : Json}

theorem metBranches_cons_of_met {branch : BranchCondition}
    (met : branch.isMet value caseSensitive = true) (rest : List BranchCondition) :
    metBranches mode caseSensitive value (branch :: rest) =
      match mode with
      | .first => [branch.name]
      | .all => branch.name :: metBranches mode caseSensitive value rest := by
  cases mode <;> simp [metBranches, met]

theorem metBranches_cons_of_unmet {branch : BranchCondition}
    (unmet : branch.isMet value caseSensitive = false) (rest : List BranchCondition) :
    metBranches mode caseSensitive value (branch :: rest) =
      metBranches mode caseSensitive value rest := by
  cases mode <;> simp [metBranches, unmet]

theorem matchedBranches_eq {branches : List BranchCondition} {matched : List String}
    (found : matchedBranches mode caseSensitive value branches = .ok matched) :
    matched = metBranches mode caseSensitive value branches := by
  induction branches generalizing matched with
  | nil =>
      cases found
      cases mode <;> rfl
  | cons branch rest ih =>
      obtain ⟨met, held, found⟩ := bind_eq_ok_iff.mp found
      have same : branch.isMet value caseSensitive = met := by
        rw [BranchCondition.isMet, held]
        rfl
      cases met with
      | false => rw [metBranches_cons_of_unmet same, ih found]
      | true =>
          rw [metBranches_cons_of_met same]
          cases mode with
          | first =>
              cases found
              rfl
          | all =>
              obtain ⟨others, further, found⟩ := bind_eq_ok_iff.mp found
              cases found
              rw [ih further]

end Matching

theorem names_gatewaySignal {config : GatewayConfig} {value : Json} {matched : List String}
    (same : matched = metBranches config.mode config.caseSensitive value config.branches) :
    (gatewaySignal matched config.defaultBranch).names = config.selection value := by
  rw [GatewayConfig.selection, ← same]
  cases matched with
  | cons name rest => rfl
  | nil => cases config.defaultBranch <;> rfl

/-- The built-in nodes that select branches. -/
inductive Gate where
  | boolean
  | ifElse
  | conditional
  | gateway

namespace Gate

variable {σ : Type}

def processor : Gate → Processor σ
  | .boolean => booleanGateway
  | .ifElse => Flowline.ifElse
  | .conditional => Flowline.conditional
  | .gateway => Flowline.gateway

/-- Which branches a gate selects, told from its configuration and its output. -/
inductive Selects (config : Json.Object) (output : Output) : Gate → List String → Prop
  | truth {gate : Gate} (binary : gate ≠ .gateway) {result : Bool}
      (told : output.get? "result" = some (.bool result)) :
      Selects config output gate [if result then "true" else "false"]
  | matching {settings : GatewayConfig} {value : Json}
      (read : GatewayConfig.decoder.fromJson (.object config) = .ok settings)
      (told : output.get? "value" = some value) :
      Selects config output .gateway (settings.selection value)

theorem selects_branchOn {gate : Gate} (binary : gate ≠ .gateway) (config : Json.Object)
    (result : Bool) {key : String} (apart : key ≠ "result") (value : Json) :
    ∃ signal, (branchOn result key value).signal = some signal ∧
      gate.Selects config (branchOn result key value) signal.names := by
  refine ⟨_, rfl, .truth binary ?_⟩
  rw [branchOn, Output.get?_withSignal _ _ (by decide)]
  simp [Output.get?, Output.ofFields, Entries.get?_insert, Entries.ofList, apart]

theorem selects_of_process {gate : Gate} {inputs config : Json.Object} {world : σ}
    {output : Output} (put : (gate.processor.process inputs config world).1 = .ok output) :
    ∃ signal, output.signal = some signal ∧ gate.Selects config output signal.names := by
  have apart : "value" ≠ "result" ∧ "text" ≠ "result" := by decide
  cases gate with
  | boolean =>
      have binary : boolean ≠ gateway := nofun
      cases put
      exact selects_branchOn binary config _ apart.1 _
  | ifElse =>
      have binary : Gate.ifElse ≠ gateway := nofun
      obtain ⟨operator, _, put⟩ := bind_eq_ok_iff.mp put
      dsimp only at put
      split at put
      · obtain ⟨result, _, put⟩ := bind_eq_ok_iff.mp put
        cases put
        exact selects_branchOn binary config _ apart.2 _
      · cases put
  | conditional =>
      have binary : Gate.conditional ≠ gateway := nofun
      obtain ⟨operator, _, put⟩ := bind_eq_ok_iff.mp put
      obtain ⟨result, _, put⟩ := bind_eq_ok_iff.mp put
      cases put
      exact selects_branchOn binary config _ apart.1 _
  | gateway =>
      obtain ⟨settings, read, put⟩ := bind_eq_ok_iff.mp put
      obtain ⟨matched, found, put⟩ := bind_eq_ok_iff.mp put
      have same := matchedBranches_eq (mapError_eq_ok_iff.mp found)
      cases put
      refine ⟨_, rfl, ?_⟩
      rw [names_gatewaySignal same]
      refine .matching (mapError_eq_ok_iff.mp read) ?_
      rw [gatewayOutput, Output.get?_withSignal _ _ (by decide)]
      simp [Output.get?, Output.ofFields, Entries.get?_insert, Entries.ofList]

end Gate

end Flowline
