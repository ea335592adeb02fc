import Flowline.Proofs.Builtin.Gates
import Flowline.Proofs.Json.Records
import Flowline.Proofs.Signal

/-!
The two modes of a gateway on the same configuration. The mode `all` looks at every branch, the mode
`first` stops at the first one that holds: what fails in the mode `first` fails in the mode `all`,
and where the latter succeeds the former takes the first of its branches.
-/

namespace Flowline

open Json (Record)

section Configuration

def MatchMode.name : MatchMode → String
  | .first => "first"
  | .all => "all"

theorem MatchMode.decoder_inverts :
    MatchMode.decoder.Inverts fun mode => .string mode.name := by
  intro mode
  cases mode <;> rfl

/-- The configuration with its mode set. -/
def inMode (mode : MatchMode) (config : Json.Object) : Json.Object :=
  Entries.insert config "matchMode" (.string mode.name)

/-- Whatever mode is set in the configuration, the settings are read with that mode. -/
def Configures (config : Json.Object) (settings : GatewayConfig) : Prop :=
  ∀ mode, GatewayConfig.decoder.fromJson (.object (inMode mode config)) =
    .ok { settings with mode }

/-- The mode is read into a place of its own, and nothing else is read otherwise for it. -/
theorem fromJson_inMode (mode : MatchMode) (config : Json.Object) :
    GatewayConfig.decoder.fromJson (.object (inMode mode config)) =
      (GatewayConfig.decoder.fromJson (.object (inMode .first config))).map
        fun settings => { settings with mode } := by
  have apart : "matchMode" ≠ "branches" ∧ "matchMode" ≠ "defaultBranch" ∧
      "matchMode" ≠ "caseSensitive" := by decide
  have readMode (mode : MatchMode) :
      Record.readField MatchMode.decoder (.default .first) "matchMode"
        (some (.string mode.name)) = .ok mode :=
    MatchMode.decoder_inverts.fromJson mode
  have checkMode (mode : MatchMode) :
      (MatchMode.decoder (.value (.string mode.name))).map (fun result => ((), result.2)) =
        .ok ((), []) := by
    rw [MatchMode.decoder_inverts mode]
    rfl
  unfold GatewayConfig.decoder
  rw [Record.fromJson_decoder, Record.fromJson_decoder]
  simp only [Record.build_field, inMode]
  rw [Record.checkFields_insert _ (.string MatchMode.first.name)]
  · simp only [Entries.get?_insert, if_neg apart.1, if_neg apart.2.1, if_neg apart.2.2, if_true,
      readMode]
    generalize Record.checkFields _ _ = checked
    generalize Record.readField _ _ "branches" _ = branches
    generalize Record.readField _ _ "defaultBranch" _ = defaultBranch
    generalize Record.readField _ _ "caseSensitive" _ = caseSensitive
    cases checked <;> cases branches <;> cases defaultBranch <;> cases caseSensitive <;> rfl
  · simp only [Record.field, if_neg apart.2.1, if_neg apart.2.2, if_true, checkMode]

theorem configures_of_fromJson {config : Json.Object} {settings : GatewayConfig}
    (read : GatewayConfig.decoder.fromJson (.object (inMode .first config)) = .ok settings) :
    Configures config settings := by
  intro mode
  rw [fromJson_inMode, read]
  rfl

def BranchCondition.toJson (branch : BranchCondition) : Json :=
  Json.ofFields [("name", .string branch.name), ("operator", .string branch.operator),
    ("value", branch.value)]

theorem BranchCondition.decoder_inverts :
    BranchCondition.decoder.Inverts BranchCondition.toJson := by
  intro branch
  refine Record.Reads.decoder ?_ _
  exact (Record.make_reads _ BranchCondition.mk).field Json.Decoder.string_inverts .required
      (by simp)
    |>.field Json.Decoder.string_inverts (.default "equals") (by simp)
    |>.field Json.Decoder.json_inverts (.default .null) (by simp)

/-- Any settings can be configured. -/
theorem exists_configures (settings : GatewayConfig) : ∃ config, Configures config settings := by
  let others : List (String × Json) :=
    [("branches", .array (settings.branches.map BranchCondition.toJson)),
      ("caseSensitive", .bool settings.caseSensitive)] ++
    Json.optionalField "defaultBranch" (settings.defaultBranch.map .string)
  refine ⟨Entries.ofList others, fun mode => ?_⟩
  have written : inMode mode (Entries.ofList others) =
      Entries.ofList (others ++ [("matchMode", .string mode.name)]) :=
    (Entries.ofList_concat others ("matchMode", .string mode.name)).symm
  have read : GatewayConfig.decoder
      (.value (Json.ofFields (others ++ [("matchMode", .string mode.name)]))) =
        .ok ({ settings with mode }, []) := by
    refine Record.Reads.decoder ?_ _
    exact (Record.make_reads _ GatewayConfig.mk).field BranchCondition.decoder_inverts.list
        (.default []) (by simp [others])
      |>.field MatchMode.decoder_inverts (.default .first) (by simp)
      |>.optional Json.Decoder.string_inverts nofun (by simp [others])
      |>.field Json.Decoder.bool_inverts (.default false) (by simp [others])
  rw [written, Json.Decoder.fromJson]
  rw [Json.ofFields] at read
  rw [read]
  rfl

end Configuration

section Matching

variable {caseSensitive : Bool} {value : Json} {branches : List BranchCondition}

theorem matchedBranches_first_of_all {names : List String}
    (found : matchedBranches .all caseSensitive value branches = .ok names) :
    matchedBranches .first caseSensitive value branches = .ok (names.take 1) := by
  induction branches generalizing names with
  | nil =>
      cases found
      rfl
  | cons branch rest ih =>
      obtain ⟨met, held, found⟩ := bind_eq_ok_iff.mp found
      rw [matchedBranches, held]
      cases met with
      | false => exact ih found
      | true =>
          obtain ⟨others, _, found⟩ := bind_eq_ok_iff.mp found
          cases found
          rfl

theorem matchedBranches_all_of_first {error : OperatorError}
    (refused : matchedBranches .first caseSensitive value branches = .error error) :
    matchedBranches .all caseSensitive value branches = .error error := by
  induction branches with
  | nil => cases refused
  | cons branch rest ih =>
      rw [matchedBranches]
      rcases bind_eq_error_iff.mp refused with failed | ⟨met, held, refused⟩
      · rw [failed]
        rfl
      · rw [held]
        cases met with
        | false => exact ih refused
        | true => cases refused

theorem holds_of_matchedBranches {names : List String}
    (found : matchedBranches .all caseSensitive value branches = .ok names) :
    ∀ branch ∈ branches, ∃ met, branch.holds value caseSensitive = .ok met := by
  induction branches generalizing names with
  | nil => exact List.forall_mem_nil _
  | cons branch rest ih =>
      obtain ⟨met, held, found⟩ := bind_eq_ok_iff.mp found
      refine List.forall_mem_cons.mpr ⟨⟨met, held⟩, ?_⟩
      cases met with
      | false => exact ih found
      | true =>
          obtain ⟨others, further, _⟩ := bind_eq_ok_iff.mp found
          exact ih further

end Matching

section Routing

/-- Where a flow goes on behind a gateway, and whether it goes there by default. -/
inductive Routes (matched : List String) (defaultBranch : Option String) : Signal → Bool → Prop
  | matching (found : matched ≠ []) : Routes matched defaultBranch (.branches matched) false
  | fallback {name : String} (unmatched : matched = []) (given : defaultBranch = some name) :
      Routes matched defaultBranch (.branches [name]) true
  | nowhere (unmatched : matched = []) (absent : defaultBranch = none) :
      Routes matched defaultBranch .noBranch false

/-- The output tells the branches that matched and goes on accordingly. -/
structure Output.Routed (output : Output) (matched : List String)
    (defaultBranch : Option String) : Prop where
  told : output.get? "matched_branches" = some (Json.strings matched)
  routes : ∃ signal usedDefault, Routes matched defaultBranch signal usedDefault ∧
    output.get? "usedDefault" = some (.bool usedDefault) ∧ output.Mirrors signal

theorem routes_gatewaySignal (matched : List String) (defaultBranch : Option String) :
    Routes matched defaultBranch (gatewaySignal matched defaultBranch)
      (matched.isEmpty && defaultBranch.isSome) := by
  cases matched with
  | cons name rest => exact .matching (List.cons_ne_nil name rest)
  | nil =>
      cases defaultBranch with
      | some name => exact .fallback rfl rfl
      | none => exact .nowhere rfl rfl

theorem routed_gatewayOutput (matched : List String) (defaultBranch : Option String)
    (value : Json) : (gatewayOutput matched defaultBranch value).Routed matched defaultBranch where
  told := by
    rw [gatewayOutput, Output.get?_withSignal _ _ (by decide)]
    simp [Output.get?, Output.ofFields]
  routes := by
    refine ⟨_, _, routes_gatewaySignal matched defaultBranch, ?_, Output.mirrors_withSignal _ _⟩
    rw [gatewayOutput, Output.get?_withSignal _ _ (by decide)]
    simp [Output.get?, Output.ofFields]

variable {inputs config : Json.Object} {settings : GatewayConfig}

theorem route_of_configures (configured : Configures config settings) (mode : MatchMode) :
    route inputs (inMode mode config) =
      ((matchedBranches mode settings.caseSensitive (Json.ofOption (lookup inputs "value"))
        settings.branches).mapError OperatorError.toRunError).map fun matched =>
          gatewayOutput matched settings.defaultBranch (Json.ofOption (lookup inputs "value")) := by
  unfold route
  rw [configured mode]
  rfl

theorem configures_or_refused (inputs config : Json.Object) :
    (∃ settings, Configures config settings) ∨
      ∃ error, ∀ mode, route inputs (inMode mode config) = .error error := by
  cases read : GatewayConfig.decoder.fromJson (.object (inMode .first config)) with
  | ok settings => exact Or.inl ⟨settings, configures_of_fromJson read⟩
  | error error =>
      refine Or.inr ⟨.failed (invalidGatewayText error), fun mode => ?_⟩
      unfold route
      rw [fromJson_inMode, read]
      rfl

theorem routed_of_route {mode : MatchMode} {output : Output}
    (configured : Configures config settings)
    (routed : route inputs (inMode mode config) = .ok output) :
    matchedBranches mode settings.caseSensitive (Json.ofOption (lookup inputs "value"))
        settings.branches =
      .ok (metBranches mode settings.caseSensitive (Json.ofOption (lookup inputs "value"))
        settings.branches) ∧
      output.Routed (metBranches mode settings.caseSensitive
        (Json.ofOption (lookup inputs "value")) settings.branches) settings.defaultBranch := by
  rw [route_of_configures configured] at routed
  cases found : matchedBranches mode settings.caseSensitive
      (Json.ofOption (lookup inputs "value")) settings.branches with
  | error error =>
      rw [found] at routed
      cases routed
  | ok matched =>
      rw [found] at routed
      cases routed
      rw [← matchedBranches_eq found]
      exact ⟨rfl, routed_gatewayOutput _ _ _⟩

end Routing

/-- The gateway on one configuration in either mode. If it succeeds in the mode `all`, every branch
could be looked at, the branches taken are those that hold, and in the mode `first` it takes the
first of them; what it fails with in the mode `first`, it fails with in the mode `all`. In each mode
it goes on by the matched branches, else by the default one, else nowhere. -/
theorem gateway_modes_agree {σ : Type} (inputs : Json.Object) (world : σ) :
    (∀ settings, ∃ config, Configures config settings) ∧
    ∀ config : Json.Object,
      let value := Json.ofOption (lookup inputs "value")
      let run (mode : MatchMode) := (gateway.process inputs (inMode mode config) world).1
      (∀ output, run .all = .ok output → ∃ settings names first, Configures config settings ∧
        (∀ branch ∈ settings.branches, ∃ met,
          branch.holds value settings.caseSensitive = .ok met) ∧
        names = (settings.branches.filter fun branch =>
          branch.isMet value settings.caseSensitive).map BranchCondition.name ∧
        output.Routed names settings.defaultBranch ∧
        run .first = .ok first ∧ first.Routed (names.take 1) settings.defaultBranch) ∧
      (∀ error, run .first = .error error → run .all = .error error) ∧
      ∀ mode output, run mode = .ok output → ∃ settings, Configures config settings ∧
        output.Routed (metBranches mode settings.caseSensitive value settings.branches)
          settings.defaultBranch := by
  refine ⟨exists_configures, ?_⟩
  intro config value run
  have runs (mode : MatchMode) : run mode = route inputs (inMode mode config) := rfl
  simp only [runs]
  rcases configures_or_refused inputs config with ⟨settings, configured⟩ | ⟨error, refused⟩
  · refine ⟨fun output put => ?_, fun error failed => ?_, fun mode output put => ?_⟩
    · obtain ⟨found, routed⟩ := routed_of_route configured put
      refine ⟨settings, _, _, configured, holds_of_matchedBranches found, rfl, routed, ?_,
        routed_gatewayOutput _ _ value⟩
      rw [route_of_configures configured, matchedBranches_first_of_all found]
      rfl
    · rw [route_of_configures configured] at failed ⊢
      cases found : matchedBranches .first settings.caseSensitive value settings.branches with
      | ok matched =>
          rw [found] at failed
          cases failed
      | error problem =>
          rw [found] at failed
          rw [matchedBranches_all_of_first found]
          exact failed
    · exact ⟨settings, configured, (routed_of_route configured put).2⟩
  · refine ⟨fun output put => ?_, fun other failed => ?_, fun mode output put => ?_⟩
    · cases (refused .all).symm.trans put
    · rw [← failed, refused, refused]
    · cases (refused mode).symm.trans put

/-- Orders are told by their beginning, anything dashed by the dash, and the branch with `operator`
comes in between. -/
def sorting (operator : String) : Json.Object :=
  let branch (name operator value : String) : Json :=
    Json.ofFields [("name", .string name), ("operator", .string operator),
      ("value", .string value)]
  [("branches", .array [branch "orders" "starts_with" "order", branch "parcels" operator "parcel",
      branch "dashed" "contains" "-"]),
    ("caseSensitive", .bool true), ("defaultBranch", .string "rest")]

theorem gateway_modes_agree_sorting :
    let run (operator value : String) (mode : MatchMode) :=
      (gateway.process [("value", .string value)] (inMode mode (sorting operator)) ()).1
    (∃ all first, run "starts_with" "order-17" .all = .ok all ∧
        all.get? "matched_branches" = some (Json.strings ["orders", "dashed"]) ∧
        run "starts_with" "order-17" .first = .ok first ∧
        first.get? "matched_branches" = some (Json.strings ["orders"])) ∧
      ∃ error, run "resembles" "parcel-17" .first = .error error ∧
        run "resembles" "parcel-17" .all = .error error := by
  intro run
  obtain ⟨accepts, -, -⟩ := (gateway_modes_agree [("value", .string "order-17")] ()).2
    (sorting "starts_with")
  obtain ⟨-, refuses, -⟩ := (gateway_modes_agree [("value", .string "parcel-17")] ()).2
    (sorting "resembles")
  have read : (run "starts_with" "order-17" .all).toOption.bind
      (fun output => output.get? "matched_branches") =
        some (Json.strings ["orders", "dashed"]) := by
    decide +kernel
  have unread : run "resembles" "parcel-17" .first =
      .error (OperatorError.unknown "resembles").toRunError := by
    decide +kernel
  refine ⟨?_, _, unread, refuses _ unread⟩
  cases ran : run "starts_with" "order-17" .all with
  | error error =>
      rw [ran] at read
      cases read
  | ok all =>
      rw [ran] at read
      obtain ⟨settings, names, first, -, -, -, routed, ranFirst, routedFirst⟩ := accepts all ran
      have same : Json.strings names = Json.strings ["orders", "dashed"] :=
        Option.some.inj (routed.told.symm.trans read)
      obtain rfl : names = ["orders", "dashed"] :=
        List.map_injective_iff.mpr (fun _ _ => Json.string.inj) (Json.array.inj same)
      exact ⟨all, first, rfl, read, ranFirst, routedFirst.told⟩

end Flowline
