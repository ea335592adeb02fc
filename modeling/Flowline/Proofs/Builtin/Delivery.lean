import Flowline.Builtin.Registry
import Flowline.Http.Script
import Flowline.Proofs.Json.Records
import Flowline.Proofs.Run.Collection
import Flowline.Proofs.Run.Reordering
import Flowline.Proofs.Workflow.Building

/-!
An output delivered as a whole against the same output delivered field by field. Most of the
built-in nodes look for their inputs by name only, and by name they find the same in both.
-/

namespace Flowline

variable {σ : Type} {inputs other config : Json.Object} {fields : Json.Object}

/-- What a connection delivers: the output as a whole, at the default port. -/
def nested (fields : Json.Object) : Json.Object := Entries.ofList [(defaultPort, .object fields)]

/-- Whatever is looked for by name is found in both or in neither. -/
def FoundAlike (inputs other : Json.Object) : Prop :=
  ∀ key, key ≠ defaultPort → lookup inputs key = lookup other key

theorem foundAlike_nested (plain : Entries.get? fields defaultPort = none) :
    FoundAlike (nested fields) fields := by
  intro key named
  have outside : Json.Object.value? (nested fields) key = none := by
    simp [Json.Object.value?, nested, Ne.symm named]
  have inside : (Entries.get? (nested fields) defaultPort).bind Json.object? = some fields := by
    simp [nested, Json.object?]
  simp only [lookup, outside, inside, plain, Option.none_or, Option.bind_some, Option.bind_none,
    Option.or_none]

namespace FoundAlike

variable (alike : FoundAlike inputs other)

include alike

theorem lookupText_eq (key : String) (named : key ≠ defaultPort) :
    lookupText inputs key = lookupText other key := by
  rw [lookupText, lookupText, alike key named]

theorem lookupOrConfig_eq (config : Json.Object) (key : String) (named : key ≠ defaultPort) :
    lookupOrConfig inputs config key = lookupOrConfig other config key := by
  rw [lookupOrConfig, lookupOrConfig, alike key named]

theorem operand_eq (config : Json.Object) (key : String) (named : key ≠ defaultPort) :
    operand inputs config key = operand other config key := by
  rw [operand, operand, alike.lookupOrConfig_eq config key named]

end FoundAlike

theorem Descriptor.inputsFound_alike {descriptor : Descriptor} (alike : FoundAlike inputs other)
    (named : defaultPort ∉ descriptor.requiredInputs) :
    descriptor.inputsFound inputs = descriptor.inputsFound other := by
  unfold inputsFound
  rw [Bool.eq_iff_iff, List.all_eq_true, List.all_eq_true]
  refine forall₂_congr fun port required => ?_
  rw [alike port fun same => named (same ▸ required)]

namespace Processor

/-- The processor reads its inputs by name only. -/
structure ReadsByName (processor : Processor σ) : Prop where
  accepts : ∀ {inputs other}, FoundAlike inputs other → ∀ world,
    processor.accepts inputs world = processor.accepts other world
  process : ∀ {inputs other}, FoundAlike inputs other → ∀ config world,
    processor.process inputs config world = processor.process other config world

end Processor

theorem textInput_readsByName : (textInput : Processor σ).ReadsByName where
  accepts := fun _ _ => rfl
  process := by
    intro inputs other alike config world
    have text := alike "text" (by decide)
    simp only [textInput, Processor.pure, provideText, text]

theorem textTransform_readsByName : (textTransform : Processor σ).ReadsByName where
  accepts := fun alike _ => Descriptor.inputsFound_alike alike (by decide)
  process := by
    intro inputs other alike config world
    have text := alike.lookupText_eq "text" (by decide)
    simp only [textTransform, Processor.pure, transformText, text]

theorem concatTexts_readsByName : (concatTexts : Processor σ).ReadsByName where
  accepts := fun _ _ => rfl
  process := by
    intro inputs other alike config world
    have texts := alike.lookupOrConfig_eq config "texts" (by decide)
    have text1 := alike.lookupOrConfig_eq config "text1" (by decide)
    have text2 := alike.lookupOrConfig_eq config "text2" (by decide)
    simp only [concatTexts, Processor.pure, concatenateTexts, List.filterMap, texts, text1, text2]

theorem regexExtractor_readsByName : (regexExtractor : Processor σ).ReadsByName where
  accepts := fun alike _ => Descriptor.inputsFound_alike alike (by decide)
  process := by
    intro inputs other alike config world
    have text := alike.lookupText_eq "text" (by decide)
    simp only [regexExtractor, Processor.pure, extractMatches, text]

theorem calculator_readsByName : (calculator : Processor σ).ReadsByName where
  accepts := fun _ _ => rfl
  process := by
    intro inputs other alike config world
    have a := alike.operand_eq config "a" (by decide)
    have b := alike.operand_eq config "b" (by decide)
    simp only [calculator, Processor.pure, calculate, a, b]

theorem booleanGateway_readsByName : (booleanGateway : Processor σ).ReadsByName where
  accepts := fun _ _ => rfl
  process := by
    intro inputs other alike config world
    have value := alike "value" (by decide)
    simp only [booleanGateway, Processor.pure, branchOnTruth, value]

theorem gateway_readsByName : (gateway : Processor σ).ReadsByName where
  accepts := fun _ _ => rfl
  process := by
    intro inputs other alike config world
    have value := alike "value" (by decide)
    simp only [gateway, Processor.pure, route, value]

theorem ifElse_readsByName : (ifElse : Processor σ).ReadsByName where
  accepts := fun _ _ => rfl
  process := by
    intro inputs other alike config world
    have text := alike.lookupText_eq "text" (by decide)
    simp only [ifElse, Processor.pure, branchOnText, text]

theorem conditional_readsByName : (conditional : Processor σ).ReadsByName where
  accepts := fun _ _ => rfl
  process := by
    intro inputs other alike config world
    have value := alike "value" (by decide)
    have expected := alike.lookupOrConfig_eq config "compareValue" (by decide)
    simp only [conditional, Processor.pure, branchOnValue, value, expected]

theorem httpRequest_readsByName (client : Http.Client σ) (defaults : HttpDefaults) :
    (httpRequest client defaults).ReadsByName where
  accepts := fun _ _ => rfl
  process := by
    intro inputs other alike config world
    have url := alike.lookupOrConfig_eq config "url" (by decide)
    have headers := alike "headers" (by decide)
    have body := alike.lookupOrConfig_eq config "body" (by decide)
    simp only [httpRequest, freeRequest, url, headers, body]

theorem urlFetch_readsByName (client : Http.Client σ) (defaults : HttpDefaults) :
    (urlFetch client defaults).ReadsByName where
  accepts := fun _ _ => rfl
  process := by
    intro inputs other alike config world
    have url := alike.lookupOrConfig_eq config "url" (by decide)
    simp only [urlFetch, pageRequest, url]

theorem chatModel_readsByName (defaults : ChatDefaults) (stamps : Stamps) :
    (chatModel defaults stamps : Processor σ).ReadsByName where
  accepts := fun alike _ => Descriptor.inputsFound_alike alike (by decide)
  process := by
    intro inputs other alike config world
    have prompt := alike.lookupText_eq "prompt" (by decide)
    have system := alike.lookupOrConfig_eq config "systemPrompt" (by decide)
    simp only [chatModel, Processor.pure, chat, prompt, system]

/-- The built-in nodes that read their inputs by name only. -/
def readingByName : List String :=
  ["text_input", "text_transform", "concat_texts", "regex_extractor", "calculator",
    "boolean_gateway", "gateway", "if_else", "conditional", "http_request", "url_fetch",
    "chat_model"]

namespace Registry

theorem processor?_registerAll (registry : Registry σ) {processors : List (Processor σ)}
    (distinct : (processors.map fun processor => processor.descriptor.type).Nodup)
    {processor : Processor σ} (member : processor ∈ processors) :
    (registry.registerAll processors).processor? processor.descriptor.type = some processor := by
  induction processors using List.reverseRecOn with
  | nil => cases member
  | append_singleton earlier last ih =>
      rw [registerAll, List.foldl_concat, processor?_register]
      rw [List.map_append, List.nodup_append'] at distinct
      obtain ⟨distinct, -, apart⟩ := distinct
      rcases List.mem_append.mp member with before | here
      · have other : last.descriptor.type ≠ processor.descriptor.type := fun same =>
          apart (List.mem_map_of_mem before) (List.mem_singleton.mpr same.symm)
        rw [if_neg other]
        exact ih distinct before
      · rw [List.mem_singleton.mp here, if_pos rfl]

end Registry

variable (settings : NodeSettings) (client : Http.Client σ) (stamps : Stamps)

theorem types_builtins :
    (builtins settings client stamps).map (fun processor => processor.descriptor.type) =
      ["text_input", "manual_trigger", "text_output", "text_transform", "concat_texts",
        "regex_extractor", "calculator", "boolean_gateway", "gateway", "if_else", "conditional",
        "http_request", "webhook", "url_fetch", "chat_model"] := rfl

theorem processor?_builtinRegistry {processor : Processor σ}
    (member : processor ∈ builtins settings client stamps) :
    (builtinRegistry settings client stamps).processor? processor.descriptor.type =
      some processor :=
  Registry.processor?_registerAll _ (by rw [types_builtins]; decide) member

theorem exists_readsByName {type : String} (listed : type ∈ readingByName) :
    ∃ processor ∈ builtins settings client stamps,
      processor.descriptor.type = type ∧ processor.ReadsByName := by
  simp only [readingByName, List.mem_cons, List.not_mem_nil, or_false] at listed
  rcases listed with rfl | rfl | rfl | rfl | rfl | rfl | rfl | rfl | rfl | rfl | rfl | rfl
  · exact ⟨_, by simp [builtins], rfl, textInput_readsByName⟩
  · exact ⟨_, by simp [builtins], rfl, textTransform_readsByName⟩
  · exact ⟨_, by simp [builtins], rfl, concatTexts_readsByName⟩
  · exact ⟨_, by simp [builtins], rfl, regexExtractor_readsByName⟩
  · exact ⟨_, by simp [builtins], rfl, calculator_readsByName⟩
  · exact ⟨_, by simp [builtins], rfl, booleanGateway_readsByName⟩
  · exact ⟨_, by simp [builtins], rfl, gateway_readsByName⟩
  · exact ⟨_, by simp [builtins], rfl, ifElse_readsByName⟩
  · exact ⟨_, by simp [builtins], rfl, conditional_readsByName⟩
  · exact ⟨_, by simp [builtins], rfl, httpRequest_readsByName client settings.http⟩
  · exact ⟨_, by simp [builtins], rfl, urlFetch_readsByName client settings.http⟩
  · exact ⟨_, by simp [builtins], rfl, chatModel_readsByName settings.chat stamps⟩

section Wiring

variable {context : Context} {skipped : List NodeId} {source target : NodeId} {output : Output}

/-- What the target of a connection sees of it. -/
def connected (source target : NodeId) (index : Nat) : InputMapping :=
  ((⟨source, target⟩ : Workflow.Connection).resolve index).toInput

/-- What the target sees of edges drawn port by port, each between two ports of one name. -/
def drawn (source target : NodeId) (ports : List PortId) (index : Nat) : List InputMapping :=
  (ports.zipIdx index).map fun entry =>
    (((⟨source, entry.1, target, entry.1⟩ : Workflow.Wire).edge entry.2).resolve entry.2).toInput

theorem resolveInputs_connected (recorded : context.output? source = some output) (index : Nat) :
    resolveInputs [connected source target index] context skipped =
      .ready (nested output.data) := by
  have fed : [connected source target index].filter InputMapping.isData =
      [connected source target index] := rfl
  rw [resolveInputs_of_fed (fed ▸ List.cons_ne_nil _ _), fed, InputResolution.gather]
  have found : context.output? (connected source target index).source = some output := recorded
  rw [found]
  rfl

/-- A port that an edge can be drawn to as a port of its own. -/
def Drawable (port : PortId) : Prop := port ≠ "" ∧ port ≠ defaultPort ∧ port ≠ triggerPort

theorem toInput_drawn {port : PortId} (drawable : Drawable port) (place index : Nat) :
    (((⟨source, port, target, port⟩ : Workflow.Wire).edge index).resolve place).toInput =
      ⟨.data, source, some port, port, "edge-" ++ (index + 1).repr⟩ := by
  obtain ⟨named, -, listening⟩ := drawable
  have read : Handle.named? port = some port := if_neg named
  have kind : (Workflow.Wire.resolved index ⟨source, port, target, port⟩).kind = .data := by
    cases seen : (Workflow.Wire.resolved index ⟨source, port, target, port⟩).kind with
    | data => rfl
    | trigger => exact absurd ((Workflow.Wire.kind_resolved index _).mp seen) listening
  rw [Workflow.Wire.resolve_edge, ResolvedEdge.toInput, kind]
  simp only [Workflow.Wire.resolved, ResolvedEdge.targetInput, read, Option.getD_some]

theorem of_mem_drawn {ports : List PortId} (drawable : ∀ port ∈ ports, Drawable port)
    (index : Nat) : ∀ mapping ∈ drawn source target ports index,
      mapping.isData = true ∧ mapping.source = source := by
  intro mapping member
  obtain ⟨⟨port, place⟩, listed, rfl⟩ := List.mem_map.mp member
  have inside : port ∈ ports := List.fst_mem_of_mem_zipIdx listed
  rw [toInput_drawn (drawable port inside)]
  exact ⟨rfl, rfl⟩

theorem arrivals_drawn {ports : List PortId} (drawable : ∀ port ∈ ports, Drawable port)
    (recorded : context.output? source = some output) (index : Nat) :
    InputResolution.arrivals context (drawn source target ports index) =
      ports.map fun port => (port, (output.get? port).getD output.toValue) := by
  induction ports generalizing index with
  | nil => rfl
  | cons port rest ih =>
      obtain ⟨here, later⟩ := List.forall_mem_cons.mp drawable
      have others := ih later (index + 1)
      unfold InputResolution.arrivals drawn at others ⊢
      rw [List.zipIdx_cons, List.map_cons, List.filterMap_cons, others, toInput_drawn here]
      simp only [recorded, Option.map_some, List.map_cons, InputResolution.carried,
        if_neg here.2.1]

theorem valuesAt_map {ports : List PortId} (distinct : ports.Nodup) (value : PortId → Json)
    (port : PortId) :
    InputResolution.valuesAt (ports.map fun port => (port, value port)) port =
      if port ∈ ports then [value port] else [] := by
  have kept : ports.filter (fun other => other == port) =
      if port ∈ ports then [port] else [] := by
    rw [List.filter_beq]
    split
    · rename_i inside
      rw [List.count_eq_one_of_mem distinct inside, List.replicate_one]
    · rename_i outside
      rw [List.count_eq_zero_of_not_mem outside, List.replicate_zero]
  have paired : InputResolution.valuesAt (ports.map fun port => (port, value port)) port =
      (ports.filter fun other => other == port).map value := by
    rw [InputResolution.valuesAt, List.filter_map, List.map_map]
    rfl
  rw [paired, kept]
  split <;> rfl

theorem resolveInputs_drawn {ports : List PortId} (sorted : Entries.Sorted output.data)
    (filled : output.data ≠ []) (all : ports.Perm (Entries.keys output.data))
    (drawable : ∀ port ∈ ports, Drawable port)
    (recorded : context.output? source = some output) (index : Nat) :
    resolveInputs (drawn source target ports index) context skipped = .ready output.data := by
  have data : (drawn source target ports index).filter InputMapping.isData =
      drawn source target ports index :=
    List.filter_eq_self.mpr fun mapping member => (of_mem_drawn drawable index mapping member).1
  have fed : drawn source target ports index ≠ [] := by
    intro empty
    rw [drawn, List.map_eq_nil_iff, List.zipIdx_eq_nil_iff] at empty
    rw [empty] at all
    exact filled (List.map_eq_nil_iff.mp all.symm.eq_nil)
  have supplied : ∀ mapping ∈ drawn source target ports index,
      ¬ mapping.Lacks context skipped := by
    rintro mapping member ⟨absent, -⟩
    rw [(of_mem_drawn drawable index mapping member).2, recorded] at absent
    cases absent
  obtain ⟨final, ready, holds⟩ :=
    InputResolution.gather_holds InputResolution.Gathered.holds_empty supplied
  rw [resolveInputs_of_fed (data.symm ▸ fed), data, ready]
  congr 1
  refine holds.sorted.eq_of_get? sorted fun key => ?_
  rw [holds.values, List.nil_append, arrivals_drawn drawable recorded index,
    valuesAt_map (all.symm.nodup sorted.nodup_keys)]
  cases found : Entries.get? output.data key with
  | none =>
      have outside : key ∉ ports := fun inside =>
        Entries.get?_eq_none_iff.mp found (all.mem_iff.mp inside)
      rw [if_neg outside]
      rfl
  | some value =>
      have inside : key ∈ ports := by
        rw [all.mem_iff, ← not_not (a := key ∈ _), ← Entries.get?_eq_none_iff, found]
        exact nofun
      rw [if_pos inside, Output.get?, found]
      rfl

end Wiring

/-- A node that reads its inputs by name makes no difference between a connection and an edge for
each field: it accepts either or neither, puts out the same, and sends the same requests. The inputs
that it is compared on are those that the two deliver, in whatever order the edges are drawn. -/
theorem connection_feeds_alike {type : String} (listed : type ∈ readingByName)
    {fields : Json.Object} (plain : Entries.get? fields defaultPort = none) :
    (∃ processor, (builtinRegistry settings client stamps).processor? type = some processor ∧
      (∀ world, processor.accepts (nested fields) world = processor.accepts fields world) ∧
      ∀ config world,
        processor.process (nested fields) config world = processor.process fields config world) ∧
    ∀ (context : Context) skipped source target output index,
      context.output? source = some output → output.data = fields →
      resolveInputs [connected source target index] context skipped = .ready (nested fields) ∧
      (fields ≠ [] → Entries.Sorted fields →
        (∀ port ∈ Entries.keys fields, port ≠ "" ∧ port ≠ triggerPort) →
        ∀ ports, ports.Perm (Entries.keys fields) →
          resolveInputs (drawn source target ports index) context skipped = .ready fields) := by
  constructor
  · obtain ⟨processor, member, rfl, reads⟩ := exists_readsByName settings client stamps listed
    have alike := foundAlike_nested plain
    exact ⟨processor, processor?_builtinRegistry settings client stamps member,
      reads.accepts alike, reads.process alike⟩
  · rintro context skipped source target output index recorded rfl
    refine ⟨resolveInputs_connected recorded index, fun filled sorted usable ports all => ?_⟩
    refine resolveInputs_drawn sorted filled all (fun port inside => ?_) recorded index
    have key := all.mem_iff.mp inside
    obtain ⟨named, listening⟩ := usable port key
    refine ⟨named, fun same => ?_, listening⟩
    exact Entries.get?_eq_none_iff.mp plain (same ▸ key)

/-- A request whose body is left to the configuration. -/
def bodiless : Json.Object := [("body", .null), ("url", .string "http://example")]

theorem connection_feeds_alike_bodiless :
    let context : Context := { junction with outputs := [("a", { data := bodiless })] }
    let config : Json.Object := [("body", .string "hello")]
    let node := httpRequest Http.Script.client {}
    node.process (nested bodiless) config {} = node.process bodiless config {} ∧
      (node.process bodiless config {}).2.sent.map Http.Request.body = [some (.text "hello")] ∧
      resolveInputs [connected "a" "b" 0] context [] = .ready (nested bodiless) ∧
      resolveInputs (drawn "a" "b" ["url", "body"] 0) context [] = .ready bodiless := by
  intro context config node
  have listed : "http_request" ∈ readingByName := by decide
  have plain : Entries.get? bodiless defaultPort = none := by decide
  obtain ⟨⟨processor, registered, -, same⟩, delivered⟩ :=
    connection_feeds_alike {} Http.Script.client .placeholder listed plain
  have member : node ∈ builtins {} Http.Script.client .placeholder := by simp [builtins, node]
  have found := processor?_builtinRegistry {} Http.Script.client .placeholder member
  obtain ⟨whole, apart⟩ := delivered context [] "a" "b" { data := bodiless } 0 rfl rfl
  have sorted : Entries.Sorted bodiless := List.pairwise_pair.mpr (by decide)
  refine ⟨?_, by decide +kernel, whole,
    apart (List.cons_ne_nil _ _) sorted (by decide) _ (by decide)⟩
  cases found.symm.trans registered
  exact same config {}

end Flowline
