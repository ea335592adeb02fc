import Flowline.Proofs.Entries
import Flowline.Proofs.Run.Gathering

/-!
The inputs of a node against what arrives at its ports. The values that have been gathered are told
by the arrivals so far: a port at which one value has arrived holds that value, a port with several
holds the list of them, and it is the number of arrivals, not the shape of the value, that decides
between the two.
-/

namespace Flowline

namespace InputMapping

/-- What a mapping carries of the output of its source. -/
inductive Carries (mapping : InputMapping) (output : Output) : Json → Prop
  | whole (unnamed : mapping.targetInput = defaultPort ∨ mapping.sourceOutput = none ∨
      ∃ port, mapping.sourceOutput = some port ∧ output.get? port = none) :
      Carries mapping output output.toValue
  | field {port : PortId} {value : Json} (apart : mapping.targetInput ≠ defaultPort)
      (named : mapping.sourceOutput = some port) (found : output.get? port = some value) :
      Carries mapping output value

def Delivers (context : Context) (mapping : InputMapping) (value : Json) : Prop :=
  ∃ output, context.output? mapping.source = some output ∧ mapping.Carries output value

/-- The source has no output, and was not skipped either. -/
def Lacks (context : Context) (skipped : List NodeId) (mapping : InputMapping) : Prop :=
  context.output? mapping.source = none ∧ mapping.source ∉ skipped

instance (context : Context) (skipped : List NodeId) (mapping : InputMapping) :
    Decidable (mapping.Lacks context skipped) :=
  inferInstanceAs (Decidable (_ ∧ _))

def contributes (context : Context) (port : PortId) (mapping : InputMapping) : Bool :=
  mapping.targetInput == port && context.hasOutput mapping.source

end InputMapping

namespace InputResolution

/-- What a port holds of the values that arrive at it. -/
def collected : List Json → Option Json
  | [] => none
  | [value] => some value
  | first :: second :: rest => some (.array (first :: second :: rest))

def valuesAt (arrivals : List (PortId × Json)) (port : PortId) : List Json :=
  (arrivals.filter fun arrival => arrival.1 == port).map Prod.snd

theorem valuesAt_concat (arrivals : List (PortId × Json)) (entered : PortId) (value : Json)
    (port : PortId) :
    valuesAt (arrivals ++ [(entered, value)]) port =
      valuesAt arrivals port ++ if entered = port then [value] else [] := by
  by_cases here : entered = port <;> simp [valuesAt, here]

/-- The gathered values are those of the arrivals so far. -/
structure Gathered.Holds (gathered : Gathered) (arrivals : List (PortId × Json)) : Prop where
  sorted : Entries.Sorted gathered.values
  values : ∀ port, Entries.get? gathered.values port = collected (valuesAt arrivals port)
  merged : ∀ port, port ∈ gathered.merged ↔ 2 ≤ (valuesAt arrivals port).length

theorem Gathered.holds_empty : Gathered.Holds {} [] where
  sorted := List.Pairwise.nil
  values := fun _ => rfl
  merged := fun port => by simp [valuesAt]

/-- The first value at a port is entered as it is, the second makes a list with it, and from then on
the list grows. -/
theorem Gathered.add_eq {gathered : Gathered} {arrivals : List (PortId × Json)}
    (holds : gathered.Holds arrivals) (port : PortId) (value : Json) :
    ∃ held merged,
      gathered.add port value = ⟨Entries.insert gathered.values port held, merged⟩ ∧
        collected (valuesAt arrivals port ++ [value]) = some held ∧
        ∀ other, other ∈ merged ↔
          other ∈ gathered.merged ∨ other = port ∧ valuesAt arrivals port ≠ [] := by
  have found := holds.values port
  have marked := holds.merged port
  unfold Gathered.add
  cases arrived : valuesAt arrivals port with
  | nil =>
      rw [arrived, collected] at found
      exact ⟨value, gathered.merged, by rw [found], rfl, by simp⟩
  | cons first rest =>
      cases rest with
      | nil =>
          rw [arrived, collected] at found
          have single : gathered.merged.contains port = false := by
            simpa [arrived] using marked
          refine ⟨_, port :: gathered.merged, ?_, rfl, fun other => ?_⟩
          · simp only [found, single]
            rfl
          · rw [List.mem_cons, or_comm]
            simp
      | cons second rest =>
          rw [arrived, collected] at found
          have several : gathered.merged.contains port = true := by
            simpa [arrived] using marked
          refine ⟨_, gathered.merged, ?_, rfl, fun other => ?_⟩
          · simp only [found, several, if_true]
            rfl
          · constructor
            · exact Or.inl
            · rintro (member | ⟨rfl, _⟩)
              · exact member
              · exact List.contains_iff_mem.mp several

theorem Gathered.Holds.add {gathered : Gathered} {arrivals : List (PortId × Json)}
    (holds : gathered.Holds arrivals) (port : PortId) (value : Json) :
    (gathered.add port value).Holds (arrivals ++ [(port, value)]) := by
  obtain ⟨held, merged, added, holding, marked⟩ := Gathered.add_eq holds port value
  rw [added]
  refine ⟨holds.sorted.insert _ _, fun other => ?_, fun other => ?_⟩
  · rw [Entries.get?_insert, valuesAt_concat]
    split
    · rename_i here
      rw [← here, holding]
    · rw [List.append_nil]
      exact holds.values other
  · rw [marked, holds.merged, valuesAt_concat]
    split
    · rename_i here
      subst here
      cases valuesAt arrivals port <;> simp
    · rename_i apart
      simp [Ne.symm apart]

variable {context : Context} {skipped : List NodeId} {mappings : List InputMapping}

/-- The values that mappings bring to the ports, in the order of the mappings. -/
def arrivals (context : Context) (mappings : List InputMapping) : List (PortId × Json) :=
  mappings.filterMap fun mapping =>
    (context.output? mapping.source).map fun output =>
      (mapping.targetInput, carried mapping output)

theorem carries_carried (mapping : InputMapping) (output : Output) :
    mapping.Carries output (carried mapping output) := by
  unfold carried
  by_cases whole : mapping.targetInput = defaultPort
  · rw [if_pos whole]
    exact .whole (Or.inl whole)
  · rw [if_neg whole]
    cases named : mapping.sourceOutput with
    | none => exact .whole (Or.inr (Or.inl named))
    | some port =>
        cases found : output.get? port with
        | none =>
            simp only [found, Option.getD_none]
            exact .whole (Or.inr (Or.inr ⟨port, named, found⟩))
        | some value =>
            simp only [found, Option.getD_some]
            exact .field whole named found

/-- The values at a port are those of the mappings that contribute to it, one by one. -/
theorem delivers_valuesAt (context : Context) (mappings : List InputMapping) (port : PortId) :
    List.Forall₂ (InputMapping.Delivers context)
      (mappings.filter (InputMapping.contributes context port))
      (valuesAt (arrivals context mappings) port) := by
  induction mappings with
  | nil => exact .nil
  | cons mapping rest ih =>
      rw [List.filter_cons]
      unfold arrivals valuesAt InputMapping.contributes at ih ⊢
      rw [List.filterMap_cons]
      cases recorded : context.output? mapping.source with
      | none =>
          have absent : context.hasOutput mapping.source = false :=
            Entries.has_eq_false_iff.mpr recorded
          simpa [absent] using ih
      | some output =>
          have present : context.hasOutput mapping.source = true :=
            congrArg Option.isSome recorded
          by_cases here : mapping.targetInput = port
          · simp only [Option.map_some, present, here, beq_self_eq_true, Bool.and_true, if_true,
              List.filter_cons, List.map_cons]
            exact .cons ⟨output, recorded, carries_carried mapping output⟩ ih
          · simpa [here] using ih

theorem gather_holds {gathered : Gathered} {earlier : List (PortId × Json)}
    (holds : gathered.Holds earlier)
    (supplied : ∀ mapping ∈ mappings, ¬ mapping.Lacks context skipped) :
    ∃ final : Gathered, gather context skipped gathered mappings = .ready final.values ∧
      final.Holds (earlier ++ arrivals context mappings) := by
  induction mappings generalizing gathered earlier with
  | nil => exact ⟨gathered, rfl, by rwa [arrivals, List.filterMap_nil, List.append_nil]⟩
  | cons mapping rest ih =>
      have remaining : ∀ other ∈ rest, ¬ other.Lacks context skipped := fun other member =>
        supplied other (List.mem_cons_of_mem _ member)
      cases recorded : context.output? mapping.source with
      | some output =>
          obtain ⟨final, ready, held⟩ :=
            ih (holds.add mapping.targetInput (carried mapping output)) remaining
          refine ⟨final, ?_, ?_⟩
          · rw [gather, recorded]
            exact ready
          · rw [arrivals, List.filterMap_cons, recorded]
            rwa [List.append_assoc] at held
      | none =>
          have skips : mapping.source ∈ skipped := by
            by_contra unskipped
            exact supplied mapping List.mem_cons_self ⟨recorded, unskipped⟩
          obtain ⟨final, ready, held⟩ := ih holds remaining
          refine ⟨final, ?_, ?_⟩
          · rw [gather, recorded]
            simpa [skips] using ready
          · rw [arrivals, List.filterMap_cons, recorded]
            exact held

/-- The first mapping that lacks its source is the one that is reported. -/
theorem gather_missing (gathered : Gathered)
    (lacking : ∃ mapping ∈ mappings, mapping.Lacks context skipped) :
    ∃ before mapping after, mappings = before ++ mapping :: after ∧
      (∀ earlier ∈ before, ¬ earlier.Lacks context skipped) ∧ mapping.Lacks context skipped ∧
        gather context skipped gathered mappings = .missing mapping.source mapping.edge := by
  induction mappings generalizing gathered with
  | nil =>
      obtain ⟨_, member, _⟩ := lacking
      cases member
  | cons first rest ih =>
      by_cases lacks : first.Lacks context skipped
      · refine ⟨[], first, rest, rfl, List.forall_mem_nil _, lacks, ?_⟩
        obtain ⟨unrecorded, unskipped⟩ := lacks
        simp [gather, unrecorded, unskipped]
      · have later : ∃ mapping ∈ rest, mapping.Lacks context skipped := by
          obtain ⟨mapping, member, wants⟩ := lacking
          rcases List.mem_cons.mp member with rfl | later
          · exact absurd wants lacks
          · exact ⟨mapping, later, wants⟩
        have goes : ∃ next, gather context skipped gathered (first :: rest) =
            gather context skipped next rest := by
          cases recorded : context.output? first.source with
          | some output => exact ⟨_, by rw [gather, recorded]⟩
          | none =>
              have skips : first.source ∈ skipped := by
                by_contra unskipped
                exact lacks ⟨recorded, unskipped⟩
              exact ⟨gathered, by simp [gather, recorded, skips]⟩
        obtain ⟨next, goes⟩ := goes
        obtain ⟨before, mapping, after, rfl, supplied, wants, missing⟩ := ih next later
        refine ⟨first :: before, mapping, after, rfl, ?_, wants, goes.trans missing⟩
        exact List.forall_mem_cons.mpr ⟨lacks, supplied⟩

/-- Every port that is contributed to holds the values of its contributors: alone, the value itself,
and else the list of them. -/
structure Collects (context : Context) (mappings : List InputMapping) (inputs : Json.Object) :
    Prop where
  sorted : Entries.Sorted inputs
  ports : ∀ port, port ∈ Entries.keys inputs ↔
    ∃ mapping ∈ mappings, mapping.targetInput = port ∧
      ∃ output, context.output? mapping.source = some output
  single : ∀ port mapping,
    mappings.filter (InputMapping.contributes context port) = [mapping] →
      ∃ value, mapping.Delivers context value ∧ Entries.get? inputs port = some value
  several : ∀ port, 2 ≤ (mappings.filter (InputMapping.contributes context port)).length →
    ∃ values,
      List.Forall₂ (InputMapping.Delivers context)
        (mappings.filter (InputMapping.contributes context port)) values ∧
      Entries.get? inputs port = some (.array values)

theorem Gathered.Holds.collects {gathered : Gathered}
    (holds : gathered.Holds (arrivals context mappings)) :
    Collects context mappings gathered.values where
  sorted := holds.sorted
  ports := by
    intro port
    have contributed : mappings.filter (InputMapping.contributes context port) ≠ [] ↔
        ∃ mapping ∈ mappings, mapping.targetInput = port ∧
          ∃ output, context.output? mapping.source = some output := by
      rw [Ne, List.filter_eq_nil_iff]
      simp [InputMapping.contributes, Context.hasOutput, Entries.has, Context.output?,
        Option.isSome_iff_exists]
    rw [← contributed, ← not_iff_not, not_not, ← Entries.get?_eq_none_iff, holds.values]
    have delivered := delivers_valuesAt context mappings port
    generalize mappings.filter (InputMapping.contributes context port) = contributors at delivered ⊢
    generalize valuesAt (arrivals context mappings) port = values at delivered ⊢
    cases delivered with
    | nil => simp [collected]
    | cons first rest => cases rest <;> simp [collected]
  single := by
    intro port mapping alone
    have delivered := delivers_valuesAt context mappings port
    rw [alone] at delivered
    obtain ⟨value, rest, delivers, none, arrived⟩ := List.forall₂_cons_left_iff.mp delivered
    cases none
    exact ⟨value, delivers, by rw [holds.values, arrived]; rfl⟩
  several := by
    intro port many
    have delivered := delivers_valuesAt context mappings port
    refine ⟨_, delivered, ?_⟩
    rw [delivered.length_eq] at many
    rw [holds.values]
    match arrived : valuesAt (arrivals context mappings) port, many with
    | _ :: _ :: _, _ => rfl

end InputResolution

open InputResolution

/-- A node without data edges gets the initial data. Otherwise the first of its data edges that
lacks its source is reported, and if none does, the inputs collect all that arrives. -/
theorem resolveInputs_collects (mappings : List InputMapping) (context : Context)
    (skipped : List NodeId) :
    let data := mappings.filter InputMapping.isData
    let resolution := resolveInputs mappings context skipped
    (data = [] → resolution = .ready context.initialData) ∧
      ((∃ mapping ∈ data, mapping.Lacks context skipped) →
        ∃ before mapping after, data = before ++ mapping :: after ∧
          (∀ earlier ∈ before, ¬ earlier.Lacks context skipped) ∧
          mapping.Lacks context skipped ∧
          resolution = .missing mapping.source mapping.edge) ∧
      (data ≠ [] → (∀ mapping ∈ data, ¬ mapping.Lacks context skipped) →
        ∃ inputs, resolution = .ready inputs ∧ Collects context data inputs) := by
  intro data resolution
  refine ⟨resolveInputs_of_unfed, fun lacking => ?_, fun fed supplied => ?_⟩
  · obtain ⟨mapping, member, _⟩ := id lacking
    have gathered : resolution = gather context skipped {} data :=
      resolveInputs_of_fed (List.ne_nil_of_mem member)
    rw [gathered]
    exact gather_missing {} lacking
  · obtain ⟨final, ready, held⟩ := gather_holds Gathered.holds_empty supplied
    exact ⟨final.values, (resolveInputs_of_fed fed).trans ready, held.collects⟩

/-- A list and `null` are among the outputs of `a`. -/
def junction : Context where
  workflowId := "w"
  pipelineId := "p"
  initialData := [("text", .string "start")]
  outputs := [
    ("a", .ofFields [("items", .array [.bool true]), ("nothing", .null)]),
    ("b", .ofFields [("text", .string "hi")])]
  completed := ["a", "b"]

def junctionEdges : List InputMapping := [
  ⟨.data, "a", some "items", "texts", "1"⟩, ⟨.trigger, "lost", none, "trigger", "2"⟩,
  ⟨.data, "gone", some "text", "texts", "3"⟩, ⟨.data, "a", some "nothing", "texts", "4"⟩,
  ⟨.data, "a", some "items", "alone", "5"⟩, ⟨.data, "b", some "absent", "whole", "6"⟩,
  ⟨.data, "gone", none, "empty", "7"⟩]

theorem resolveInputs_collects_junction :
    let data := junctionEdges.filter InputMapping.isData
    data ≠ [] ∧ (∀ mapping ∈ data, ¬ mapping.Lacks junction ["gone"]) ∧
      (∃ inputs, resolveInputs junctionEdges junction ["gone"] = .ready inputs ∧
        Collects junction data inputs ∧
        Entries.get? inputs "texts" = some (.array [.array [.bool true], .null]) ∧
        Entries.get? inputs "alone" = some (.array [.bool true])) ∧
      ∃ before mapping after, data = before ++ mapping :: after ∧ mapping.Lacks junction [] ∧
        resolveInputs junctionEdges junction [] = .missing mapping.source mapping.edge := by
  intro data
  have fed : data ≠ [] := by decide
  have supplied : ∀ mapping ∈ data, ¬ mapping.Lacks junction ["gone"] := by decide
  have lacking : ∃ mapping ∈ data, mapping.Lacks junction [] := by decide
  obtain ⟨_, _, collects⟩ := resolveInputs_collects junctionEdges junction ["gone"]
  obtain ⟨_, missing, _⟩ := resolveInputs_collects junctionEdges junction []
  obtain ⟨inputs, ready, collected⟩ := collects fed supplied
  obtain ⟨before, mapping, after, split, _, lacks, reported⟩ := missing lacking
  refine ⟨fed, supplied, ⟨inputs, ready, collected, ?_⟩, before, mapping, after, split, lacks,
    reported⟩
  have values : resolveInputs junctionEdges junction ["gone"] = .ready
      [("alone", .array [.bool true]), ("texts", .array [.array [.bool true], .null]),
        ("whole", .object [("text", .string "hi")])] := by
    decide +kernel
  cases values.symm.trans ready
  exact ⟨rfl, rfl⟩

end Flowline
