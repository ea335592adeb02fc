import Flowline.Proofs.Run.Reports
import Flowline.Proofs.Run.Verdict

/-!
The protocol that a run keeps towards its sink: the run is started, the nodes that it gets to are
reported one after another along the order of the plan, and the run is finished. What is reported
of a node is what the response has of it, and no node is reported before the last of what is
reported of those that feed it.
-/

namespace Flowline

variable {σ τ υ : Type}

/-- The response has of a node what is reported of it. -/
structure RunResponse.Reported (response : RunResponse) (policy : MissingDependencyPolicy)
    (id : NodeId) (updates : List StatusUpdate) : Prop where
  shape : updates.map StatusUpdate.status ∈
    [[.skipped], [.failed], [.running, .completed], [.running, .failed]]
  skipped : updates.getLast?.map StatusUpdate.status = some .skipped ↔ id ∈ response.skipped
  failed : updates.getLast?.map StatusUpdate.status = some .failed ↔ id ∈ response.failed
  completed : updates.getLast?.map StatusUpdate.status = some .completed ↔
    ∃ result ∈ response.results, result.node = id ∧ result.isSuccess = true
  error : ∀ result ∈ response.results, result.node = id →
    updates.getLast?.bind StatusUpdate.error = result.error?
  alone : updates.map StatusUpdate.status = [.failed] ↔
    policy = .fail ∧ ∃ result ∈ response.results, result.node = id ∧
      ∃ source, result.outcome = .error (.missingDependency source)

/-- The first event is about `target` and the second about `source`. -/
def RunEvent.Reverses (source target : NodeId) (first second : RunEvent) : Prop :=
  (∃ update, first = .updated target update) ∧ ∃ update, second = .updated source update

theorem pairwise_narration {reports : List (NodeId × List StatusUpdate)} {source target : NodeId}
    (apart : source ≠ target)
    (forward : (reports.map Prod.fst).Pairwise fun first second =>
      ¬ (first = target ∧ second = source)) :
    (narration reports).Pairwise fun first second =>
      ¬ RunEvent.Reverses source target first second := by
  rw [narration, List.pairwise_flatMap]
  constructor
  · intro report _
    rw [List.pairwise_map]
    refine List.pairwise_of_forall fun first second => ?_
    rintro ⟨⟨_, here⟩, _, there⟩
    cases here
    cases there
    exact apart rfl
  · refine (List.pairwise_map.mp forward).imp fun ordered => ?_
    rintro _ first _ second ⟨⟨_, rfl⟩, _, rfl⟩
    obtain ⟨_, _, here⟩ := List.mem_map.mp first
    obtain ⟨_, _, there⟩ := List.mem_map.mp second
    cases here
    cases there
    exact ordered ⟨rfl, rfl⟩

namespace Orchestrator

variable {orchestrator : Orchestrator σ τ} {request : RunRequest} {compiled : CompiledWorkflow}
  {world : σ} {observer : τ}

theorem map_fst_reports :
    (orchestrator.reports request compiled world observer).map Prod.fst =
      orchestrator.visited request compiled world observer :=
  RunSetup.map_fst_reports _ _ _ _

section Compiled

variable (compiles : request.workflow.compile = .ok compiled)

include compiles

theorem reported_fate {report : NodeId × List StatusUpdate}
    (member : report ∈ orchestrator.reports request compiled world observer) :
    ∃ node fate, node.node = report.1 ∧
      (orchestrator.final request compiled world observer).ledger.fate? report.1 = some fate ∧
        fate.Reported (request.options.resolve orchestrator.defaults).missingDependency
          orchestrator.stamps node report.2 :=
  RunSetup.reported_walk (pending_start compiles world observer) report member

theorem reported_final {report : NodeId × List StatusUpdate}
    (member : report ∈ orchestrator.reports request compiled world observer) :
    (orchestrator.orchestrate request world observer).1.Reported
      (request.options.resolve orchestrator.defaults).missingDependency report.1 report.2 := by
  obtain ⟨node, fate, same, settled, reported⟩ := reported_fate compiles member
  have accounts : (orchestrator.final request compiled world observer).ledger.Accounts
    (orchestrator.visited request compiled world observer) := accounts_visited compiles
  have gated : (orchestrator.final request compiled world observer).ledger.Gated :=
    gated_final compiles
  rw [orchestrate_compiled compiles]
  refine ⟨reported.shape, ?_, ?_, ?_, ?_, ?_⟩
  · exact reported.ends_skipped_iff.trans (gated.mem_skipped_iff settled).symm
  · simp only [RunResponse.ofLedger, reported.ends_failed_iff, Fate.isFailure_iff,
      mem_failed_iff compiles, settled, Option.some.injEq]
  · exact reported.ends_completed_iff.trans (accounts.exists_result_iff gated settled _).symm
  · intro result posted sameNode
    refine reported.ends_with_error (sameNode.trans same.symm) ?_
    have finished := (accounts.fate?_eq_finished_iff gated).mpr ⟨result, posted, sameNode, rfl⟩
    exact Option.some.inj (settled.symm.trans finished)
  · exact reported.alone_iff.trans
      (and_congr_right fun _ => (accounts.exists_result_iff gated settled _).symm)

theorem mem_reports_iff {id : NodeId} :
    id ∈ (orchestrator.reports request compiled world observer).map Prod.fst ↔
      id ∈ (orchestrator.orchestrate request world observer).1.executed ∨
        id ∈ (orchestrator.orchestrate request world observer).1.skipped := by
  have accounts : (orchestrator.final request compiled world observer).ledger.Accounts
    (orchestrator.visited request compiled world observer) := accounts_visited compiles
  rw [map_fst_reports, orchestrate_compiled compiles]
  exact accounts.mem_visited_iff

theorem mem_events_iff {id : NodeId} {update : StatusUpdate} :
    .updated id update ∈ orchestrator.events request world observer ↔
      ∃ updates, (id, updates) ∈ orchestrator.reports request compiled world observer ∧
        update ∈ updates := by
  rw [events_compiled compiles]
  simp [mem_narration]

/-- Whatever node is reported has an event. -/
theorem exists_event_of_mem_reports {id : NodeId}
    (listed : id ∈ (orchestrator.reports request compiled world observer).map Prod.fst) :
    ∃ update, .updated id update ∈ orchestrator.events request world observer := by
  obtain ⟨report, member, rfl⟩ := List.mem_map.mp listed
  have shape := (reported_final compiles member).shape
  obtain ⟨id, updates⟩ := report
  cases updates with
  | nil => simp at shape
  | cons update updates =>
      exact ⟨update, (mem_events_iff compiles).mpr ⟨_, member, List.mem_cons_self⟩⟩

theorem pairwise_events {source target : NodeId} (apart : source ≠ target)
    (forward : ((orchestrator.reports request compiled world observer).map Prod.fst).Pairwise
      fun first second => ¬ (first = target ∧ second = source)) :
    (orchestrator.events request world observer).Pairwise fun first second =>
      ¬ RunEvent.Reverses source target first second := by
  rw [events_compiled compiles, List.pairwise_cons, List.pairwise_append]
  refine ⟨?_, pairwise_narration apart forward, List.pairwise_singleton _ _, ?_⟩
  · rintro _ _ ⟨⟨_, started⟩, _⟩
    cases started
  · rintro _ _ _ finished ⟨_, _, rfl⟩
    cases List.mem_singleton.mp finished

theorem legal_reports (orchestrator : Orchestrator σ τ) (world : σ) (observer : τ) :
    Legal request.workflow.nodeIds (Joined request.workflow.resolvedEdges)
      ((orchestrator.reports request compiled world observer).map Prod.fst) := by
  have front : orchestrator.visited request compiled world observer <+: compiled.plan.order :=
    visited_isPrefix compiles
  obtain ⟨rest, split⟩ := front
  have legal := (Workflow.greedy_order compiles).2.legal
  rw [← split] at legal
  rw [map_fst_reports]
  exact legal.front

/-- The last report of a node is in front of the first one of each node that it feeds. -/
theorem source_reported {edge : ResolvedEdge} (declared : edge ∈ request.workflow.resolvedEdges)
    {before after : List RunEvent} {update : StatusUpdate}
    (split : orchestrator.events request world observer =
      before ++ .updated edge.target update :: after) :
    (∃ update, .updated edge.source update ∈ before) ∧
      ∀ update, .updated edge.source update ∉ after := by
  have joined : Joined request.workflow.resolvedEdges edge.source edge.target :=
    ⟨edge, declared, rfl, rfl⟩
  have legal := legal_reports compiles orchestrator world observer
  have told : .updated edge.target update ∈ orchestrator.events request world observer := by
    simp [split]
  obtain ⟨updates, reported, _⟩ := (mem_events_iff compiles).mp told
  obtain ⟨front, back, placed⟩ := List.append_of_mem (List.mem_map_of_mem (f := Prod.fst) reported)
  have available := legal front edge.target back placed
  have early : edge.source ∈ front := available.supplied _ joined
  have apart : edge.source ≠ edge.target := fun same => available.fresh (same ▸ early)
  have ordered := pairwise_events compiles apart (legal.pairwise joined)
  rw [split, List.pairwise_append, List.pairwise_cons] at ordered
  have behind : ∀ update, .updated edge.source update ∉ after := fun later member =>
    ordered.2.1.1 _ member ⟨⟨update, rfl⟩, later, rfl⟩
  refine ⟨?_, behind⟩
  have listed : edge.source ∈
      (orchestrator.reports request compiled world observer).map Prod.fst := by
    rw [placed]
    exact List.mem_append_left _ early
  obtain ⟨first, heard⟩ := exists_event_of_mem_reports compiles listed
  rw [split] at heard
  rcases List.mem_append.mp heard with inFront | here
  · exact ⟨first, inFront⟩
  · rcases List.mem_cons.mp here with same | later
    · exact absurd (RunEvent.updated.inj same).1 apart
    · exact absurd later (behind first)

end Compiled

/-- Whatever sink a run reports to and whatever that sink answers, the response is the same, and so
are the events: the start, the reports of the nodes that the run gets to, in the order of the plan,
and the end with the status of the response. -/
theorem orchestrate_protocol (orchestrator : Orchestrator σ τ) (request : RunRequest) (world : σ)
    (observer : τ) :
    let response := (orchestrator.orchestrate request world observer).1
    let policy := (request.options.resolve orchestrator.defaults).missingDependency
    response.status.isTerminal = true ∧
      ∃ events : List RunEvent,
        (∀ (υ : Type) (sink : Sink υ) (watching : υ),
          let run := (orchestrator.withSink sink.recorded).orchestrate request world (watching, [])
          (orchestrator.withSink sink).orchestrate request world watching =
              (run.1, run.2.1, run.2.2.1) ∧
            run.1 = response ∧ run.2.2.2 = events.map (orchestrator.stamps.id, ·)) ∧
        (∀ error, request.workflow.compile = .error error →
          response.status = .failed ∧
            events =
              [.started (info request request.workflow.nodes.length), .finished .failed]) ∧
        ∀ compiled, request.workflow.compile = .ok compiled →
          ∃ reports : List (NodeId × List StatusUpdate),
            events = .started (info request compiled.nodeCount) ::
              (narration reports ++ [.finished response.status]) ∧
            reports.map Prod.fst <+: compiled.plan.order ∧
            (∀ id, id ∈ reports.map Prod.fst ↔
              id ∈ response.executed ∨ id ∈ response.skipped) ∧
            (∀ report ∈ reports, response.Reported policy report.1 report.2) ∧
            ∀ edge ∈ request.workflow.resolvedEdges, ∀ before update after,
              events = before ++ .updated edge.target update :: after →
                (∃ update, .updated edge.source update ∈ before) ∧
                  ∀ update, .updated edge.source update ∉ after := by
  intro response policy
  constructor
  · simp only [response, orchestrate_status]
    split <;> rfl
  · refine ⟨orchestrator.events request world observer, ?_, ?_, ?_⟩
    · intro υ sink watching run
      have recorded := orchestrator.orchestrate_withSink request world observer sink.recorded
        (watching, [])
      rw [Sink.feed_recorded, List.nil_append] at recorded
      have same := orchestrator.orchestrate_withSink request world observer sink watching
      simp only [run, recorded, same, response, and_self]
    · intro error fails
      simp only [response, events, orchestrate, fails, RunResponse.ofLedger, and_self]
    · intro compiled compiles
      refine ⟨_, events_compiled compiles, ?_, fun id => mem_reports_iff compiles,
        fun report => reported_final compiles, ?_⟩
      · rw [map_fst_reports]
        exact visited_isPrefix compiles
      · intro edge declared before update after split
        exact source_reported compiles declared split

example : (gateways.reports forkedRequest (forked.assemble forkedOrder) () ()).map
      (fun report => (report.1, report.2.map StatusUpdate.status)) =
    [("gate", [.running, .completed]), ("yes", [.running, .completed]), ("no", [.skipped]),
      ("lost", [.running, .failed]), ("late", [.failed])] := by
  decide +kernel

/-- A sink that refuses every call still gets them all. -/
theorem orchestrate_protocol_forked :
    forked.compile = .ok (forked.assemble forkedOrder) ∧
      let run := (gateways.withSink (Sink.broken .channelClosed).recorded).orchestrate forkedRequest
        () ((), [])
      run.1.status = .completed ∧
        ∃ reports : List (NodeId × List StatusUpdate),
          run.2.2.2 = (RunEvent.started (info forkedRequest 5) ::
            (narration reports ++ [.finished .completed])).map (gateways.stamps.id, ·) ∧
          reports.map Prod.fst <+: forkedOrder := by
  have compiles : forkedRequest.workflow.compile = .ok (forked.assemble forkedOrder) := by
    decide +kernel
  have completed : (gateways.orchestrate forkedRequest () ()).1.status = .completed := by
    decide +kernel
  obtain ⟨_, events, heard, _, protocol⟩ := orchestrate_protocol gateways forkedRequest () ()
  obtain ⟨reports, told, front, _⟩ := protocol _ compiles
  obtain ⟨_, same, log⟩ := heard Unit (.broken .channelClosed) ()
  refine ⟨compiles, ?_, reports, ?_, front⟩
  · rw [same, completed]
  · rw [log, told, completed]
    rfl

end Orchestrator

end Flowline
