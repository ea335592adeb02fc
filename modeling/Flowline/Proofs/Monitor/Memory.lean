import Flowline.Proofs.Monitor.Interleaving
import Flowline.Proofs.Run.Protocol

/-!
The memory of a monitor against the response of the run that it watched. The run reports the nodes
that it gets to one after another, so the last update of each node is what the response has of it,
the counts of last updates are the lengths of the lists, and the history goes by the order of the
plan.
-/

namespace Flowline

/-- The updates that nodes are reported with, each under its node. -/
def notices (reports : List (NodeId × List StatusUpdate)) : List (NodeId × StatusUpdate) :=
  reports.flatMap fun report => report.2.map (report.1, ·)

section Notices

variable {reports : List (NodeId × List StatusUpdate)} {report : NodeId × List StatusUpdate}
  {id : NodeId}

theorem notices_cons (report : NodeId × List StatusUpdate)
    (reports : List (NodeId × List StatusUpdate)) :
    notices (report :: reports) = report.2.map (report.1, ·) ++ notices reports :=
  List.flatMap_cons

theorem narration_eq_map_notices (reports : List (NodeId × List StatusUpdate)) :
    narration reports = (notices reports).map fun notice => .updated notice.1 notice.2 := by
  rw [narration, notices, List.map_flatMap]
  simp only [List.map_map]
  rfl

theorem filter_notices_of_not_mem (absent : id ∉ reports.map Prod.fst) :
    (notices reports).filter (fun notice => notice.1 == id) = [] := by
  rw [List.filter_eq_nil_iff]
  intro notice member here
  obtain ⟨report, listed, noted⟩ := List.mem_flatMap.mp member
  obtain ⟨update, _, rfl⟩ := List.mem_map.mp noted
  exact absent (List.mem_map.mpr ⟨report, listed, eq_of_beq here⟩)

theorem filter_notices_of_mem (unique : (reports.map Prod.fst).Nodup)
    (member : report ∈ reports) :
    (notices reports).filter (fun notice => notice.1 == report.1) =
      report.2.map (report.1, ·) := by
  induction reports with
  | nil => cases member
  | cons first rest ih =>
      obtain ⟨absent, unique⟩ := List.nodup_cons.mp unique
      rw [notices_cons, List.filter_append]
      rcases List.mem_cons.mp member with rfl | later
      · rw [filter_notices_of_not_mem absent, List.append_nil, List.filter_eq_self]
        simp
      · have apart : first.1 ≠ report.1 := fun same =>
          absent (List.mem_map.mpr ⟨report, later, same.symm⟩)
        have others : (first.2.map (first.1, ·)).filter (fun notice => notice.1 == report.1) =
            [] := by
          rw [List.filter_eq_nil_iff]
          simp [apart]
        rw [ih unique later, others, List.nil_append]

end Notices

namespace Execution

variable {info : RunInfo} {start : Timestamp} {endings : List (RunStatus × Timestamp)}
  {reports : List (NodeId × List StatusUpdate)} {report : NodeId × List StatusUpdate} {id : NodeId}

/-- The nodes in the order in which the last word on them came in. -/
def ended (execution : Execution) : List NodeId :=
  (execution.history.filter fun entry => entry.2.status != .running).map Prod.fst

theorem latest_of_mem (unique : (reports.map Prod.fst).Nodup) (member : report ∈ reports) :
    Entries.get? (told info start (notices reports) endings).latest report.1 =
      report.2.getLast? := by
  rw [told, Entries.get?_ofList, filter_notices_of_mem unique member, List.getLast?_map,
    Option.map_map]
  exact congrFun Option.map_id _

theorem latest_of_not_mem (absent : id ∉ reports.map Prod.fst) :
    Entries.get? (told info start (notices reports) endings).latest id = none := by
  rw [told, Entries.get?_ofList, filter_notices_of_not_mem absent]
  rfl

theorem latest_eq_some_iff (unique : (reports.map Prod.fst).Nodup) {update : StatusUpdate} :
    Entries.get? (told info start (notices reports) endings).latest id = some update ↔
      ∃ report ∈ reports, report.1 = id ∧ report.2.getLast? = some update := by
  constructor
  · intro found
    by_cases listed : id ∈ reports.map Prod.fst
    · obtain ⟨report, member, rfl⟩ := List.mem_map.mp listed
      rw [latest_of_mem unique member] at found
      exact ⟨report, member, rfl, found⟩
    · rw [latest_of_not_mem listed] at found
      cases found
  · rintro ⟨report, member, rfl, last⟩
    rw [latest_of_mem unique member, last]

theorem count_told (unique : (reports.map Prod.fst).Nodup) {status : NodeStatus}
    {listed : List NodeId} (distinct : listed.Nodup) (within : listed ⊆ reports.map Prod.fst)
    (ends : ∀ report ∈ reports,
      report.2.getLast?.map StatusUpdate.status = some status ↔ report.1 ∈ listed) :
    (told info start (notices reports) endings).count status = listed.length := by
  have sorted : Entries.Sorted (told info start (notices reports) endings).latest :=
    Entries.sorted_ofList _
  refine Entries.length_filter_values sorted distinct fun id => ?_
  simp only [latest_eq_some_iff unique, beq_iff_eq]
  constructor
  · intro member
    obtain ⟨report, reported, rfl⟩ := List.mem_map.mp (within member)
    obtain ⟨update, last, same⟩ := Option.map_eq_some_iff.mp ((ends report reported).mpr member)
    exact ⟨update, ⟨report, reported, rfl, last⟩, same⟩
  · rintro ⟨update, ⟨report, reported, rfl, last⟩, same⟩
    exact (ends report reported).mp (Option.map_eq_some_iff.mpr ⟨update, last, same⟩)

/-- Of what a node is reported with, only the last update is about the end of it. -/
theorem ended_told
    (shapes : ∀ report ∈ reports, report.2.map StatusUpdate.status ∈
      [[.skipped], [.failed], [.running, .completed], [.running, .failed]]) :
    (told info start (notices reports) endings).ended = reports.map Prod.fst := by
  have once (updates : List StatusUpdate) (shape : updates.map StatusUpdate.status ∈
      [[.skipped], [.failed], [.running, .completed], [.running, .failed]]) :
      (updates.filter fun update => update.status != .running).length = 1 := by
    have counted : ∀ shape ∈ [[NodeStatus.skipped], [.failed], [.running, .completed],
        [.running, .failed]], (shape.filter fun status => status != .running).length = 1 := by
      decide
    rw [← counted _ shape, List.filter_map, List.length_map]
    rfl
  simp only [ended, told]
  induction reports with
  | nil => rfl
  | cons report rest ih =>
      rw [notices_cons, List.filter_append, List.map_append,
        ih fun other member => shapes other (List.mem_cons_of_mem _ member), List.filter_map,
        List.map_map, List.map_cons]
      obtain ⟨update, alone⟩ :=
        List.length_eq_one_iff.mp (once report.2 (shapes report List.mem_cons_self))
      exact congrArg (· ++ rest.map Prod.fst) (congrArg (List.map _) alone)

/-- What is known of an execution that has ended is what the response of the run has. -/
structure Reflects (execution : Execution) (response : RunResponse) : Prop where
  state : execution.status = response.status
  total : execution.info.totalNodes = response.totalNodes
  completed : execution.count .completed + response.failed.length = response.results.length
  failed : execution.count .failed = response.failed.length
  skipped : execution.count .skipped = response.skipped.length
  finished : execution.finishedAt.isSome = true
  settled : ∀ id update, Entries.get? execution.latest id = some update →
    update.status ≠ .running
  known : ∀ id, Entries.has execution.latest id = true ↔
    id ∈ response.executed ∨ id ∈ response.skipped
  once : execution.ended.Nodup
  ended : ∀ id, id ∈ execution.ended ↔ id ∈ response.executed ∨ id ∈ response.skipped
  executed : response.executed.Sublist execution.ended
  skips : response.skipped.Sublist execution.ended

section Reflects

variable {policy : MissingDependencyPolicy} {response : RunResponse}
  (unique : (reports.map Prod.fst).Nodup)
  (reported : ∀ report ∈ reports, response.Reported policy report.1 report.2)
  (known : ∀ id, id ∈ reports.map Prod.fst ↔ id ∈ response.executed ∨ id ∈ response.skipped)

include unique reported known

theorem count_completed (executed : response.executed.Nodup)
    (failures : response.failed = NodeResult.failures response.results) :
    (told info start (notices reports) endings).count .completed + response.failed.length =
      response.results.length := by
  have succeeded : (told info start (notices reports) endings).count .completed =
      ((response.results.filter NodeResult.isSuccess).map NodeResult.node).length := by
    refine count_told unique (executed.sublist (List.filter_sublist.map _)) ?_ ?_
    · intro id member
      obtain ⟨result, listed, rfl⟩ := List.mem_map.mp member
      refine (known _).mpr (Or.inl ?_)
      exact List.mem_map.mpr ⟨result, (List.mem_filter.mp listed).1, rfl⟩
    · intro report member
      rw [(reported report member).completed, List.mem_map]
      refine exists_congr fun result => ?_
      rw [List.mem_filter, and_assoc, and_comm (a := result.node = report.1)]
  rw [succeeded, failures, NodeResult.failures, List.length_map, List.length_map]
  exact (List.length_eq_length_filter_add _).symm

theorem count_failed (executed : response.executed.Nodup)
    (failures : response.failed = NodeResult.failures response.results) :
    (told info start (notices reports) endings).count .failed = response.failed.length := by
  have distinct : response.failed.Nodup := by
    rw [failures]
    exact executed.sublist (List.filter_sublist.map _)
  refine count_told unique distinct ?_ fun report member => (reported report member).failed
  intro id member
  rw [failures] at member
  exact (known id).mpr (Or.inl (NodeResult.mem_failures member))

theorem count_skipped (distinct : response.skipped.Nodup) :
    (told info start (notices reports) endings).count .skipped = response.skipped.length :=
  count_told unique distinct (fun id member => (known id).mpr (Or.inr member))
    fun report member => (reported report member).skipped

theorem has_latest_iff {id : NodeId} :
    Entries.has (told info start (notices reports) endings).latest id = true ↔
      id ∈ response.executed ∨ id ∈ response.skipped := by
  rw [← known]
  by_cases listed : id ∈ reports.map Prod.fst
  · obtain ⟨report, member, rfl⟩ := List.mem_map.mp listed
    have shape := (reported report member).shape
    rw [Entries.has, latest_of_mem unique member, List.getLast?_isSome]
    refine iff_of_true ?_ listed
    intro empty
    rw [empty] at shape
    simp at shape
  · rw [Entries.has, latest_of_not_mem listed]
    exact iff_of_false Bool.false_ne_true listed

end Reflects

/-- A node that is reported is not left running. -/
theorem latest_ne_running {response : RunResponse} {policy : MissingDependencyPolicy}
    (unique : (reports.map Prod.fst).Nodup)
    (reported : ∀ report ∈ reports, response.Reported policy report.1 report.2)
    {update : StatusUpdate}
    (found : Entries.get? (told info start (notices reports) endings).latest id = some update) :
    update.status ≠ .running := by
  obtain ⟨report, member, rfl, last⟩ := (latest_eq_some_iff unique).mp found
  have ends : (report.2.map StatusUpdate.status).getLast? = some update.status := by
    rw [List.getLast?_map, last]
    rfl
  have closed : ∀ shape ∈ [[NodeStatus.skipped], [.failed], [.running, .completed],
      [.running, .failed]], shape.getLast? ≠ some .running := by
    decide
  intro running
  exact closed _ (reported report member).shape (running ▸ ends)

theorem reflects_told (info : RunInfo) (start finish : Timestamp)
    {policy : MissingDependencyPolicy} {status : RunStatus} {ledger : Ledger}
    (unique : (reports.map Prod.fst).Nodup)
    (reported : ∀ report ∈ reports,
      (RunResponse.ofLedger status info.totalNodes ledger).Reported policy report.1 report.2)
    (accounts : ledger.Accounts (reports.map Prod.fst))
    (failures : ledger.failed = NodeResult.failures ledger.results) :
    (told info start (notices reports) [(status, finish)]).Reflects
      (.ofLedger status info.totalNodes ledger) := by
  have known (id : NodeId) : id ∈ reports.map Prod.fst ↔
      id ∈ ledger.results.map NodeResult.node ∨ id ∈ ledger.skipped := accounts.mem_visited_iff
  have ended : (told info start (notices reports) [(status, finish)]).ended =
      reports.map Prod.fst :=
    ended_told fun report member => (reported report member).shape
  exact {
    state := rfl
    total := rfl
    completed := count_completed unique reported known accounts.nodup_executed failures
    failed := count_failed unique reported known accounts.nodup_executed failures
    skipped := count_skipped unique reported known (unique.sublist accounts.skipped)
    finished := rfl
    settled := fun _ _ => latest_ne_running unique reported
    known := fun _ => has_latest_iff unique reported known
    once := by rw [ended]; exact unique
    ended := by rw [ended]; exact known
    executed := by rw [ended]; exact accounts.executed
    skips := by rw [ended]; exact accounts.skipped }

/-- What the status of an execution reads like beside the summary of the response. -/
structure StatusMatches (finish : Timestamp) (status : Json) (response : RunResponse) : Prop where
  state : status.field? "state" = some (.string response.status.name)
  total : status.field? "total_nodes" = response.summaryToJson.field? "total_nodes"
  completed : status.field? "completed" =
    some (Json.ofNat (response.results.length - response.failed.length))
  failed : status.field? "failed" = response.summaryToJson.field? "nodes_failed"
  skipped : status.field? "skipped" = response.summaryToJson.field? "nodes_skipped"
  finished : status.field? "finished_at" = some (.string finish)

theorem field?_statusToJson {execution : Execution} {finish : Timestamp}
    (finished : execution.finishedAt = some finish) {key : String} {value : Json}
    (member : (key, value) ∈
      [("workflow_id", .string execution.info.workflowId),
        ("pipeline_id", .string execution.info.pipelineId),
        ("state", .string execution.status.name),
        ("total_nodes", Json.ofNat execution.info.totalNodes),
        ("completed", Json.ofNat (execution.count .completed)),
        ("failed", Json.ofNat (execution.count .failed)),
        ("skipped", Json.ofNat (execution.count .skipped)),
        ("started_at", .string execution.startedAt), ("finished_at", .string finish)]) :
    execution.statusToJson.field? key = some value := by
  have unique : ["workflow_id", "pipeline_id", "state", "total_nodes", "completed", "failed",
      "skipped", "started_at", "finished_at"].Nodup := by
    decide
  rw [statusToJson, finished, Json.ofFields, Json.field?, Json.object?, Option.bind_some]
  exact Entries.get?_ofList_of_nodup unique member

theorem Reflects.statusMatches {execution : Execution} {response : RunResponse}
    (reflects : execution.Reflects response) {finish : Timestamp}
    (finished : execution.finishedAt = some finish) :
    StatusMatches finish execution.statusToJson response := by
  have completed : execution.count .completed =
      response.results.length - response.failed.length := by
    rw [← reflects.completed, Nat.add_sub_cancel]
  obtain ⟨total, _, skipped, failed⟩ := response.summary_counts
  have field := @field?_statusToJson execution finish finished
  constructor
  · exact field (by simp [reflects.state])
  · rw [total]
    exact field (by simp [reflects.total])
  · exact field (by simp [completed])
  · rw [failed]
    exact field (by simp [reflects.failed])
  · rw [skipped]
    exact field (by simp [reflects.skipped])
  · exact field (by simp)

end Execution

namespace Monitor

/-- The calls by which events of an execution come in, one at each look at the clock. -/
def timed (clock : Clock) (id : String) (events : List RunEvent) : List MonitorCall :=
  events.mapIdx fun look event => ⟨id, clock look, event⟩

theorem timed_cons (clock : Clock) (id : String) (event : RunEvent) (rest : List RunEvent) :
    timed clock id (event :: rest) =
      ⟨id, clock 0, event⟩ :: timed (fun look => clock (look + 1)) id rest :=
  List.mapIdx_cons

theorem callsOf_timed (clock : Clock) (id : String) (events : List RunEvent) :
    Memory.callsOf id (timed clock id events) = timed clock id events := by
  refine List.filter_eq_self.mpr fun call made => ?_
  obtain ⟨look, _, rfl⟩ := List.mem_mapIdx.mp made
  exact beq_self_eq_true id

theorem started_not_mem_timed (clock : Clock) (id : String) {events : List RunEvent}
    (unstarted : ∀ info, .started info ∉ events) (time : Timestamp) (info : RunInfo) :
    ⟨id, time, .started info⟩ ∉ timed clock id events := by
  intro made
  obtain ⟨look, inside, same⟩ := List.mem_mapIdx.mp made
  exact unstarted info (List.mem_of_getElem (congrArg MonitorCall.event same))

/-- What comes in while a run goes from node to node, and at the end of it. -/
theorem timed_narrated (clock : Clock) (id : String) (notices : List (NodeId × StatusUpdate))
    (status : RunStatus) :
    (timed clock id (notices.map (fun notice => .updated notice.1 notice.2) ++
        [.finished status])).filterMap MonitorCall.update? = notices ∧
      (timed clock id (notices.map (fun notice => .updated notice.1 notice.2) ++
        [.finished status])).filterMap MonitorCall.ending? =
          [(status, clock notices.length)] := by
  induction notices generalizing clock with
  | nil => exact ⟨rfl, rfl⟩
  | cons notice rest ih =>
      obtain ⟨updates, endings⟩ := ih fun look => clock (look + 1)
      rw [List.map_cons, List.cons_append, timed_cons]
      exact ⟨congrArg (notice :: ·) updates, endings⟩

/-- What a monitor keeps of events that come in is what its memory keeps of the timed calls. -/
theorem memory_feed (monitor : Monitor) (id : String) (events : List RunEvent) :
    (sink.feed id events monitor).memory =
      monitor.memory.replay (timed monitor.clock id events) := by
  induction events generalizing monitor with
  | nil => rfl
  | cons event rest ih =>
      rw [timed_cons]
      exact ih _

/-- An execution that was run before is forgotten when it is started anew. -/
theorem execution?_feed (monitor : Monitor) (id : String) (info : RunInfo)
    (reports : List (NodeId × List StatusUpdate)) (status : RunStatus) :
    (sink.feed id (.started info :: (narration reports ++ [.finished status]))
        monitor).memory.execution? id =
      some (.told info (monitor.clock 0) (notices reports)
        [(status, monitor.clock ((notices reports).length + 1))]) := by
  have unstarted : ∀ info, .started info ∉ narration reports ++ [.finished status] := by
    simp [mem_narration]
  have known := monitor.memory.execution?_replay_of_started [] (monitor.clock 0) info
    (started_not_mem_timed (fun look => monitor.clock (look + 1)) id unstarted)
  rw [callsOf_timed, narration_eq_map_notices] at known
  obtain ⟨updates, endings⟩ :=
    timed_narrated (fun look => monitor.clock (look + 1)) id (notices reports) status
  rw [updates, endings] at known
  rw [memory_feed, timed_cons, narration_eq_map_notices]
  exact known

end Monitor

namespace Orchestrator

variable {σ τ : Type}

/-- The events of a run tell of it what its response tells. -/
theorem reflects_events (orchestrator : Orchestrator σ τ) (request : RunRequest) (world : σ)
    (observer : τ) :
    ∃ (info : RunInfo) (reports : List (NodeId × List StatusUpdate)),
      let response := (orchestrator.orchestrate request world observer).1
      orchestrator.events request world observer =
          .started info :: (narration reports ++ [.finished response.status]) ∧
        ∀ begin finish,
          let execution : Execution :=
            .told info begin (notices reports) [(response.status, finish)]
          execution.Reflects response ∧
            ∀ compiled, request.workflow.compile = .ok compiled →
              execution.ended <+: compiled.plan.order := by
  cases compiles : request.workflow.compile with
  | error error =>
      refine ⟨info request request.workflow.nodes.length, [], ?_, fun begin finish => ⟨?_, ?_⟩⟩
      · rw [events, orchestrate, compiles]
        rfl
      · rw [orchestrate, compiles]
        have none : ∀ report ∈ ([] : List (NodeId × List StatusUpdate)),
            RunResponse.Reported (.ofLedger .failed request.workflow.nodes.length
              (Ledger.stop {} (.notCompiled error))) .fail report.1 report.2 :=
          List.forall_mem_nil _
        refine Execution.reflects_told (info request request.workflow.nodes.length) begin finish
          List.nodup_nil none ?_ rfl
        exact ⟨fun _ => rfl, .slnil, .slnil⟩
      · intro compiled impossible
        cases impossible
  | ok compiled =>
      have reported : ∀ report ∈ orchestrator.reports request compiled world observer,
          (orchestrator.orchestrate request world observer).1.Reported
            (request.options.resolve orchestrator.defaults).missingDependency report.1 report.2 :=
        fun _ => reported_final compiles
      have front : (orchestrator.reports request compiled world observer).map Prod.fst <+:
          compiled.plan.order := by
        rw [map_fst_reports]
        exact visited_isPrefix compiles
      refine ⟨info request compiled.nodeCount,
        orchestrator.reports request compiled world observer, events_compiled compiles,
        fun begin finish => ⟨?_, ?_⟩⟩
      · rw [orchestrate_compiled compiles] at reported ⊢
        refine Execution.reflects_told (info request compiled.nodeCount) begin finish
          ((Workflow.nodup_order compiles).sublist front.sublist) reported ?_
          (failures_final compiles)
        rw [map_fst_reports]
        exact accounts_visited compiles
      · intro other same
        cases same
        rw [Execution.ended_told fun report member => (reported report member).shape]
        exact front

/-- Whatever is in memory before a run, afterwards it has of the execution what the response has. -/
theorem orchestrate_reflected (orchestrator : Orchestrator σ τ) (request : RunRequest) (world : σ)
    (monitor : Monitor) :
    let run := (orchestrator.withSink Monitor.sink).orchestrate request world monitor
    let memory := run.2.2.memory
    ∃ execution status,
      memory.execution? orchestrator.stamps.id = some execution ∧
        execution.Reflects run.1 ∧
        (∀ compiled, request.workflow.compile = .ok compiled →
          execution.ended <+: compiled.plan.order) ∧
        memory.history orchestrator.stamps.id = execution.history ∧
        memory.statusToJson orchestrator.stamps.id =
          Json.ofFields [("execution_id", .string orchestrator.stamps.id), ("status", status)] ∧
        Execution.StatusMatches (monitor.clock (execution.history.length + 1)) status run.1 := by
  intro run memory
  have fed := (orchestrator.withSink Monitor.sink).orchestrate_withSink request world monitor
    Monitor.sink monitor
  obtain ⟨info, reports, told, tells⟩ :=
    (orchestrator.withSink Monitor.sink).reflects_events request world monitor
  obtain ⟨reflects, ended⟩ := tells (monitor.clock 0) (monitor.clock ((notices reports).length + 1))
  have known : memory.execution? orchestrator.stamps.id =
      some (.told info (monitor.clock 0) (notices reports)
        [(run.1.status, monitor.clock ((notices reports).length + 1))]) := by
    have observed : memory = (Monitor.sink.feed orchestrator.stamps.id
      ((orchestrator.withSink Monitor.sink).events request world monitor) monitor).memory :=
        congrArg (fun run => run.2.2.memory) fed
    rw [observed, told]
    exact monitor.execution?_feed _ info reports _
  refine ⟨_, _, known, reflects, ended, ?_, ?_, reflects.statusMatches rfl⟩
  · rw [Memory.history, known]
    rfl
  · rw [Memory.statusToJson, known]
    rfl

/-- What is known of an earlier execution under the same id does not show. -/
theorem orchestrate_reflected_forked :
    forked.compile = .ok (forked.assemble forkedOrder) ∧
      let earlier : Execution :=
        { info := info loopedRequest 9, startedAt := "00:00", status := .failed,
          latest := [("lost", .running "" "00:00")] }
      let run := (gateways.withSink Monitor.sink).orchestrate forkedRequest ()
        { clock := Nat.repr, memory := [(gateways.stamps.id, earlier)] }
      ∃ execution, run.2.2.memory.execution? gateways.stamps.id = some execution ∧
        execution.status = .completed ∧ execution.count .failed = 2 ∧
        execution.count .skipped = 1 ∧ execution.ended <+: forkedOrder := by
  have compiles : forkedRequest.workflow.compile = .ok (forked.assemble forkedOrder) := by
    decide +kernel
  have response : let response := (gateways.orchestrate forkedRequest () ()).1
      response.status = .completed ∧ response.failed.length = 2 ∧
        response.skipped.length = 1 := by
    decide +kernel
  refine ⟨compiles, ?_⟩
  intro earlier run
  have same : run.1 = (gateways.orchestrate forkedRequest () ()).1 :=
    congrArg Prod.fst (gateways.orchestrate_withSink forkedRequest () () Monitor.sink _)
  obtain ⟨execution, _, known, reflects, front, _⟩ :=
    orchestrate_reflected gateways forkedRequest ()
      { clock := Nat.repr, memory := [(gateways.stamps.id, earlier)] }
  rw [← same] at response
  obtain ⟨completed, failed, skipped⟩ := response
  exact ⟨execution, known, reflects.state.trans completed, reflects.failed.trans failed,
    reflects.skipped.trans skipped, front _ compiles⟩

end Orchestrator

end Flowline
