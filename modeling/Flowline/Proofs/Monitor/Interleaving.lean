import Flowline.Monitor.Memory
import Flowline.Proofs.Entries

/-!
Executions that share one memory. An event changes what is known of its own execution, in a way
that depends on nothing else, so after any calls each execution is where its own calls alone would
have brought it.
-/

namespace Flowline

/-- An event of an execution, and the time at which it comes in. -/
structure MonitorCall where
  id : String
  time : Timestamp
  event : RunEvent
deriving DecidableEq

namespace MonitorCall

def update? (call : MonitorCall) : Option (NodeId × StatusUpdate) :=
  match call.event with
  | .updated node update => some (node, update)
  | _ => none

/-- The end of an execution, and when it came. -/
def ending? (call : MonitorCall) : Option (RunStatus × Timestamp) :=
  match call.event with
  | .finished status => some (status, call.time)
  | _ => none

end MonitorCall

namespace Execution

variable {info : RunInfo} {start : Timestamp} {notices : List (NodeId × StatusUpdate)}
  {endings : List (RunStatus × Timestamp)} {calls : List MonitorCall}

/-- What is known of an execution after a call, from what was known of it before. -/
def next? (known : Option Execution) (call : MonitorCall) : Option Execution :=
  match call.event with
  | .started info => some { info, startedAt := call.time }
  | .updated node update => known.map fun execution => execution.update node update
  | .finished status => known.map fun execution => execution.finish status call.time

theorem exists_next? (execution : Execution) (call : MonitorCall) :
    ∃ next, next? (some execution) call = some next := by
  unfold next?
  split <;> exact ⟨_, rfl⟩

theorem foldl_next?_none (unstarted : ∀ call ∈ calls, ∀ info, call.event ≠ .started info) :
    calls.foldl next? none = none := by
  induction calls with
  | nil => rfl
  | cons call rest ih =>
      have same : next? none call = none := by
        unfold next?
        split
        · exact absurd ‹_› (unstarted call List.mem_cons_self _)
        · rfl
        · rfl
      rw [List.foldl_cons, same]
      exact ih fun call later => unstarted call (List.mem_cons_of_mem _ later)

/-- What is known of an execution: the updates since it was started, and how it ended last. -/
def told (info : RunInfo) (start : Timestamp) (notices : List (NodeId × StatusUpdate))
    (endings : List (RunStatus × Timestamp)) : Execution where
  info
  startedAt := start
  status := (endings.getLast?.map Prod.fst).getD .executing
  finishedAt := endings.getLast?.map Prod.snd
  latest := Entries.ofList notices
  history := notices

theorem update_told (notice : NodeId × StatusUpdate) :
    (told info start notices endings).update notice.1 notice.2 =
      told info start (notices ++ [notice]) endings := by
  simp only [told, update, Entries.ofList, List.foldl_concat]

theorem finish_told (ending : RunStatus × Timestamp) :
    (told info start notices endings).finish ending.1 ending.2 =
      told info start notices (endings ++ [ending]) := by
  rw [told, told, List.getLast?_concat]
  rfl

/-- An execution tells of all that came in since it was started. -/
theorem foldl_next?_told (unstarted : ∀ call ∈ calls, ∀ info, call.event ≠ .started info) :
    calls.foldl next? (some (told info start notices endings)) =
      some (told info start (notices ++ calls.filterMap MonitorCall.update?)
        (endings ++ calls.filterMap MonitorCall.ending?)) := by
  induction calls generalizing notices endings with
  | nil => simp
  | cons call rest ih =>
      have rested := fun call later => unstarted call (List.mem_cons_of_mem _ later)
      obtain ⟨id, time, event⟩ := call
      cases event with
      | started info => exact absurd rfl (unstarted _ List.mem_cons_self info)
      | updated node update =>
          have taken :
              next? (some (told info start notices endings)) ⟨id, time, .updated node update⟩ =
                some (told info start (notices ++ [(node, update)]) endings) :=
            congrArg some (update_told (node, update))
          rw [List.foldl_cons, taken, ih rested, List.append_assoc]
          rfl
      | finished status =>
          have taken :
              next? (some (told info start notices endings)) ⟨id, time, .finished status⟩ =
                some (told info start notices (endings ++ [(status, time)])) :=
            congrArg some (finish_told (status, time))
          rw [List.foldl_cons, taken, ih rested, List.append_assoc]
          rfl

theorem latest_told (node : NodeId) :
    Entries.get? (told info start notices endings).latest node =
      ((notices.filter fun notice => notice.1 == node).getLast?).map Prod.snd :=
  Entries.get?_ofList ..

end Execution

namespace Memory

variable {memory other : Memory} {id : String} {calls : List MonitorCall} {execution : Execution}

/-- The calls for one execution, out of calls for any of them. -/
def callsOf (id : String) (calls : List MonitorCall) : List MonitorCall :=
  calls.filter fun call => call.id == id

theorem callsOf_cons (id : String) (call : MonitorCall) (calls : List MonitorCall) :
    callsOf id (call :: calls) = (if call.id = id then [call] else []) ++ callsOf id calls := by
  unfold callsOf
  by_cases own : call.id = id
  · simp [own]
  · simp [own]

theorem callsOf_callsOf (id : String) (calls : List MonitorCall) :
    callsOf id (callsOf id calls) = callsOf id calls := by
  rw [callsOf, callsOf, List.filter_filter]
  simp only [Bool.and_self]

/-- The calls for an execution do not start it if none of all calls does. -/
theorem unstarted_callsOf (unstarted : ∀ time info, ⟨id, time, .started info⟩ ∉ calls) :
    ∀ call ∈ callsOf id calls, ∀ info, call.event ≠ .started info := by
  rintro ⟨owner, time, event⟩ member info rfl
  obtain ⟨made, own⟩ := List.mem_filter.mp member
  cases eq_of_beq own
  exact unstarted time info made

/-- The memory once the calls have come in one after another. -/
def replay (memory : Memory) (calls : List MonitorCall) : Memory :=
  calls.foldl (fun memory call => (memory.receive call.time call.id call.event).2) memory

/-- The updates of one execution that are accepted when they come in. -/
def accepted (id : String) (memory : Memory) : List MonitorCall → List (NodeId × StatusUpdate)
  | [] => []
  | call :: rest =>
    (if call.id = id ∧ (memory.receive call.time call.id call.event).1 = .ok () then
      call.update?.toList else []) ++
      accepted id (memory.receive call.time call.id call.event).2 rest

theorem execution?_insert (memory : Memory) (owner : String) (execution : Execution)
    (id : String) :
    execution? (Entries.insert memory owner execution) id =
      if owner = id then some execution else memory.execution? id :=
  Entries.get?_insert memory owner execution id

theorem execution?_change (memory : Memory) (owner : String) (f : Execution → Execution)
    (id : String) :
    (memory.change owner f).2.execution? id =
      if owner = id then (memory.execution? id).map f else memory.execution? id := by
  by_cases own : owner = id
  · subst own
    rw [if_pos rfl, change]
    cases known : memory.execution? owner with
    | none => exact known
    | some execution => exact (execution?_insert ..).trans (if_pos rfl)
  · rw [if_neg own, change]
    cases memory.execution? owner with
    | none => rfl
    | some execution => exact (execution?_insert ..).trans (if_neg own)

section Receive

variable (memory) (id) (time : Timestamp) (event : RunEvent)

/-- An event is taken account of in its own execution and leaves all others alone. -/
theorem execution?_receive (call : MonitorCall) :
    (memory.receive call.time call.id call.event).2.execution? id =
      if call.id = id then Execution.next? (memory.execution? id) call
      else memory.execution? id := by
  obtain ⟨owner, time, event⟩ := call
  cases event with
  | started info => exact execution?_insert ..
  | updated node update => exact execution?_change ..
  | finished status => exact execution?_change ..

theorem receive_of_unknown (unknown : memory.execution? id = none)
    (unstarting : ∀ info, event ≠ .started info) :
    memory.receive time id event = (.error (.unknownExecution id), memory) := by
  cases event with
  | started info => exact absurd rfl (unstarting info)
  | updated node update => rw [receive, change, unknown]
  | finished status => rw [receive, change, unknown]

theorem answer_of_known (known : memory.execution? id = some execution) :
    (memory.receive time id event).1 = .ok () := by
  cases event with
  | started info => rfl
  | updated node update => rw [receive, change, known]
  | finished status => rw [receive, change, known]

end Receive

/-- After any calls, an execution is where its own calls bring it. -/
theorem execution?_replay (memory : Memory) (calls : List MonitorCall) (id : String) :
    (memory.replay calls).execution? id =
      (callsOf id calls).foldl Execution.next? (memory.execution? id) := by
  induction calls generalizing memory with
  | nil => rfl
  | cons call rest ih =>
      rw [replay, List.foldl_cons]
      refine (ih _).trans ?_
      rw [execution?_receive, callsOf_cons, List.foldl_append]
      split <;> rfl

theorem execution?_replay_callsOf (same : memory.execution? id = other.execution? id)
    (calls : List MonitorCall) :
    (memory.replay calls).execution? id = (other.replay (callsOf id calls)).execution? id := by
  rw [execution?_replay, execution?_replay, callsOf_callsOf, same]

/-- Every update of an execution that is known is accepted. -/
theorem accepted_of_known (known : memory.execution? id = some execution)
    (calls : List MonitorCall) :
    accepted id memory calls = (callsOf id calls).filterMap MonitorCall.update? := by
  induction calls generalizing memory execution with
  | nil => rfl
  | cons call rest ih =>
      have reached := execution?_receive memory id call
      rw [accepted, callsOf_cons, List.filterMap_append]
      by_cases own : call.id = id
      · obtain ⟨next, moved⟩ := execution.exists_next? call
        have answer : (memory.receive call.time call.id call.event).1 = .ok () := by
          rw [own]
          exact answer_of_known memory id call.time call.event known
        rw [if_pos own, known, moved] at reached
        rw [ih reached, if_pos ⟨own, answer⟩, if_pos own]
        cases told : call.update? <;> simp [told]
      · rw [if_neg own, known] at reached
        rw [ih reached, if_neg fun admitted => own admitted.1, if_neg own]
        rfl

/-- Starting an execution leaves nothing of what was known of it. -/
theorem execution?_replay_started (memory : Memory) (before : List MonitorCall) (id : String)
    (time : Timestamp) (info : RunInfo) :
    (memory.replay (before ++ [⟨id, time, .started info⟩])).execution? id =
      some (.told info time [] []) := by
  rw [replay, List.foldl_concat, execution?_receive, if_pos rfl]
  rfl

/-- Whatever came before it, from its latest start on an execution tells of its own calls. -/
theorem execution?_replay_of_started (memory : Memory) (before : List MonitorCall)
    (time : Timestamp) (info : RunInfo) {after : List MonitorCall}
    (unstarted : ∀ time info, ⟨id, time, .started info⟩ ∉ after) :
    (memory.replay (before ++ ⟨id, time, .started info⟩ :: after)).execution? id =
      some (.told info time ((callsOf id after).filterMap MonitorCall.update?)
        ((callsOf id after).filterMap MonitorCall.ending?)) := by
  have reached : memory.replay (before ++ ⟨id, time, .started info⟩ :: after) =
      (memory.replay (before ++ [⟨id, time, .started info⟩])).replay after := by
    rw [replay, replay, replay, ← List.foldl_append, ← List.append_cons]
  rw [reached, execution?_replay, execution?_replay_started,
    Execution.foldl_next?_told (unstarted_callsOf unstarted)]
  rfl

/-- Whichever executions share a memory, and however the calls for them interleave, the status, the
metrics and the history of each are those that its own calls alone lead to. An event of an execution
that was not started before is refused and changes nothing. From the latest start on, the history
has the accepted updates in order, which are all that came in, and the metrics have of each node its
last update in the history; the execution was started when that start came in, and stands where the
last end since has left it. -/
theorem replay_undisturbed (calls : List MonitorCall) (id : String) :
    let memory := replay [] calls
    let alone := replay [] (callsOf id calls)
    (memory.history id = alone.history id ∧
        memory.statusToJson id = alone.statusToJson id ∧
        memory.metricsToJson id = alone.metricsToJson id) ∧
      ((∀ time info, ⟨id, time, .started info⟩ ∉ calls) →
        ∀ time event, (∀ info, event ≠ .started info) →
          memory.receive time id event = (.error (.unknownExecution id), memory)) ∧
      ∀ before time info after, calls = before ++ ⟨id, time, .started info⟩ :: after →
        (∀ time info, ⟨id, time, .started info⟩ ∉ after) →
          let updates := accepted id (replay [] (before ++ [⟨id, time, .started info⟩])) after
          let ending := ((callsOf id after).filterMap MonitorCall.ending?).getLast?
          memory.history id = updates ∧
            updates = (callsOf id after).filterMap MonitorCall.update? ∧
            ∃ execution, memory.execution? id = some execution ∧ execution.info = info ∧
              execution.startedAt = time ∧
              execution.status = (ending.map Prod.fst).getD .executing ∧
              execution.finishedAt = ending.map Prod.snd ∧
              memory.metricsToJson id =
                Json.ofFields [
                  ("execution_id", .string id),
                  ("node_statuses",
                    .object (Entries.mapValues StatusUpdate.toJson execution.latest))] ∧
              ∀ node, Entries.get? execution.latest node =
                ((updates.filter fun update => update.1 == node).getLast?).map Prod.snd := by
  intro memory alone
  have same : memory.execution? id = alone.execution? id := execution?_replay_callsOf rfl calls
  refine ⟨⟨?_, ?_, ?_⟩, ?_, ?_⟩
  · rw [history, history, same]
  · rw [statusToJson, statusToJson, same]
  · rw [metricsToJson, metricsToJson, same]
  · intro unstarted time event unstarting
    refine receive_of_unknown memory id time event ?_ unstarting
    exact (execution?_replay [] calls id).trans
      (Execution.foldl_next?_none (unstarted_callsOf unstarted))
  · intro before time info after split unstarted updates ending
    have admitted : updates = (callsOf id after).filterMap MonitorCall.update? :=
      accepted_of_known (execution?_replay_started [] before id time info) after
    have known := execution?_replay_of_started [] before time info unstarted
    rw [← split, ← admitted] at known
    refine ⟨?_, admitted, _, known, rfl, rfl, rfl, rfl, ?_, Execution.latest_told⟩
    · rw [history, known]
      rfl
    · rw [metricsToJson, known]
      rfl

/-- The second start of the first execution forgets what was known of it, in the middle of the calls
for the second one; the third one is unknown. -/
theorem replay_undisturbed_restarted :
    let info : RunInfo := ⟨"flow", "line", runType, 1⟩
    let before : List MonitorCall := [
      ⟨"first", "00:01", .updated "node" (.running "early" "00:00")⟩,
      ⟨"first", "00:02", .started info⟩,
      ⟨"second", "00:03", .started info⟩,
      ⟨"first", "00:04", .updated "node" (.failed "gate" "broken" "00:03")⟩,
      ⟨"first", "00:05", .finished .failed⟩]
    let after : List MonitorCall := [
      ⟨"second", "00:07", .updated "node" (.skipped "gate" "idle" "00:04")⟩,
      ⟨"first", "00:08", .updated "node" (.running "gate" "00:07")⟩,
      ⟨"second", "00:09", .finished .completed⟩,
      ⟨"first", "00:10", .updated "node" (.completed "gate" 0 "00:06")⟩,
      ⟨"first", "00:11", .finished .completed⟩]
    let calls := before ++ ⟨"first", "00:06", .started info⟩ :: after
    let memory := replay [] calls
    memory.history "second" = (replay [] (callsOf "second" calls)).history "second" ∧
      memory.receive "00:12" "third" (.finished .completed) =
        (.error (.unknownExecution "third"), memory) ∧
      memory.history "first" =
        [("node", .running "gate" "00:07"), ("node", .completed "gate" 0 "00:06")] ∧
      ∃ execution, memory.execution? "first" = some execution ∧
        execution.startedAt = "00:06" ∧ execution.finishedAt = some "00:11" ∧
        Entries.get? execution.latest "node" = some (.completed "gate" 0 "00:06") := by
  intro info before after calls memory
  obtain ⟨⟨alone, _⟩, _, _⟩ := replay_undisturbed calls "second"
  obtain ⟨_, refused, _⟩ := replay_undisturbed calls "third"
  obtain ⟨_, _, restarted⟩ := replay_undisturbed calls "first"
  have silent : ∀ time info, ⟨"first", time, .started info⟩ ∉ after := by simp [after]
  have unstarted : ∀ time info, ⟨"third", time, .started info⟩ ∉ calls := by
    simp [calls, before, after]
  obtain ⟨whole, admitted, execution, known, _, started, _, finished, _, latest⟩ :=
    restarted before "00:06" info after rfl silent
  have told : (callsOf "first" after).filterMap MonitorCall.update? =
      [("node", .running "gate" "00:07"), ("node", .completed "gate" 0 "00:06")] := by
    decide
  have ended : (callsOf "first" after).filterMap MonitorCall.ending? =
      [(.completed, "00:11")] := by
    decide
  rw [ended] at finished
  refine ⟨alone, refused unstarted _ _ (by simp), whole.trans (admitted.trans told), execution,
    known, started, finished, ?_⟩
  rw [latest, admitted, told]
  rfl

end Memory

end Flowline
