import GridSchema.Instance.Change
import GridSchema.Proofs.Discovery.Order

/-! What a node still hands to listeners once it has been stopped: nothing if its worker was
waiting, and otherwise what was in the queue, until the worker has to wait. -/

namespace GridSchema

namespace NodeHistory

variable {μ lam : Type} {atStop h h' : NodeHistory μ lam} {later : NodeLog μ lam}

/-- How a node that has been stopped goes on. What is taken was in the queue at the stop, for each
of it the worker needs a step that it had left then, and the calls that are made are those that were
due then and those of what is taken. -/
structure WindsDown (atStop h : NodeHistory μ lam) (later : NodeLog μ lam) : Prop where
  log : h.log = atStop.log ++ later
  stopped : ∃ member, h.node.phase = .stopped member
  queue : later.taken ++ h.node.queue <+: atStop.node.queue
  left : later.taken.length + h.node.stepsLeft ≤ atStop.node.stepsLeft
  calls : later.calls ++ h.unmade = atStop.unmade ++ later.dueCalls

namespace WindsDown

theorem note {occurrence : Occurrence μ lam} (w : WindsDown atStop h later)
    (stopped : ∃ member, h'.node.phase = .stopped member)
    (log : h'.log = h.log ++ [occurrence]) (taken : occurrence.taken? = none)
    (called : occurrence.called? = none) (queue : h'.node.queue <+: h.node.queue)
    (left : h'.node.stepsLeft ≤ h.node.stepsLeft) (unmade : h'.unmade = h.unmade) :
    WindsDown atStop h' (later ++ [occurrence]) := by
  have handed : occurrence.handed? = none := Occurrence.handed?_eq_none taken
  refine ⟨?_, stopped, ?_, ?_, ?_⟩
  · rw [log, w.log, List.append_assoc]
  · rw [NodeLog.taken_concat, taken, Option.toList_none, List.append_nil]
    exact (List.prefix_append_right_inj _).mpr queue |>.trans w.queue
  · rw [NodeLog.taken_concat, taken, Option.toList_none, List.append_nil]
    exact Nat.le_trans (Nat.add_le_add_left left _) w.left
  · simpa only [NodeLog.dueCalls, NodeLog.calls_concat, NodeLog.handed_concat, called, handed,
      Option.toList_none, List.append_nil, unmade] using w.calls

variable [Message μ]

theorem step (w : WindsDown atStop h later) (r : h.Recorded) (step : Step h h') :
    ∃ later', WindsDown atStop h' later' := by
  obtain ⟨member, phase⟩ := w.stopped
  have unstarted : h.node.phase.isStarted = false := by rw [phase]; rfl
  have left := w.left
  cases step with
  | rested => exact ⟨later, w⟩
  | started member new => simp [new] at phase
  | accepted content started => simp [started] at unstarted
  | registered listener =>
    exact ⟨_, w.note w.stopped rfl rfl rfl List.prefix_rfl (Nat.le_refl _) rfl⟩
  | stopped member busy =>
    exact ⟨_, w.note ⟨member, rfl⟩ rfl rfl rfl List.prefix_rfl (Nat.le_refl _) rfl⟩
  | halted member waiting =>
    exact ⟨_, w.note ⟨member, rfl⟩ rfl rfl rfl List.nil_prefix (Nat.zero_le _) rfl⟩
  | worked worker same busy fewer =>
    refine ⟨later, { w with left := ?_ }⟩
    cases running : h.node.isRunning with
    | true => exact Nat.le_trans (Nat.add_le_add_left (fewer running) _) left
    | false =>
      -- a stopped node has no worker that waits
      have none : worker = none := by simpa [r.unstarted unstarted running] using same
      subst none
      exact Nat.le_trans (Nat.add_le_add_left (Nat.zero_le _) _) left
  | ended unstarted made =>
    refine ⟨later, { w with queue := ?_, left := ?_ }⟩
    · simpa [IsolatedNode.endWorker] using (List.prefix_append ..).trans w.queue
    · exact Nat.le_trans (Nat.add_le_add_left (Nat.zero_le _) _) left
  | taken delivery queue allowance idle queued =>
    have made : h.unmade = [] := r.unmade_of_idle (by simp [IsolatedNode.current?, idle])
    have calls := w.calls
    rw [made, List.append_nil] at calls
    have before : h.node.stepsLeft = allowance + 1 := by simp [IsolatedNode.stepsLeft, idle]
    refine ⟨later ++ [.taken delivery h.node.listener],
      { w with log := ?_, queue := ?_, left := ?_, calls := ?_ }⟩
    · rw [w.log, List.append_assoc]
    · simpa [queued] using w.queue
    · rw [before] at left
      have fewer : (later.taken ++ [delivery]).length + allowance ≤ atStop.node.stepsLeft := by
        rw [List.length_append, List.length_singleton]
        omega
      rw [NodeLog.taken_concat]
      exact fewer
    · cases h.node.listener <;> simp [NodeLog.dueCalls, calls]
  | called call unmade next =>
    refine ⟨later ++ [.called call], { w with log := ?_, queue := ?_, left := ?_, calls := ?_ }⟩
    · rw [w.log, List.append_assoc]
    · simpa using w.queue
    · simpa using left
    · simpa [NodeLog.dueCalls, next] using w.calls
  | completed delivery listener allowance busy made =>
    have before : h.node.stepsLeft = allowance := by simp [IsolatedNode.stepsLeft, busy]
    refine ⟨_, w.note w.stopped rfl rfl rfl ?_ ?_ rfl⟩
    · simp [unstarted]
    · rw [before]
      exact Nat.le_refl _

theorem run (w : WindsDown atStop h later) (r : h.Recorded) (events : List (NodeEvent μ lam)) :
    ∃ later', WindsDown atStop (h.run events) later' := by
  have both : (h.run events).Recorded ∧ ∃ later', WindsDown atStop (h.run events) later' := by
    refine run_induction (P := fun h => h.Recorded ∧ ∃ later', WindsDown atStop h later')
      ⟨r, later, w⟩ ?_ events
    rintro before after step ⟨r, later, w⟩
    exact ⟨r.step step, w.step r step⟩
  exact both.2

theorem calls_eq (w : WindsDown atStop h later) (r : atStop.Recorded)
    (waiting : atStop.node.isRunning = false) : h.log.calls = atStop.log.calls := by
  have made : atStop.unmade = [] := by
    cases made : atStop.unmade with
    | nil => rfl
    | cons call unmade => exact absurd (r.busy (by simp [made])).1 (by simp [waiting])
  have taken : later.taken = [] := by
    have left := w.left
    rw [IsolatedNode.stepsLeft_of_waiting waiting] at left
    exact List.length_eq_zero_iff.mp (by omega)
  have handed : later.handed = [] := by
    have sublist := later.handed_sublist
    rw [taken, List.sublist_nil, List.map_eq_nil_iff] at sublist
    exact sublist
  have calls := w.calls
  rw [NodeLog.dueCalls, handed, made] at calls
  have none : later.calls = [] := (List.append_eq_nil_iff.mp calls).1
  rw [w.log, NodeLog.calls, List.filterMap_append]
  change _ ++ later.calls = _
  rw [none, List.append_nil]
  rfl

end WindsDown

variable [Message μ]

theorem windsDown_step_stop (h : NodeHistory μ lam) : WindsDown h (h.step .stop) [.stopped] := by
  obtain ⟨stopped, queue, left⟩ := h.node.stop_spec
  exact {
    log := rfl
    stopped
    queue
    left := (Nat.zero_add h.node.stop.stepsLeft).symm ▸ left
    calls := (List.append_nil h.unmade).symm }

omit [Message μ] in
theorem windsDown_self (stopped : ∃ member, h.node.phase = .stopped member) :
    WindsDown h h [] where
  log := (List.append_nil _).symm
  stopped := stopped
  queue := List.prefix_rfl
  left := Nat.le_of_eq (Nat.zero_add _)
  calls := (List.append_nil _).symm

/-- What a node that is stopped still hands to listeners. Once its worker waits, as it may already
do at the stop, there are no more calls. Until then it goes on with the call that was being made and
with the deliveries that were in the queue, and takes no more of these than it had steps left. -/
theorem calls_after_stop (config : NodeConfig) (before during : List (NodeEvent μ lam)) :
    let atStop := (begin config).run before
    let stopped := (atStop.step .stop).run during
    (∃ later : NodeLog μ lam, stopped.log = atStop.log ++ later ∧
      later.taken <+: atStop.node.queue ∧ later.taken.length ≤ atStop.node.stepsLeft ∧
      later.calls <+: atStop.unmade ++ later.dueCalls) ∧
    (stopped.node.isRunning = false →
      ∀ after, (stopped.run after).log.calls = stopped.log.calls) ∧
    (atStop.node.isRunning = false → stopped.log.calls = atStop.log.calls) := by
  intro atStop stopped
  have r : (atStop.step .stop).Recorded :=
    (recorded_run config before).step (atStop.step_step .stop)
  obtain ⟨later, w⟩ := (windsDown_step_stop atStop).run r during
  have still : stopped.Recorded := by
    have run := recorded_run config (before ++ .stop :: during)
    rwa [run_append] at run
  refine ⟨⟨later, w.log, ?_, ?_, ?_⟩, ?_, ?_⟩
  · exact (List.prefix_append ..).trans w.queue
  · have left := w.left
    omega
  · exact w.calls ▸ List.prefix_append ..
  · intro waiting after
    obtain ⟨_, now⟩ := (windsDown_self w.stopped).run still after
    exact now.calls_eq still waiting
  · exact w.calls_eq (recorded_run config before)

/-- Two messages are in the queue, and the listener is being told of the first. -/
def tellingFirst : List (NodeEvent ChangeMessage Unit) :=
  [.listen (), .start true ⟨"node", "node"⟩,
    .send (.acknowledgement 1), .send (.acknowledgement 2),
    .wake, .take, .call, .call, .finish, .take, .call]

/-- If the listener stops the node now, it is still told of the second. -/
theorem called_after_stop :
    ¬ ∀ (config : NodeConfig) (before after : List (NodeEvent ChangeMessage Unit)),
      let atStop := (begin config).run before
      ((atStop.step .stop).run after).log.calls = atStop.log.calls := by
  intro silent
  let config : NodeConfig := ⟨none, none, ∅⟩
  have told : ((((begin config).run tellingFirst).step .stop).run
        [.finish, .take, .call]).log.calls =
      ((begin config).run tellingFirst).log.calls ++
        [.notified () (.message (.acknowledgement 2))] := by decide
  have same := told.symm.trans (silent config tellingFirst [.finish, .take, .call])
  simp at same

end NodeHistory

end GridSchema
