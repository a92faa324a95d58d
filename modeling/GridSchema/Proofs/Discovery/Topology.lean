import GridSchema.Instance.Change
import GridSchema.Proofs.Discovery.Lifecycle
import GridSchema.Proofs.Discovery.Order

/-! The version of the topology and the member that a node is. The member is the one that a start
returned, and its joining entered the queue with that start. The version tells whether there is a
member, unless the node was stopped without having been started. -/

namespace GridSchema

variable {μ lam : Type}

theorem IsolatedNode.version_ne_zero_iff {node : IsolatedNode μ lam} :
    node.version ≠ 0 ↔ node.phase ≠ .notStarted := by
  unfold version
  cases node.phase <;> simp [topologyVersion]

namespace NodeHistory

variable [Message μ] {h h' : NodeHistory μ lam}

/-! ### One step -/

/-- A start that returns makes a member of a node that was not started. Everything else leaves the
phase as it is, but for a stop, which keeps the member. -/
theorem joins_or_stays (h : NodeHistory μ lam) (event : NodeEvent μ lam) :
    (∃ member, h.node.returns? event = some (.ok (some member)) ∧ event.isStop = false ∧
        h.node.phase = .notStarted ∧ (h.step event).node.phase = .started member) ∨
      (∀ member, h.node.returns? event ≠ some (.ok (some member))) ∧
        (h.step event).node.phase =
          if event.isStop then .stopped h.node.member? else h.node.phase := by
  have now := h.phase_step event
  cases event with
  | start insideExecutor fresh =>
    obtain ⟨⟨-, new⟩, member, after, started, -, returns⟩ | ⟨-, misuse, refused, returns⟩ :=
      h.node.start_cases insideExecutor fresh
    · simp only [started] at now
      exact .inl ⟨member, returns, rfl, new, now⟩
    · simp only [refused] at now
      exact .inr ⟨fun member same => (nomatch returns.symm.trans same), now⟩
  | send content =>
    obtain ⟨-, after, -, -, returns⟩ | ⟨-, misuse, -, returns⟩ := h.node.send_cases content
    · exact .inr ⟨fun member same => (nomatch returns.symm.trans same), now⟩
    · exact .inr ⟨fun member same => (nomatch returns.symm.trans same), now⟩
  | listen | stop | wake | take | call | spend | finish | pause => exact .inr ⟨nofun, now⟩

/-- The joining of a node enters its queue when the node is started, and at no other time. -/
theorem Step.join_mem_enqueued_iff (r : h.Recorded) (step : Step h h') :
    .join ∈ h'.enqueued ↔
      .join ∈ h.enqueued ∨ h.node.phase = .notStarted ∧ h'.node.phase.isStarted = true := by
  have unchanged (same : h'.enqueued = h.enqueued)
      (unstarted : ¬ (h.node.phase = .notStarted ∧ h'.node.phase.isStarted = true)) :
      .join ∈ h'.enqueued ↔
        .join ∈ h.enqueued ∨ h.node.phase = .notStarted ∧ h'.node.phase.isStarted = true := by
    rw [same, or_iff_left unstarted]
  have still : ¬ (h.node.phase = .notStarted ∧ h.node.phase.isStarted = true) := by
    rintro ⟨new, started⟩
    simp [new, Phase.isStarted] at started
  cases step with
  | started member new =>
    obtain ⟨-, empty, -⟩ := r.blank new
    simp [new, empty, Phase.isStarted]
  | accepted content started =>
    rw [List.mem_append, or_iff_left still, or_iff_left (by simp)]
  | completed delivery listener allowance busy made =>
    obtain ⟨contents, messages⟩ := messages_acknowledgements delivery
    rw [List.mem_append, or_iff_left still, or_iff_left (by split_ifs <;> simp [messages])]
  | stopped member busy => exact unchanged rfl (by simp [Phase.isStarted])
  | halted member waiting => exact unchanged rfl (by simp [Phase.isStarted])
  | rested | registered | worked | ended | taken | called => exact unchanged rfl still

/-! ### Whole lives -/

/-- What stays true of the version and the member of a node, with the results of the calls so far
and whether one of these was a stop. -/
structure Tells (results : List (Except Error (Option Member))) (stopped : Bool)
    (h : NodeHistory μ lam) : Prop where
  member : ∀ member, h.node.member? = some member ↔ .ok (some member) ∈ results
  joined : h.node.member?.isSome = true ↔ .join ∈ h.enqueued
  version : h.node.version ≠ 0 ↔ h.node.member?.isSome = true ∨ stopped = true

omit [Message μ] in
theorem tells_begin (config : NodeConfig) :
    Tells [] false (begin config : NodeHistory μ lam) where
  member _ := ⟨nofun, nofun⟩
  joined := ⟨nofun, nofun⟩
  version := ⟨fun some => absurd rfl some, nofun⟩

section

variable {results : List (Except Error (Option Member))} {stopped : Bool}

omit [Message μ] in
theorem Tells.join (t : Tells results stopped h) {member : Member}
    (new : h.node.phase = .notStarted) (started : h'.node.phase = .started member)
    (joined : .join ∈ h'.enqueued) : Tells (results ++ [.ok (some member)]) stopped h' := by
  have before : h.node.member? = none := by rw [IsolatedNode.member?, new]; rfl
  have after : h'.node.member? = some member := by rw [IsolatedNode.member?, started]; rfl
  refine ⟨?_, ?_, ?_⟩
  · intro other
    have earlier := t.member other
    rw [before] at earlier
    rw [after, List.mem_append, ← earlier]
    simp [eq_comm]
  · simp [after, joined]
  · rw [IsolatedNode.version_ne_zero_iff, after, started]
    simp

omit [Message μ] in
theorem Tells.stay (t : Tells results stopped h) {more : List (Except Error (Option Member))}
    {isStop : Bool} (returns : ∀ member, .ok (some member) ∉ more)
    (phase : h'.node.phase = if isStop then .stopped h.node.member? else h.node.phase)
    (enqueued : .join ∈ h'.enqueued ↔ .join ∈ h.enqueued) :
    Tells (results ++ more) (stopped || isStop) h' := by
  have same : h'.node.member? = h.node.member? := by
    rw [IsolatedNode.member?, phase]
    split_ifs
    · rfl
    · rfl
  refine ⟨?_, ?_, ?_⟩
  · intro member
    rw [same, t.member, List.mem_append, or_iff_left (returns member)]
  · rw [same, t.joined, enqueued]
  · have version := t.version
    rw [IsolatedNode.version_ne_zero_iff] at version ⊢
    rw [same, phase, Bool.or_eq_true, ← or_assoc, ← version]
    split_ifs with stops
    · simp [stops]
    · rw [or_iff_left stops]

theorem Tells.step (t : Tells results stopped h) (r : h.Recorded) (event : NodeEvent μ lam) :
    Tells (results ++ (h.node.returns? event).toList) (stopped || event.isStop)
      (h.step event) := by
  have enqueued := (h.step_step event).join_mem_enqueued_iff r
  obtain ⟨member, returns, noStop, new, started⟩ | ⟨returns, phase⟩ := h.joins_or_stays event
  · rw [returns, noStop, Bool.or_false]
    refine t.join new started (enqueued.mpr (.inr ⟨new, ?_⟩))
    rw [started]
    rfl
  · refine t.stay ?_ phase ?_
    · intro member among
      exact returns member (Option.mem_toList.mp among)
    · -- what is started now was started before
      refine enqueued.trans (or_iff_left ?_)
      rintro ⟨new, started⟩
      rw [phase, new] at started
      split_ifs at started <;> cases started

end

theorem tells_run (config : NodeConfig) (events : List (NodeEvent μ lam)) :
    Tells ((begin config).returned events) (events.any NodeEvent.isStop)
      ((begin config).run events) := by
  induction events using List.reverseRecOn with
  | nil => exact tells_begin config
  | append_singleton events event ih =>
    have next := ih.step (recorded_run config events) event
    rw [returned_append, run_append, List.any_append]
    simpa [returned, run] using next

/-- However a node is called, it is the member that one of its starts has returned, if there was
one, and the joining of a member has entered its queue. Its version is zero exactly as long as it
has no member and was not stopped. So the version tells whether there is a member, unless the node
was stopped without having been started. -/
theorem version_tells_member (config : NodeConfig) (events : List (NodeEvent μ lam)) :
    let now := (begin config).run events
    (∀ member, now.node.member? = some member ↔
        .ok (some member) ∈ (begin config).returned events) ∧
      (now.node.member?.isSome = true ↔ .join ∈ now.enqueued) ∧
      (now.node.version ≠ 0 ↔
        now.node.member?.isSome = true ∨ events.any NodeEvent.isStop = true) ∧
      ((now.node.version ≠ 0 ↔ now.node.member?.isSome = true) ↔
        (events.any NodeEvent.isStop = true → now.node.member?.isSome = true)) := by
  intro now
  obtain ⟨member, joined, version⟩ := tells_run config events
  refine ⟨member, joined, version, ?_⟩
  rw [version, or_iff_left_iff_imp]

/-- A node that is stopped before it was started has a version and no member. -/
theorem version_without_member :
    ¬ ∀ (config : NodeConfig) (events : List (NodeEvent ChangeMessage Unit)),
      let now := (begin config).run events
      (now.node.version ≠ 0 ↔ now.node.member?.isSome = true) := by
  intro agree
  have member := (agree ⟨none, none, ∅⟩ [.stop]).mp (by decide)
  exact absurd member (by decide)

end NodeHistory

end GridSchema
