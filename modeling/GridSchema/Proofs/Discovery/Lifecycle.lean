import GridSchema.Proofs.Discovery.History
import Mathlib.Data.List.Induction
import Mathlib.Tactic.SplitIfs

/-! The life of a node. It is started once, if at all, and stopped for good. What its functions
answer depends on nothing but how far it has come, and it stays the member that its start made it. -/

namespace GridSchema

variable {μ lam : Type}

/-! ### How a life goes on -/

/-- The phase of a node that has become a member or not, and that has been stopped or not. -/
def Phase.of (member : Option Member) (stopped : Bool) : Phase :=
  if stopped then .stopped member else member.elim .notStarted .started

/-- What may follow a phase in one step. -/
inductive Phase.Next : Phase → Phase → Prop where
  | same (phase : Phase) : Next phase phase
  | started (member : Member) : Next .notStarted (.started member)
  | stopped (member : Member) : Next (.started member) (.stopped (some member))
  | stoppedUnstarted : Next .notStarted (.stopped none)

theorem Phase.Next.member?_eq_some {before after : Phase} {member : Member}
    (next : before.Next after) (known : before.member? = some member) :
    after.member? = some member := by
  cases next with
  | same => exact known
  | started => cases known
  | stopped => exact known
  | stoppedUnstarted => cases known

def NodeEvent.isStop : NodeEvent μ lam → Bool
  | .stop => true
  | _ => false

namespace IsolatedNode

/-! ### Calls -/

def returns? (node : IsolatedNode μ lam) :
    NodeEvent μ lam → Option (Except Error (Option Member))
  | .start insideExecutor fresh =>
    some ((node.start insideExecutor fresh).map fun started => some started.1)
  | .send content => some ((node.send content).map fun _ => none)
  | .listen _ | .stop => some (.ok none)
  | .wake | .take | .call | .spend | .finish | .pause => none

variable (node : IsolatedNode μ lam)

theorem start_cases (insideExecutor : Bool) (fresh : FreshIds) :
    (insideExecutor = true ∧ node.phase = .notStarted) ∧
        (∃ member after, node.start insideExecutor fresh = .ok (member, after) ∧
          after.phase = .started member ∧
          node.returns? (.start insideExecutor fresh) = some (.ok (some member))) ∨
      ¬ (insideExecutor = true ∧ node.phase = .notStarted) ∧
        ∃ misuse, node.start insideExecutor fresh = .error (.protocolMisuse misuse) ∧
          node.returns? (.start insideExecutor fresh) = some (.error (.protocolMisuse misuse)) := by
  unfold returns? start
  cases insideExecutor with
  | false => exact .inr ⟨by simp, .outsideExecutor, rfl, rfl⟩
  | true =>
    cases node.phase with
    | notStarted => exact .inl ⟨⟨rfl, rfl⟩, _, _, rfl, rfl, rfl⟩
    | started member => exact .inr ⟨by simp, .alreadyStarted, rfl, rfl⟩
    | stopped member => exact .inr ⟨by simp, .restarted, rfl, rfl⟩

theorem send_cases (content : μ) :
    node.phase.isStarted = true ∧
        (∃ after, node.send content = .ok after ∧ after.phase = node.phase ∧
          node.returns? (.send content) = some (.ok none)) ∨
      node.phase.isStarted = false ∧
        ∃ misuse, node.send content = .error (.protocolMisuse misuse) ∧
          node.returns? (.send content) = some (.error (.protocolMisuse misuse)) := by
  unfold returns? send
  cases node.phase with
  | notStarted => exact .inr ⟨rfl, .sentBeforeStart, rfl, rfl⟩
  | started member => exact .inl ⟨rfl, _, rfl, rfl, rfl⟩
  | stopped member => exact .inr ⟨rfl, .sentAfterStop, rfl, rfl⟩

theorem phase_stop : node.stop.phase = .stopped node.member? := by
  unfold stop member?
  cases phase : node.phase with
  | notStarted => rfl
  | stopped member => exact phase
  | started member => split_ifs <;> rfl

theorem phase_pause : node.pause.phase = node.phase := by
  unfold pause
  split_ifs <;> rfl

theorem phase_finish [Message μ] : node.finish.phase = node.phase := by
  unfold finish
  split <;> rfl

variable {node}

theorem phase_spend {after : IsolatedNode μ lam} (spent : node.spend? = some after) :
    after.phase = node.phase := by
  unfold spend? at spent
  split at spent
  next => cases spent; rfl
  next => cases spent

/-! ### What a node knows -/

theorem find?_eq_some_iff {id : String} {member : Member} :
    node.find? id = some member ↔ node.member? = some member ∧ member.id = id := by
  simp [find?, Option.filter_eq_some_iff]

theorem knows_iff {id : String} :
    node.knows id = true ↔ ∃ member, node.member? = some member ∧ member.id = id := by
  simp only [knows, Option.isSome_iff_exists, find?_eq_some_iff]

theorem answers_iff {id : String} :
    node.answers id = true ↔ ∃ member, node.phase = .started member ∧ member.id = id := by
  unfold answers
  cases node.phase <;> simp

end IsolatedNode

namespace NodeHistory

variable [Message μ] (h : NodeHistory μ lam)

/-! ### One step -/

/-- The phase changes when the node is started and when it is stopped, and at no other time. -/
theorem phase_step (event : NodeEvent μ lam) :
    (h.step event).node.phase = match event with
      | .start insideExecutor fresh =>
        match h.node.start insideExecutor fresh with
        | .ok (member, _) => .started member
        | .error _ => h.node.phase
      | .stop => .stopped h.node.member?
      | _ => h.node.phase := by
  cases event with
  | start insideExecutor fresh =>
    simp only [step]
    obtain ⟨-, member, after, started, phase, -⟩ | ⟨-, misuse, refused, -⟩ :=
      h.node.start_cases insideExecutor fresh
    · rw [started]
      exact phase
    · rw [refused]
  | send content =>
    simp only [step]
    obtain ⟨-, after, sent, phase, -⟩ | ⟨-, misuse, refused, -⟩ := h.node.send_cases content
    · rw [sent]
      exact phase
    · rw [refused]
  | listen listener => rfl
  | stop => exact h.node.phase_stop
  | wake => rfl
  | take =>
    simp only [step]
    cases taken : h.node.take with
    | none => rfl
    | some result =>
      obtain ⟨delivery, listener, after⟩ := result
      exact (IsolatedNode.take_eq_some taken).2.2.1
  | call =>
    simp only [step]
    cases h.unmade <;> rfl
  | spend =>
    simp only [step]
    cases spent : h.node.spend? with
    | none => rfl
    | some after => exact IsolatedNode.phase_spend spent
  | finish =>
    simp only [step]
    split
    · exact h.node.phase_finish
    · rfl
  | pause =>
    simp only [step]
    split_ifs
    · exact h.node.phase_pause
    · rfl

theorem phase_next (event : NodeEvent μ lam) : h.node.phase.Next (h.step event).node.phase := by
  rw [phase_step]
  cases event with
  | start insideExecutor fresh =>
    obtain ⟨⟨-, new⟩, member, after, started, -⟩ | ⟨-, misuse, refused, -⟩ :=
      h.node.start_cases insideExecutor fresh
    · simp only [started, new]
      exact .started member
    · simp only [refused]
      exact .same _
  | stop =>
    unfold IsolatedNode.member?
    cases h.node.phase with
    | notStarted => exact .stoppedUnstarted
    | started member => exact .stopped member
    | stopped member => exact .same _
  | send | listen | wake | take | call | spend | finish | pause => exact .same _

theorem member?_run {member : Member} (known : h.node.member? = some member)
    (later : List (NodeEvent μ lam)) : (h.run later).node.member? = some member := by
  induction later generalizing h with
  | nil => exact known
  | cons event later ih => exact ih _ ((h.phase_next event).member?_eq_some known)

/-- A call that is refused is a misuse, and nothing happens. -/
theorem step_of_refused {event : NodeEvent μ lam} {e : Error}
    (refused : h.node.returns? event = some (.error e)) :
    (∃ misuse, e = .protocolMisuse misuse) ∧ h.step event = h := by
  cases event with
  | start insideExecutor fresh =>
    obtain ⟨-, member, after, -, -, returns⟩ | ⟨-, misuse, failed, returns⟩ :=
      h.node.start_cases insideExecutor fresh
    · cases returns.symm.trans refused
    · cases returns.symm.trans refused
      exact ⟨⟨misuse, rfl⟩, by simp only [step, failed]⟩
  | send content =>
    obtain ⟨-, after, -, -, returns⟩ | ⟨-, misuse, failed, returns⟩ := h.node.send_cases content
    · cases returns.symm.trans refused
    · cases returns.symm.trans refused
      exact ⟨⟨misuse, rfl⟩, by simp only [step, failed]⟩
  | listen | stop | wake | take | call | spend | finish | pause => cases refused

/-! ### Whole lives -/

def returned (h : NodeHistory μ lam) :
    List (NodeEvent μ lam) → List (Except Error (Option Member))
  | [] => []
  | event :: events => (h.node.returns? event).toList ++ (h.step event).returned events

theorem returned_append (first second : List (NodeEvent μ lam)) :
    h.returned (first ++ second) = h.returned first ++ (h.run first).returned second := by
  induction first generalizing h with
  | nil => rfl
  | cons event first ih =>
    rw [List.cons_append, returned, ih, returned, List.append_assoc]
    rfl

def joined? : Except Error (Option Member) → Option Member
  | .ok member => member
  | .error _ => none

/-- Where a node is after some calls and what it answers then. Its phase tells whether a start has
succeeded and whether it was stopped. The one start that has succeeded returned the member that the
node is, and no further one will. -/
structure Lives (events : List (NodeEvent μ lam)) (begin now : NodeHistory μ lam) : Prop where
  joined : (begin.returned events).filterMap joined? = now.node.member?.toList
  phase : now.node.phase = .of now.node.member? (events.any NodeEvent.isStop)
  next : ∀ event, now.node.phase.Next (now.step event).node.phase
  stays : ∀ member later, now.node.member? = some member →
    (now.run later).node.member? = some member
  start : ∀ insideExecutor fresh,
    (∃ member, now.node.returns? (.start insideExecutor fresh) = some (.ok (some member))) ↔
      insideExecutor = true ∧ now.node.phase = .notStarted
  send : ∀ content,
    now.node.returns? (.send content) = some (.ok none) ↔ now.node.phase.isStarted = true
  refused : ∀ event e, now.node.returns? event = some (.error e) →
    (∃ misuse, e = .protocolMisuse misuse) ∧ now.step event = now
  find? : ∀ id member,
    now.node.find? id = some member ↔ now.node.member? = some member ∧ member.id = id
  knows : ∀ id,
    now.node.knows id = true ↔ ∃ member, now.node.member? = some member ∧ member.id = id
  answers : ∀ id,
    now.node.answers id = true ↔ ∃ member, now.node.phase = .started member ∧ member.id = id

/-- One more event keeps what the answers and the stops so far tell of a node. -/
theorem joined_step {members : List Member} {stopped : Bool}
    (joined : members = h.node.member?.toList)
    (phase : h.node.phase = .of h.node.member? stopped) (event : NodeEvent μ lam) :
    let after := (h.step event).node
    members ++ (h.node.returns? event).toList.filterMap joined? = after.member?.toList ∧
      after.phase = .of after.member? (stopped || event.isStop) := by
  have unchanged (same : (h.step event).node.phase = h.node.phase)
      (none : (h.node.returns? event).toList.filterMap joined? = [])
      (noStop : event.isStop = false) :
      members ++ (h.node.returns? event).toList.filterMap joined? =
          (h.step event).node.member?.toList ∧
        (h.step event).node.phase = .of (h.step event).node.member? (stopped || event.isStop) := by
    have member : (h.step event).node.member? = h.node.member? := by
      simp only [IsolatedNode.member?, same]
    rw [none, List.append_nil, member, same, noStop, Bool.or_false]
    exact ⟨joined, phase⟩
  have now := h.phase_step event
  cases event with
  | start insideExecutor fresh =>
    obtain ⟨⟨-, new⟩, member, after, started, -, returns⟩ | ⟨-, misuse, refused, returns⟩ :=
      h.node.start_cases insideExecutor fresh
    · have none : h.node.member? = none := by simp only [IsolatedNode.member?, new, Phase.member?]
      have unstopped : stopped = false := by
        cases stopped with
        | false => rfl
        | true => simp [new, Phase.of] at phase
      simp only [started] at now
      have joins : (h.step (.start insideExecutor fresh)).node.member? = some member := by
        simp only [IsolatedNode.member?, now, Phase.member?]
      refine ⟨?_, ?_⟩
      · rw [joins, joined, none, returns]
        rfl
      · rw [joins, now, unstopped]
        rfl
    · simp only [refused] at now
      exact unchanged now (by rw [returns]; rfl) rfl
  | send content =>
    obtain ⟨-, after, -, -, returns⟩ | ⟨-, misuse, -, returns⟩ := h.node.send_cases content
    · exact unchanged now (by rw [returns]; rfl) rfl
    · exact unchanged now (by rw [returns]; rfl) rfl
  | stop =>
    have member : (h.step .stop).node.member? = h.node.member? := by
      simp only [IsolatedNode.member?, now, Phase.member?]
    refine ⟨?_, ?_⟩
    · rw [member, joined]
      exact List.append_nil _
    · rw [member, now, NodeEvent.isStop, Bool.or_true]
      rfl
  | listen | wake | take | call | spend | finish | pause => exact unchanged now rfl rfl

/-- However a node is called, and whatever its worker does meanwhile, it lives one life: it can be
started once, takes messages until it is stopped, and stays the same member after that. -/
theorem lives_one_life (config : NodeConfig) (events : List (NodeEvent μ lam)) :
    Lives events (begin config) ((begin config).run events) := by
  have both : ((begin config).returned events).filterMap joined? =
        ((begin config).run events).node.member?.toList ∧
      ((begin config).run events).node.phase =
        .of ((begin config).run events).node.member? (events.any NodeEvent.isStop) := by
    induction events using List.reverseRecOn with
    | nil => exact ⟨rfl, rfl⟩
    | append_singleton events event ih =>
      have next := joined_step _ ih.1 ih.2 event
      rw [returned_append, List.filterMap_append, run_append, List.any_append]
      simpa [returned, run] using next
  have starts := ((begin config).run events).node.start_cases
  have sends := ((begin config).run events).node.send_cases
  refine ⟨both.1, both.2, phase_next _, ?_, ?_, ?_, ?_, ?_, ?_, ?_⟩
  · exact fun member later known => member?_run _ known later
  · intro insideExecutor fresh
    obtain ⟨can, member, after, -, -, returns⟩ | ⟨cannot, misuse, -, returns⟩ :=
      starts insideExecutor fresh
    · rw [returns]
      exact ⟨fun _ => can, fun _ => ⟨member, rfl⟩⟩
    · rw [returns]
      exact ⟨nofun, fun can => absurd can cannot⟩
  · intro content
    obtain ⟨can, after, -, -, returns⟩ | ⟨cannot, misuse, -, returns⟩ := sends content
    · simp only [returns, can]
    · simp [returns, cannot]
  · exact fun event e => step_of_refused _
  · exact fun id member => IsolatedNode.find?_eq_some_iff
  · exact fun id => IsolatedNode.knows_iff
  · exact fun id => IsolatedNode.answers_iff

end NodeHistory

end GridSchema
