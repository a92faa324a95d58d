import GridSchema.Instance.Grid
import GridSchema.Proofs.Discovery.History

/-! Running the worker until it can do no more is a run of its steps, between which only listeners
use the node. So what holds of every run holds of a node that is drained. -/

namespace GridSchema

variable {μ lam σ : Type}

/-- What a listener may do to the node while it is called: all that others may, but for the start,
which is over by then. Its waiting for something is a step of the worker. -/
def NodeEvent.isByListener : NodeEvent μ lam → Bool
  | .send _ | .listen _ | .stop | .spend => true
  | _ => false

variable [Message μ]

/-- A listener, while it is called, can make the node another one. -/
def NodeHistory.LeadsTo (h : NodeHistory μ lam) (node : IsolatedNode μ lam) : Prop :=
  ∃ events : List (NodeEvent μ lam), (∀ event ∈ events, event.isByListener = true) ∧
    (h.run events).node = node

/-- Listeners change nothing of the node but by calling its functions and by waiting. -/
def Behaviour.UsesNode (behaviour : Behaviour μ lam σ) : Prop :=
  ∀ listener delivery state, ∀ h : NodeHistory μ lam,
    h.LeadsTo (behaviour.handle listener delivery (state, h.node)).2.2 ∧
    h.LeadsTo (behaviour.resume listener delivery (state, h.node)).2.2

namespace NodeHistory

variable {h : NodeHistory μ lam} {delivery : Delivery μ}

/-- The worker is being run and busy with a delivery all of whose calls have been made. -/
structure Busy (h : NodeHistory μ lam) (delivery : Delivery μ) : Prop where
  running : h.node.isRunning = true
  inHand : h.node.current? = some delivery
  made : h.unmade = []

theorem Busy.step (b : h.Busy delivery) {event : NodeEvent μ lam}
    (listens : event.isByListener = true) : (h.step event).Busy delivery := by
  obtain ⟨running, inHand, made⟩ := b
  cases event with
  | send content =>
    cases phase : h.node.phase with
    | started member =>
      simp only [NodeHistory.step, IsolatedNode.send, phase]
      exact ⟨running, inHand, made⟩
    | notStarted => simpa [NodeHistory.step, IsolatedNode.send, phase] using ⟨running, inHand, made⟩
    | stopped => simpa [NodeHistory.step, IsolatedNode.send, phase] using ⟨running, inHand, made⟩
  | listen listener => exact ⟨running, inHand, made⟩
  | stop =>
    have worker : h.node.stop.worker = h.node.worker := by
      rw [IsolatedNode.isRunning] at running
      cases phase : h.node.phase <;> simp [IsolatedNode.stop, phase, running]
    refine ⟨?_, ?_, made⟩
    · change h.node.stop.isRunning = true
      rw [IsolatedNode.isRunning, worker]
      exact running
    · change h.node.stop.current? = some delivery
      rw [IsolatedNode.current?, worker]
      exact inHand
  | spend =>
    cases spent : h.node.spend? with
    | none => simpa [NodeHistory.step, spent] using ⟨running, inHand, made⟩
    | some node =>
      simp only [NodeHistory.step, spent]
      unfold IsolatedNode.spend? at spent
      split at spent
      next allowance current worker =>
        cases spent
        refine ⟨rfl, ?_, made⟩
        rw [← inHand]
        simp [IsolatedNode.current?, worker, become]
      next => cases spent
  | _ => cases listens

theorem Busy.run (b : h.Busy delivery) {events : List (NodeEvent μ lam)}
    (listens : ∀ event ∈ events, event.isByListener = true) : (h.run events).Busy delivery := by
  induction events generalizing h with
  | nil => exact b
  | cons event events ih =>
    rw [List.forall_mem_cons] at listens
    exact ih (b.step listens.1) listens.2

theorem Busy.finish (b : h.Busy delivery) :
    (h.step .finish).node = h.node.finish ∧ (h.step .finish).unmade = [] := by
  simp only [NodeHistory.step, b.inHand, b.made, b.running]
  exact ⟨rfl, b.made⟩

theorem step_pause_of_made (made : h.unmade = []) :
    (h.step .pause).node = h.node.pause ∧ (h.step .pause).unmade = [] := by
  simp only [NodeHistory.step, made]
  exact ⟨rfl, made⟩

def Reaches (h : NodeHistory μ lam) (node : IsolatedNode μ lam) : Prop :=
  ∃ events, (h.run events).node = node

theorem Reaches.after {node : IsolatedNode μ lam} (events : List (NodeEvent μ lam))
    (reaches : (h.run events).Reaches node) : h.Reaches node := by
  obtain ⟨later, ends⟩ := reaches
  exact ⟨events ++ later, by rw [run_append, ends]⟩

theorem run_calls (calls : List (ListenerCall μ lam)) (due : h.unmade = calls) :
    (h.run (calls.map fun _ => .call)).node = h.node ∧
      (h.run (calls.map fun _ => .call)).unmade = [] := by
  induction calls generalizing h with
  | nil => exact ⟨rfl, due⟩
  | cons call calls ih =>
    have next : h.step .call = { h with unmade := calls }.note (.called call) := by
      simp only [step, due]
    simp only [List.map_cons, run, List.foldl_cons, next]
    exact ih rfl

theorem step_take_eq {listener : Option lam} {node : IsolatedNode μ lam}
    (taken : h.node.take = some (delivery, listener, node)) :
    (h.step .take).node = node ∧
      (h.step .take).unmade = listener.toList.flatMap delivery.calls := by
  simp only [step, taken]
  exact ⟨rfl, trivial⟩

/-- A delivery is handed to a listener with all the calls that it takes. -/
theorem busy_of_take {listener : lam} {node : IsolatedNode μ lam}
    (taken : h.node.take = some (delivery, some listener, node)) :
    ∃ events, (h.run events).node = node ∧ (h.run events).Busy delivery := by
  have handed := (step_take_eq taken).1
  have inHand : node.isRunning = true ∧ node.current? = some delivery := by
    unfold IsolatedNode.take at taken
    split at taken
    next allowance delivery queue idle queued =>
      obtain ⟨rfl, listens, rfl⟩ := by simpa only [Option.some.injEq, Prod.mk.injEq] using taken
      rw [listens]
      exact ⟨rfl, rfl⟩
    next => cases taken
  obtain ⟨same, made⟩ := run_calls (h.step .take).unmade rfl
  refine ⟨.take :: (h.step .take).unmade.map fun _ => .call, same.trans handed, ?_, ?_, made⟩
  · exact (congrArg _ (same.trans handed)).trans inHand.1
  · exact (congrArg _ (same.trans handed)).trans inHand.2

variable {behaviour : Behaviour μ lam σ} {limit : Nat}

section

variable (resumes : ∀ {h : NodeHistory μ lam}, h.unmade = [] → ∀ state : σ,
  h.Reaches (IsolatedNode.drain behaviour limit (state, h.node)).2)

include resumes

theorem reaches_wait (made : h.unmade = []) (state : σ) :
    h.Reaches (if h.node.isSpent then
      IsolatedNode.drain behaviour limit (state, h.node.pause)
    else (state, h.node.pause)).2 := by
  obtain ⟨paused, made⟩ := step_pause_of_made made
  rw [← paused]
  split
  · exact Reaches.after [.pause] (resumes made state)
  · exact ⟨[.pause], rfl⟩

theorem reaches_answer (b : h.Busy delivery) (answer : Bool × σ × IsolatedNode μ lam)
    (used : h.LeadsTo answer.2.2) :
    h.Reaches (match answer with
      | (true, state, node) => IsolatedNode.drain behaviour limit (state, node.finish)
      | (false, world) =>
        if world.2.isSpent then IsolatedNode.drain behaviour limit (world.1, world.2.pause)
        else (world.1, world.2.pause)).2 := by
  obtain ⟨events, listens, ends⟩ := used
  have b := b.run listens
  obtain ⟨done, state, node⟩ := answer
  subst ends
  refine Reaches.after events ?_
  cases done with
  | false => exact reaches_wait resumes b.made state
  | true =>
    obtain ⟨finished, made⟩ := b.finish
    refine Reaches.after [.finish] ?_
    simp only [← finished]
    exact resumes made state

end

/-- A node that is drained has gone through a run. -/
theorem reaches_drain (uses : behaviour.UsesNode) (made : h.unmade = []) (limit : Nat)
    (state : σ) : h.Reaches (IsolatedNode.drain behaviour limit (state, h.node)).2 := by
  induction limit generalizing h state with
  | zero => exact ⟨[], rfl⟩
  | succ limit ih =>
    refine Reaches.after [.wake] ?_
    change (h.step .wake).Reaches _
    cases worker : h.node.wake.worker with
    | none =>
      simp only [IsolatedNode.drain, worker]
      exact ⟨[], rfl⟩
    | some w =>
      obtain ⟨allowance, _ | ⟨delivery, listener⟩⟩ := w
      · cases taken : h.node.wake.take with
        | none =>
          simp only [IsolatedNode.drain, worker, taken]
          exact reaches_wait ih (h := h.step .wake) made state
        | some result =>
          obtain ⟨delivery, _ | listener, node⟩ := result
          · obtain ⟨lost, made⟩ := step_take_eq (h := h.step .wake) taken
            simp only [IsolatedNode.drain, worker, taken]
            refine Reaches.after [.take] ?_
            rw [← lost]
            exact ih made state
          · simp only [IsolatedNode.drain, worker, taken]
            obtain ⟨events, rfl, b⟩ := busy_of_take (h := h.step .wake) taken
            refine Reaches.after events ?_
            exact reaches_answer ih b _ (uses listener delivery state _).1
      · simp only [IsolatedNode.drain, worker]
        have b : (h.step .wake).Busy delivery := by
          refine ⟨?_, ?_, made⟩
          · have works : h.node.worker.isSome = true := by
              simpa [IsolatedNode.wake] using congrArg Option.isSome worker
            exact h.node.isRunning_wake.trans works
          · exact IsolatedNode.current?_eq_some_iff.mpr ⟨allowance, listener, worker⟩
        exact reaches_answer ih b _ (uses listener delivery state _).2

end NodeHistory

theorem Registrar.behaviour_usesNode : Registrar.behaviour.UsesNode := by
  intro _ _ _ _
  exact ⟨⟨[], nofun, rfl⟩, ⟨[], nofun, rfl⟩⟩

theorem Grid.reaches_deliver (grid : Grid) {h : NodeHistory ChangeMessage Unit}
    (made : h.unmade = []) (same : h.node = grid.node) (limit : Nat) :
    h.Reaches (grid.deliver limit).node := by
  have drained := h.reaches_drain Registrar.behaviour_usesNode made limit grid.registrar
  rw [same] at drained
  exact drained

end GridSchema
