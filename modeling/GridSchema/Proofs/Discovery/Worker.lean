import GridSchema.Discovery.Node

/-! What the steps of a worker do to its node. -/

namespace GridSchema

namespace IsolatedNode

variable {μ lam : Type} {node after : IsolatedNode μ lam}

def isRunning (node : IsolatedNode μ lam) : Bool :=
  node.worker.any (·.allowance.isSome)

def stepsLeft (node : IsolatedNode μ lam) : Nat :=
  (node.worker.bind Worker.allowance).getD 0

def current? (node : IsolatedNode μ lam) : Option (Delivery μ) :=
  node.worker.bind fun worker => worker.current.map Prod.fst

/-- A stop leaves nothing in the queue that was not there. -/
theorem stop_spec (node : IsolatedNode μ lam) :
    (∃ member, node.stop.phase = .stopped member) ∧ node.stop.queue <+: node.queue ∧
      node.stop.stepsLeft ≤ node.stepsLeft := by
  cases phase : node.phase with
  | notStarted => simp [stop, phase, stepsLeft]
  | stopped member => simp [stop, phase]
  | started member =>
    by_cases running : node.worker.any (·.allowance.isSome) = true
    · simp [stop, phase, running, stepsLeft]
    · simp [stop, phase, running, endWorker, stepsLeft]

theorem stepsLeft_of_waiting (waiting : node.isRunning = false) : node.stepsLeft = 0 := by
  rcases worker : node.worker with _ | ⟨_ | allowance, current⟩ <;>
    simp_all [isRunning, stepsLeft]

theorem isRunning_wake (node : IsolatedNode μ lam) :
    node.wake.isRunning = node.worker.isSome := by
  cases worker : node.worker <;> simp [wake, isRunning, worker]

@[simp] theorem current?_wake (node : IsolatedNode μ lam) : node.wake.current? = node.current? := by
  cases h : node.worker <;> simp [wake, current?, h]

@[simp] theorem current?_pause (started : node.phase.isStarted = true) :
    node.pause.current? = node.current? := by
  cases h : node.worker <;> simp [pause, started, current?, h]

theorem current?_pause_of_idle (idle : node.current? = none) : node.pause.current? = none := by
  cases started : node.phase.isStarted with
  | true => rw [current?_pause started, idle]
  | false =>
    simp only [pause, started, Bool.false_eq_true, ↓reduceIte]
    rfl

/-- What a node listens to is handed the first delivery of the queue. -/
theorem take_eq_some {delivery : Delivery μ} {listener : Option lam}
    (h : node.take = some (delivery, listener, after)) :
    node.current? = none ∧ node.queue = delivery :: after.queue ∧ after.phase = node.phase ∧
      listener = node.listener ∧ after.listener = node.listener ∧
      after.current? = node.listener.map fun _ => delivery := by
  unfold take at h
  split at h
  next allowance delivery queue worker queued =>
    cases h
    refine ⟨by simp [current?, worker], queued, rfl, rfl, rfl, ?_⟩
    cases node.listener <;> rfl
  next => cases h

theorem current?_eq_some_iff {delivery : Delivery μ} :
    node.current? = some delivery ↔
      ∃ allowance listener, node.worker = some ⟨allowance, some (delivery, listener)⟩ := by
  unfold current?
  rcases node.worker with _ | ⟨allowance, _ | ⟨other, listener⟩⟩ <;> simp

theorem finish_eq_self [Message μ] (idle : node.current? = none) : node.finish = node := by
  unfold finish
  split
  next worker => simp [current?, worker] at idle
  next => rfl

@[simp] theorem current?_finish [Message μ] (node : IsolatedNode μ lam) :
    node.finish.current? = none := by
  cases current : node.current? with
  | none => rw [finish_eq_self current, current]
  | some delivery =>
    obtain ⟨allowance, listener, worker⟩ := current?_eq_some_iff.mp current
    simp only [finish, worker]
    rfl

/-- What follows the delivery in hand goes to the end of the queue, unless the node was stopped. -/
theorem finish_spec [Message μ] (node : IsolatedNode μ lam) :
    node.finish.phase = node.phase ∧ node.finish.listener = node.listener ∧
      node.finish.queue = node.queue ++
        if node.phase.isStarted then node.current?.toList.flatMap acknowledgements else [] := by
  cases current : node.current? with
  | none => simp [finish_eq_self current]
  | some delivery =>
    obtain ⟨allowance, listener, worker⟩ := current?_eq_some_iff.mp current
    cases started : node.phase.isStarted <;> simp [finish, worker, started]

theorem finish_of_isStarted [Message μ] (started : node.phase.isStarted = true) :
    node.finish.phase = node.phase ∧ node.finish.listener = node.listener ∧
      node.finish.queue = node.queue ++ node.current?.toList.flatMap acknowledgements := by
  have spec := node.finish_spec
  rwa [if_pos started] at spec

end IsolatedNode

end GridSchema
