import GridSchema.Discovery.Node

/-! Running the worker of a node until it can do no more. -/

namespace GridSchema

/-- What listeners do, in a state of their own beside the node. They are handed a delivery, and are
resumed when they have to wait; each time they tell whether they are done. -/
structure Behaviour (μ lam σ : Type) where
  handle : lam → Delivery μ → σ × IsolatedNode μ lam → Bool × σ × IsolatedNode μ lam
  resume : lam → Delivery μ → σ × IsolatedNode μ lam → Bool × σ × IsolatedNode μ lam

namespace IsolatedNode

variable {μ lam σ : Type} [Message μ]

/-- Runs the worker for at most `limit` rounds, until the queue is empty, a listener has to wait for
something or the worker has ended. A worker that is spent waits and is run again. -/
def drain (behaviour : Behaviour μ lam σ) : Nat → σ × IsolatedNode μ lam → σ × IsolatedNode μ lam
  | 0, world => world
  | limit + 1, (state, node) =>
    let node := node.wake
    let paused (world : σ × IsolatedNode μ lam) : σ × IsolatedNode μ lam :=
      let (state, node) := world
      if node.isSpent then drain behaviour limit (state, node.pause) else (state, node.pause)
    match node.worker with
    | none => (state, node)
    | some ⟨_, some (delivery, listener)⟩ =>
      match behaviour.resume listener delivery (state, node) with
      | (true, state, node) => drain behaviour limit (state, node.finish)
      | (false, world) => paused world
    | some ⟨_, none⟩ =>
      match node.take with
      | none => paused (state, node)
      | some (_, none, node) => drain behaviour limit (state, node)
      | some (delivery, some listener, node) =>
        match behaviour.handle listener delivery (state, node) with
        | (true, state, node) => drain behaviour limit (state, node.finish)
        | (false, world) => paused world

end IsolatedNode

end GridSchema
