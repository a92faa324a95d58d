import GridSchema.Instance.Basic
import GridSchema.Proofs.Discovery.Worker
import GridSchema.Proofs.Instance.Registrar
import Mathlib.Logic.Function.Basic

/-! Callers and the worker of a grid side by side. A caller enters a change, sends the request and
collects the outcome; the worker takes a delivery, has it handled and finishes it. Any of them may
take the next step. -/

namespace GridSchema

inductive CallStage where
  | entered
  | waiting
  | returned (outcome : Except Error Unit)

structure Call where
  change : CacheChange
  stage : CallStage

/-- A grid, the calls by the number of their request, whether the delivery in hand has been handled,
and what was seen so far: the requests sent, those handled, and the releases, each in its order. -/
structure Traffic where
  grid : Grid
  calls : Nat → Option Call
  handled : Bool
  sent : List (Nat × CacheChange)
  delivered : List (Nat × CacheChange)
  released : List (Nat × Except Error Unit)

inductive TrafficEvent where
  | call (change : CacheChange)
  | send (id : Nat)
  | collect (id : Nat)
  | wake
  | take
  | handle
  | finish
  | pause

def Delivery.requests : Delivery ChangeMessage → List (Nat × CacheChange)
  | .message (.request id change) => [(id, change)]
  | .message (.acknowledgement _) | .join => []

def Delivery.acknowledged : Delivery ChangeMessage → List Nat
  | .message (.acknowledgement id) => [id]
  | .message (.request _ _) | .join => []

namespace Traffic

def begin (grid : Grid) : Traffic :=
  ⟨grid, fun _ => none, false, [], [], []⟩

def withNode (t : Traffic) (node : IsolatedNode ChangeMessage Unit) : Traffic :=
  { t with grid := { t.grid with node } }

def note (t : Traffic) (id : Nat) (call : Call) : Traffic :=
  { t with calls := Function.update t.calls id (some call) }

def call (t : Traffic) (change : CacheChange) : Traffic :=
  let (id, grid) := t.grid.enter
  { t with grid }.note id ⟨change, .entered⟩

def send (t : Traffic) (id : Nat) : Traffic :=
  match t.calls id with
  | some ⟨change, .entered⟩ =>
    match t.grid.request id change with
    | (.ok _, grid) =>
      { t with grid, sent := t.sent ++ [(id, change)] }.note id ⟨change, .waiting⟩
    | (.error e, grid) => { t with grid }.note id ⟨change, .returned (.error e)⟩
  | _ => t

def collect (t : Traffic) (id : Nat) : Traffic :=
  match t.calls id with
  | some ⟨change, .waiting⟩ =>
    match t.grid.collect id with
    | (some outcome, grid) => { t with grid }.note id ⟨change, .returned outcome⟩
    | (none, grid) => { t with grid }
  | _ => t

def take (t : Traffic) : Traffic :=
  match t.grid.node.take with
  | some (_, _, node) => { t.withNode node with handled := false }
  | none => t

def handle (t : Traffic) : Traffic :=
  match t.grid.node.current?, t.handled with
  | some delivery, false =>
    let registrar := t.grid.registrar.handle delivery
    { t with
      grid := { t.grid with registrar }
      handled := true
      delivered := t.delivered ++ delivery.requests
      released := t.released ++ registrar.released.drop t.grid.registrar.released.length }
  | _, _ => t

def finish (t : Traffic) : Traffic :=
  if t.handled then { t.withNode t.grid.node.finish with handled := false } else t

def step (t : Traffic) : TrafficEvent → Traffic
  | .call change => t.call change
  | .send id => t.send id
  | .collect id => t.collect id
  | .wake => t.withNode t.grid.node.wake
  | .take => t.take
  | .handle => t.handle
  | .finish => t.finish
  | .pause => t.withNode t.grid.node.pause

def run (t : Traffic) (events : List TrafficEvent) : Traffic :=
  events.foldl step t

/-! ### What is on its way -/

def ahead (t : Traffic) : List (Nat × CacheChange) :=
  (if t.handled then [] else t.grid.node.current?.toList.flatMap Delivery.requests) ++
    t.grid.node.queue.flatMap Delivery.requests

/-- The acknowledgements that have not been handled: of the request in hand if that has been, of
what is in hand otherwise, and those in the queue. -/
def due (t : Traffic) : List Nat :=
  (if t.handled then (t.grid.node.current?.toList.flatMap Delivery.requests).map Prod.fst
    else t.grid.node.current?.toList.flatMap Delivery.acknowledged) ++
    t.grid.node.queue.flatMap Delivery.acknowledged

end Traffic

/-- What follows deliveries are the acknowledgements of their requests. -/
theorem acknowledged_acknowledgements (deliveries : List (Delivery ChangeMessage)) :
    (deliveries.flatMap IsolatedNode.acknowledgements).flatMap Delivery.acknowledged =
      (deliveries.flatMap Delivery.requests).map Prod.fst := by
  induction deliveries with
  | nil => rfl
  | cons delivery rest ih =>
    rw [List.flatMap_cons, List.flatMap_append, ih, List.flatMap_cons, List.map_append]
    rcases delivery with _ | ⟨_ | _⟩ <;> rfl

theorem requests_acknowledgements (deliveries : List (Delivery ChangeMessage)) :
    (deliveries.flatMap IsolatedNode.acknowledgements).flatMap Delivery.requests = [] := by
  induction deliveries with
  | nil => rfl
  | cons delivery rest ih =>
    rw [List.flatMap_cons, List.flatMap_append, ih, List.append_nil]
    rcases delivery with _ | ⟨_ | _⟩ <;> rfl

theorem Grid.request_of_isStarted {grid : Grid} (started : grid.node.phase.isStarted = true)
    (id : Nat) (change : CacheChange) :
    grid.request id change = (.ok (), { grid with node :=
      { grid.node with queue := grid.node.queue ++ [.message (.request id change)] } }) := by
  have member : ∃ member, grid.node.phase = .started member := by
    cases phase : grid.node.phase with
    | started member => exact ⟨member, rfl⟩
    | notStarted => simp [phase, Phase.isStarted] at started
    | stopped member => simp [phase, Phase.isStarted] at started
  obtain ⟨member, phase⟩ := member
  simp only [Grid.request, IsolatedNode.send, phase]

/-! ### The worker by itself -/

namespace Traffic

theorem run_append (t : Traffic) (first second : List TrafficEvent) :
    t.run (first ++ second) = (t.run first).run second :=
  List.foldl_append

theorem grid_finish_handle {t : Traffic} {delivery : Delivery ChangeMessage}
    (current : t.grid.node.current? = some delivery) (unhandled : t.handled = false) :
    t.handle.finish.grid =
      { t.grid with
        registrar := t.grid.registrar.handle delivery
        node := t.grid.node.finish } := by
  simp only [handle, current, unhandled, finish, ↓reduceIte, withNode]

/-- Running the worker is a sequence of its steps, between which nothing else happens. -/
theorem exists_run_eq_deliver (t : Traffic) (idle : t.grid.node.current? = none) (limit : Nat) :
    ∃ events, (t.run events).grid = t.grid.deliver limit := by
  induction limit generalizing t with
  | zero => exact ⟨[], rfl⟩
  | succ limit ih =>
    have after {next : Traffic} (front : List TrafficEvent) (reached : t.run front = next)
        (idle : next.grid.node.current? = none)
        (rest : t.grid.deliver (limit + 1) = next.grid.deliver limit) :
        ∃ events, (t.run events).grid = t.grid.deliver (limit + 1) := by
      obtain ⟨events, ends⟩ := ih next idle
      exact ⟨front ++ events, by rw [run_append, reached, ends, rest]⟩
    cases worker : t.grid.node.wake.worker with
    | none =>
      refine ⟨[.wake], ?_⟩
      simp only [Grid.deliver, IsolatedNode.drain, worker]
      rfl
    | some w =>
      obtain ⟨allowance, _ | ⟨delivery, listener⟩⟩ := w
      · cases taken : t.grid.node.wake.take with
        | none =>
          by_cases spent : t.grid.node.wake.isSpent
          · have paused := IsolatedNode.current?_pause_of_idle
              ((IsolatedNode.current?_wake t.grid.node).trans idle)
            refine after [.wake, .pause] rfl paused ?_
            simp only [Grid.deliver, IsolatedNode.drain, worker, taken, spent]
            rfl
          · refine ⟨[.wake, .pause], ?_⟩
            simp only [Grid.deliver, IsolatedNode.drain, worker, taken, spent]
            rfl
        | some result =>
          obtain ⟨delivery, listener, node⟩ := result
          obtain ⟨-, -, -, listens, -, current⟩ := IsolatedNode.take_eq_some taken
          have inHand : t.run [.wake, .take] = { t.withNode node with handled := false } := by
            simp only [run, List.foldl_cons, List.foldl_nil, step, Traffic.take, withNode, taken]
          cases listener with
          | none =>
            rw [← listens] at current
            refine after [.wake, .take] inHand current ?_
            simp only [Grid.deliver, IsolatedNode.drain, worker, taken]
            rfl
          | some listener =>
            rw [← listens] at current
            have done :=
              grid_finish_handle (t := { t.withNode node with handled := false }) current rfl
            refine after ([.wake, .take] ++ [.handle, .finish]) (by rw [run_append, inHand]) ?_ ?_
            · change (Traffic.finish (Traffic.handle _)).grid.node.current? = none
              rw [done]
              exact IsolatedNode.current?_finish node
            · change _ = (Traffic.finish (Traffic.handle _)).grid.deliver limit
              rw [done]
              simp only [Grid.deliver, IsolatedNode.drain, worker, taken]
              rfl
      · have busy := IsolatedNode.current?_eq_some_iff.mpr ⟨_, _, worker⟩
        rw [IsolatedNode.current?_wake, idle] at busy
        cases busy

end Traffic

end GridSchema
