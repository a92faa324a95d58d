import GridSchema.Proofs.Discovery.Worker

/-! Nodes over time. Anyone may start a node, send to it, listen to it and stop it, a listener also
while it is being called; between these the worker takes its steps. What is noted meanwhile is what
callers and listeners see, and what enters the queue. -/

namespace GridSchema

variable {μ lam : Type}

inductive ListenerCall (μ lam : Type) where
  | introduced (listener : lam)
  | notified (listener : lam) (delivery : Delivery μ)
  deriving DecidableEq

def Delivery.calls (delivery : Delivery μ) (listener : lam) : List (ListenerCall μ lam) :=
  match delivery with
  | .join => [.introduced listener, .notified listener .join]
  | .message content => [.notified listener (.message content)]

/-- What is to follow a delivery that a listener is done with: the acknowledgement of a message, if
it has one, and nothing after the node's joining. -/
def Delivery.followers [Message μ] : Delivery μ → List (Delivery μ)
  | .join => []
  | .message content => ((Message.acknowledgement? content).map .message).toList

@[simp] theorem Delivery.followers_eq [Message μ] (delivery : Delivery μ) :
    delivery.followers = IsolatedNode.acknowledgements delivery := by
  cases delivery <;> rfl

/-- What can be seen of a node: calls of its functions that returned without an error, deliveries
taken from the queue for the listener there was, calls of a listener, and listeners that are done
with a delivery. -/
inductive Occurrence (μ lam : Type) where
  | started
  | stopped
  | registered (listener : lam)
  | accepted (content : μ)
  | taken (delivery : Delivery μ) (listener : Option lam)
  | called (call : ListenerCall μ lam)
  | completed (delivery : Delivery μ)

namespace Occurrence

@[simp] def registered? : Occurrence μ lam → Option lam
  | registered listener => some listener
  | _ => none

@[simp] def taken? : Occurrence μ lam → Option (Delivery μ)
  | taken delivery _ => some delivery
  | _ => none

@[simp] def handed? : Occurrence μ lam → Option (Delivery μ × lam)
  | taken delivery (some listener) => some (delivery, listener)
  | _ => none

@[simp] def called? : Occurrence μ lam → Option (ListenerCall μ lam)
  | called call => some call
  | _ => none

@[simp] def completed? : Occurrence μ lam → Option (Delivery μ)
  | completed delivery => some delivery
  | _ => none

@[simp] def starts (isStarted : Bool) : Occurrence μ lam → Bool
  | started => true
  | stopped => false
  | _ => isStarted

/-- What enters the queue when something happens: the node's joining when it is started, the
messages that it accepts, and what is to follow a delivery that a listener is done with while the
node is started. -/
@[simp] def brings [Message μ] (isStarted : Bool) : Occurrence μ lam → List (Delivery μ)
  | started => [.join]
  | accepted content => [.message content]
  | completed delivery => if isStarted then delivery.followers else []
  | _ => []

end Occurrence

abbrev NodeLog (μ lam : Type) := List (Occurrence μ lam)

namespace NodeLog

def listener (log : NodeLog μ lam) : Option lam :=
  (log.filterMap Occurrence.registered?).getLast?

def taken (log : NodeLog μ lam) : List (Delivery μ) :=
  log.filterMap Occurrence.taken?

def handed (log : NodeLog μ lam) : List (Delivery μ × lam) :=
  log.filterMap Occurrence.handed?

def calls (log : NodeLog μ lam) : List (ListenerCall μ lam) :=
  log.filterMap Occurrence.called?

def completed (log : NodeLog μ lam) : List (Delivery μ) :=
  log.filterMap Occurrence.completed?

def isStarted (log : NodeLog μ lam) : Bool :=
  log.foldl Occurrence.starts false

/-- What a log brings into the queue of a node that is started or not. -/
def broughtFrom [Message μ] (isStarted : Bool) : NodeLog μ lam → List (Delivery μ)
  | [] => []
  | occurrence :: log =>
    occurrence.brings isStarted ++ broughtFrom (occurrence.starts isStarted) log

def brought [Message μ] (log : NodeLog μ lam) : List (Delivery μ) :=
  broughtFrom false log

end NodeLog

/-- A node, the calls that the delivery in hand still takes, all that entered the queue, and what
was seen. -/
structure NodeHistory (μ lam : Type) where
  node : IsolatedNode μ lam
  unmade : List (ListenerCall μ lam)
  enqueued : List (Delivery μ)
  log : NodeLog μ lam

inductive NodeEvent (μ lam : Type) where
  | start (insideExecutor : Bool) (fresh : FreshIds)
  | send (content : μ)
  | listen (listener : lam)
  | stop
  | wake
  | take
  | call
  | spend
  | finish
  | pause

namespace NodeHistory

def begin (config : NodeConfig) : NodeHistory μ lam :=
  ⟨.create config, [], [], []⟩

/-- The node after a step. What its queue has more than before has entered it. -/
def become (h : NodeHistory μ lam) (node : IsolatedNode μ lam) : NodeHistory μ lam :=
  { h with node, enqueued := h.enqueued ++ node.queue.drop h.node.queue.length }

theorem become_of_queue (h : NodeHistory μ lam) {node : IsolatedNode μ lam}
    (same : node.queue = h.node.queue) : h.become node = { h with node } := by
  simp [become, same]

def note (h : NodeHistory μ lam) (occurrence : Occurrence μ lam) : NodeHistory μ lam :=
  { h with log := h.log ++ [occurrence] }

variable [Message μ]

/-- One thing happens. The worker makes the calls of a delivery one after the other. Only then can
the listener have it wait, or be done if the worker is being run. -/
def step (h : NodeHistory μ lam) : NodeEvent μ lam → NodeHistory μ lam
  | .start insideExecutor fresh =>
    match h.node.start insideExecutor fresh with
    | .ok (_, node) => (h.become node).note .started
    | .error _ => h
  | .send content =>
    match h.node.send content with
    | .ok node => (h.become node).note (.accepted content)
    | .error _ => h
  | .listen listener => (h.become (h.node.listen listener)).note (.registered listener)
  | .stop => (h.become h.node.stop).note .stopped
  | .wake => h.become h.node.wake
  | .take =>
    match h.node.take with
    | some (delivery, listener, node) =>
      { (h.become node).note (.taken delivery listener) with
        unmade := listener.toList.flatMap delivery.calls }
    | none => h
  | .call =>
    match h.unmade with
    | call :: unmade => { h with unmade }.note (.called call)
    | [] => h
  | .spend =>
    match h.node.spend? with
    | some node => h.become node
    | none => h
  | .finish =>
    match h.node.current?, h.unmade, h.node.isRunning with
    | some delivery, [], true => (h.become h.node.finish).note (.completed delivery)
    | _, _, _ => h
  | .pause => if h.unmade.isEmpty then h.become h.node.pause else h

def run (h : NodeHistory μ lam) (events : List (NodeEvent μ lam)) : NodeHistory μ lam :=
  events.foldl step h

theorem run_append (h : NodeHistory μ lam) (first second : List (NodeEvent μ lam)) :
    h.run (first ++ second) = (h.run first).run second :=
  List.foldl_append

/-! ### What one step does -/

/-- How a history goes on. -/
inductive Step (h : NodeHistory μ lam) : NodeHistory μ lam → Prop where
  | rested : Step h h
  | started (member : Member) (new : h.node.phase = .notStarted) :
      Step h { h with
        node := { h.node with
          phase := .started member, queue := [.join], worker := some ⟨none, none⟩ }
        enqueued := h.enqueued ++ [Delivery.join].drop h.node.queue.length
        log := h.log ++ [.started] }
  | accepted (content : μ) (started : h.node.phase.isStarted = true) :
      Step h { h with
        node := { h.node with queue := h.node.queue ++ [.message content] }
        enqueued := h.enqueued ++ [.message content]
        log := h.log ++ [.accepted content] }
  | registered (listener : lam) :
      Step h { h with
        node := { h.node with listener := some listener }
        log := h.log ++ [.registered listener] }
  /-- The node is stopped, and its worker goes on if it is being run. -/
  | stopped (member : Option Member) (busy : h.node.phase.isStarted = true →
        h.node.isRunning = true) :
      Step h { h with
        node := { h.node with phase := .stopped member }
        log := h.log ++ [.stopped] }
  /-- The node is stopped, and its worker is ended while it waits. -/
  | halted (member : Option Member) (waiting : h.node.isRunning = false) :
      Step h { h with
        node := { h.node with phase := .stopped member, queue := [], worker := none }
        log := h.log ++ [.stopped] }
  /-- The worker is run, or waits, or has taken a step, and is busy with the same as before. -/
  | worked (worker : Option (Worker μ lam))
        (same : worker.map Worker.current = h.node.worker.map Worker.current)
        (busy : h.node.isRunning = true → h.unmade ≠ [] ∨ h.node.phase.isStarted = false →
          { h.node with worker }.isRunning = true)
        (left : h.node.isRunning = true → { h.node with worker }.stepsLeft ≤ h.node.stepsLeft) :
      Step h { h with node := { h.node with worker } }
  /-- The worker waits, and is ended because the node has been stopped. -/
  | ended (unstarted : h.node.phase.isStarted = false) (made : h.unmade = []) :
      Step h { h with node := h.node.endWorker }
  | taken (delivery : Delivery μ) (queue : List (Delivery μ)) (allowance : Nat)
        (idle : h.node.worker = some ⟨some (allowance + 1), none⟩)
        (queued : h.node.queue = delivery :: queue) :
      Step h { h with
        node := { h.node with
          queue, worker := some ⟨some allowance, h.node.listener.map (delivery, ·)⟩ }
        unmade := h.node.listener.toList.flatMap delivery.calls
        log := h.log ++ [.taken delivery h.node.listener] }
  | called (call : ListenerCall μ lam) (unmade : List (ListenerCall μ lam))
        (next : h.unmade = call :: unmade) :
      Step h { h with unmade, log := h.log ++ [.called call] }
  | completed (delivery : Delivery μ) (listener : lam) (allowance : Nat)
        (busy : h.node.worker = some ⟨some allowance, some (delivery, listener)⟩)
        (made : h.unmade = []) :
      Step h { h with
        node := { h.node with
          queue := h.node.queue ++
            if h.node.phase.isStarted then IsolatedNode.acknowledgements delivery else []
          worker := some ⟨some allowance, none⟩ }
        enqueued := h.enqueued ++
          if h.node.phase.isStarted then IsolatedNode.acknowledgements delivery else []
        log := h.log ++ [.completed delivery] }

theorem step_start (h : NodeHistory μ lam) (insideExecutor : Bool) (fresh : FreshIds) :
    Step h (h.step (.start insideExecutor fresh)) := by
  cases phase : h.node.phase with
  | notStarted =>
    cases insideExecutor with
    | false => simpa [step, IsolatedNode.start] using Step.rested
    | true => simpa [step, IsolatedNode.start, phase, become, note] using Step.started _ phase
  | started member =>
    cases insideExecutor <;> simpa [step, IsolatedNode.start, phase] using Step.rested
  | stopped member =>
    cases insideExecutor <;> simpa [step, IsolatedNode.start, phase] using Step.rested

theorem step_send (h : NodeHistory μ lam) (content : μ) : Step h (h.step (.send content)) := by
  cases phase : h.node.phase with
  | started member =>
    have accepted := Step.accepted (h := h) content (by rw [phase]; rfl)
    simpa [step, IsolatedNode.send, phase, become, note] using accepted
  | notStarted => simpa [step, IsolatedNode.send, phase] using Step.rested
  | stopped member => simpa [step, IsolatedNode.send, phase] using Step.rested

theorem step_stop (h : NodeHistory μ lam) : Step h (h.step .stop) := by
  cases phase : h.node.phase with
  | started member =>
    cases running : h.node.isRunning with
    | true =>
      have stopped := Step.stopped (h := h) (some member) fun _ => running
      rw [IsolatedNode.isRunning] at running
      simpa [step, IsolatedNode.stop, phase, running, become, note] using stopped
    | false =>
      have halted := Step.halted (h := h) (some member) running
      rw [IsolatedNode.isRunning] at running
      simpa [step, IsolatedNode.stop, phase, running, become, note, IsolatedNode.endWorker]
        using halted
  | notStarted =>
    have stopped := Step.stopped (h := h) none (by simp [phase, Phase.isStarted])
    simpa [step, IsolatedNode.stop, phase, become, note] using stopped
  | stopped member =>
    have stopped := Step.stopped (h := h) member (by simp [phase, Phase.isStarted])
    have same : { h.node with phase := .stopped member } = h.node := by rw [← phase]
    rw [same] at stopped
    simpa [step, IsolatedNode.stop, phase, become, note] using stopped

theorem step_wake (h : NodeHistory μ lam) : Step h (h.step .wake) := by
  have same : h.step .wake = { h with node := h.node.wake } := h.become_of_queue rfl
  rw [same]
  refine Step.worked _ ?_ ?_ ?_
  · cases h.node.worker <;> rfl
  · intro running _
    cases worker : h.node.worker <;> simp_all [IsolatedNode.isRunning]
  · intro running
    rcases worker : h.node.worker with _ | ⟨_ | allowance, current⟩ <;>
      simp_all [IsolatedNode.isRunning, IsolatedNode.stepsLeft]

theorem step_pause (h : NodeHistory μ lam) : Step h (h.step .pause) := by
  cases made : h.unmade with
  | cons call unmade => simpa [step, made] using Step.rested
  | nil =>
    cases started : h.node.phase.isStarted with
    | false =>
      have ended := Step.ended started made
      simpa [step, made, IsolatedNode.pause, started, become, IsolatedNode.endWorker] using ended
    | true =>
      have same : h.step .pause = { h with node := h.node.pause } := by
        have queue : h.node.pause.queue = h.node.queue := by simp [IsolatedNode.pause, started]
        simp only [step, made, List.isEmpty_nil, ↓reduceIte, h.become_of_queue queue]
      rw [same, IsolatedNode.pause, if_pos started]
      refine Step.worked _ ?_ ?_ ?_
      · cases h.node.worker <;> rfl
      · intro _ unstarted
        simp [made, started] at unstarted
      · intro _
        cases worker : h.node.worker <;> simp [IsolatedNode.stepsLeft]

theorem step_spend (h : NodeHistory μ lam) : Step h (h.step .spend) := by
  rcases worker : h.node.worker with _ | ⟨_ | _ | allowance, current⟩
  case some.some.succ =>
    have spent : h.node.spend? =
        some { h.node with worker := some ⟨some allowance, current⟩ } := by
      simp only [IsolatedNode.spend?, worker]
    have same : h.step .spend =
        { h with node := { h.node with worker := some ⟨some allowance, current⟩ } } := by
      simp only [step, spent]
      exact h.become_of_queue rfl
    rw [same]
    refine Step.worked _ ?_ ?_ ?_
    · rw [worker]
      rfl
    · intro _ _
      rfl
    · intro _
      simp [IsolatedNode.stepsLeft, worker]
  all_goals simpa [step, IsolatedNode.spend?, worker] using Step.rested

theorem step_take (h : NodeHistory μ lam) : Step h (h.step .take) := by
  cases taken : h.node.take with
  | none => simpa [step, taken] using Step.rested
  | some result =>
    obtain ⟨delivery, listener, after⟩ := result
    unfold IsolatedNode.take at taken
    split at taken
    case h_2 => cases taken
    case h_1 allowance delivery queue idle queued =>
      cases taken
      have next := Step.taken delivery queue allowance idle queued
      have taken : h.node.take = some (delivery, h.node.listener, { h.node with
          queue, worker := some ⟨some allowance, h.node.listener.map (delivery, ·)⟩ }) := by
        simp only [IsolatedNode.take, idle, queued]
      have shorter : queue.drop (queue.length + 1) = [] :=
        List.drop_eq_nil_of_le (Nat.le_succ _)
      simpa [step, taken, become, note, queued, shorter] using next

theorem step_finish (h : NodeHistory μ lam) : Step h (h.step .finish) := by
  rcases worker : h.node.worker with _ | ⟨_ | allowance, _ | ⟨delivery, listener⟩⟩
  case some.some.some =>
    cases made : h.unmade with
    | cons call unmade =>
      simpa [step, made, IsolatedNode.current?, worker] using Step.rested
    | nil =>
      have completed := Step.completed delivery listener allowance worker made
      cases started : h.node.phase.isStarted with
      | true =>
        simpa [step, made, IsolatedNode.current?, worker, IsolatedNode.isRunning,
          IsolatedNode.finish, started, become, note] using completed
      | false =>
        simpa [step, made, IsolatedNode.current?, worker, IsolatedNode.isRunning,
          IsolatedNode.finish, started, become, note] using completed
  all_goals simpa [step, IsolatedNode.current?, IsolatedNode.isRunning, worker] using Step.rested

theorem step_step (h : NodeHistory μ lam) (event : NodeEvent μ lam) : Step h (h.step event) := by
  cases event with
  | start insideExecutor fresh => exact h.step_start insideExecutor fresh
  | send content => exact h.step_send content
  | listen listener =>
    have same : h.become (h.node.listen listener) = { h with node := h.node.listen listener } :=
      h.become_of_queue rfl
    rw [step, same]
    exact Step.registered listener
  | stop => exact h.step_stop
  | wake => exact h.step_wake
  | take => exact h.step_take
  | call =>
    cases made : h.unmade with
    | nil => simpa [step, made] using Step.rested
    | cons call unmade => simpa [step, made, note] using Step.called call unmade made
  | spend => exact h.step_spend
  | finish => exact h.step_finish
  | pause => exact h.step_pause

/-- What holds at the beginning and stays true in every step, holds after every run. -/
theorem run_induction {P : NodeHistory μ lam → Prop} {h : NodeHistory μ lam} (begins : P h)
    (stays : ∀ before after, Step before after → P before → P after)
    (events : List (NodeEvent μ lam)) : P (h.run events) := by
  induction events generalizing h with
  | nil => exact begins
  | cons event events ih => exact ih (stays h _ (h.step_step event) begins)

end NodeHistory

end GridSchema
