import GridSchema.Proofs.Discovery.Lifecycle
import GridSchema.Proofs.Network.Reading

/-! Which instances of a machine run. One that runs accepts connections, and its node is started.
Only closing it ends that; then its node is stopped too. -/

namespace GridSchema

/-! ### Nodes that stay started -/

namespace Grid

variable (grid : Grid)

/-- The worker leaves it at what it is whether the node is started, since the registrar neither
starts nor stops it. -/
theorem phase_deliver (limit : Nat) : (grid.deliver limit).node.phase = grid.node.phase := by
  have drained (registrar : Registrar) (node : IsolatedNode ChangeMessage Unit) :
      (IsolatedNode.drain Registrar.behaviour limit (registrar, node)).2.phase = node.phase := by
    induction limit generalizing registrar node with
    | zero => rfl
    | succ limit ih =>
      have paused : (if node.wake.isSpent then
          IsolatedNode.drain Registrar.behaviour limit (registrar, node.wake.pause)
          else (registrar, node.wake.pause)).2.phase = node.phase := by
        split_ifs
        · exact (ih registrar _).trans node.wake.phase_pause
        · exact node.wake.phase_pause
      cases worker : node.wake.worker with
      | none =>
        simp only [IsolatedNode.drain, worker]
        rfl
      | some w =>
        obtain ⟨allowance, _ | ⟨delivery, listener⟩⟩ := w
        · cases taken : node.wake.take with
          | none =>
            simp only [IsolatedNode.drain, worker, taken]
            exact paused
          | some result =>
            obtain ⟨delivery, listener, after⟩ := result
            have same : after.phase = node.phase := (IsolatedNode.take_eq_some taken).2.2.1
            cases listener with
            | none =>
              simp only [IsolatedNode.drain, worker, taken]
              exact (ih registrar after).trans same
            | some listener =>
              simp only [IsolatedNode.drain, worker, taken]
              exact (ih _ _).trans (after.phase_finish.trans same)
        · simp only [IsolatedNode.drain, worker]
          exact (ih registrar _).trans node.wake.phase_finish
  exact drained grid.registrar grid.node

theorem phase_request (id : Nat) (change : CacheChange) :
    (grid.request id change).2.node.phase = grid.node.phase := by
  unfold request
  cases phase : grid.node.phase <;> simp [IsolatedNode.send, phase]

theorem phase_collect (id : Nat) : (grid.collect id).2.node.phase = grid.node.phase := by
  simp only [collect]
  split
  · rfl
  · split_ifs <;> rfl

theorem phase_submit (change : CacheChange) :
    (grid.submit change).2.node.phase = grid.node.phase := by
  have asked := (grid.enter.2).phase_request grid.enter.1 change
  cases sent : (grid.enter.2).request grid.enter.1 change with | mk outcome after
  rw [sent] at asked
  unfold submit submitDuring
  cases outcome with
  | error e =>
    simp only [sent]
    exact asked
  | ok _ =>
    simp only [sent, id]
    exact (after.settle.phase_collect _).trans ((after.phase_deliver _).trans asked)

theorem phase_respond (request : Request) :
    (grid.respond request).2.node.phase = grid.node.phase := by
  cases request with
  | cacheNames => rfl
  | cacheConfiguration name => rfl
  | createCache cache => exact grid.phase_submit (.create cache)
  | destroyCache name => exact grid.phase_submit (.destroy name)

theorem phase_serve (stream : Bytes) :
    (grid.serve stream).grid.node.phase = grid.node.phase := by
  fun_induction Grid.serve grid stream with
  | case1 grid stream request rest _ response after responded served ih =>
    have same := grid.phase_respond request
    rw [responded] at same
    exact ih.trans same
  | case2 => rfl
  | case3 => rfl

/-- Whether nothing goes on at a grid any more: its node is stopped and has no worker and nothing to
deliver, and nobody waits for a change. -/
structure HasEnded (grid : Grid) : Prop where
  stopped : ∃ member, grid.node.phase = .stopped member
  worker : grid.node.worker = none
  queue : grid.node.queue = []
  pending : grid.registrar.pending = []

theorem hasEnded_stop_resting (member : Member) (registry : Registry) (nextRequest : Nat) :
    (resting member registry nextRequest).stop.HasEnded :=
  ⟨⟨some member, rfl⟩, rfl, rfl, rfl⟩

end Grid

/-! ### Instances that run -/

/-- Whether an instance accepts connections, and whether its node is started. -/
def Instance.condition (i : Instance) : Bool × Bool :=
  (i.isOpen, i.grid.node.phase.isStarted)

theorem Instance.condition_close (i : Instance) :
    i.close.condition = if i.isOpen then (false, false) else i.condition := by
  unfold Instance.close
  split_ifs
  · have stopped : i.grid.stop.node.phase.isStarted = false := by
      change i.grid.node.stop.phase.isStarted = false
      rw [IsolatedNode.phase_stop]
      rfl
    rw [condition, stopped]
  · rfl

namespace Network

variable {network : Network} {n : Nat}

def conditions (network : Network) : List (Bool × Bool) :=
  network.instances.map Instance.condition

def IsUp (network : Network) (n : Nat) : Prop :=
  network.conditions[n]? = some (true, true)

def IsDown (network : Network) (n : Nat) : Prop :=
  network.conditions[n]? = some (false, false)

theorem IsUp.not_isDown (up : network.IsUp n) : ¬ network.IsDown n := by
  intro down
  cases up.symm.trans down

theorem length_conditions : network.conditions.length = network.instances.length :=
  List.length_map _

theorem Holds.isUp {registry : Registry} (holds : network.Holds n registry) : network.IsUp n := by
  obtain ⟨i, member, next, found, isOpen, grid⟩ := holds
  have found : network.instances[n]? = some i := found
  have condition : i.condition = (true, true) := by
    rw [Instance.condition, isOpen, grid]
    rfl
  rw [IsUp, conditions, List.getElem?_map, found, Option.map_some, condition]

theorem conditions_withInstance (network : Network) (i : Instance) :
    (network.withInstance i).conditions = network.conditions ++ [i.condition] := by
  simp [conditions, withInstance]

theorem conditions_withInstance_of_lt (i : Instance) (known : n < network.instances.length) :
    (network.withInstance i).conditions[n]? = network.conditions[n]? := by
  rw [conditions_withInstance, List.getElem?_append_left (length_conditions.symm ▸ known)]

theorem conditions_withInstance_self (i : Instance) :
    (network.withInstance i).conditions[network.instances.length]? = some i.condition := by
  rw [conditions_withInstance, ← length_conditions]
  exact List.getElem?_concat_length

theorem conditions_close_of_ne {number : Nat} (other : n ≠ number) :
    (network.close number).conditions[n]? = network.conditions[n]? := by
  simp [conditions, close, Ne.symm other]

/-- An instance that ran and is closed is down. -/
theorem IsUp.close (up : network.IsUp n) : (network.close n).IsDown n := by
  rw [IsUp, conditions, List.getElem?_map, Option.map_eq_some_iff] at up
  obtain ⟨i, found, condition⟩ := up
  have isOpen : i.isOpen = true := congrArg Prod.fst condition
  have closed : i.close.condition = (false, false) := by rw [Instance.condition_close, if_pos isOpen]
  simp [IsDown, conditions, Network.close, found, closed]

theorem conditions_exchange (bytes : Bytes) (connection : Connection) (network : Network) :
    (network.exchange bytes connection).2.2.conditions = network.conditions := by
  unfold exchange
  split
  next i found =>
    split_ifs
    · have same : Instance.condition { i with grid := (i.grid.serve bytes).grid } = i.condition := by
        rw [Instance.condition, Instance.condition, Grid.phase_serve]
      obtain ⟨inside, there⟩ := List.getElem?_eq_some_iff.mp found
      have put : (network.put connection.instanceNumber
          { i with grid := (i.grid.serve bytes).grid }).conditions =
          network.conditions.set connection.instanceNumber i.condition := by
        rw [← same]
        exact List.map_set
      rw [put, conditions, ← List.map_set, ← there, List.set_getElem_self]
    · rfl
  · rfl

end Network

end GridSchema
