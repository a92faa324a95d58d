import GridSchema.Discovery.Drain
import GridSchema.Proofs.Discovery.Worker
import Mathlib.Data.List.Basic

/-! The order in which a worker drains its queue. Acknowledgements go to the end of the queue that
is being drained, so they are delivered level by level: those of the messages that were sent come
after all of these, and their own acknowledgements after all of them. -/

namespace GridSchema

/-! ### Level by level -/

namespace Levels

variable {α : Type}

def level (lists : List (List α)) (place : Nat) : List α :=
  lists.filterMap (·[place]?)

def depth (lists : List (List α)) : Nat :=
  (lists.map List.length).foldr max 0

/-- What is in some lists, read across: the first of each, then the second of each, and so on. -/
def across (lists : List (List α)) : List α :=
  (List.range (depth lists)).flatMap (level lists)

theorem depth_le_iff {lists : List (List α)} {n : Nat} :
    depth lists ≤ n ↔ ∀ list ∈ lists, list.length ≤ n := by
  induction lists with
  | nil => simp [depth]
  | cons list lists ih =>
    rw [List.forall_mem_cons, ← ih]
    exact Nat.max_le

theorem level_append (front back : List (List α)) (place : Nat) :
    level (front ++ back) place = level front place ++ level back place :=
  List.filterMap_append

theorem level_cons (list : List α) (lists : List (List α)) (place : Nat) :
    level (list :: lists) place = list[place]?.toList ++ level lists place := by
  unfold level
  cases at_place : list[place]? <;> simp [at_place]

theorem level_of_depth_le {lists : List (List α)} {place : Nat} (le : depth lists ≤ place) :
    level lists place = [] := by
  rw [level, List.filterMap_eq_nil_iff]
  intro list mem
  exact List.getElem?_eq_none (depth_le_iff.mp le list mem)

theorem across_eq {lists : List (List α)} {n : Nat} (le : depth lists ≤ n) :
    (List.range n).flatMap (level lists) = across lists := by
  obtain ⟨more, rfl⟩ := Nat.exists_eq_add_of_le le
  induction more with
  | zero => rfl
  | succ more ih =>
    have beyond : level lists (depth lists + more) = [] := level_of_depth_le (Nat.le_add_right ..)
    rw [Nat.add_succ, List.range_succ, List.flatMap_append, List.flatMap_singleton, beyond,
      List.append_nil, ih (Nat.le_add_right ..)]

theorem across_congr {lists others : List (List α)}
    (same : ∀ place, level lists place = level others place) : across lists = across others := by
  have functions : level lists = level others := funext same
  rw [← across_eq (Nat.le_max_left (depth lists) (depth others)), functions,
    across_eq (Nat.le_max_right ..)]

theorem across_cons_nil (lists : List (List α)) : across ([] :: lists) = across lists :=
  across_congr fun place => level_cons [] lists place

theorem across_append_nil (lists : List (List α)) : across (lists ++ [[]]) = across lists := by
  refine across_congr fun place => ?_
  rw [level_append]
  exact List.append_nil _

/-- The first of each list, and then what is left of the lists. -/
theorem across_tails (lists : List (List α)) :
    across lists = level lists 0 ++ across (lists.map List.tail) := by
  have tails : depth (lists.map List.tail) ≤ depth lists := by
    rw [depth_le_iff]
    intro tail mem
    obtain ⟨list, inside, rfl⟩ := List.mem_map.mp mem
    have short := depth_le_iff.mp (Nat.le_refl (depth lists)) list inside
    rw [List.length_tail]
    omega
  have next (place : Nat) : level lists (place + 1) = level (lists.map List.tail) place := by
    simp [level, List.filterMap_map]
  rw [← across_eq (Nat.le_succ (depth lists)), List.range_succ_eq_map, List.flatMap_cons,
    List.flatMap_map, ← across_eq tails]
  simp only [Nat.succ_eq_add_one, next]

/-- A list whose first element has been read goes behind the others. -/
theorem across_cons (first : α) (rest : List α) (lists : List (List α)) :
    across ((first :: rest) :: lists) = first :: across (lists ++ [rest]) := by
  induction rest generalizing first lists with
  | nil =>
    rw [across_append_nil, across_tails, level_cons, List.map_cons, List.tail_cons, across_cons_nil,
      across_tails lists]
    rfl
  | cons second rest ih =>
    have left : across ((first :: second :: rest) :: lists) =
        first :: (level lists 0 ++ across ((second :: rest) :: lists.map List.tail)) := by
      rw [across_tails, level_cons]
      rfl
    have right : across (lists ++ [second :: rest]) =
        level lists 0 ++ second :: across (lists.map List.tail ++ [rest]) := by
      rw [across_tails, level_append, List.map_append, List.append_assoc]
      rfl
    rw [left, right, ih]

theorem across_eq_nil {lists : List (List α)} (none : level lists 0 = []) : across lists = [] := by
  have empty : ∀ list ∈ lists, list = [] := by
    intro list mem
    have nothing := List.filterMap_eq_nil_iff.mp none list mem
    rwa [← List.head?_eq_getElem?, List.head?_eq_none_iff] at nothing
  have flat : depth lists ≤ 0 := by
    rw [depth_le_iff]
    intro list mem
    exact Nat.le_of_eq (congrArg List.length (empty list mem))
  exact (across_eq flat).symm

/-- The first of all elements that are read, and the list that it comes from. -/
theorem across_of_level {lists : List (List α)} {first : α} {firsts : List α}
    (firstOfAll : level lists 0 = first :: firsts) :
    ∃ rest others, first :: rest ∈ lists ∧ (∀ list ∈ others, list ∈ lists) ∧
      level others 0 = firsts ∧ across lists = first :: across (others ++ [rest]) := by
  induction lists with
  | nil => cases firstOfAll
  | cons list lists ih =>
    rw [level_cons] at firstOfAll
    cases list with
    | nil =>
      obtain ⟨rest, others, mem, inside, same, reads⟩ := ih firstOfAll
      refine ⟨rest, others, List.mem_cons_of_mem _ mem, ?_, same, ?_⟩
      · intro list mem
        exact List.mem_cons_of_mem _ (inside list mem)
      · rw [across_cons_nil, reads]
    | cons head rest =>
      obtain ⟨rfl, rfl⟩ := List.cons.inj firstOfAll
      refine ⟨rest, lists, List.mem_cons_self, ?_, rfl, across_cons head rest lists⟩
      intro list mem
      exact List.mem_cons_of_mem _ mem

end Levels

/-! ### Draining -/

variable {μ lam : Type}

namespace IsolatedNode

/-- A started node has a queue for a listener, and its worker is not busy. -/
structure Idle (node : IsolatedNode μ lam) (member : Member) (listener : lam)
    (queue : List (Delivery μ)) : Prop where
  started : node.phase = .started member
  listens : node.listener = some listener
  works : ∃ allowance, node.worker = some ⟨allowance, none⟩
  queued : node.queue = queue

variable {node : IsolatedNode μ lam} {member : Member} {listener : lam}
  {queue : List (Delivery μ)}

/-- A worker that is not spent has a step left once it is run. -/
theorem Idle.wake (idle : node.Idle member listener queue) (fit : node.isSpent = false) :
    ∃ left, node.wake.worker = some ⟨some (left + 1), none⟩ := by
  obtain ⟨-, -, ⟨allowance, worker⟩, -⟩ := idle
  rcases allowance with _ | _ | left
  · exact ⟨stepsPerTurn - 1, by simp [IsolatedNode.wake, worker, stepsPerTurn]⟩
  · simp [isSpent, worker] at fit
  · exact ⟨left, by simp [IsolatedNode.wake, worker]⟩

theorem foldlM_send (node : IsolatedNode μ lam) (started : node.phase = .started member)
    (contents : List μ) :
    contents.foldlM send node =
      .ok { node with queue := node.queue ++ contents.map .message } := by
  induction contents generalizing node with
  | nil => simp; rfl
  | cons content contents ih =>
    have sent : node.send content = .ok { node with queue := node.queue ++ [.message content] } := by
      simp only [send, started]
    have rest := ih { node with queue := node.queue ++ [.message content] } started
    rw [List.foldlM_cons, sent]
    refine rest.trans ?_
    rw [List.append_assoc]
    rfl

end IsolatedNode

variable [Message μ]

/-- Messages each of which is acknowledged by the next one, up to the last, which has no
acknowledgement. -/
def Message.Chain : List μ → Prop
  | [] => True
  | content :: later => Message.acknowledgement? content = later.head? ∧ Chain later

/-- Listeners that note what they are handed, and are done with it at once. -/
def Behaviour.recording : Behaviour μ lam (List (lam × Delivery μ)) where
  handle listener delivery := fun (noted, node) => (true, noted ++ [(listener, delivery)], node)
  resume _ _ := fun (noted, node) => (true, noted, node)

namespace IsolatedNode

variable {node : IsolatedNode μ lam} {member : Member} {listener : lam}
  {queue : List (Delivery μ)} (noted : List (lam × Delivery μ))

/-- A worker that has taken all the steps of its turn is run again. -/
theorem Idle.drain_of_isSpent (idle : node.Idle member listener queue) (spent : node.isSpent = true)
    (limit : Nat) :
    ∃ after : IsolatedNode μ lam, after.Idle member listener queue ∧ after.isSpent = false ∧
      drain .recording (limit + 1) (noted, node) = drain .recording limit (noted, after) := by
  obtain ⟨started, listens, ⟨allowance, worker⟩, queued⟩ := idle
  obtain rfl : allowance = some 0 := by simpa [isSpent, worker] using spent
  refine ⟨{ node with worker := some ⟨none, none⟩ }, ⟨started, listens, ⟨none, rfl⟩, queued⟩,
    rfl, ?_⟩
  have awake : node.wake = node := by
    obtain ⟨_, _, _, _, _⟩ := node
    obtain rfl := worker
    rfl
  have paused : node.pause = { node with worker := some ⟨none, none⟩ } := by
    simp [pause, started, Phase.isStarted, worker]
  have taken : node.take = none := by simp [take, worker]
  simp only [drain, awake, worker, taken, spent, paused, ↓reduceIte]

/-- A round hands the first delivery of the queue to the listener, and puts what follows it behind
the others. -/
theorem Idle.drain_cons {delivery : Delivery μ}
    (idle : node.Idle member listener (delivery :: queue)) (fit : node.isSpent = false)
    (limit : Nat) :
    ∃ after : IsolatedNode μ lam,
      after.Idle member listener (queue ++ acknowledgements delivery) ∧
      drain .recording (limit + 1) (noted, node) =
        drain .recording limit (noted ++ [(listener, delivery)], after) := by
  obtain ⟨left, awake⟩ := idle.wake fit
  obtain ⟨started, listens, -, queued⟩ := idle
  let handed : IsolatedNode μ lam := { node.wake with
    listener := some listener, queue, worker := some ⟨some left, some (delivery, listener)⟩ }
  have taken : node.wake.take = some (delivery, some listener, handed) := by
    have same : node.wake.queue = delivery :: queue := queued
    have heard : node.wake.listener = some listener := listens
    simp only [take, awake, same, heard, Option.map_some]
    rfl
  have phase : handed.phase.isStarted = true := congrArg Phase.isStarted started
  obtain ⟨stays, hears, queues⟩ := finish_of_isStarted phase
  refine ⟨handed.finish, ⟨stays.trans started, hears, ⟨some left, rfl⟩, ?_⟩, ?_⟩
  · rw [queues]
    simp [handed, current?]
  · simp only [drain, awake, taken]
    rfl

theorem Idle.drain_nil (idle : node.Idle member listener []) (limit : Nat) :
    ∃ after : IsolatedNode μ lam, after.Idle member listener [] ∧
      drain .recording limit (noted, node) = (noted, after) := by
  induction limit generalizing node with
  | zero => exact ⟨node, idle, rfl⟩
  | succ limit ih =>
    cases spent : node.isSpent with
    | true =>
      obtain ⟨after, idle, -, same⟩ := idle.drain_of_isSpent noted spent limit
      rw [same]
      exact ih idle
    | false =>
      obtain ⟨left, awake⟩ := idle.wake spent
      obtain ⟨started, listens, -, queued⟩ := idle
      have isStarted : node.wake.phase.isStarted = true := congrArg Phase.isStarted started
      have waits : node.wake.pause = { node.wake with worker := some ⟨none, none⟩ } := by
        simp [pause, isStarted, awake]
      have empty : node.wake.queue = [] := queued
      have taken : node.wake.take = none := by simp only [take, awake, empty]
      have goesOn : node.wake.isSpent = false := by simp [isSpent, awake]
      refine ⟨node.wake.pause, ?_, ?_⟩
      · rw [waits]
        exact ⟨started, listens, ⟨none, rfl⟩, queued⟩
      · simp only [drain, awake, taken, goesOn, Bool.false_eq_true, ↓reduceIte]

/-- A queue of messages with their acknowledgements is drained in the order in which these are read
across. Two rounds are enough for a delivery: at worst the worker is spent before each of them. -/
theorem Idle.drain_chains {chains : List (List μ)} (chained : ∀ chain ∈ chains, Message.Chain chain)
    (idle : node.Idle member listener ((Levels.level chains 0).map .message)) {limit : Nat}
    (enough : 2 * (Levels.across chains).length ≤ limit + if node.isSpent then 0 else 1) :
    ∃ after : IsolatedNode μ lam, after.Idle member listener [] ∧
      drain .recording limit (noted, node) =
        (noted ++ (Levels.across chains).map fun content => (listener, .message content), after) := by
  induction limit generalizing node noted chains with
  | zero =>
    have none : (Levels.across chains).length = 0 := by
      split at enough <;> omega
    have none := List.eq_nil_of_length_eq_zero none
    have unsent : Levels.level chains 0 = [] := by
      rw [Levels.across_tails, List.append_eq_nil_iff] at none
      exact none.1
    rw [unsent] at idle
    exact ⟨node, idle, by rw [none, List.map_nil, List.append_nil]; rfl⟩
  | succ limit ih =>
    cases heads : Levels.level chains 0 with
    | nil =>
      rw [heads] at idle
      rw [Levels.across_eq_nil heads, List.map_nil, List.append_nil]
      exact idle.drain_nil noted (limit + 1)
    | cons content others =>
      cases spent : node.isSpent with
      | true =>
        rw [spent] at enough
        obtain ⟨after, idle, fit, same⟩ := idle.drain_of_isSpent noted spent limit
        rw [same]
        exact ih noted chained idle (by rw [fit]; exact enough)
      | false =>
        obtain ⟨later, rest, mem, inside, firsts, reads⟩ := Levels.across_of_level heads
        obtain ⟨followed, linked⟩ := chained _ mem
        rw [heads, List.map_cons] at idle
        obtain ⟨after, idle, same⟩ := idle.drain_cons noted spent limit
        have queued : others.map Delivery.message ++ acknowledgements (.message content) =
            (Levels.level (rest ++ [later]) 0).map .message := by
          rw [Levels.level_append, firsts, List.map_append, acknowledgements, followed]
          cases later <;> rfl
        rw [queued] at idle
        have chained : ∀ chain ∈ rest ++ [later], Message.Chain chain := by
          intro chain mem
          rcases List.mem_append.mp mem with mem | mem
          · exact chained chain (inside chain mem)
          · rw [List.mem_singleton.mp mem]
            exact linked
        have enough : 2 * (Levels.across (rest ++ [later])).length ≤ limit := by
          rw [reads, List.length_cons] at enough
          split at enough <;> omega
        obtain ⟨last, idle, ends⟩ := ih (noted ++ [(listener, .message content)]) chained idle
          (Nat.le_add_right_of_le enough)
        refine ⟨last, idle, ?_⟩
        rw [same, ends, reads, List.map_cons, List.append_assoc]
        rfl

/-- The deliveries that are due to messages which are sent with the acknowledgements that follow
each of them: the node's joining, the messages as they were sent, and then their acknowledgements
level by level. -/
def dueTo (sent : List (μ × List μ)) : List (Delivery μ) :=
  .join :: (sent.map Prod.fst ++ Levels.across (sent.map Prod.snd)).map .message

/-- A node that is started with a listener, and is sent messages before its worker first runs, hands
all that is due to them to the listener, each once and in this order, and its queue is empty then.
That takes no more than two rounds for each delivery. -/
theorem drained_level_by_level (new : node.phase = .notStarted)
    (listens : node.listener = some listener) (fresh : FreshIds) (sent : List (μ × List μ))
    (chained : ∀ thread ∈ sent, Message.Chain (thread.1 :: thread.2)) :
    ∃ member started ready, node.start true fresh = .ok (member, started) ∧
      (sent.map Prod.fst).foldlM send started = .ok ready ∧
      ∀ limit, 2 * (dueTo sent).length ≤ limit → ∃ after,
        drain .recording limit ([], ready) = ((dueTo sent).map (listener, ·), after) ∧
        after.queue = [] ∧ after.current? = none ∧ after.phase = .started member := by
  let member : Member := ⟨node.config.id.getD fresh.id,
    node.config.consistentId.getD fresh.consistentId, 1, node.config.attributes⟩
  let started : IsolatedNode μ lam :=
    { node with phase := .started member, queue := [.join], worker := some ⟨none, none⟩ }
  let contents := sent.map Prod.fst
  have starts : node.start true fresh = .ok (member, started) := by
    simp only [start, ↓reduceIte, new]
    rfl
  have sends : contents.foldlM send started = _ := foldlM_send started rfl contents
  refine ⟨member, started, _, starts, sends, ?_⟩
  intro limit enough
  let chains : List (List μ) := sent.map fun thread => thread.1 :: thread.2
  have heads : Levels.level chains 0 = contents := by
    simp [chains, contents, Levels.level, List.filterMap_map]
  have due : contents ++ Levels.across (sent.map Prod.snd) = Levels.across chains := by
    rw [Levels.across_tails chains, heads, List.map_map]
    rfl
  have linked : ∀ chain ∈ chains, Message.Chain chain := by
    intro chain mem
    obtain ⟨thread, inside, rfl⟩ := List.mem_map.mp mem
    exact chained thread inside
  have idle : IsolatedNode.Idle { started with queue := [.join] ++ contents.map .message } member
      listener (.join :: contents.map .message) :=
    ⟨rfl, listens, ⟨none, rfl⟩, rfl⟩
  rw [dueTo, due, List.length_cons, List.length_map] at enough
  obtain ⟨limit, rfl⟩ : ∃ rounds, limit = rounds + 1 := ⟨limit - 1, by omega⟩
  obtain ⟨joined, idle, joins⟩ := idle.drain_cons [] rfl limit
  have queued : contents.map .message ++ acknowledgements (.join : Delivery μ) =
      (Levels.level chains 0).map .message := by
    rw [heads]
    exact List.append_nil _
  rw [queued] at idle
  have rounds : 2 * (Levels.across chains).length ≤ limit + if joined.isSpent then 0 else 1 := by
    omega
  obtain ⟨after, idle, ends⟩ := idle.drain_chains [(listener, .join)] linked rounds
  refine ⟨after, ?_, idle.queued, ?_, idle.started⟩
  · refine (joins.trans ends).trans ?_
    rw [dueTo, due, List.map_cons, List.map_map]
    rfl
  · obtain ⟨allowance, worker⟩ := idle.works
    rw [current?, worker]
    rfl

/-- A message that is acknowledged a number of times more. -/
structure Echo where
  id : Nat
  left : Nat
  deriving DecidableEq, Repr

instance : Message Echo where
  acknowledgement?
    | ⟨_, 0⟩ => none
    | ⟨id, left + 1⟩ => some ⟨id, left⟩

/-- Three messages that are acknowledged twice, not at all and once. -/
def unevenEchoes : List (Echo × List Echo) :=
  [(⟨1, 2⟩, [⟨1, 1⟩, ⟨1, 0⟩]), (⟨2, 0⟩, []), (⟨3, 1⟩, [⟨3, 0⟩])]

theorem drained_level_by_level_uneven :
    let node : IsolatedNode Echo Unit := (create ⟨none, none, ∅⟩).listen ()
    (node.phase = .notStarted ∧ node.listener = some ()) ∧
    (∀ thread ∈ unevenEchoes, Message.Chain (thread.1 :: thread.2)) ∧
    ∃ member started ready after, node.start true ⟨"n", "n"⟩ = .ok (member, started) ∧
      [Echo.mk 1 2, ⟨2, 0⟩, ⟨3, 1⟩].foldlM send started = .ok ready ∧
      drain .recording 14 ([], ready) =
        ([.join, .message ⟨1, 2⟩, .message ⟨2, 0⟩, .message ⟨3, 1⟩, .message ⟨1, 1⟩,
          .message ⟨3, 0⟩, .message ⟨1, 0⟩].map (() , ·), after) ∧ after.queue = [] := by
  intro node
  have new : node.phase = .notStarted := rfl
  have listens : node.listener = some () := rfl
  have chained : ∀ thread ∈ unevenEchoes, Message.Chain (thread.1 :: thread.2) := by
    simp [unevenEchoes, Message.Chain, Message.acknowledgement?]
  obtain ⟨member, started, ready, starts, sends, drained⟩ :=
    drained_level_by_level new listens ⟨"n", "n"⟩ unevenEchoes chained
  obtain ⟨after, ends, empty, -⟩ := drained 14 (by decide)
  exact ⟨⟨new, listens⟩, chained, member, started, ready, after, starts, sends, ends, empty⟩

end IsolatedNode

end GridSchema
