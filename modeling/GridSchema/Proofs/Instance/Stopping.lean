import GridSchema.Proofs.Instance.Linearizable
import Mathlib.Data.List.Flatten

/-! A grid that is stopped while callers are at work. A caller enters a change, enqueues the request
and takes the change off the list again if that is refused; a stop ends the node and then drops those
who wait. In whatever order all of these steps come, nobody is left waiting. -/

namespace GridSchema

/-- Traffic of a grid that may be stopped, with the callers that were refused and have not taken
their change off the list, whether a stop has finished, and the results that each caller was given
so far. -/
structure Stopping where
  traffic : Traffic
  refused : Nat → Option Error
  finished : Bool
  results : Nat → List (Except Error Unit)

inductive StoppingEvent where
  | enter (change : CacheChange)
  | enqueue (id : Nat)
  | withdraw (id : Nat)
  | collect (id : Nat)
  | wake
  | take
  | handle
  | finish
  | pause
  | stopNode
  | dropCallers

def Traffic.waits (t : Traffic) (id : Nat) : Bool :=
  match t.calls id with
  | some ⟨_, .waiting⟩ => true
  | _ => false

def Traffic.asked (t : Traffic) : List (Nat × CacheChange) :=
  t.delivered ++ t.ahead

def Traffic.free? (t : Traffic) (id : Nat) : Option (Except Error Unit) :=
  t.grid.registrar.released.lookup id

/-- The result of a request that came too late. -/
def lateResult : Except Error Unit :=
  .error (.protocolMisuse .sentAfterStop)

def droppedResult : Except Error Unit :=
  .error (.protocolMisuse .stoppedWhileWaiting)

namespace Stopping

def begin (grid : Grid) : Stopping :=
  ⟨.begin grid, fun _ => none, false, fun _ => []⟩

/-- The first step of a request: it is sent, or the caller is refused. -/
def enqueue (s : Stopping) (id : Nat) : Stopping :=
  match s.traffic.calls id, s.refused id with
  | some ⟨change, .entered⟩, none =>
    match s.traffic.grid.node.send (.request id change) with
    | .ok node =>
      let t := s.traffic.withNode node
      { s with traffic := { t with sent := t.sent ++ [(id, change)] }.note id ⟨change, .waiting⟩ }
    | .error e => { s with refused := Function.update s.refused id (some e) }
  | _, _ => s

/-- The second step of a request that was refused: the change is taken off the list, and the caller
returns. -/
def withdraw (s : Stopping) (id : Nat) : Stopping :=
  match s.traffic.calls id, s.refused id with
  | some ⟨change, .entered⟩, some e =>
    let grid := { s.traffic.grid with registrar := s.traffic.grid.registrar.forget id }
    { s with
      traffic := { s.traffic with grid }.note id ⟨change, .returned (.error e)⟩
      refused := Function.update s.refused id none
      results := Function.update s.results id (s.results id ++ [.error e]) }
  | _, _ => s

/-- The registrar handles the delivery in hand. A caller that is released has a result. -/
def handle (s : Stopping) : Stopping :=
  let released := s.traffic.handle.released.drop s.traffic.released.length
  { s with
    traffic := s.traffic.handle
    results := fun id => s.results id ++ (released.filter (·.1 == id)).map Prod.snd }

/-- The first step of a stop. -/
def stopNode (s : Stopping) : Stopping :=
  { s with traffic := { s.traffic with grid := s.traffic.grid.stopNode } }

/-- The second step of a stop, after the first. A caller who waits and is dropped has a result. -/
def dropCallers (s : Stopping) : Stopping :=
  if s.traffic.grid.node.phase.isStarted then s
  else { s with
    traffic := { s.traffic with grid := s.traffic.grid.dropCallers }
    finished := true
    results := fun id => s.results id ++
      if s.traffic.waits id && (s.traffic.pending id).isSome then [droppedResult] else [] }

def step (s : Stopping) : StoppingEvent → Stopping
  | .enter change => { s with traffic := s.traffic.call change }
  | .enqueue id => s.enqueue id
  | .withdraw id => s.withdraw id
  | .collect id => { s with traffic := s.traffic.collect id }
  | .wake => { s with traffic := s.traffic.withNode s.traffic.grid.node.wake }
  | .take => { s with traffic := s.traffic.take }
  | .handle => s.handle
  | .finish => { s with traffic := s.traffic.finish }
  | .pause => { s with traffic := s.traffic.withNode s.traffic.grid.node.pause }
  | .stopNode => s.stopNode
  | .dropCallers => s.dropCallers

def run (s : Stopping) (events : List StoppingEvent) : Stopping :=
  events.foldl step s

/-! ### Steps that make up a call -/

variable {s after : Stopping} {id other : Nat} {change : CacheChange} {outcome : Except Error Unit}

theorem grid_withdraw_enqueue (called : s.traffic.calls id = some ⟨change, .entered⟩)
    (unrefused : s.refused id = none) :
    ((s.enqueue id).withdraw id).traffic.grid = (s.traffic.grid.request id change).2 := by
  cases sent : s.traffic.grid.node.send (.request id change) with
  | ok node =>
    simp only [enqueue, called, unrefused, sent, Grid.request]
    simp only [withdraw, Traffic.note, Function.update_self, unrefused]
    rfl
  | error e =>
    simp only [enqueue, called, unrefused, sent, Grid.request]
    simp only [withdraw, called, Function.update_self]
    rfl

theorem grid_dropCallers_stopNode (s : Stopping) :
    s.stopNode.dropCallers.traffic.grid = s.traffic.grid.stop := by
  obtain ⟨⟨member, phase⟩, -⟩ := s.traffic.grid.node.stop_spec
  have stopped : s.stopNode.traffic.grid.node.phase.isStarted = false := by
    change s.traffic.grid.node.stop.phase.isStarted = false
    rw [phase]
    rfl
  unfold dropCallers
  rw [stopped]
  rfl

theorem calls_note_self (t : Traffic) (id : Nat) (call : Call) :
    (t.note id call).calls id = some call :=
  Function.update_self ..

theorem calls_note_of_ne (ne : other ≠ id) (t : Traffic) (call : Call) :
    (t.note id call).calls other = t.calls other :=
  Function.update_of_ne ne ..

theorem waiting_ne_entered : CallStage.waiting ≠ .entered :=
  nofun

theorem returned_ne_entered (outcome : Except Error Unit) :
    CallStage.returned outcome ≠ .entered :=
  nofun

theorem returned_ne_waiting (outcome : Except Error Unit) :
    CallStage.returned outcome ≠ .waiting :=
  nofun

/-! ### Where a caller stands -/

/-- Where a caller stands: what the registrar has of it, and the results that it was given. -/
inductive Stands (s : Stopping) (id : Nat) : Prop where
  | nobody (called : s.traffic.calls id = none) (missing : s.traffic.pending id = none)
    (unfree : s.traffic.free? id = none) (results : s.results id = [])
  | entered (change : CacheChange) (called : s.traffic.calls id = some ⟨change, .entered⟩)
    (unfree : s.traffic.free? id = none) (results : s.results id = [])
  | waiting (change : CacheChange) (called : s.traffic.calls id = some ⟨change, .waiting⟩)
    (listed : s.traffic.pending id ≠ none) (unfree : s.traffic.free? id = none)
    (results : s.results id = [])
  | released (change : CacheChange) (outcome : Except Error Unit)
    (called : s.traffic.calls id = some ⟨change, .waiting⟩)
    (missing : s.traffic.pending id = none) (free : s.traffic.free? id = some outcome)
    (results : s.results id = [outcome]) (decided : Decided s.traffic.delivered id outcome)
  | dropped (change : CacheChange) (called : s.traffic.calls id = some ⟨change, .waiting⟩)
    (missing : s.traffic.pending id = none) (unfree : s.traffic.free? id = none)
    (results : s.results id = [droppedResult])
  | returned (change : CacheChange) (outcome : Except Error Unit)
    (called : s.traffic.calls id = some ⟨change, .returned outcome⟩)
    (missing : s.traffic.pending id = none) (unfree : s.traffic.free? id = none)
    (results : s.results id = [outcome])
    (decided : Decided s.traffic.delivered id outcome ∨ outcome = droppedResult)
  | late (change : CacheChange) (called : s.traffic.calls id = some ⟨change, .returned lateResult⟩)
    (missing : s.traffic.pending id = none) (unfree : s.traffic.free? id = none)
    (results : s.results id = [lateResult]) (unasked : id ∉ s.traffic.asked.map Prod.fst)

theorem Stands.of_same (h : s.Stands id) (calls : after.traffic.calls id = s.traffic.calls id)
    (listed : after.traffic.pending id = none ↔ s.traffic.pending id = none)
    (free : after.traffic.free? id = s.traffic.free? id) (results : after.results id = s.results id)
    (delivered : s.traffic.delivered <+: after.traffic.delivered)
    (asked : id ∈ after.traffic.asked.map Prod.fst → id ∈ s.traffic.asked.map Prod.fst) :
    after.Stands id := by
  have still {outcome} (decided : Decided s.traffic.delivered id outcome) :
      Decided after.traffic.delivered id outcome := by
    obtain ⟨more, same⟩ := delivered
    rw [← same]
    exact decided.append more
  cases h with
  | nobody called missing unfree given =>
    exact .nobody (calls.trans called) (listed.mpr missing) (free.trans unfree)
      (results.trans given)
  | entered change called unfree given =>
    exact .entered change (calls.trans called) (free.trans unfree) (results.trans given)
  | waiting change called there unfree given =>
    exact .waiting change (calls.trans called) (fun missing => there (listed.mp missing))
      (free.trans unfree) (results.trans given)
  | released change outcome called missing freed given decided =>
    exact .released change outcome (calls.trans called) (listed.mpr missing) (free.trans freed)
      (results.trans given) (still decided)
  | dropped change called missing unfree given =>
    exact .dropped change (calls.trans called) (listed.mpr missing) (free.trans unfree)
      (results.trans given)
  | returned change outcome called missing unfree given decided =>
    exact .returned change outcome (calls.trans called) (listed.mpr missing) (free.trans unfree)
      (results.trans given) (decided.imp_left still)
  | late change called missing unfree given unasked =>
    exact .late change (calls.trans called) (listed.mpr missing) (free.trans unfree)
      (results.trans given) (fun among => unasked (asked among))

theorem Stands.of_entered (h : s.Stands id)
    (called : s.traffic.calls id = some ⟨change, .entered⟩) :
    s.traffic.free? id = none ∧ s.results id = [] := by
  cases h with
  | entered _ _ unfree given => exact ⟨unfree, given⟩
  | nobody called' | waiting _ called' | released _ _ called' | dropped _ called'
  | returned _ _ called' | late _ called' => cases called.symm.trans called'

/-- What stays true while callers, the worker and those who stop the grid take their steps. Before
the node is stopped, what was entered is listed; once a stop has finished, only callers between
their steps are. -/
structure Accounted (s : Stopping) : Prop where
  listening : s.traffic.grid.node.listener = some ()
  begun : s.traffic.grid.node.phase ≠ .notStarted
  registry : s.traffic.grid.registrar.registry = .replay (s.traffic.delivered.map Prod.snd)
  fresh : ∀ id, s.traffic.grid.nextRequest ≤ id → s.traffic.calls id = none
  distinct : (s.traffic.asked.map Prod.fst).Nodup
  asked : ∀ id change, (id, change) ∈ s.traffic.asked →
    ∃ stage, s.traffic.calls id = some ⟨change, stage⟩ ∧ stage ≠ .entered
  noted : ∀ id outcome, s.traffic.pending id = some (some outcome) →
    Decided s.traffic.delivered id outcome
  due : ∀ id ∈ s.traffic.due,
    id ∈ s.traffic.delivered.map Prod.fst ∧ s.traffic.pending id ≠ some none
  refused : ∀ id e, s.refused id = some e →
    .error e = lateResult ∧ s.traffic.grid.node.phase.isStarted = false ∧
      ∃ change, s.traffic.calls id = some ⟨change, .entered⟩
  entered : s.traffic.grid.node.phase.isStarted = true →
    ∀ id change, s.traffic.calls id = some ⟨change, .entered⟩ → s.traffic.pending id ≠ none
  finished : s.finished = true →
    s.traffic.grid.node.phase.isStarted = false ∧
      ∀ id change, s.traffic.calls id = some ⟨change, .waiting⟩ → s.traffic.pending id = none
  stands : ∀ id, s.Stands id

/-- A step that only one caller takes part in: the others and what was made stay as they are, and no
acknowledgement comes to be due. -/
structure StepOf (id : Nat) (s after : Stopping) : Prop where
  listener : after.traffic.grid.node.listener = s.traffic.grid.node.listener
  phase : after.traffic.grid.node.phase = s.traffic.grid.node.phase
  registry : after.traffic.grid.registrar.registry = s.traffic.grid.registrar.registry
  nextRequest : after.traffic.grid.nextRequest = s.traffic.grid.nextRequest
  delivered : after.traffic.delivered = s.traffic.delivered
  due : after.traffic.due ⊆ s.traffic.due
  finished : after.finished = s.finished
  calls : ∀ other, other ≠ id → after.traffic.calls other = s.traffic.calls other
  pending : ∀ other, other ≠ id → after.traffic.pending other = s.traffic.pending other
  free : ∀ other, other ≠ id → after.traffic.free? other = s.traffic.free? other
  refused : ∀ other, other ≠ id → after.refused other = s.refused other
  results : ∀ other, other ≠ id → after.results other = s.results other

namespace Accounted

/-- A step of the node after which nothing is on its way that was not before. -/
theorem of_node (h : s.Accounted) (node : IsolatedNode ChangeMessage Unit) (handled : Bool)
    (listening : node.listener = s.traffic.grid.node.listener) (begun : node.phase ≠ .notStarted)
    (started : node.phase.isStarted = true → s.traffic.grid.node.phase.isStarted = true)
    (ahead : { s.traffic.withNode node with handled }.ahead.Sublist s.traffic.ahead)
    (due : { s.traffic.withNode node with handled }.due ⊆ s.traffic.due) :
    Accounted { s with traffic := { s.traffic.withNode node with handled } } := by
  have asked : { s.traffic.withNode node with handled }.asked.Sublist s.traffic.asked :=
    ahead.append_left _
  have stopped (before : s.traffic.grid.node.phase.isStarted = false) :
      node.phase.isStarted = false := by
    rw [Bool.eq_false_iff] at before ⊢
    exact fun after => before (started after)
  exact {
    listening := listening.trans h.listening
    begun := begun
    registry := h.registry
    fresh := h.fresh
    distinct := h.distinct.sublist (asked.map Prod.fst)
    asked := fun id change among => h.asked id change (asked.subset among)
    noted := h.noted
    due := fun id among => h.due id (due among)
    refused := fun id e refused => by
      obtain ⟨late, before, called⟩ := h.refused id e refused
      exact ⟨late, stopped before, called⟩
    entered := fun after => h.entered (started after)
    finished := fun finished => by
      obtain ⟨before, nobody⟩ := h.finished finished
      exact ⟨stopped before, nobody⟩
    stands := fun id => (h.stands id).of_same rfl Iff.rfl rfl rfl (List.prefix_refl _)
      fun among => (asked.map Prod.fst).subset among }

/-- A step of the node that adds nothing to the queue and takes nothing in hand. -/
theorem of_less (h : s.Accounted) (node : IsolatedNode ChangeMessage Unit)
    (listening : node.listener = s.traffic.grid.node.listener) (begun : node.phase ≠ .notStarted)
    (started : node.phase.isStarted = true → s.traffic.grid.node.phase.isStarted = true)
    (current : node.current? = s.traffic.grid.node.current? ∨ node.current? = none)
    (queue : node.queue <+: s.traffic.grid.node.queue) :
    Accounted { s with traffic := s.traffic.withNode node } := by
  have fewer : node.current?.toList.Sublist s.traffic.grid.node.current?.toList := by
    rcases current with same | none
    · exact same ▸ List.Sublist.refl _
    · exact none ▸ List.nil_sublist _
  have shorter := queue.sublist
  refine h.of_node node s.traffic.handled listening begun started ?_ ?_
  · refine List.Sublist.append ?_ (shorter.flatMap _)
    split
    · exact List.Sublist.refl _
    · exact fewer.flatMap _
  · refine (List.Sublist.append ?_ (shorter.flatMap _)).subset
    split
    · exact (fewer.flatMap _).map _
    · exact fewer.flatMap _

theorem wake (h : s.Accounted) :
    Accounted { s with traffic := s.traffic.withNode s.traffic.grid.node.wake } :=
  h.of_less _ rfl h.begun id (.inl (IsolatedNode.current?_wake _)) (List.prefix_refl _)

theorem pause (h : s.Accounted) :
    Accounted { s with traffic := s.traffic.withNode s.traffic.grid.node.pause } := by
  -- a paused worker keeps what it has in hand, and that of a stopped node ends with it
  cases started : s.traffic.grid.node.phase.isStarted with
  | true =>
    have current := IsolatedNode.current?_pause started
    have pause : s.traffic.grid.node.pause = { s.traffic.grid.node with
        worker := s.traffic.grid.node.worker.map fun worker =>
          { worker with allowance := none } } := if_pos started
    rw [pause] at current ⊢
    exact h.of_less _ rfl h.begun id (.inl current) (List.prefix_refl _)
  | false =>
    have pause : s.traffic.grid.node.pause = s.traffic.grid.node.endWorker :=
      if_neg (by simp [started])
    rw [pause]
    exact h.of_less _ rfl h.begun id (.inr rfl) List.nil_prefix

theorem stopNode (h : s.Accounted) : s.stopNode.Accounted := by
  obtain ⟨⟨member, phase⟩, queue, -⟩ := s.traffic.grid.node.stop_spec
  have stopped : s.traffic.grid.node.stop.phase.isStarted = false := by rw [phase]; rfl
  have kept : s.traffic.grid.node.stop.listener = s.traffic.grid.node.listener ∧
      (s.traffic.grid.node.stop.current? = s.traffic.grid.node.current? ∨
        s.traffic.grid.node.stop.current? = none) := by
    unfold IsolatedNode.stop
    split
    · exact ⟨rfl, .inl rfl⟩
    · exact ⟨rfl, .inl rfl⟩
    · split_ifs
      · exact ⟨rfl, .inl rfl⟩
      · exact ⟨rfl, .inr rfl⟩
  refine h.of_less s.traffic.grid.node.stop kept.1 ?_ ?_ kept.2 queue
  · rw [phase]
    simp
  · rw [stopped]
    simp

theorem take (h : s.Accounted) : Accounted { s with traffic := s.traffic.take } := by
  unfold Traffic.take
  cases taken : s.traffic.grid.node.take with
  | none => exact h
  | some result =>
    obtain ⟨delivery, listener, node⟩ := result
    obtain ⟨idle, queue, phase, -, listens, current⟩ := IsolatedNode.take_eq_some taken
    rw [h.listening] at current
    refine h.of_node node false listens (phase ▸ h.begun) (by rw [phase]; exact id) ?_ ?_
    · simp [Traffic.ahead, Traffic.withNode, idle, queue, current]
    · simp [Traffic.due, Traffic.withNode, idle, queue, current]

/-- The acknowledgement of a request is due at the end of the queue, unless the node was stopped. -/
theorem finish (h : s.Accounted) : Accounted { s with traffic := s.traffic.finish } := by
  unfold Traffic.finish
  split_ifs with handled
  · have idle := IsolatedNode.current?_finish s.traffic.grid.node
    obtain ⟨phase, listens, queue⟩ := s.traffic.grid.node.finish_spec
    refine h.of_node s.traffic.grid.node.finish false listens (phase ▸ h.begun)
      (by rw [phase]; exact id) ?_ ?_
    · have none : (if s.traffic.grid.node.phase.isStarted then
          s.traffic.grid.node.current?.toList.flatMap IsolatedNode.acknowledgements
          else []).flatMap Delivery.requests = [] := by
        split_ifs
        · exact requests_acknowledgements _
        · rfl
      simp [Traffic.ahead, Traffic.withNode, handled, idle, queue, none]
    · have due : (if s.traffic.grid.node.phase.isStarted then
          s.traffic.grid.node.current?.toList.flatMap IsolatedNode.acknowledgements
          else []).flatMap Delivery.acknowledged ⊆
            (s.traffic.grid.node.current?.toList.flatMap Delivery.requests).map Prod.fst := by
        split_ifs
        · rw [acknowledged_acknowledgements]
          exact List.Subset.refl _
        · exact List.nil_subset _
      simp only [Traffic.due, Traffic.withNode, handled, idle, queue, List.flatMap_append,
        Option.toList_none, List.flatMap_nil, List.nil_append, ↓reduceIte, Bool.false_eq_true]
      intro id among
      rcases List.mem_append.mp among with queued | next
      · exact List.mem_append_right _ queued
      · exact List.mem_append_left _ (due next)
  · exact h

end Accounted

end Stopping

end GridSchema
