import GridSchema.Instance.Change
import GridSchema.Proofs.Discovery.History

/-! Deliveries reach listeners one at a time and in the order in which they entered the queue,
however calls, listeners, stops and the steps of the worker come between each other. -/

namespace GridSchema

variable {μ lam : Type}

def ListenerCall.delivery? : ListenerCall μ lam → Option (Delivery μ)
  | introduced _ => none
  | notified _ delivery => some delivery

theorem Delivery.filterMap_delivery?_calls (delivery : Delivery μ) (listener : lam) :
    (delivery.calls listener).filterMap ListenerCall.delivery? = [delivery] := by
  cases delivery <;> rfl

theorem Occurrence.handed?_eq_none {occurrence : Occurrence μ lam}
    (taken : occurrence.taken? = none) : occurrence.handed? = none := by
  cases occurrence with
  | taken delivery listener => cases taken
  | _ => rfl

namespace NodeLog

variable (log : NodeLog μ lam) (occurrence : Occurrence μ lam)

def notified (log : NodeLog μ lam) : List (Delivery μ) :=
  log.calls.filterMap ListenerCall.delivery?

/-- The calls that the deliveries handed to listeners take. -/
def dueCalls (log : NodeLog μ lam) : List (ListenerCall μ lam) :=
  log.handed.flatMap fun (delivery, listener) => delivery.calls listener

/-- Deliveries are taken for the listener registered last, and only after all that was handed to
listeners before has been completed. -/
def TakenInTurn (log : NodeLog μ lam) : Prop :=
  ∀ (front : NodeLog μ lam) delivery listener back,
    log = front ++ .taken delivery listener :: back →
    listener = front.listener ∧ front.completed = front.handed.map Prod.fst

private theorem filterMap_concat {α β : Type} (f : α → Option β) (front : List α) (last : α) :
    (front ++ [last]).filterMap f = front.filterMap f ++ (f last).toList := by
  rw [List.filterMap_append]
  cases h : f last <;> simp [h]

@[simp] theorem taken_concat :
    NodeLog.taken (log ++ [occurrence]) = log.taken ++ occurrence.taken?.toList :=
  filterMap_concat ..

@[simp] theorem handed_concat :
    NodeLog.handed (log ++ [occurrence]) = log.handed ++ occurrence.handed?.toList :=
  filterMap_concat ..

@[simp] theorem calls_concat :
    NodeLog.calls (log ++ [occurrence]) = log.calls ++ occurrence.called?.toList :=
  filterMap_concat ..

@[simp] theorem completed_concat :
    NodeLog.completed (log ++ [occurrence]) = log.completed ++ occurrence.completed?.toList :=
  filterMap_concat ..

@[simp] theorem listener_concat :
    NodeLog.listener (log ++ [occurrence]) = occurrence.registered?.or log.listener := by
  rw [listener, filterMap_concat]
  cases occurrence.registered? <;> simp [listener]

@[simp] theorem isStarted_concat :
    NodeLog.isStarted (log ++ [occurrence]) = occurrence.starts log.isStarted := by
  rw [isStarted, List.foldl_append]
  rfl

theorem broughtFrom_concat [Message μ] (isStarted : Bool) :
    broughtFrom isStarted (log ++ [occurrence]) =
      broughtFrom isStarted log ++ occurrence.brings (log.foldl Occurrence.starts isStarted) := by
  induction log generalizing isStarted with
  | nil => exact List.append_nil _
  | cons first log ih =>
    rw [List.cons_append, broughtFrom, ih, broughtFrom, List.append_assoc, List.foldl_cons]

@[simp] theorem brought_concat [Message μ] :
    NodeLog.brought (log ++ [occurrence]) = log.brought ++ occurrence.brings log.isStarted :=
  log.broughtFrom_concat occurrence false

theorem takenInTurn_concat_iff {log : NodeLog μ lam} {occurrence : Occurrence μ lam} :
    TakenInTurn (log ++ [occurrence]) ↔ log.TakenInTurn ∧
      ∀ delivery listener, occurrence = .taken delivery listener →
        listener = log.listener ∧ log.completed = log.handed.map Prod.fst := by
  constructor
  · intro h
    refine ⟨?_, ?_⟩
    · intro front delivery listener back split
      exact h front delivery listener (back ++ [occurrence]) (by rw [split]; simp)
    · rintro delivery listener rfl
      exact h log delivery listener [] rfl
  · rintro ⟨earlier, last⟩ front delivery listener back split
    rcases List.eq_nil_or_concat back with rfl | ⟨back, other, rfl⟩
    · obtain ⟨rfl, same⟩ := List.append_inj' split rfl
      exact last delivery listener (List.singleton_inj.mp same)
    · rw [List.concat_eq_append, ← List.cons_append, ← List.append_assoc] at split
      exact earlier front delivery listener back (List.append_inj' split rfl).1

/-- What stays true of what listeners are told. All calls that their deliveries take are made in
order, and one delivery is completed before the next is taken. -/
structure InOrder (log : NodeLog μ lam) (unmade : List (ListenerCall μ lam)) : Prop where
  calls : log.calls ++ unmade = log.dueCalls
  completed : log.completed <+: log.notified
  almost : log.handed.length ≤ log.completed.length + 1
  inTurn : log.TakenInTurn

variable {log : NodeLog μ lam} {occurrence : Occurrence μ lam}
  {unmade : List (ListenerCall μ lam)}

theorem InOrder.concat (o : log.InOrder unmade) (taken : occurrence.taken? = none)
    (called : occurrence.called? = none) (completed : occurrence.completed? = none) :
    InOrder (log ++ [occurrence]) unmade := by
  have handed := Occurrence.handed?_eq_none taken
  refine ⟨?_, ?_, ?_, takenInTurn_concat_iff.mpr ⟨o.inTurn, ?_⟩⟩
  · simpa only [dueCalls, calls_concat, handed_concat, called, handed, Option.toList_none,
      List.append_nil] using o.calls
  · simpa only [notified, calls_concat, completed_concat, called, completed, Option.toList_none,
      List.append_nil] using o.completed
  · simpa only [handed_concat, completed_concat, handed, completed, Option.toList_none,
      List.append_nil] using o.almost
  · rintro delivery listener rfl
    cases taken

theorem notified_eq (calls : log.calls ++ unmade = log.dueCalls) :
    log.notified ++ unmade.filterMap ListenerCall.delivery? = log.handed.map Prod.fst := by
  rw [notified, ← List.filterMap_append, calls, dueCalls]
  induction log.handed with
  | nil => rfl
  | cons pair handed ih =>
    rw [List.flatMap_cons, List.filterMap_append, ih, Delivery.filterMap_delivery?_calls]
    rfl

theorem InOrder.take (o : log.InOrder []) (idle : log.completed = log.handed.map Prod.fst)
    (delivery : Delivery μ) :
    InOrder (log ++ [.taken delivery log.listener])
      (log.listener.toList.flatMap delivery.calls) := by
  refine ⟨?_, ?_, ?_, takenInTurn_concat_iff.mpr ⟨o.inTurn, ?_⟩⟩
  · have calls := o.calls
    rw [List.append_nil] at calls
    cases log.listener <;> simp [dueCalls, calls]
  · simpa [notified] using o.completed
  · have lengths := congrArg List.length idle
    rw [List.length_map] at lengths
    cases log.listener <;> simp <;> omega
  · rintro _ _ ⟨⟩
    exact ⟨rfl, idle⟩

theorem InOrder.call {call : ListenerCall μ lam} (o : log.InOrder (call :: unmade)) :
    InOrder (log ++ [.called call]) unmade := by
  refine ⟨?_, ?_, ?_, takenInTurn_concat_iff.mpr ⟨o.inTurn, nofun⟩⟩
  · simpa [dueCalls] using o.calls
  · have more := o.completed.trans (List.prefix_append _ ([call].filterMap ListenerCall.delivery?))
    simpa [notified] using more
  · simpa using o.almost

theorem InOrder.complete {delivery : Delivery μ} (o : log.InOrder [])
    (inHand : log.completed ++ [delivery] = log.handed.map Prod.fst) :
    InOrder (log ++ [.completed delivery]) [] := by
  have notified := notified_eq o.calls
  refine ⟨?_, ?_, ?_, takenInTurn_concat_iff.mpr ⟨o.inTurn, nofun⟩⟩
  · simpa [dueCalls] using o.calls
  · rw [List.filterMap_nil, List.append_nil, ← inHand] at notified
    simp only [NodeLog.notified, completed_concat, calls_concat] at notified ⊢
    simp [← notified]
  · have lengths := congrArg List.length inHand
    simp at lengths ⊢
    omega

end NodeLog

namespace NodeHistory

variable [Message μ] {h h' : NodeHistory μ lam}

/-- What stays true of a node and of what was noted. While there is a worker, what has been taken
and what is still in the queue is all that ever entered it, and what listeners were handed is
completed but for the delivery in hand. -/
structure Recorded (h : NodeHistory μ lam) : Prop where
  brought : h.enqueued = h.log.brought
  started : h.node.phase.isStarted = h.log.isStarted
  listener : h.node.listener = h.log.listener
  blank : h.node.phase = .notStarted → h.enqueued = [] ∧ h.node.queue = [] ∧
    h.log.handed = [] ∧ h.log.completed = []
  working : h.node.phase.isStarted = true → h.node.worker.isSome = true ∧ h.enqueued ≠ []
  unstarted : h.node.phase.isStarted = false → h.node.isRunning = false → h.node.worker = none
  joins : h.enqueued = [] ∨ ∃ contents : List μ, h.enqueued = .join :: contents.map .message
  queued : h.node.worker.isSome = true → h.log.taken ++ h.node.queue = h.enqueued
  inHand : h.node.worker.isSome = true →
    h.log.completed ++ h.node.current?.toList = h.log.handed.map Prod.fst
  fifo : h.log.taken <+: h.enqueued
  busy : h.unmade ≠ [] → h.node.isRunning = true ∧ h.node.current? ≠ none
  inOrder : h.log.InOrder h.unmade

theorem recorded_begin (config : NodeConfig) :
    Recorded (begin config : NodeHistory μ lam) where
  brought := rfl
  started := rfl
  listener := rfl
  blank _ := ⟨rfl, rfl, rfl, rfl⟩
  working started := by cases started
  unstarted _ _ := rfl
  joins := .inl rfl
  queued _ := rfl
  inHand _ := rfl
  fifo := List.prefix_rfl
  busy more := absurd rfl more
  inOrder := {
    calls := rfl
    completed := List.prefix_rfl
    almost := Nat.zero_le _
    inTurn := fun front _ _ _ split => by cases front <;> cases split }

theorem messages_acknowledgements (delivery : Delivery μ) :
    ∃ contents : List μ, IsolatedNode.acknowledgements delivery = contents.map .message := by
  cases delivery with
  | join => exact ⟨[], rfl⟩
  | message content =>
    refine ⟨(Message.acknowledgement? content).toList, ?_⟩
    cases h : Message.acknowledgement? content <;> simp [IsolatedNode.acknowledgements, h]

theorem Recorded.unmade_of_idle (r : h.Recorded) (idle : h.node.current? = none) :
    h.unmade = [] := by
  cases made : h.unmade with
  | nil => rfl
  | cons call unmade => exact absurd idle (r.busy (by simp [made])).2

theorem Recorded.start (r : h.Recorded) (member : Member) (new : h.node.phase = .notStarted) :
    Recorded { h with
      node := { h.node with
        phase := .started member, queue := [.join], worker := some ⟨none, none⟩ }
      enqueued := h.enqueued ++ [Delivery.join].drop h.node.queue.length
      log := h.log ++ [.started] } := by
  obtain ⟨none, empty, unhanded, uncompleted⟩ := r.blank new
  have nothing : h.log.taken = [] := List.prefix_nil.mp (none ▸ r.fifo)
  have brought := r.brought
  rw [none] at brought
  exact {
    brought := by simp [none, empty, ← brought]
    started := by simp [Phase.isStarted]
    listener := by simp [r.listener]
    blank := by simp
    working := fun _ => ⟨rfl, by simp [none, empty]⟩
    unstarted := by simp [Phase.isStarted]
    joins := .inr ⟨[], by simp [none, empty]⟩
    queued := fun _ => by simp [none, empty, nothing]
    inHand := fun _ => by simp [unhanded, uncompleted, IsolatedNode.current?]
    fifo := by simp [nothing]
    busy := fun more => by
      have calls := r.inOrder.calls
      simp [NodeLog.dueCalls, unhanded] at calls
      exact absurd calls.2 more
    inOrder := r.inOrder.concat rfl rfl rfl }

theorem Recorded.take (r : h.Recorded) {delivery : Delivery μ} {queue : List (Delivery μ)}
    {allowance : Nat} (idle : h.node.worker = some ⟨some (allowance + 1), none⟩)
    (queued : h.node.queue = delivery :: queue) :
    Recorded { h with
      node := { h.node with
        queue, worker := some ⟨some allowance, h.node.listener.map (delivery, ·)⟩ }
      unmade := h.node.listener.toList.flatMap delivery.calls
      log := h.log ++ [.taken delivery h.node.listener] } := by
  have works : h.node.worker.isSome = true := by rw [idle]; rfl
  have taken := r.queued works
  rw [queued] at taken
  have settled : h.log.completed = h.log.handed.map Prod.fst := by
    simpa [IsolatedNode.current?, idle] using r.inHand works
  have made : h.unmade = [] := r.unmade_of_idle (by simp [IsolatedNode.current?, idle])
  exact {
    brought := by simp [r.brought]
    started := by simp [r.started]
    listener := by simp [r.listener]
    blank := fun new => by simp [(r.blank new).2.1] at queued
    working := fun started => ⟨rfl, (r.working started).2⟩
    unstarted := by simp [IsolatedNode.isRunning]
    joins := r.joins
    queued := fun _ => by simpa using taken
    inHand := fun _ => by
      cases h.node.listener <;> simp [settled, IsolatedNode.current?]
    fifo := by simp [← taken]
    busy := fun more => by
      cases listens : h.node.listener with
      | none => simp [listens] at more
      | some listener => exact ⟨rfl, by simp [IsolatedNode.current?]⟩
    inOrder := by
      rw [r.listener]
      exact (made ▸ r.inOrder).take settled delivery }

theorem Recorded.complete (r : h.Recorded) {delivery : Delivery μ} {listener : lam}
    {allowance : Nat} (busy : h.node.worker = some ⟨some allowance, some (delivery, listener)⟩)
    (made : h.unmade = []) :
    Recorded { h with
      node := { h.node with
        queue := h.node.queue ++
          if h.node.phase.isStarted then IsolatedNode.acknowledgements delivery else []
        worker := some ⟨some allowance, none⟩ }
      enqueued := h.enqueued ++
        if h.node.phase.isStarted then IsolatedNode.acknowledgements delivery else []
      log := h.log ++ [.completed delivery] } := by
  have works : h.node.worker.isSome = true := by rw [busy]; rfl
  have taken := r.queued works
  have inHand : h.log.completed ++ [delivery] = h.log.handed.map Prod.fst := by
    simpa [IsolatedNode.current?, busy] using r.inHand works
  exact {
    brought := by simp [r.brought, r.started]
    started := by simp [r.started]
    listener := by simp [r.listener]
    blank := fun new => by
      have none : h.log.handed = [] := (r.blank new).2.2.1
      simp [none] at inHand
    working := fun started => ⟨rfl, fun none => (r.working started).2 (by simp_all)⟩
    unstarted := by simp [IsolatedNode.isRunning]
    joins := by
      cases started : h.node.phase.isStarted with
      | false => simpa using r.joins
      | true =>
        obtain none | ⟨contents, joins⟩ := r.joins
        · exact absurd none (r.working started).2
        · obtain ⟨more, messages⟩ := messages_acknowledgements delivery
          exact .inr ⟨contents ++ more, by simp [joins, messages]⟩
    queued := fun _ => by simp [← taken]
    inHand := fun _ => by simpa [IsolatedNode.current?] using inHand
    fifo := by simpa using r.fifo.trans (List.prefix_append ..)
    busy := fun more => absurd made more
    inOrder := by
      rw [made]
      exact (made ▸ r.inOrder).complete inHand }

theorem Recorded.step (r : h.Recorded) (step : Step h h') : h'.Recorded := by
  cases step with
  | rested => exact r
  | started member new => exact r.start member new
  | accepted content started =>
    obtain ⟨works, joined⟩ := r.working started
    exact {
      brought := by simp [r.brought]
      started := by simp [r.started]
      listener := by simp [r.listener]
      blank := fun new => by
        change h.node.phase = .notStarted at new
        simp [new, Phase.isStarted] at started
      working := fun _ => ⟨works, by simp⟩
      unstarted := r.unstarted
      joins := by
        obtain none | ⟨contents, joins⟩ := r.joins
        · exact absurd none joined
        · exact .inr ⟨contents ++ [content], by simp [joins]⟩
      queued := fun _ => by simp [← r.queued works]
      inHand := fun _ => by simpa [IsolatedNode.current?] using r.inHand works
      fifo := by simpa using r.fifo.trans (List.prefix_append ..)
      busy := r.busy
      inOrder := r.inOrder.concat rfl rfl rfl }
  | registered listener =>
    exact { r with
      brought := by simp [r.brought]
      started := by simp [r.started]
      listener := by simp
      blank := by simpa using r.blank
      queued := by simpa using r.queued
      inHand := by simpa [IsolatedNode.current?] using r.inHand
      fifo := by simpa using r.fifo
      inOrder := r.inOrder.concat rfl rfl rfl }
  | stopped member busy =>
    exact { r with
      brought := by simp [r.brought]
      started := by simp [Phase.isStarted]
      listener := by simp [r.listener]
      blank := by simp
      working := by simp [Phase.isStarted]
      unstarted := fun _ waiting => by
        change h.node.isRunning = false at waiting
        cases started : h.node.phase.isStarted with
        | true => exact absurd (busy started) (by simp [waiting])
        | false => exact r.unstarted started waiting
      queued := by simpa using r.queued
      inHand := by simpa [IsolatedNode.current?] using r.inHand
      fifo := by simpa using r.fifo
      inOrder := r.inOrder.concat rfl rfl rfl }
  | halted member waiting =>
    exact { r with
      brought := by simp [r.brought]
      started := by simp [Phase.isStarted]
      listener := by simp [r.listener]
      blank := by simp
      working := by simp [Phase.isStarted]
      unstarted := fun _ _ => rfl
      queued := by simp
      inHand := by simp
      fifo := by simpa using r.fifo
      busy := fun more => by simp [(r.busy more).1] at waiting
      inOrder := r.inOrder.concat rfl rfl rfl }
  | worked worker same busy left =>
    have alive : worker.isSome = h.node.worker.isSome := by
      simpa using congrArg Option.isSome same
    have current : IsolatedNode.current? { h.node with worker } = h.node.current? := by
      have joined := congrArg (Option.bind · (Option.map Prod.fst)) same
      simp only [Option.bind_map] at joined
      exact joined
    exact { r with
      working := fun started => by simpa [alive] using r.working started
      unstarted := fun unstarted waiting => by
        cases running : h.node.isRunning with
        | true => exact absurd (busy running (.inr unstarted)) (by simp [waiting])
        | false => simpa [r.unstarted unstarted running] using alive
      queued := fun works => r.queued (alive ▸ works)
      inHand := fun works => by simpa [current] using r.inHand (alive ▸ works)
      busy := fun more => by
        obtain ⟨running, ne⟩ := r.busy more
        exact ⟨busy running (.inl more), current ▸ ne⟩ }
  | ended unstarted made =>
    exact { r with
      blank := fun new => ⟨(r.blank new).1, rfl, (r.blank new).2.2⟩
      working := fun started => by
        change h.node.phase.isStarted = true at started
        simp [unstarted] at started
      unstarted := fun _ _ => rfl
      queued := by simp [IsolatedNode.endWorker]
      inHand := by simp [IsolatedNode.endWorker]
      busy := fun more => absurd made more }
  | taken delivery queue allowance idle queued => exact r.take idle queued
  | called call unmade next =>
    exact { r with
      brought := by simp [r.brought]
      started := by simp [r.started]
      listener := by simp [r.listener]
      blank := by simpa using r.blank
      queued := by simpa using r.queued
      inHand := by simpa [IsolatedNode.current?] using r.inHand
      fifo := by simpa using r.fifo
      busy := fun _ => r.busy (by simp [next])
      inOrder := (next ▸ r.inOrder).call }
  | completed delivery listener allowance busy made => exact r.complete busy made

theorem recorded_run (config : NodeConfig) (events : List (NodeEvent μ lam)) :
    Recorded ((begin config).run events) :=
  run_induction (recorded_begin config) (fun _ _ step r => r.step step) events

end NodeHistory

/-! ### The order of deliveries -/

/-- Whether a listener is notified of a message. -/
def ListenerCall.isMessage : ListenerCall μ lam → Bool
  | notified _ (.message _) => true
  | _ => false

namespace NodeLog

/-- Listeners are notified of messages, after the first one has been introduced to the node and
notified of its joining, unless nobody listened then. -/
def IntroducedFirst (log : NodeLog μ lam) : Prop :=
  (∀ call ∈ log.calls, call.isMessage = true) ∨
    ∃ listener, log.calls = [.introduced listener] ∨
      ∃ later, log.calls = .introduced listener :: .notified listener .join :: later ∧
        ∀ call ∈ later, call.isMessage = true

theorem handed_sublist (log : NodeLog μ lam) : (log.handed.map Prod.fst).Sublist log.taken := by
  induction log with
  | nil => exact .slnil
  | cons occurrence log ih =>
    rcases occurrence with _ | _ | _ | _ | ⟨delivery, _ | listener⟩ | _ | _
    case taken.none => exact ih.cons delivery
    case taken.some => exact ih.cons_cons delivery
    all_goals exact ih

theorem isMessage_of_mem_calls {handed : List (Delivery μ × lam)} {contents : List μ}
    (messages : (handed.map Prod.fst).Sublist (contents.map .message)) :
    ∀ call ∈ handed.flatMap fun (delivery, listener) => delivery.calls listener,
      call.isMessage = true := by
  intro call made
  obtain ⟨⟨delivery, listener⟩, mem, called⟩ := List.mem_flatMap.mp made
  have message := messages.subset (List.mem_map_of_mem mem)
  obtain ⟨content, -, rfl⟩ := List.mem_map.mp message
  rw [List.mem_singleton.mp called]
  rfl

theorem InOrder.introducedFirst {log : NodeLog μ lam} {unmade : List (ListenerCall μ lam)}
    (o : log.InOrder unmade) (contents : List μ)
    (fifo : log.taken <+: .join :: contents.map .message) : log.IntroducedFirst := by
  have due : log.calls <+: log.dueCalls := o.calls ▸ List.prefix_append ..
  have handed := log.handed_sublist.trans fifo.sublist
  rcases List.sublist_cons_iff.mp handed with messages | ⟨rest, joins, messages⟩
  · exact .inl fun call made => isMessage_of_mem_calls messages call (due.subset made)
  · obtain ⟨⟨delivery, listener⟩, others, split, rfl, rfl⟩ := List.map_eq_cons_iff.mp joins
    have due : log.calls <+: .introduced listener :: .notified listener .join ::
        others.flatMap fun (delivery, listener) => delivery.calls listener := by
      rw [dueCalls, split] at due
      exact due
    rcases calls : log.calls with _ | ⟨first, _ | ⟨second, later⟩⟩
    · exact .inl (by simp [calls])
    · rw [calls] at due
      obtain ⟨rfl, -⟩ := List.cons_prefix_cons.mp due
      exact .inr ⟨listener, .inl calls⟩
    · rw [calls] at due
      obtain ⟨rfl, joining⟩ := List.cons_prefix_cons.mp due
      obtain ⟨rfl, dueLater⟩ := List.cons_prefix_cons.mp joining
      exact .inr ⟨listener, .inr ⟨later, calls, fun call made =>
        isMessage_of_mem_calls messages call (dueLater.subset made)⟩⟩

end NodeLog

/-- How deliveries go. What enters the queue is the node's joining, the messages accepted after it,
and what follows a delivery at the moment it is completed, if the node is still started. What is
taken from the queue are the first of these. Each delivery taken goes to the listener registered
last, if there is one, and only when those before have been completed; listeners are notified of one
delivery after another. -/
structure NodeHistory.Orderly [Message μ] (h : NodeHistory μ lam) : Prop where
  enqueued : h.enqueued = h.log.brought
  joinsOnce : h.enqueued = [] ∨ ∃ contents : List μ, h.enqueued = .join :: contents.map .message
  fifo : h.log.taken <+: h.enqueued
  inTurn : h.log.TakenInTurn
  calls : h.log.calls <+: h.log.dueCalls
  oneAtATime : h.log.completed <+: h.log.notified ∧
    h.log.notified.length ≤ h.log.completed.length + 1
  introduced : h.log.IntroducedFirst

/-- Deliveries go in order in every run: whenever anyone, a listener that is being called included,
starts the node, sends, listens or stops it, and whenever the worker is run, waits or takes a
step. -/
theorem NodeHistory.deliveries_orderly [Message μ] (config : NodeConfig)
    (events : List (NodeEvent μ lam)) : ((begin config).run events).Orderly := by
  have r := recorded_run config events
  have o := r.inOrder
  have notified := NodeLog.notified_eq o.calls
  refine ⟨r.brought, r.joins, r.fifo, o.inTurn, o.calls ▸ List.prefix_append .., ?_, ?_⟩
  · refine ⟨o.completed, ?_⟩
    have almost := o.almost
    have lengths := congrArg List.length notified
    rw [List.length_append, List.length_map] at lengths
    omega
  · obtain none | ⟨contents, joins⟩ := r.joins
    · refine o.introducedFirst [] ?_
      exact (none ▸ r.fifo).trans List.nil_prefix
    · exact o.introducedFirst contents (joins ▸ r.fifo)

/-- Two requests are handled. The node is stopped while the listener is still busy with the second
one. -/
def stoppedAmidSecond : List (NodeEvent ChangeMessage Unit) :=
  [.start true ⟨"node", "node"⟩, .listen (), .send (.request 0 (.destroy "a")),
    .send (.request 1 (.destroy "b")), .wake, .take, .call, .call, .finish, .take, .call, .finish,
    .take, .call, .stop, .finish]

theorem NodeHistory.deliveries_orderly_acknowledged :
    let h : NodeHistory ChangeMessage Unit := (begin ⟨none, none, ∅⟩).run stoppedAmidSecond
    h.enqueued = [.join, .message (.request 0 (.destroy "a")),
      .message (.request 1 (.destroy "b")), .message (.acknowledgement 0)] ∧
    h.log.taken = [.join, .message (.request 0 (.destroy "a")),
      .message (.request 1 (.destroy "b"))] ∧
    h.log.completed = h.log.taken ∧ h.log.completed <+: h.log.notified := by
  intro h
  have orderly := deliveries_orderly ⟨none, none, ∅⟩ stoppedAmidSecond
  have brought : h.log.brought = [.join, .message (.request 0 (.destroy "a")),
      .message (.request 1 (.destroy "b")), .message (.acknowledgement 0)] := by decide
  exact ⟨orderly.enqueued.trans brought, by decide, by decide, orderly.oneAtATime.1⟩

end GridSchema
