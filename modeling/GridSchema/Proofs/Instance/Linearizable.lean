import GridSchema.Proofs.Instance.Traffic

/-! Changes take effect one after the other, in the order in which their requests were sent, however
calls and deliveries come between each other. Each caller is released once, with the outcome that
the change had in that order. -/

namespace GridSchema

/-- An outcome that a change had at its place among those that were made. -/
def Decided (delivered : List (Nat × CacheChange)) (id : Nat) (outcome : Except Error Unit) :
    Prop :=
  ∃ front change back, delivered = front ++ (id, change) :: back ∧
    outcome = ((Registry.replay (front.map Prod.snd)).apply change).1

theorem Decided.append {delivered : List (Nat × CacheChange)} {id : Nat}
    {outcome : Except Error Unit} (decided : Decided delivered id outcome)
    (more : List (Nat × CacheChange)) :
    Decided (delivered ++ more) id outcome := by
  obtain ⟨front, change, back, rfl, h⟩ := decided
  exact ⟨front, change, back ++ more, by simp, h⟩

theorem Decided.mem {delivered : List (Nat × CacheChange)} {id : Nat}
    {outcome : Except Error Unit} (decided : Decided delivered id outcome) :
    ∃ change, (id, change) ∈ delivered := by
  obtain ⟨front, change, back, rfl, -⟩ := decided
  exact ⟨change, by simp⟩

namespace Traffic

variable {t : Traffic} {id : Nat} {change : CacheChange}

/-- What callers wait for, by the number of the request. -/
def pending (t : Traffic) (id : Nat) : Option (Option (Except Error Unit)) :=
  t.grid.registrar.pending.lookup id

theorem calls_note (t : Traffic) (id other : Nat) (call : Call) :
    (t.note id call).calls other = if other = id then some call else t.calls other :=
  Function.update_apply ..

theorem calls_call (t : Traffic) (change : CacheChange) (id : Nat) :
    (t.call change).calls id =
      if id = t.grid.nextRequest then some ⟨change, .entered⟩ else t.calls id :=
  Function.update_apply ..

theorem pending_call (t : Traffic) (change : CacheChange) (id : Nat) :
    (t.call change).pending id =
      (t.pending id).or (if id = t.grid.nextRequest then some none else none) := by
  have last : [(t.grid.nextRequest, (none : Option (Except Error Unit)))].lookup id =
      if id = t.grid.nextRequest then some none else none := by
    by_cases same : id = t.grid.nextRequest
    · simp [same]
    · simp [List.lookup_cons, beq_eq_false_iff_ne.mpr same, same]
  rw [← last]
  exact List.lookup_append

theorem ahead_enqueue (t : Traffic) (id : Nat) (change : CacheChange) :
    (t.withNode { t.grid.node with
        queue := t.grid.node.queue ++ [.message (.request id change)] }).ahead =
      t.ahead ++ [(id, change)] := by
  simp only [Traffic.ahead, withNode, List.flatMap_append, List.append_assoc]
  rfl

theorem due_enqueue (t : Traffic) (id : Nat) (change : CacheChange) :
    (t.withNode { t.grid.node with
        queue := t.grid.node.queue ++ [.message (.request id change)] }).due =
      t.due := by
  simp only [Traffic.due, withNode, List.flatMap_append]
  exact congrArg _ (List.append_nil _)

theorem ne_of_pending {other : Nat} {noted noted' : Option (Option (Except Error Unit))}
    (first : t.pending id = noted) (second : t.pending other = noted') (ne : noted ≠ noted') :
    other ≠ id := by
  rintro rfl
  exact ne (first.symm.trans second)

/-- What stays true of calls and deliveries. A change is waited for without an outcome until its
request has been handled, and with the outcome it had from then on until the acknowledgement has
been handled, which releases its caller. -/
structure Consistent (t : Traffic) : Prop where
  started : t.grid.node.phase.isStarted = true
  listening : t.grid.node.listener = some ()
  order : t.sent = t.delivered ++ t.ahead
  distinct : (t.sent.map Prod.fst).Nodup
  registry : t.grid.registrar.registry = .replay (t.delivered.map Prod.snd)
  fresh : ∀ id, t.grid.nextRequest ≤ id → t.calls id = none ∧ t.pending id = none
  asked : ∀ id change, (id, change) ∈ t.sent ↔
    ∃ stage, t.calls id = some ⟨change, stage⟩ ∧ stage ≠ .entered
  entered : ∀ id change, t.calls id = some ⟨change, .entered⟩ → t.pending id = some none
  ahead : ∀ id change, (id, change) ∈ t.ahead → t.pending id = some none
  due : ∀ id ∈ t.due, ∃ outcome, t.pending id = some (some outcome) ∧
    Decided t.delivered id outcome
  accounts : (t.due ++ t.released.map Prod.fst).Perm (t.delivered.map Prod.fst)
  decided : ∀ id outcome, (id, outcome) ∈ t.released → Decided t.delivered id outcome
  freed : ∀ entry ∈ t.grid.registrar.released, entry ∈ t.released
  waiting : ∀ id change, t.calls id = some ⟨change, .waiting⟩ → id ∈ t.released.map Prod.fst →
    id ∈ t.grid.registrar.released.map Prod.fst
  returned : ∀ id change outcome, t.calls id = some ⟨change, .returned outcome⟩ →
    (id, outcome) ∈ t.released

namespace Consistent

theorem mem_sent (h : t.Consistent) (hid : id ∈ t.released.map Prod.fst) :
    id ∈ t.sent.map Prod.fst := by
  obtain ⟨⟨_, outcome⟩, released, rfl⟩ := List.mem_map.mp hid
  obtain ⟨change, delivered⟩ := (h.decided _ outcome released).mem
  rw [h.order]
  exact List.mem_map.mpr ⟨_, List.mem_append_left _ delivered, rfl⟩

/-- No request has two acknowledgements, or one after its caller was released. -/
theorem counted (h : t.Consistent) : (t.due ++ t.released.map Prod.fst).Nodup := by
  have distinct := h.distinct
  rw [h.order, List.map_append] at distinct
  exact h.accounts.nodup_iff.mpr (List.nodup_append.mp distinct).1

theorem fresh_note (h : t.Consistent) {before : Call} (called : t.calls id = some before)
    (after : Call) (other : Nat) (le : t.grid.nextRequest ≤ other) :
    (t.note id after).calls other = none ∧ t.pending other = none := by
  obtain ⟨noCall, nobody⟩ := h.fresh other le
  have ne : other ≠ id := by
    rintro rfl
    rw [called] at noCall
    cases noCall
  exact ⟨by rw [calls_note, if_neg ne]; exact noCall, nobody⟩

theorem entered_note (h : t.Consistent) {after : Call} (asked : after.stage ≠ .entered)
    (other : Nat) (change : CacheChange)
    (called : (t.note id after).calls other = some ⟨change, .entered⟩) :
    t.pending other = some none := by
  rw [calls_note] at called
  split_ifs at called
  · cases called
    exact absurd rfl asked
  · exact h.entered other change called

theorem of_node (h : t.Consistent) (node : IsolatedNode ChangeMessage Unit) (handled : Bool)
    (started : node.phase.isStarted = true) (listening : node.listener = some ())
    (ahead : { t.withNode node with handled }.ahead = t.ahead)
    (due : { t.withNode node with handled }.due.Perm t.due) :
    { t.withNode node with handled }.Consistent where
  started := started
  listening := listening
  order := by rw [ahead]; exact h.order
  distinct := h.distinct
  registry := h.registry
  fresh := h.fresh
  asked := h.asked
  entered := h.entered
  ahead := by rw [ahead]; exact h.ahead
  due id hid := h.due id (due.mem_iff.mp hid)
  accounts := (due.append_right _).trans h.accounts
  decided := h.decided
  freed := h.freed
  waiting := h.waiting
  returned := h.returned

theorem wake (h : t.Consistent) : (t.withNode t.grid.node.wake).Consistent := by
  have same := IsolatedNode.current?_wake t.grid.node
  refine h.of_node t.grid.node.wake t.handled h.started h.listening ?_ ?_
  · simp only [Traffic.ahead, withNode, same]
    rfl
  · simp only [Traffic.due, withNode, same]
    exact .refl _

theorem pause (h : t.Consistent) : (t.withNode t.grid.node.pause).Consistent := by
  have same := IsolatedNode.current?_pause h.started
  have unchanged : t.grid.node.pause.phase = t.grid.node.phase ∧
      t.grid.node.pause.listener = t.grid.node.listener ∧
      t.grid.node.pause.queue = t.grid.node.queue := by
    simp only [IsolatedNode.pause, h.started, ↓reduceIte, and_self]
  obtain ⟨phase, listener, queue⟩ := unchanged
  refine h.of_node t.grid.node.pause t.handled (by rw [phase, h.started])
    (by rw [listener, h.listening]) ?_ ?_
  · simp only [Traffic.ahead, withNode, same, queue]
  · simp only [Traffic.due, withNode, same, queue]
    exact .refl _

theorem take (h : t.Consistent) : t.take.Consistent := by
  unfold Traffic.take
  cases taken : t.grid.node.take with
  | none => exact h
  | some result =>
    obtain ⟨delivery, listener, node⟩ := result
    obtain ⟨idle, queue, phase, -, listens, current⟩ := IsolatedNode.take_eq_some taken
    rw [h.listening] at listens current
    refine h.of_node node false (by rw [phase, h.started]) listens ?_ ?_
    · simp [Traffic.ahead, withNode, idle, queue, current]
    · simp [Traffic.due, withNode, idle, queue, current]

theorem finish (h : t.Consistent) : t.finish.Consistent := by
  unfold Traffic.finish
  split_ifs with handled
  · obtain ⟨phase, listens, queue⟩ := IsolatedNode.finish_of_isStarted h.started
    have idle := IsolatedNode.current?_finish t.grid.node
    refine h.of_node t.grid.node.finish false (by rw [phase, h.started])
      (by rw [listens, h.listening]) ?_ ?_
    · simp only [Traffic.ahead, withNode, handled, idle, queue, List.flatMap_append,
        requests_acknowledgements, List.append_nil, Option.toList_none, List.flatMap_nil,
        ↓reduceIte, Bool.false_eq_true]
    · simp only [Traffic.due, withNode, handled, idle, queue, List.flatMap_append,
        acknowledged_acknowledgements, Option.toList_none, List.flatMap_nil, List.nil_append,
        ↓reduceIte, Bool.false_eq_true]
      exact List.perm_append_comm
  · exact h

theorem call (h : t.Consistent) (change : CacheChange) : (t.call change).Consistent where
  started := h.started
  listening := h.listening
  order := h.order
  distinct := h.distinct
  registry := h.registry
  fresh id le := by
    have le : t.grid.nextRequest + 1 ≤ id := le
    obtain ⟨noCall, nobody⟩ := h.fresh id (by omega)
    have ne : id ≠ t.grid.nextRequest := by omega
    rw [calls_call, pending_call, nobody, noCall]
    simp [ne]
  asked id other := by
    rw [calls_call]
    by_cases same : id = t.grid.nextRequest
    · rw [if_pos same]
      constructor
      · intro sent
        obtain ⟨stage, called, -⟩ := (h.asked id other).mp sent
        rw [(h.fresh id (Nat.le_of_eq same.symm)).1] at called
        cases called
      · rintro ⟨stage, called, asked⟩
        cases called
        exact absurd rfl asked
    · rw [if_neg same]
      exact h.asked id other
  entered id other called := by
    rw [calls_call] at called
    rw [pending_call]
    split_ifs at called with same
    · rw [(h.fresh id (Nat.le_of_eq same.symm)).2, if_pos same]
      rfl
    · rw [h.entered id other called]
      rfl
  ahead id other hid := by
    rw [pending_call, h.ahead id other hid]
    rfl
  due id hid := by
    obtain ⟨outcome, noted, decided⟩ := h.due id hid
    exact ⟨outcome, by rw [pending_call, noted]; rfl, decided⟩
  accounts := h.accounts
  decided := h.decided
  freed := h.freed
  waiting id other called := by
    rw [calls_call] at called
    split_ifs at called
    · cases called
    · exact h.waiting id other called
  returned id other outcome called := by
    rw [calls_call] at called
    split_ifs at called
    · cases called
    · exact h.returned id other outcome called

theorem send (h : t.Consistent) (id : Nat) : (t.send id).Consistent := by
  unfold Traffic.send
  split
  next change called =>
    rw [Grid.request_of_isStarted h.started]
    have ahead := ahead_enqueue t id change
    have due := due_enqueue t id change
    have unsent : id ∉ t.sent.map Prod.fst := by
      intro hid
      obtain ⟨⟨_, other⟩, sent, rfl⟩ := List.mem_map.mp hid
      obtain ⟨stage, again, asked⟩ := (h.asked _ other).mp sent
      rw [called] at again
      cases again
      exact asked rfl
    exact { h with
      order := by
        change t.sent ++ [(id, change)] = t.delivered ++ Traffic.ahead (t.withNode _)
        rw [ahead, h.order, List.append_assoc]
      distinct := by
        change ((t.sent ++ [(id, change)]).map Prod.fst).Nodup
        rw [List.map_append, List.map_singleton]
        exact (List.perm_append_singleton id _).nodup_iff.mpr
          (List.nodup_cons.mpr ⟨unsent, h.distinct⟩)
      fresh := h.fresh_note called _
      asked := fun other change' => by
        change (other, change') ∈ t.sent ++ [(id, change)] ↔ _
        rw [calls_note, List.mem_append, List.mem_singleton, h.asked]
        by_cases same : other = id
        · subst same
          rw [if_pos rfl, called]
          constructor
          · rintro (⟨stage, called, asked⟩ | same)
            · cases called
              exact absurd rfl asked
            · cases same
              exact ⟨.waiting, rfl, fun entered => nomatch entered⟩
          · rintro ⟨stage, called, -⟩
            cases called
            exact .inr rfl
        · simp [same]
      entered := h.entered_note fun entered => nomatch entered
      ahead := fun other change' hid => by
        change (other, change') ∈ Traffic.ahead (t.withNode _) at hid
        rw [ahead, List.mem_append, List.mem_singleton] at hid
        rcases hid with hid | hid
        · exact h.ahead other change' hid
        · cases hid
          exact h.entered id change called
      due := fun other hid => by
        change other ∈ Traffic.due (t.withNode _) at hid
        rw [due] at hid
        exact h.due other hid
      accounts := by
        change (Traffic.due (t.withNode _) ++ _).Perm _
        rw [due]
        exact h.accounts
      waiting := fun other change' called' hid => by
        rw [calls_note] at called'
        split_ifs at called' with same
        · -- whoever was released had sent the request
          subst same
          exact absurd (h.mem_sent hid) unsent
        · exact h.waiting other change' called' hid
      returned := fun other change' outcome called' => by
        rw [calls_note] at called'
        split_ifs at called'
        · cases called'
        · exact h.returned other change' outcome called' }
  next => exact h

/-- A caller who waits and has not been released is known to the registrar. -/
theorem pending_of_waiting (h : t.Consistent) (called : t.calls id = some ⟨change, .waiting⟩)
    (none : t.grid.registrar.released.lookup id = none) : (t.pending id).isSome = true := by
  have sent := (h.asked id change).mpr ⟨.waiting, called, fun entered => nomatch entered⟩
  rw [h.order, List.mem_append] at sent
  rcases sent with delivered | ahead
  · have counted := h.accounts.mem_iff.mpr (List.mem_map.mpr ⟨_, delivered, rfl⟩)
    rcases List.mem_append.mp counted with due | released
    · obtain ⟨outcome, noted, -⟩ := h.due id due
      rw [noted]
      rfl
    · obtain ⟨⟨_, outcome⟩, free, rfl⟩ :=
        List.mem_map.mp (h.waiting id change called released)
      have := List.lookup_eq_none_iff.mp none _ free
      simp at this
  · rw [h.ahead id change ahead]
    rfl

/-- A caller who waits returns with the outcome it was released with, or goes on waiting. -/
theorem collect (h : t.Consistent) (id : Nat) : (t.collect id).Consistent := by
  unfold Traffic.collect
  split
  next change called =>
    cases free : t.grid.registrar.released.lookup id with
    | none =>
      have waits := h.pending_of_waiting called free
      unfold Traffic.pending at waits
      simp only [Grid.collect, free, waits, ↓reduceIte]
      exact h
    | some outcome =>
      simp only [Grid.collect, free]
      have released : (id, outcome) ∈ t.grid.registrar.released := by
        obtain ⟨front, back, split, -⟩ := List.lookup_eq_some_iff.mp free
        simp [split]
      exact { h with
        fresh := h.fresh_note called _
        asked := fun other change' => by
          rw [calls_note]
          refine (h.asked other change').trans ?_
          by_cases same : other = id
          · subst same
            rw [if_pos rfl, called]
            constructor
            · rintro ⟨stage, called, -⟩
              cases called
              exact ⟨_, rfl, fun entered => nomatch entered⟩
            · rintro ⟨stage, called, -⟩
              cases called
              exact ⟨_, rfl, fun entered => nomatch entered⟩
          · rw [if_neg same]
        entered := h.entered_note fun entered => nomatch entered
        freed := fun entry hentry => h.freed entry (List.mem_filter.mp hentry).1
        waiting := fun other change' called' hid => by
          rw [calls_note] at called'
          split_ifs at called' with same
          · cases called'
          · obtain ⟨entry, free, rfl⟩ := List.mem_map.mp (h.waiting other change' called' hid)
            exact List.mem_map.mpr ⟨entry, List.mem_filter.mpr ⟨free, by simpa using same⟩, rfl⟩
        returned := fun other change' outcome' called' => by
          rw [calls_note] at called'
          split_ifs at called' with same
          · cases called'
            subst same
            exact h.freed _ released
          · exact h.returned other change' outcome' called' }
  next => exact h

/-- Handling a request makes its change, which is decided from then on; the acknowledgement is due.
-/
theorem handle_request (h : t.Consistent)
    (current : t.grid.node.current? = some (.message (.request id change)))
    (unhandled : t.handled = false) : t.handle.Consistent := by
  have ahead : t.ahead = (id, change) :: t.grid.node.queue.flatMap Delivery.requests := by
    simp [Traffic.ahead, current, unhandled, Delivery.requests]
  have due : t.due = t.grid.node.queue.flatMap Delivery.acknowledged := by
    simp [Traffic.due, current, unhandled, Delivery.acknowledged]
  have waits : t.pending id = some none :=
    h.ahead id change (by rw [ahead]; exact List.mem_cons_self)
  have order : t.sent = t.delivered ++ [(id, change)] ++
      t.grid.node.queue.flatMap Delivery.requests := by
    rw [h.order, ahead, List.append_assoc, List.singleton_append]
  cases made : t.grid.registrar.registry.apply change with | mk outcome registry
  have next : t.handle = { t with
      grid := { t.grid with registrar := { t.grid.registrar with registry }.note id outcome }
      handled := true
      delivered := t.delivered ++ [(id, change)] } := by
    unfold Traffic.handle
    simp only [current, unhandled, Registrar.handle, made]
    simp [Registrar.note, Delivery.requests]
  have lookup (other : Nat) : t.handle.pending other =
      if other = id then some (some outcome) else t.pending other := by
    rw [next]
    refine (Registrar.lookup_note id other outcome _).trans ?_
    change (if other = id then (t.pending id).map _ else _) = _
    rw [waits]
    rfl
  have aheadNext : t.handle.ahead = t.grid.node.queue.flatMap Delivery.requests := by
    rw [next]
    simp [Traffic.ahead]
  have dueNext : t.handle.due = id :: t.due := by
    rw [next, due]
    simp [Traffic.due, current, Delivery.requests]
  have decided : Decided (t.delivered ++ [(id, change)]) id outcome :=
    ⟨t.delivered, change, [], rfl, by rw [← h.registry, made]⟩
  rw [next] at lookup aheadNext dueNext ⊢
  exact { h with
    order := by rw [aheadNext, order]
    registry := by
      rw [List.map_append, List.map_singleton, Registry.replay_concat, ← h.registry, made]
      rfl
    fresh := fun other le => by
      obtain ⟨noCall, nobody⟩ := h.fresh other le
      have ne := ne_of_pending waits nobody (by simp)
      exact ⟨noCall, by rw [lookup, if_neg ne, nobody]⟩
    entered := fun other change' called => by
      obtain ⟨stage, again, asked⟩ := (h.asked id change).mp (by rw [order]; simp)
      have ne : other ≠ id := by
        rintro rfl
        rw [again] at called
        cases called
        exact asked rfl
      rw [lookup, if_neg ne, h.entered other change' called]
    ahead := fun other change' hid => by
      rw [aheadNext] at hid
      have ne : other ≠ id := by
        rintro rfl
        have distinct := h.distinct
        rw [h.order, ahead, List.map_append, List.map_cons] at distinct
        have once := (List.nodup_cons.mp (List.nodup_append.mp distinct).2.1).1
        exact once (List.mem_map.mpr ⟨_, hid, rfl⟩)
      rw [lookup, if_neg ne]
      exact h.ahead other change' (by rw [ahead]; exact List.mem_cons_of_mem _ hid)
    due := fun other hid => by
      rw [dueNext] at hid
      rcases List.mem_cons.mp hid with rfl | hid
      · exact ⟨outcome, by rw [lookup, if_pos rfl], decided⟩
      · obtain ⟨outcome', noted, before⟩ := h.due other hid
        have ne := ne_of_pending waits noted (by simp)
        exact ⟨outcome', by rw [lookup, if_neg ne, noted], before.append _⟩
    accounts := by
      rw [dueNext, List.map_append, List.map_singleton]
      exact (h.accounts.cons id).trans (List.perm_append_singleton id _).symm
    decided := fun other outcome' released => (h.decided other outcome' released).append _ }

/-- Handling an acknowledgement releases the caller with the outcome of the change. -/
theorem handle_acknowledgement (h : t.Consistent)
    (current : t.grid.node.current? = some (.message (.acknowledgement id)))
    (unhandled : t.handled = false) : t.handle.Consistent := by
  have ahead : t.ahead = t.grid.node.queue.flatMap Delivery.requests := by
    simp [Traffic.ahead, current, unhandled, Delivery.requests]
  have due : t.due = id :: t.grid.node.queue.flatMap Delivery.acknowledged := by
    simp [Traffic.due, current, unhandled, Delivery.acknowledged]
  obtain ⟨outcome, noted, decided⟩ := h.due id (by rw [due]; exact List.mem_cons_self)
  have next : t.handle = { t with
      grid := { t.grid with registrar :=
        { t.grid.registrar.forget id with
          released := t.grid.registrar.released ++ [(id, outcome)] } }
      handled := true
      released := t.released ++ [(id, outcome)] } := by
    unfold Traffic.handle
    simp only [current, unhandled, Registrar.handle, Registrar.release_of_lookup noted]
    simp [Delivery.requests]
  have lookup (other : Nat) : t.handle.pending other =
      if other = id then none else t.pending other := by
    rw [next]
    exact Registrar.lookup_forget id other _
  have aheadNext : t.handle.ahead = t.ahead := by
    rw [next, ahead]
    simp [Traffic.ahead]
  have dueNext : t.due = id :: t.handle.due := by
    rw [next, due]
    simp [Traffic.due, current, Delivery.requests]
  have once : id ∉ t.handle.due := by
    have counted := h.counted
    rw [dueNext] at counted
    exact (List.nodup_cons.mp (List.nodup_append.mp counted).1).1
  rw [next] at lookup aheadNext dueNext once ⊢
  exact { h with
    order := by rw [aheadNext, h.order]
    fresh := fun other le => by
      obtain ⟨noCall, nobody⟩ := h.fresh other le
      rw [lookup, nobody, ite_self]
      exact ⟨noCall, rfl⟩
    entered := fun other change called => by
      have waits := h.entered other change called
      have ne := ne_of_pending noted waits (by simp)
      rw [lookup, if_neg ne, waits]
    ahead := fun other change hid => by
      have waits := h.ahead other change (by rw [← aheadNext]; exact hid)
      have ne := ne_of_pending noted waits (by simp)
      rw [lookup, if_neg ne, waits]
    due := fun other hid => by
      have ne : other ≠ id := by
        rintro rfl
        exact once hid
      rw [lookup, if_neg ne]
      exact h.due other (by rw [dueNext]; exact List.mem_cons_of_mem _ hid)
    accounts := by
      have accounts := h.accounts
      rw [dueNext] at accounts
      rw [List.map_append, List.map_singleton, ← List.append_assoc]
      exact (List.perm_append_singleton id _).trans accounts
    decided := fun other outcome' released => by
      rcases List.mem_append.mp released with before | last
      · exact h.decided other outcome' before
      · cases List.mem_singleton.mp last
        exact decided
    freed := fun entry hentry => by
      rcases List.mem_append.mp hentry with before | last
      · exact List.mem_append_left _ (h.freed entry before)
      · exact List.mem_append_right _ last
    waiting := fun other change called hid => by
      rw [List.map_append, List.mem_append] at hid ⊢
      exact hid.imp_left (h.waiting other change called)
    returned := fun other change outcome' called =>
      List.mem_append_left _ (h.returned other change outcome' called) }

theorem handle_join (h : t.Consistent) (current : t.grid.node.current? = some .join)
    (unhandled : t.handled = false) : t.handle.Consistent := by
  have next : t.handle = { t with
      grid := { t.grid with registrar := { t.grid.registrar with joined := true } }
      handled := true } := by
    unfold Traffic.handle
    simp only [current, unhandled, Registrar.handle]
    simp [Delivery.requests]
  have handled : { t.withNode t.grid.node with handled := true }.Consistent := by
    refine h.of_node t.grid.node true h.started h.listening ?_ ?_
    · simp [Traffic.ahead, withNode, current, unhandled, Delivery.requests]
    · simp [Traffic.due, withNode, current, unhandled, Delivery.requests, Delivery.acknowledged]
  rw [next]
  exact { handled with }

theorem handle (h : t.Consistent) : t.handle.Consistent := by
  cases current : t.grid.node.current? with
  | none =>
    have : t.handle = t := by simp only [Traffic.handle, current]
    rwa [this]
  | some delivery =>
    cases unhandled : t.handled with
    | true =>
      have : t.handle = t := by simp only [Traffic.handle, current, unhandled]
      rwa [this]
    | false =>
      rcases delivery with _ | ⟨id, change⟩ | id
      · exact h.handle_join current unhandled
      · exact h.handle_request current unhandled
      · exact h.handle_acknowledgement current unhandled

theorem step (h : t.Consistent) (event : TrafficEvent) : (t.step event).Consistent := by
  cases event with
  | call change => exact h.call change
  | send id => exact h.send id
  | collect id => exact h.collect id
  | wake => exact h.wake
  | take => exact h.take
  | handle => exact h.handle
  | finish => exact h.finish
  | pause => exact h.pause

theorem run (h : t.Consistent) (events : List TrafficEvent) : (t.run events).Consistent := by
  induction events generalizing t with
  | nil => exact h
  | cons event rest ih => exact ih (h.step event)

end Consistent

/-- Nobody has called a grid that has just joined, and nothing is on its way. -/
theorem consistent_begin {bound : Except Error Endpoint} {fresh : FreshIds} {i : Instance}
    (started : (Instance.start bound fresh).1 = .ok i) : (begin i.grid).Consistent := by
  cases bound with
  | error e => cases started
  | ok endpoint => ?_
  cases started
  exact {
    started := rfl
    listening := rfl
    order := rfl
    distinct := .nil
    registry := rfl
    fresh := fun _ _ => ⟨rfl, rfl⟩
    asked := fun id change => by
      constructor
      · intro sent
        cases sent
      · rintro ⟨stage, called, -⟩
        cases called
    entered := fun id change called => by cases called
    ahead := fun id change hid => by cases hid
    due := fun id hid => by cases hid
    accounts := .refl _
    decided := fun id outcome released => by cases released
    freed := fun entry hentry => by cases hentry
    waiting := fun id change called => by cases called
    returned := fun id change outcome called => by cases called }

/-- What callers and those who look at the registry can tell: the requests handled so far are the
first of those sent, their changes made in this order give the registry, and each release is the
only one for its call, after its change was made and with the outcome that it had at its place. What
is known there decides the outcome, and a change that failed changed nothing. -/
structure Linearizable (t : Traffic) : Prop where
  asked : ∀ id change, (id, change) ∈ t.sent → ∃ stage, t.calls id = some ⟨change, stage⟩
  distinct : (t.sent.map Prod.fst).Nodup
  order : t.delivered <+: t.sent
  registry : t.grid.registrar.registry = .replay (t.delivered.map Prod.snd)
  known : t.grid.registrar.registry.find? = KnownCaches.makeAll (t.delivered.map Prod.snd)
  named : t.grid.registrar.registry.Named
  once : (t.released.map Prod.fst).Nodup
  outcomes : ∀ id outcome, (id, outcome) ∈ t.released →
    ∃ call front back, t.calls id = some call ∧
      t.delivered = front ++ (id, call.change) :: back ∧
      let before := Registry.replay (front.map Prod.snd)
      outcome = (before.apply call.change).1 ∧
        outcome = (KnownCaches.makeAll (front.map Prod.snd)).outcome call.change ∧
        (outcome = .ok () ∨
          (outcome = .error (.cacheExists call.change.name) ∨
            outcome = .error (.cacheNotFound call.change.name)) ∧
          (before.apply call.change).2 = before)
  returned : ∀ id change outcome, t.calls id = some ⟨change, .returned outcome⟩ →
    (id, outcome) ∈ t.released
  punctual : ∀ id early outcome, (id, outcome) ∈ t.released →
    outcome ≠ .error (.protocolMisuse (.acknowledgedEarly early))

theorem Consistent.outcomes (h : t.Consistent) {outcome : Except Error Unit}
    (released : (id, outcome) ∈ t.released) :
    ∃ call front back, t.calls id = some call ∧
      t.delivered = front ++ (id, call.change) :: back ∧
      outcome = ((Registry.replay (front.map Prod.snd)).apply call.change).1 := by
  obtain ⟨front, change, back, delivered, made⟩ := h.decided id outcome released
  have sent : (id, change) ∈ t.sent := by
    rw [h.order, delivered]
    simp
  obtain ⟨stage, called, -⟩ := (h.asked id change).mp sent
  exact ⟨_, front, back, called, delivered, made⟩

/-- From the moment an instance has joined, and as long as it is not stopped, its changes are
linearizable, whoever calls and whatever comes between a call, its request, the delivery and the
release. -/
theorem changes_linearizable {bound : Except Error Endpoint} {fresh : FreshIds} {i : Instance}
    (started : (Instance.start bound fresh).1 = .ok i) (events : List TrafficEvent) :
    ((begin i.grid).run events).Linearizable := by
  have h := (consistent_begin started).run events
  generalize (begin i.grid).run events = t at h
  refine ⟨?_, h.distinct, ?_, h.registry, ?_, ?_, (List.nodup_append.mp h.counted).2.1, ?_,
    h.returned, ?_⟩
  · intro id change sent
    obtain ⟨stage, called, -⟩ := (h.asked id change).mp sent
    exact ⟨stage, called⟩
  · rw [h.order]
    exact List.prefix_append _ _
  · rw [h.registry]
    exact Registry.find?_replay _
  · rw [h.registry]
    exact Registry.named_replay _
  · intro id outcome released
    obtain ⟨call, front, back, called, delivered, made⟩ := h.outcomes released
    refine ⟨call, front, back, called, delivered, made, ?_, ?_⟩
    · rw [made, Registry.fst_apply, Registry.find?_replay]
    · rw [made]
      exact Registry.apply_cases _ _
  · intro id early outcome released
    obtain ⟨call, front, _, _, _, made⟩ := h.outcomes released
    rw [made]
    rcases Registry.apply_cases (.replay (front.map Prod.snd)) call.change with ok | ⟨error, -⟩
    · rw [ok]
      intro wrong
      cases wrong
    · rcases error with error | error <;> rw [error] <;> intro wrong <;> cases wrong

/-- Two callers create one cache. The second overtakes the first, who sends the request while that
of the second is being handled. Then two callers destroy it. -/
def overtaking : List TrafficEvent :=
  let served : List TrafficEvent := [.take, .handle, .finish]
  [.call (.create (.bare "a")), .call (.create (.bare "a")), .send 1, .wake, .take, .handle,
    .send 0, .finish] ++ served ++ served ++ [.collect 1] ++ served ++ [.pause, .collect 0] ++
  [.call (.destroy "a"), .call (.destroy "a"), .send 2, .send 3, .wake] ++ served ++ served ++
    served ++ served ++ [.pause, .collect 3, .collect 2]

theorem changes_linearizable_overtaking :
    ∃ i, (Instance.start (.ok ⟨.loopback, 0⟩) ⟨"node", "name"⟩).1 = .ok i ∧
      ((begin i.grid).run overtaking).released = [(1, .ok ()), (0, .error (.cacheExists "a")),
        (2, .ok ()), (3, .error (.cacheNotFound "a"))] ∧
      ((begin i.grid).run overtaking).Linearizable := by
  have started : (Instance.start (.ok ⟨.loopback, 0⟩) ⟨"node", "name"⟩).1 = .ok _ := rfl
  refine ⟨_, started, ?_, changes_linearizable started overtaking⟩
  rfl

end Traffic

end GridSchema
