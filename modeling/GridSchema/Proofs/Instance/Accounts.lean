import GridSchema.Proofs.Instance.Stopping

/-! Every step that callers, the worker and those who stop a grid may take keeps account of all
callers. -/

namespace GridSchema.Stopping

open Traffic (ahead_enqueue calls_call due_enqueue pending_call)

variable {s after : Stopping} {id other : Nat} {change : CacheChange} {outcome : Except Error Unit}

namespace Accounted

/-! ### Callers -/

theorem unasked (h : s.Accounted) (called : s.traffic.calls id = some ⟨change, .entered⟩) :
    id ∉ s.traffic.asked.map Prod.fst := by
  intro among
  obtain ⟨⟨_, other⟩, before, rfl⟩ := List.mem_map.mp among
  obtain ⟨stage, again, asked⟩ := h.asked _ other before
  rw [called] at again
  cases again
  exact asked rfl

theorem enter (h : s.Accounted) (change : CacheChange) :
    Accounted { s with traffic := s.traffic.call change } := by
  have unused : s.traffic.calls s.traffic.grid.nextRequest = none := h.fresh _ (Nat.le_refl _)
  have known {id : Nat} {call : Call} (called : s.traffic.calls id = some call) :
      id ≠ s.traffic.grid.nextRequest := by
    rintro rfl
    rw [unused] at called
    cases called
  have same {id : Nat} {call : Call} (called : s.traffic.calls id = some call) :
      (s.traffic.call change).calls id = some call := by
    rw [calls_call, if_neg (known called), called]
  have listed {id : Nat} (ne : id ≠ s.traffic.grid.nextRequest) :
      (s.traffic.call change).pending id = s.traffic.pending id := by
    rw [pending_call, if_neg ne, Option.or_none]
  exact {
    listening := h.listening
    begun := h.begun
    registry := h.registry
    fresh := fun id le => by
      have le : s.traffic.grid.nextRequest + 1 ≤ id := le
      rw [calls_call, if_neg (by omega)]
      exact h.fresh id (by omega)
    distinct := h.distinct
    asked := fun id other among => by
      obtain ⟨stage, called, asked⟩ := h.asked id other among
      exact ⟨stage, same called, asked⟩
    noted := fun id outcome noted => by
      rw [pending_call] at noted
      refine h.noted id outcome ?_
      cases listed : s.traffic.pending id with
      | none => split_ifs at noted <;> simp [listed] at noted
      | some found => simpa [listed] using noted
    due := fun id among => by
      obtain ⟨delivered, unnoted⟩ := h.due id among
      obtain ⟨⟨_, other⟩, asked, rfl⟩ := List.mem_map.mp delivered
      obtain ⟨stage, called, -⟩ := h.asked _ other (List.mem_append_left _ asked)
      exact ⟨delivered, by rw [listed (known called)]; exact unnoted⟩
    refused := fun id e refused => by
      obtain ⟨late, stopped, other, called⟩ := h.refused id e refused
      exact ⟨late, stopped, other, same called⟩
    entered := fun started id other called => by
      rw [pending_call]
      split_ifs with new
      · simp
      · rw [calls_call, if_neg new] at called
        simpa using h.entered started id other called
    finished := fun finished => by
      obtain ⟨stopped, nobody⟩ := h.finished finished
      refine ⟨stopped, fun id other called => ?_⟩
      rw [calls_call] at called
      split_ifs at called with new
      · cases called
      · rw [listed new]
        exact nobody id other called
    stands := fun id => by
      by_cases new : id = s.traffic.grid.nextRequest
      · subst new
        cases h.stands s.traffic.grid.nextRequest with
        | nobody _ _ unfree given =>
          exact .entered change (by rw [calls_call, if_pos rfl]) unfree given
        | entered _ called | waiting _ called | released _ _ called | dropped _ called
        | returned _ _ called | late _ called => exact absurd rfl (known called)
      · exact (h.stands id).of_same (by rw [calls_call, if_neg new]) (by rw [listed new]) rfl rfl
          (List.prefix_refl _) fun among => among }

/-! ### Requests -/

/-- A started node takes every request, and a stopped one none. -/
theorem send_cases (h : s.Accounted) (id : Nat) (change : CacheChange) :
    s.traffic.grid.node.phase.isStarted = true ∧
        s.traffic.grid.node.send (.request id change) = .ok { s.traffic.grid.node with
          queue := s.traffic.grid.node.queue ++ [.message (.request id change)] } ∨
      s.traffic.grid.node.phase.isStarted = false ∧
        s.traffic.grid.node.send (.request id change) =
          .error (.protocolMisuse .sentAfterStop) := by
  cases phase : s.traffic.grid.node.phase with
  | notStarted => exact absurd phase h.begun
  | started member => exact .inl ⟨rfl, by simp only [IsolatedNode.send, phase]⟩
  | stopped member => exact .inr ⟨rfl, by simp only [IsolatedNode.send, phase]⟩

/-- A call for a change goes on from one stage to a later one. -/
theorem of_stepOf (h : s.Accounted) (step : StepOf id s after) {before stage : CallStage}
    (called : s.traffic.calls id = some ⟨change, before⟩)
    (reached : after.traffic.calls id = some ⟨change, stage⟩) (later : stage ≠ .entered)
    (asked : ∀ entry ∈ after.traffic.asked, entry ∈ s.traffic.asked ∨ entry = (id, change))
    (distinct : (after.traffic.asked.map Prod.fst).Nodup)
    (listed : after.traffic.pending id = s.traffic.pending id ∨ after.traffic.pending id = none)
    (unrefused : after.refused id = none)
    (finished : s.finished = true → stage = .waiting → after.traffic.pending id = none)
    (stands : after.Stands id) : after.Accounted := by
  -- what the list has after the step, it had before
  have noted {found : Option (Except Error Unit)} {other : Nat}
      (noted : after.traffic.pending other = some found) :
      s.traffic.pending other = some found := by
    by_cases same : other = id
    · subst same
      rcases listed with listed | missing
      · rw [← listed, noted]
      · rw [missing] at noted
        cases noted
    · rw [← step.pending other same, noted]
  -- the caller is past its first step, so whoever is between its steps is another
  have entered {other : Nat} {change' : CacheChange}
      (called' : after.traffic.calls other = some ⟨change', .entered⟩) : other ≠ id := by
    rintro rfl
    cases reached.symm.trans called'
    exact later rfl
  exact {
    listening := step.listener.trans h.listening
    begun := fun never => h.begun (step.phase.symm.trans never)
    registry := by rw [step.registry, step.delivered, h.registry]
    fresh := fun other le => by
      rw [step.nextRequest] at le
      have unused := h.fresh other le
      have ne : other ≠ id := by
        rintro rfl
        cases called.symm.trans unused
      rw [step.calls other ne, unused]
    distinct := distinct
    asked := fun other change' among => by
      by_cases same : other = id
      · subst same
        have own : change' = change := by
          rcases asked _ among with before | own
          · obtain ⟨_, called', -⟩ := h.asked other change' before
            cases called.symm.trans called'
            rfl
          · cases own
            rfl
        exact ⟨stage, own ▸ reached, later⟩
      · have before := (asked _ among).resolve_right (by simp [same])
        obtain ⟨stage', called', asked'⟩ := h.asked other change' before
        exact ⟨stage', (step.calls other same).trans called', asked'⟩
    noted := fun other outcome noted' => by
      rw [step.delivered]
      exact h.noted other outcome (noted noted')
    due := fun other among => by
      rw [step.delivered]
      obtain ⟨delivered, unnoted⟩ := h.due other (step.due among)
      exact ⟨delivered, fun noted' => unnoted (noted noted')⟩
    refused := fun other e refused => by
      have ne : other ≠ id := by
        rintro rfl
        cases unrefused.symm.trans refused
      rw [step.refused other ne] at refused
      rw [step.phase, step.calls other ne]
      exact h.refused other e refused
    entered := fun started other change' called' => by
      rw [step.phase] at started
      have ne := entered called'
      rw [step.calls other ne] at called'
      rw [step.pending other ne]
      exact h.entered started other change' called'
    finished := fun done => by
      rw [step.finished] at done
      obtain ⟨stopped, nobody⟩ := h.finished done
      rw [step.phase]
      refine ⟨stopped, fun other change' called' => ?_⟩
      by_cases same : other = id
      · subst same
        cases reached.symm.trans called'
        exact finished done rfl
      · rw [step.calls other same] at called'
        rw [step.pending other same]
        exact nobody other change' called'
    stands := fun other => by
      by_cases same : other = id
      · exact same ▸ stands
      · refine (h.stands other).of_same (step.calls other same)
          (Eq.congr_left (step.pending other same)) (step.free other same)
          (step.results other same) (step.delivered ▸ List.prefix_refl _) ?_
        intro among
        obtain ⟨entry, there, rfl⟩ := List.mem_map.mp among
        have before := (asked entry there).resolve_right (by rintro rfl; exact same rfl)
        exact List.mem_map.mpr ⟨entry, before, rfl⟩ }

theorem enqueue_sent (h : s.Accounted) (called : s.traffic.calls id = some ⟨change, .entered⟩)
    (unrefused : s.refused id = none) (started : s.traffic.grid.node.phase.isStarted = true)
    (log : List (Nat × CacheChange)) :
    let node := { s.traffic.grid.node with
      queue := s.traffic.grid.node.queue ++ [.message (.request id change)] }
    Accounted { s with
      traffic := { s.traffic.withNode node with sent := log }.note id ⟨change, .waiting⟩ } := by
  intro node
  have waits := calls_note_self s.traffic id ⟨change, .waiting⟩
  have step : StepOf id s { s with
      traffic := { s.traffic.withNode node with sent := log }.note id ⟨change, .waiting⟩ } :=
    { listener := rfl
      phase := rfl
      registry := rfl
      nextRequest := rfl
      delivered := rfl
      due := fun _ among => due_enqueue s.traffic id change ▸ among
      finished := rfl
      calls := fun _ ne => calls_note_of_ne ne ..
      pending := fun _ _ => rfl
      free := fun _ _ => rfl
      refused := fun _ _ => rfl
      results := fun _ _ => rfl }
  have asked : (s.traffic.withNode node).asked = s.traffic.asked ++ [(id, change)] := by
    rw [Traffic.asked, ahead_enqueue, Traffic.asked, List.append_assoc]
    rfl
  refine h.of_stepOf step called waits waiting_ne_entered ?_ ?_ (.inl rfl) unrefused ?_ ?_
  · intro entry among
    have among : entry ∈ (s.traffic.withNode node).asked := among
    simpa [asked] using among
  · change ((s.traffic.withNode node).asked.map Prod.fst).Nodup
    rw [asked, List.map_append, List.map_singleton]
    exact (List.perm_append_singleton id _).nodup_iff.mpr
      (List.nodup_cons.mpr ⟨h.unasked called, h.distinct⟩)
  · -- no stop has finished, since it would have stopped the node
    intro finished
    rw [(h.finished finished).1] at started
    cases started
  · obtain ⟨unfree, given⟩ := (h.stands id).of_entered called
    exact .waiting change waits (h.entered started id change called) unfree given

theorem enqueue_refused (h : s.Accounted) (called : s.traffic.calls id = some ⟨change, .entered⟩)
    (stopped : s.traffic.grid.node.phase.isStarted = false) :
    Accounted { s with
      refused := Function.update s.refused id (some (.protocolMisuse .sentAfterStop)) } :=
  { h with
    refused := fun other e refused => by
      change Function.update _ _ _ other = _ at refused
      rw [Function.update_apply] at refused
      split_ifs at refused with same
      · cases refused
        subst same
        exact ⟨rfl, stopped, change, called⟩
      · exact h.refused other e refused
    stands := fun other => (h.stands other).of_same rfl Iff.rfl rfl rfl (List.prefix_refl _)
      fun among => among }

theorem enqueue (h : s.Accounted) (id : Nat) : (s.enqueue id).Accounted := by
  unfold Stopping.enqueue
  split
  next change called unrefused =>
    rcases h.send_cases id change with ⟨started, sent⟩ | ⟨stopped, sent⟩
    · simp only [sent]
      exact h.enqueue_sent called unrefused started _
    · simp only [sent]
      exact h.enqueue_refused called stopped
  next => exact h

theorem withdraw (h : s.Accounted) (id : Nat) : (s.withdraw id).Accounted := by
  unfold Stopping.withdraw
  split
  next change e called refused =>
    obtain ⟨late, -, -⟩ := h.refused id e refused
    rw [late]
    have returns := calls_note_self s.traffic id ⟨change, .returned lateResult⟩
    have listed (other : Nat) := Registrar.lookup_forget id other s.traffic.grid.registrar
    have missing := (listed id).trans (if_pos rfl)
    refine h.of_stepOf ?_ called returns (returned_ne_entered _) (fun _ => .inl) h.distinct
      (.inr missing) (Function.update_self ..) (fun _ same => absurd same (returned_ne_waiting _)) ?_
    · exact {
        listener := rfl
        phase := rfl
        registry := rfl
        nextRequest := rfl
        delivered := rfl
        due := List.Subset.refl _
        finished := rfl
        calls := fun _ ne => calls_note_of_ne ne ..
        pending := fun other ne => (listed other).trans (if_neg ne)
        free := fun _ _ => rfl
        refused := fun _ ne => Function.update_of_ne ne ..
        results := fun _ ne => Function.update_of_ne ne .. }
    · obtain ⟨unfree, given⟩ := (h.stands id).of_entered called
      refine .late change returns missing unfree ?_ (h.unasked called)
      exact (Function.update_self ..).trans (by rw [given]; rfl)
  next => exact h

/-! ### Results -/

/-- A caller who waits is told the result that it was given, or goes on waiting as long as it was
given none. -/
theorem collect_cases (h : s.Accounted) (called : s.traffic.calls id = some ⟨change, .waiting⟩) :
    s.results id = [] ∧ s.traffic.grid.collect id = (none, s.traffic.grid) ∨
      ∃ outcome released, s.results id = [outcome] ∧ s.traffic.pending id = none ∧
        (Decided s.traffic.delivered id outcome ∨ outcome = droppedResult) ∧
        (∀ other, released.lookup other =
          if other = id then none else s.traffic.free? other) ∧
        s.traffic.grid.collect id = (some outcome, { s.traffic.grid with
          registrar := { s.traffic.grid.registrar with released } }) := by
  cases h.stands id with
  | waiting _ _ listed unfree given =>
    have unfree : s.traffic.grid.registrar.released.lookup id = none := unfree
    have listed : (s.traffic.grid.registrar.pending.lookup id).isSome = true :=
      Option.isSome_iff_ne_none.mpr listed
    refine .inl ⟨given, ?_⟩
    simp only [Grid.collect, unfree, listed, ↓reduceIte]
  | released _ outcome _ missing free given decided =>
    have free : s.traffic.grid.registrar.released.lookup id = some outcome := free
    refine .inr ⟨outcome, s.traffic.grid.registrar.released.filter (·.1 != id), given, missing,
      .inl decided, lookup_filter_ne s.traffic.grid.registrar.released id, ?_⟩
    simp only [Grid.collect, free]
  | dropped _ _ missing unfree given =>
    have absent : s.traffic.grid.registrar.pending.lookup id = none := missing
    refine .inr ⟨droppedResult, s.traffic.grid.registrar.released, given, missing, .inr rfl, ?_, ?_⟩
    · intro other
      split_ifs with same
      · rw [same]
        exact unfree
      · rfl
    · have unfree : s.traffic.grid.registrar.released.lookup id = none := unfree
      simp only [Grid.collect, unfree, absent, Option.isSome_none, Bool.false_eq_true, ↓reduceIte]
      rfl
  | nobody called' | entered _ called' | returned _ _ called' | late _ called' =>
    cases called.symm.trans called'

theorem unrefused_of_waiting (h : s.Accounted)
    (called : s.traffic.calls id = some ⟨change, .waiting⟩) : s.refused id = none := by
  rw [Option.eq_none_iff_forall_ne_some]
  intro e refused
  obtain ⟨-, -, change', called'⟩ := h.refused id e refused
  cases called.symm.trans called'

theorem collect (h : s.Accounted) (id : Nat) :
    Accounted { s with traffic := s.traffic.collect id } := by
  unfold Traffic.collect
  split
  next change called =>
    rcases h.collect_cases called with
      ⟨-, waits⟩ | ⟨outcome, released, given, missing, decided, free, collected⟩
    · rw [waits]
      exact h
    · rw [collected]
      have returns := calls_note_self s.traffic id ⟨change, .returned outcome⟩
      refine h.of_stepOf ?_ called returns (returned_ne_entered _) (fun _ => .inl) h.distinct
        (.inl rfl) (h.unrefused_of_waiting called)
        (fun _ same => absurd same (returned_ne_waiting _)) ?_
      · exact {
          listener := rfl
          phase := rfl
          registry := rfl
          nextRequest := rfl
          delivered := rfl
          due := List.Subset.refl _
          finished := rfl
          calls := fun _ ne => calls_note_of_ne ne ..
          pending := fun _ _ => rfl
          free := fun other ne => (free other).trans (if_neg ne)
          refused := fun _ _ => rfl
          results := fun _ _ => rfl }
      · exact .returned change outcome returns missing ((free id).trans (if_pos rfl)) given decided
  next => exact h

/-! ### Deliveries -/

theorem handle_of_released (same : s.traffic.handle.released = s.traffic.released) :
    s.handle = { s with traffic := s.traffic.handle } := by
  simp [Stopping.handle, same]

/-- What is handled without a trace among the calls is in hand no longer. -/
theorem handle_unnoticed (h : s.Accounted) {delivery : Delivery ChangeMessage}
    (current : s.traffic.grid.node.current? = some delivery) (joined : Bool)
    (next : s.traffic.handle = { s.traffic with
      grid := { s.traffic.grid with registrar := { s.traffic.grid.registrar with joined } }
      handled := true })
    (unasked : delivery.requests = []) : s.handle.Accounted := by
  rw [handle_of_released (by rw [next]), next]
  have handled : Accounted { s with
      traffic := { s.traffic.withNode s.traffic.grid.node with handled := true } } := by
    refine h.of_node s.traffic.grid.node true rfl h.begun id ?_ ?_
    · simp [Traffic.ahead, Traffic.withNode]
    · simp [Traffic.due, Traffic.withNode, current, unasked]
  exact { handled with
    stands := fun id => (handled.stands id).of_same rfl Iff.rfl rfl rfl (List.prefix_refl _)
      fun among => among }

/-- Handling a request makes its change, whose outcome is noted if the caller is still listed. -/
theorem handle_request (h : s.Accounted)
    (current : s.traffic.grid.node.current? = some (.message (.request id change)))
    (unhandled : s.traffic.handled = false) : s.handle.Accounted := by
  cases made : s.traffic.grid.registrar.registry.apply change with | mk outcome registry
  have next : s.traffic.handle = { s.traffic with
      grid := { s.traffic.grid with
        registrar := { s.traffic.grid.registrar with registry }.note id outcome }
      handled := true
      delivered := s.traffic.delivered ++ [(id, change)] } := by
    unfold Traffic.handle
    simp only [current, unhandled, Registrar.handle, made]
    simp [Registrar.note, Delivery.requests]
  have decided : Decided (s.traffic.delivered ++ [(id, change)]) id outcome :=
    ⟨s.traffic.delivered, change, [], rfl, by rw [← h.registry, made]⟩
  have listed (other : Nat) : s.traffic.handle.pending other =
      if other = id then (s.traffic.pending id).map fun _ => some outcome
      else s.traffic.pending other := by
    rw [next]
    exact Registrar.lookup_note id other outcome _
  have asked : s.traffic.handle.asked = s.traffic.asked := by
    rw [next]
    simp [Traffic.asked, Traffic.ahead, current, unhandled, Delivery.requests]
  have due : s.traffic.handle.due = id :: s.traffic.due := by
    rw [next]
    simp [Traffic.due, current, unhandled, Delivery.requests, Delivery.acknowledged]
  have absent (other : Nat) :
      s.traffic.handle.pending other = none ↔ s.traffic.pending other = none := by
    rw [listed]
    split_ifs with same
    · rw [same, Option.map_eq_none_iff]
    · rfl
  rw [handle_of_released (by rw [next])]
  rw [next] at listed asked due absent ⊢
  -- this is no step of the one caller alone, since what was made has changed for all
  exact {
    listening := h.listening
    begun := h.begun
    registry := by
      rw [List.map_append, List.map_singleton, Registry.replay_concat, ← h.registry, made]
      rfl
    fresh := h.fresh
    distinct := by rw [asked]; exact h.distinct
    asked := by rw [asked]; exact h.asked
    noted := fun other outcome' noted => by
      rw [listed] at noted
      split_ifs at noted with same
      · obtain ⟨before, -, noted⟩ := Option.map_eq_some_iff.mp noted
        cases noted
        rw [same]
        exact decided
      · exact (h.noted other outcome' noted).append _
    due := fun other among => by
      rw [due, List.mem_cons] at among
      rw [listed, List.map_append, List.mem_append]
      split_ifs with same
      · refine ⟨.inr (by simp [same]), fun noted => ?_⟩
        obtain ⟨before, -, noted⟩ := Option.map_eq_some_iff.mp noted
        cases noted
      · obtain ⟨delivered, unnoted⟩ := h.due other (among.resolve_left same)
        exact ⟨.inl delivered, unnoted⟩
    refused := h.refused
    entered := fun started other change' called missing =>
      h.entered started other change' called ((absent other).mp missing)
    finished := fun finished => by
      obtain ⟨stopped, nobody⟩ := h.finished finished
      exact ⟨stopped, fun other change' called =>
        (absent other).mpr (nobody other change' called)⟩
    stands := fun other => (h.stands other).of_same rfl (absent other) rfl rfl
      (List.prefix_append _ _) fun among => by rwa [asked] at among }

/-- Whose outcome is noted waits. -/
theorem waiting_of_noted (h : s.Accounted) (noted : s.traffic.pending id = some (some outcome)) :
    ∃ change, s.traffic.calls id = some ⟨change, .waiting⟩ ∧ s.traffic.free? id = none ∧
      s.results id = [] := by
  have listed : s.traffic.pending id ≠ none := by simp [noted]
  cases h.stands id with
  | waiting change called _ unfree given => exact ⟨change, called, unfree, given⟩
  | entered change called =>
    -- only the outcome of what was delivered is noted, and this caller has not asked yet
    obtain ⟨other, delivered⟩ := (h.noted id outcome noted).mem
    exact absurd (List.mem_map.mpr ⟨_, List.mem_append_left _ delivered, rfl⟩) (h.unasked called)
  | nobody _ missing | released _ _ _ missing | dropped _ _ missing | returned _ _ _ missing
  | late _ _ missing => exact absurd missing listed

/-- Handling the acknowledgement of a change whose outcome is noted releases the caller with it. -/
theorem handle_release (h : s.Accounted)
    (current : s.traffic.grid.node.current? = some (.message (.acknowledgement id)))
    (unhandled : s.traffic.handled = false)
    (noted : s.traffic.pending id = some (some outcome)) : s.handle.Accounted := by
  obtain ⟨change, called, unfree, given⟩ := h.waiting_of_noted noted
  have next : s.traffic.handle = { s.traffic with
      grid := { s.traffic.grid with registrar :=
        { s.traffic.grid.registrar.forget id with
          released := s.traffic.grid.registrar.released ++ [(id, outcome)] } }
      handled := true
      released := s.traffic.released ++ [(id, outcome)] } := by
    unfold Traffic.handle
    simp only [current, unhandled, Registrar.handle, Registrar.release_of_lookup noted]
    simp [Delivery.requests]
  have released : s.handle = { s with
      traffic := s.traffic.handle
      results := fun other => s.results other ++ if other = id then [outcome] else [] } := by
    simp only [Stopping.handle, next, List.drop_left, Stopping.mk.injEq, true_and]
    funext other
    by_cases same : other = id
    · simp [same]
    · simp [same, Ne.symm same]
  have listed (other : Nat) : s.traffic.handle.pending other =
      if other = id then none else s.traffic.pending other := by
    rw [next]
    exact Registrar.lookup_forget id other _
  have free (other : Nat) : s.traffic.handle.free? other =
      (s.traffic.free? other).or (if other = id then some outcome else none) := by
    rw [next]
    refine List.lookup_append.trans (congrArg _ ?_)
    by_cases same : other = id
    · simp [same]
    · simp [List.lookup_cons, beq_eq_false_iff_ne.mpr same, same]
  have asked : s.traffic.handle.asked = s.traffic.asked := by
    rw [next]
    simp [Traffic.asked, Traffic.ahead, current, unhandled, Delivery.requests]
  have due : s.traffic.handle.due ⊆ s.traffic.due := by
    rw [next]
    simp [Traffic.due, current, unhandled, Delivery.requests, Delivery.acknowledged]
  rw [released]
  rw [next] at listed free asked due ⊢
  have missing := (listed id).trans (if_pos rfl)
  refine h.of_stepOf ?_ called called waiting_ne_entered (fun _ among => .inl (asked ▸ among))
    (asked ▸ h.distinct) (.inr missing) (h.unrefused_of_waiting called) (fun _ _ => missing) ?_
  · exact {
      listener := rfl
      phase := rfl
      registry := rfl
      nextRequest := rfl
      delivered := rfl
      due := due
      finished := rfl
      calls := fun _ _ => rfl
      pending := fun other ne => (listed other).trans (if_neg ne)
      free := fun other ne => by rw [free, if_neg ne, Option.or_none]
      refused := fun _ _ => rfl
      results := fun other ne => by simp [ne] }
  · refine .released change outcome called missing ?_ (by simp [given]) (h.noted id outcome noted)
    rw [free, unfree, if_pos rfl]
    rfl

theorem handle_acknowledgement (h : s.Accounted)
    (current : s.traffic.grid.node.current? = some (.message (.acknowledgement id)))
    (unhandled : s.traffic.handled = false) : s.handle.Accounted := by
  have due : id ∈ s.traffic.due := by
    simp [Traffic.due, current, unhandled, Delivery.acknowledged]
  cases noted : s.traffic.pending id with
  | none =>
    have missing : s.traffic.grid.registrar.pending.lookup id = none := noted
    refine h.handle_unnoticed current s.traffic.grid.registrar.joined ?_ rfl
    unfold Traffic.handle
    simp only [current, unhandled, Registrar.handle, Registrar.release, missing]
    simp [Delivery.requests]
  | some outcome? =>
    cases outcome? with
    | none => exact absurd noted (h.due id due).2
    | some outcome => exact h.handle_release current unhandled noted

theorem handle (h : s.Accounted) : s.handle.Accounted := by
  cases current : s.traffic.grid.node.current? with
  | none =>
    have : s.traffic.handle = s.traffic := by simp only [Traffic.handle, current]
    rw [handle_of_released (by rw [this]), this]
    exact h
  | some delivery =>
    cases unhandled : s.traffic.handled with
    | true =>
      have : s.traffic.handle = s.traffic := by simp only [Traffic.handle, current, unhandled]
      rw [handle_of_released (by rw [this]), this]
      exact h
    | false =>
      rcases delivery with _ | ⟨id, change⟩ | id
      · refine h.handle_unnoticed current true ?_ rfl
        unfold Traffic.handle
        simp only [current, unhandled, Registrar.handle]
        simp [Delivery.requests]
      · exact h.handle_request current unhandled
      · exact h.handle_acknowledgement current unhandled

theorem dropCallers (h : s.Accounted) : s.dropCallers.Accounted := by
  unfold Stopping.dropCallers
  split_ifs with started
  · exact h
  rw [Bool.not_eq_true] at started
  exact {
    listening := h.listening
    begun := h.begun
    registry := h.registry
    fresh := h.fresh
    distinct := h.distinct
    asked := h.asked
    noted := fun other outcome noted => nomatch noted
    due := fun other among => ⟨(h.due other among).1, nofun⟩
    refused := h.refused
    entered := fun running => by
      change s.traffic.grid.node.phase.isStarted = true at running
      rw [started] at running
      cases running
    finished := fun _ => ⟨started, fun _ _ _ => rfl⟩
    stands := fun other => by
      -- only who waits and is listed is given a result here
      have unchanged (waits : s.traffic.waits other = false ∨ s.traffic.pending other = none) :
          (s.results other ++
            if s.traffic.waits other && (s.traffic.pending other).isSome then [droppedResult]
            else []) = s.results other := by
        rcases waits with none | none <;> simp [none]
      cases h.stands other with
      | nobody called missing unfree given =>
        exact .nobody called rfl unfree ((unchanged (.inr missing)).trans given)
      | entered change called unfree given =>
        have waits : s.traffic.waits other = false := by simp only [Traffic.waits, called]
        exact .entered change called unfree ((unchanged (.inl waits)).trans given)
      | waiting change called listed unfree given =>
        refine .dropped change called rfl unfree ?_
        have waits : s.traffic.waits other = true := by simp only [Traffic.waits, called]
        simp [waits, given, Option.isSome_iff_ne_none.mpr listed]
      | released change outcome called missing free given decided =>
        exact .released change outcome called rfl free ((unchanged (.inr missing)).trans given)
          decided
      | dropped change called missing unfree given =>
        exact .dropped change called rfl unfree ((unchanged (.inr missing)).trans given)
      | returned change outcome called missing unfree given decided =>
        exact .returned change outcome called rfl unfree
          ((unchanged (.inr missing)).trans given) decided
      | late change called missing unfree given unasked =>
        exact .late change called rfl unfree ((unchanged (.inr missing)).trans given) unasked }

/-! ### Runs -/

theorem step (h : s.Accounted) (event : StoppingEvent) : (s.step event).Accounted := by
  cases event with
  | enter change => exact h.enter change
  | enqueue id => exact h.enqueue id
  | withdraw id => exact h.withdraw id
  | collect id => exact h.collect id
  | wake => exact h.wake
  | take => exact h.take
  | handle => exact h.handle
  | finish => exact h.finish
  | pause => exact h.pause
  | stopNode => exact h.stopNode
  | dropCallers => exact h.dropCallers

theorem run (h : s.Accounted) (events : List StoppingEvent) : (s.run events).Accounted := by
  induction events generalizing s with
  | nil => exact h
  | cons event events ih => exact ih (h.step event)

/-- Nobody has called a grid that was started, and only its joining is on its way. -/
theorem begin {fresh : FreshIds} {member : Member} {grid : Grid}
    (started : Grid.start fresh = .ok (member, grid)) : (begin grid).Accounted := by
  cases started
  exact {
    listening := rfl
    begun := nofun
    registry := rfl
    fresh := fun _ _ => rfl
    distinct := .nil
    asked := nofun
    noted := nofun
    due := nofun
    refused := nofun
    entered := nofun
    finished := nofun
    stands := fun id => .nobody rfl rfl rfl rfl }

end Accounted

end GridSchema.Stopping
