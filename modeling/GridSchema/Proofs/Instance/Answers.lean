import GridSchema.Proofs.Instance.Accounts

/-! What those who submit changes to a grid can count on when it is stopped: each gets one result,
which is the outcome of its own change or a misuse, and nobody is left waiting. -/

namespace GridSchema.Stopping

open Traffic (calls_call)

variable {s after : Stopping} {id other : Nat} {change : CacheChange} {outcome : Except Error Unit}

/-! ### What callers can tell -/

theorem Stands.results_cases (h : s.Stands id) :
    s.results id = [] ∨ ∃ outcome, s.results id = [outcome] ∧
      (Decided s.traffic.delivered id outcome ∨
        ∃ misuse, outcome = .error (.protocolMisuse misuse)) := by
  cases h with
  | nobody _ _ _ given | entered _ _ _ given | waiting _ _ _ _ given => exact .inl given
  | released _ outcome _ _ _ given decided => exact .inr ⟨outcome, given, .inl decided⟩
  | dropped _ _ _ _ given => exact .inr ⟨_, given, .inr ⟨_, rfl⟩⟩
  | returned _ outcome _ _ _ given decided =>
    exact .inr ⟨outcome, given, decided.imp_right fun dropped => ⟨_, dropped⟩⟩
  | late _ _ _ _ given => exact .inr ⟨_, given, .inr ⟨_, rfl⟩⟩

/-- A caller without a result is listed or between its steps. -/
theorem Stands.listed_or_entered {call : Call} (h : s.Stands id)
    (called : s.traffic.calls id = some call) (given : s.results id = []) :
    s.traffic.pending id ≠ none ∨ call.stage = .entered := by
  cases h with
  | nobody called' => cases called'.symm.trans called
  | entered _ called' =>
    cases called'.symm.trans called
    exact .inr rfl
  | waiting _ _ listed => exact .inl listed
  | released _ _ _ _ _ given' | dropped _ _ _ _ given' | returned _ _ _ _ _ given'
  | late _ _ _ _ given' => cases given.symm.trans given'

theorem Stands.results_of_returned (h : s.Stands id)
    (called : s.traffic.calls id = some ⟨change, .returned outcome⟩) :
    s.results id = [outcome] := by
  cases h with
  | returned _ _ called' _ _ given | late _ called' _ _ given =>
    cases called'.symm.trans called
    exact given
  | nobody called' | entered _ called' | waiting _ called' | released _ _ called'
  | dropped _ called' => cases called'.symm.trans called

/-- What those who submit changes can count on, whoever stops the grid and when. One who has no
result is listed with its change or between its steps. A result is the only one, and it is the
outcome that the change had at its place among those that were made, or a misuse. Once a stop has
finished and nobody is between its steps, nobody is listed and each has its result. -/
structure Answered (s : Stopping) : Prop where
  registry : s.traffic.grid.registrar.registry = .replay (s.traffic.delivered.map Prod.snd)
  distinct : (s.traffic.delivered.map Prod.fst).Nodup
  listed : ∀ id call, s.traffic.calls id = some call → s.results id = [] →
    s.traffic.pending id ≠ none ∨ call.stage = .entered
  results : ∀ id call, s.traffic.calls id = some call → ∀ outcome ∈ s.results id,
    s.results id = [outcome] ∧
      ((∃ front back, s.traffic.delivered = front ++ (id, call.change) :: back ∧
          outcome = ((Registry.replay (front.map Prod.snd)).apply call.change).1) ∨
        ∃ misuse, outcome = .error (.protocolMisuse misuse))
  told : ∀ id change, s.traffic.calls id = some ⟨change, .waiting⟩ →
    ∀ outcome, (s.traffic.grid.collect id).1 = some outcome ↔ s.results id = [outcome]
  returned : ∀ id change outcome, s.traffic.calls id = some ⟨change, .returned outcome⟩ →
    s.results id = [outcome]
  finished : s.finished = true →
    (∀ id change, s.traffic.calls id ≠ some ⟨change, .entered⟩) →
      s.traffic.grid.registrar.pending = [] ∧
        ∀ id call, s.traffic.calls id = some call → ∃ outcome, s.results id = [outcome]

theorem Accounted.answered (h : s.Accounted) : s.Answered where
  registry := h.registry
  distinct := by
    have distinct := h.distinct
    rw [Traffic.asked, List.map_append] at distinct
    exact (List.nodup_append.mp distinct).1
  listed id call called given := (h.stands id).listed_or_entered called given
  results id call called outcome among := by
    rcases (h.stands id).results_cases with none | ⟨only, given, made⟩
    · rw [none] at among
      cases among
    · rw [given, List.mem_singleton] at among
      subst among
      refine ⟨given, made.imp_left ?_⟩
      rintro ⟨front, change, back, delivered, outcome⟩
      -- a number stands for one call, so the change that was made is the caller's own
      have asked : (id, change) ∈ s.traffic.asked := by simp [Traffic.asked, delivered]
      obtain ⟨stage, called', -⟩ := h.asked id change asked
      cases called.symm.trans called'
      exact ⟨front, back, delivered, outcome⟩
  told id change called outcome := by
    rcases h.collect_cases called with ⟨given, waits⟩ | ⟨only, _, given, -, -, -, collected⟩
    · simp [given, waits]
    · simp [given, collected]
  returned id change outcome called := (h.stands id).results_of_returned called
  finished finished settled := by
    obtain ⟨-, nobody⟩ := h.finished finished
    have unlisted (id : Nat) : s.traffic.pending id = none := by
      cases h.stands id with
      | entered change called => exact absurd called (settled id change)
      | waiting change called => exact nobody id change called
      | nobody _ missing | released _ _ _ missing | dropped _ _ missing | returned _ _ _ missing
      | late _ _ missing => exact missing
    constructor
    · cases pending : s.traffic.grid.registrar.pending with
      | nil => rfl
      | cons entry rest =>
        have missing := unlisted entry.1
        simp [Traffic.pending, pending] at missing
    · intro id call called
      rcases (h.stands id).results_cases with none | ⟨outcome, given, -⟩
      · rcases (h.stands id).listed_or_entered called none with listed | entered
        · exact absurd (unlisted id) listed
        · obtain ⟨change, stage⟩ := call
          cases entered
          exact absurd called (settled id change)
      · exact ⟨outcome, given⟩

/-! ### Requests that come too late -/

/-- Whether a caller was refused because the node had been stopped, or has returned for that. -/
def Late (s : Stopping) (id : Nat) (change : CacheChange) : Prop :=
  s.traffic.calls id = some ⟨change, .entered⟩ ∧ s.refused id ≠ none ∨
    s.traffic.calls id = some ⟨change, .returned lateResult⟩

namespace Late

theorem of_same (late : s.Late id change)
    (calls : after.traffic.calls id = s.traffic.calls id)
    (refused : after.refused id = s.refused id) : after.Late id change := by
  unfold Late
  rw [calls, refused]
  exact late

/-- Others who take a step of their own are others. -/
theorem ne_of_entered (late : s.Late id change) {change' : CacheChange}
    (called : s.traffic.calls other = some ⟨change', .entered⟩) (unrefused : s.refused other = none) :
    id ≠ other := by
  rintro rfl
  rcases late with ⟨-, refused⟩ | returned
  · exact refused unrefused
  · cases called.symm.trans returned

theorem ne_of_waiting (late : s.Late id change) {change' : CacheChange}
    (called : s.traffic.calls other = some ⟨change', .waiting⟩) : id ≠ other := by
  rintro rfl
  rcases late with ⟨entered, -⟩ | returned
  · cases called.symm.trans entered
  · cases called.symm.trans returned

theorem withdraw (h : s.Accounted) (late : s.Late id change) (other : Nat) :
    (s.withdraw other).Late id change := by
  unfold Stopping.withdraw
  split
  next change' e called refused =>
    by_cases same : id = other
    · subst same
      rcases late with ⟨entered, -⟩ | returned
      · cases called.symm.trans entered
        rw [(h.refused id e refused).1]
        exact .inr (calls_note_self ..)
      · cases called.symm.trans returned
    · exact late.of_same (calls_note_of_ne same ..) (Function.update_of_ne same ..)
  next => exact late

theorem step (h : s.Accounted) (late : s.Late id change) (event : StoppingEvent) :
    (s.step event).Late id change := by
  -- the one step that is left to a late caller is to withdraw; all others are steps of others
  cases event with
  | enter change' =>
    have known : id ≠ s.traffic.grid.nextRequest := by
      rintro rfl
      have unused := h.fresh _ (Nat.le_refl s.traffic.grid.nextRequest)
      rcases late with ⟨called, -⟩ | called <;> cases unused.symm.trans called
    exact late.of_same ((calls_call ..).trans (if_neg known)) rfl
  | enqueue other =>
    change (s.enqueue other).Late id change
    unfold Stopping.enqueue
    split
    next change' called unrefused =>
      have ne := late.ne_of_entered called unrefused
      split
      · exact late.of_same (calls_note_of_ne ne ..) rfl
      · exact late.of_same rfl (Function.update_of_ne ne ..)
    next => exact late
  | withdraw other => exact late.withdraw h other
  | collect other =>
    refine late.of_same ?_ rfl
    change (s.traffic.collect other).calls id = _
    unfold Traffic.collect
    split
    next change' called =>
      split
      · exact calls_note_of_ne (late.ne_of_waiting called) ..
      · rfl
    next => rfl
  | take =>
    refine late.of_same ?_ rfl
    change s.traffic.take.calls id = _
    unfold Traffic.take
    split <;> rfl
  | handle =>
    refine late.of_same ?_ rfl
    change s.traffic.handle.calls id = _
    unfold Traffic.handle
    split <;> rfl
  | finish =>
    refine late.of_same ?_ rfl
    change s.traffic.finish.calls id = _
    unfold Traffic.finish
    split <;> rfl
  | dropCallers =>
    change s.dropCallers.Late id change
    unfold Stopping.dropCallers
    split
    · exact late
    · exact late.of_same rfl rfl
  | wake | pause | stopNode => exact late.of_same rfl rfl

theorem run (h : s.Accounted) (late : s.Late id change) (events : List StoppingEvent) :
    (s.run events).Late id change := by
  induction events generalizing s with
  | nil => exact late
  | cons event events ih => exact ih (h.step event) (late.step h event)

/-- A request that is enqueued after the node was stopped is late. -/
theorem enqueue (h : s.Accounted) (stopped : s.traffic.grid.node.phase.isStarted = false)
    (called : s.traffic.calls id = some ⟨change, .entered⟩) (unrefused : s.refused id = none) :
    (s.enqueue id).Late id change := by
  rcases h.send_cases id change with ⟨started, -⟩ | ⟨-, sent⟩
  · rw [stopped] at started
    cases started
  · simp only [Stopping.enqueue, called, unrefused, sent]
    refine .inl ⟨called, ?_⟩
    change Function.update s.refused id _ id ≠ none
    rw [Function.update_self]
    exact Option.some_ne_none _

/-- The outcome of a change is none that comes of being late. -/
theorem not_decided (delivered : List (Nat × CacheChange)) (id : Nat) :
    ¬ Decided delivered id lateResult := by
  rintro ⟨front, change, -, -, late⟩
  rcases Registry.apply_cases (.replay (front.map Prod.snd)) change with ok | ⟨error | error, -⟩
  · cases late.trans ok
  · cases late.trans error
  · cases late.trans error

/-- The change of one who is late is not made, and being late is its only result. -/
theorem settled (h : s.Accounted) (late : s.Late id change) :
    id ∉ s.traffic.delivered.map Prod.fst ∧ (∀ outcome ∈ s.results id, outcome = lateResult) ∧
      (s.withdraw id).traffic.calls id = some ⟨change, .returned lateResult⟩ := by
  have made (unasked : id ∉ s.traffic.asked.map Prod.fst) :
      id ∉ s.traffic.delivered.map Prod.fst := by
    intro delivered
    rw [Traffic.asked, List.map_append] at unasked
    exact unasked (List.mem_append_left _ delivered)
  rcases late with ⟨called, refused⟩ | called
  · obtain ⟨e, refused⟩ := Option.ne_none_iff_exists'.mp refused
    refine ⟨made (h.unasked called), ?_, ?_⟩
    · simp [((h.stands id).of_entered called).2]
    · simp only [Stopping.withdraw, called, refused, (h.refused id e refused).1]
      exact calls_note_self ..
  · have stays : (s.withdraw id).traffic.calls id = some ⟨change, .returned lateResult⟩ := by
      simp only [Stopping.withdraw, called]
    cases h.stands id with
    | late _ _ _ _ given unasked => exact ⟨made unasked, by simp [given], stays⟩
    | returned _ _ called' _ _ _ decided =>
      cases called.symm.trans called'
      rcases decided with decided | dropped
      · exact absurd decided (not_decided _ _)
      · cases dropped
    | nobody called' | entered _ called' | waiting _ called' | released _ _ called'
    | dropped _ called' => cases called.symm.trans called'

end Late

/-- Whoever submits changes to a grid, and in whatever order their steps, the deliveries and the two
steps of stops come, nobody is left waiting for a result. A change whose request is enqueued after
the node was stopped is never made, and its caller returns with a misuse. -/
theorem stop_leaves_nobody_waiting {fresh : FreshIds} {member : Member} {grid : Grid}
    (started : Grid.start fresh = .ok (member, grid)) (events : List StoppingEvent) :
    let s := (begin grid).run events
    s.Answered ∧
      ∀ id change, s.traffic.grid.node.phase.isStarted = false →
        s.traffic.calls id = some ⟨change, .entered⟩ → s.refused id = none →
        ∀ later, let after := (s.enqueue id).run later
          id ∉ after.traffic.delivered.map Prod.fst ∧
            (∀ outcome ∈ after.results id, outcome = .error (.protocolMisuse .sentAfterStop)) ∧
            (after.withdraw id).traffic.calls id =
              some ⟨change, .returned (.error (.protocolMisuse .sentAfterStop))⟩ := by
  have h := (Accounted.begin started).run events
  refine ⟨h.answered, ?_⟩
  intro id change stopped called unrefused later
  have late := (Late.enqueue h stopped called unrefused).run (h.enqueue id) later
  exact late.settled ((h.enqueue id).run later)

/-- Three callers, of whom the first is released. The node is stopped while the request of the
second is in hand, and before that of the third is enqueued. -/
def stoppedBetween : List StoppingEvent :=
  let served : List StoppingEvent := [.take, .handle, .finish]
  [.enter (.create (.bare "a")), .enqueue 0, .wake] ++ served ++ served ++ served ++
    [.enter (.create (.bare "b")), .enqueue 1, .take, .enter (.destroy "a"), .stopNode]

/-- The worker goes on for a while, also after the stop has finished. -/
def goneOn : List StoppingEvent :=
  [.dropCallers, .handle, .finish, .withdraw 2, .pause, .collect 1, .collect 0]

theorem stop_leaves_nobody_waiting_between :
    ∃ member grid, Grid.start ⟨"node", "name"⟩ = .ok (member, grid) ∧
      ((begin grid).run stoppedBetween).Answered ∧
      let after := (((begin grid).run stoppedBetween).enqueue 2).run goneOn
      after.traffic.grid.names = ["a", "b"] ∧ after.traffic.grid.registrar.pending = [] ∧
        after.results 0 = [.ok ()] ∧ after.results 1 = [droppedResult] ∧
        after.results 2 = [lateResult] ∧ 2 ∉ after.traffic.delivered.map Prod.fst := by
  refine ⟨_, _, rfl, ?_⟩
  obtain ⟨answered, late⟩ :=
    @stop_leaves_nobody_waiting ⟨"node", "name"⟩ _ _ rfl stoppedBetween
  obtain ⟨unmade, -, -⟩ := late 2 (.destroy "a") rfl rfl rfl goneOn
  exact ⟨answered, rfl, rfl, rfl, rfl, rfl, unmade⟩

end GridSchema.Stopping
