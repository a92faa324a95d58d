import GridSchema.Instance.Basic
import GridSchema.Proofs.Instance.Registrar
import GridSchema.Proofs.Wire.Frame

/-! Instances at rest, between one call and the next. Each request is answered from the registry
alone, and the instance is at rest again. -/

namespace GridSchema

/-! ### Requests to a registry -/

/-- The change that a request asks for. -/
def Request.change? : Request → Option CacheChange
  | cacheNames | cacheConfiguration _ => none
  | createCache cache => some (.create cache)
  | destroyCache name => some (.destroy name)

namespace Registry

def answer (registry : Registry) : Request → Response
  | .cacheNames => .cacheNames registry.names
  | .cacheConfiguration name => .ofOutcome .cacheConfiguration (registry.definition name)
  | .createCache cache => .ofOutcome (fun _ => .done) (registry.apply (.create cache)).1
  | .destroyCache name => .ofOutcome (fun _ => .done) (registry.apply (.destroy name)).1

def after (registry : Registry) (request : Request) : Registry :=
  match request.change? with
  | none => registry
  | some change => (registry.apply change).2

variable {registry : Registry}

theorem answer_cacheConfiguration_eq_iff {name : String} {cache : CacheDefinition} :
    registry.answer (.cacheConfiguration name) = .cacheConfiguration cache ↔
      registry.find? name = some cache := by
  cases found : registry.find? name with
  | none => simp [answer, definition, found, Response.ofOutcome, Response.ofError]
  | some stored => simp [answer, definition, found, Response.ofOutcome]

theorem answer_createCache_eq_iff {cache : CacheDefinition} :
    registry.answer (.createCache cache) = .done ↔ registry.find? cache.name = none := by
  cases found : registry.find? cache.name with
  | none => simp [answer, apply, NameMap.contains, found, Response.ofOutcome]
  | some stored =>
    simp [answer, apply, NameMap.contains, found, Response.ofOutcome, Response.ofError]

theorem find?_after_createCache {cache : CacheDefinition}
    (created : registry.answer (.createCache cache) = .done) :
    (registry.after (.createCache cache)).find? cache.name = some cache := by
  have new := answer_createCache_eq_iff.mp created
  simp [after, Request.change?, apply, NameMap.contains, new, NameMap.find?_insert]

theorem named_after (named : registry.Named) (request : Request) :
    (registry.after request).Named := by
  cases request with
  | cacheNames => exact named
  | cacheConfiguration name => exact named
  | createCache cache => exact named_apply named (.create cache)
  | destroyCache name => exact named_apply named (.destroy name)

theorem name_of_find? (named : registry.Named) {name : String} {cache : CacheDefinition}
    (found : registry.find? name = some cache) : cache.name = name := by
  obtain ⟨front, back, entries, -⟩ := List.lookup_eq_some_iff.mp found
  exact named (name, cache) (entries ▸ List.mem_append_right front List.mem_cons_self)

end Registry

/-! ### Grids -/

namespace Grid

/-- A grid at rest: its node waits for something to deliver, and nobody waits for a change. -/
def resting (member : Member) (registry : Registry) (nextRequest : Nat) : Grid where
  node := ⟨⟨none, none, ∅⟩, .started member, some (), [], some ⟨none, none⟩⟩
  registrar := ⟨registry, [], [], true⟩
  nextRequest

variable (member : Member) (registry : Registry) (nextRequest : Nat)

/-- The worker takes three turns: for the request, for its acknowledgement, and to find the queue
empty. -/
theorem submit_resting (change : CacheChange) :
    (resting member registry nextRequest).submit change =
      ((registry.apply change).1, resting member (registry.apply change).2 (nextRequest + 1)) := by
  simp [submit, submitDuring, resting, enter, request, collect, settle, deliver,
    IsolatedNode.send, IsolatedNode.drain, IsolatedNode.wake, IsolatedNode.take,
    IsolatedNode.finish, IsolatedNode.acknowledgements, IsolatedNode.isSpent, IsolatedNode.pause,
    Phase.isStarted, Message.acknowledgement?, stepsPerTurn, Registrar.behaviour,
    Registrar.handle, Registrar.note, Registrar.release, Registrar.forget]

/-- A request is answered from the registry, and the grid is at rest again. -/
theorem respond_resting (request : Request) :
    ∃ next, (resting member registry nextRequest).respond request =
      (registry.answer request, resting member (registry.after request) next) := by
  cases request with
  | cacheNames => exact ⟨nextRequest, rfl⟩
  | cacheConfiguration name => exact ⟨nextRequest, rfl⟩
  | createCache cache =>
    refine ⟨nextRequest + 1, ?_⟩
    rw [respond, submit_resting]
    rfl
  | destroyCache name =>
    refine ⟨nextRequest + 1, ?_⟩
    rw [respond, submit_resting]
    rfl

/-! ### Connections -/

theorem serve_nil (grid : Grid) : grid.serve [] = ⟨[], true, grid⟩ := by
  rw [serve]
  rfl

/-- A request within the limit gets one answer. -/
theorem serve_frame (grid : Grid) {request : Request}
    (fits : (Request.codec.line request).length ≤ Wire.maxFrame) :
    grid.serve (Wire.frame request.toJson) =
      ⟨Wire.frame (grid.respond request).1.toJson, true, (grid.respond request).2⟩ := by
  have read : Wire.readFrame Wire.maxFrame Request.ofJson? (Wire.frame request.toJson) =
      (.message request, []) := by
    have read := Request.codec.readFrame_frame fits []
    rwa [List.append_nil] at read
  rw [serve]
  split
  case h_1 asked rest found =>
    obtain ⟨rfl, rfl⟩ : request = asked ∧ [] = rest := by simpa [read] using found
    simp [serve_nil]
  case h_2 found => simp [read] at found
  case h_3 found => simp [read] at found

/-- What is no request closes the connection and gets no answer. -/
theorem serve_of_fault {grid : Grid} {stream rest : Bytes} {error : Error}
    (read : Wire.readFrame Wire.maxFrame Request.ofJson? stream = (.fault error, rest)) :
    grid.serve stream = ⟨[], false, grid⟩ := by
  rw [serve]
  split
  case h_1 found => simp [read] at found
  case h_2 found => simp [read] at found
  case h_3 => rfl

theorem serve_oversized (grid : Grid) {request : Request}
    (long : Wire.maxFrame < (Request.codec.line request).length) :
    grid.serve (Wire.frame request.toJson) = ⟨[], false, grid⟩ := by
  have read := Request.codec.readFrame_oversized long []
  rw [List.append_nil] at read
  exact serve_of_fault read

/-! ### What keeps a grid at rest -/

/-- Whether a grid is at rest and each of its caches stands under its own name. -/
def Ready (grid : Grid) : Prop :=
  ∃ member registry nextRequest,
    registry.Named ∧ grid = resting member registry nextRequest

variable {grid : Grid}

theorem Ready.submit (ready : grid.Ready) (change : CacheChange) :
    (grid.submit change).2.Ready := by
  obtain ⟨member, registry, nextRequest, named, rfl⟩ := ready
  rw [submit_resting]
  exact ⟨member, _, _, Registry.named_apply named change, rfl⟩

theorem Ready.respond (ready : grid.Ready) (request : Request) :
    (grid.respond request).2.Ready := by
  obtain ⟨member, registry, nextRequest, named, rfl⟩ := ready
  obtain ⟨next, responded⟩ := respond_resting member registry nextRequest request
  rw [responded]
  exact ⟨member, _, next, Registry.named_after named request, rfl⟩

theorem Ready.serve (ready : grid.Ready) (stream : Bytes) : (grid.serve stream).grid.Ready := by
  fun_induction Grid.serve grid stream with
  | case1 grid stream request rest _ response after responded served ih =>
    refine ih ?_
    have next := ready.respond request
    rwa [responded] at next
  | case2 => exact ready
  | case3 => exact ready

end Grid

/-! ### Instances -/

def Instance.Ready (i : Instance) : Prop :=
  i.isOpen = true → i.grid.Ready

namespace Instance

/-- A node that is started joins, so that nothing but the way to it can be missing. -/
theorem start_eq (bound : Except Error Endpoint) (fresh : FreshIds) : ∃ member,
    start bound fresh =
      match bound with
      | .ok endpoint => (.ok ⟨member, .resting member ∅ 0, endpoint, true⟩, none)
      | .error e => (.error e, some (Grid.resting member ∅ 0).stop) := by
  cases bound <;> exact ⟨_, rfl⟩

variable {i : Instance}

theorem Ready.change (ready : i.Ready) (change : CacheChange) : (i.change change).2.Ready :=
  fun isOpen => (ready isOpen).submit change

theorem Ready.close (ready : i.Ready) : i.close.Ready := by
  intro isOpen
  unfold Instance.close at isOpen ⊢
  split_ifs at isOpen ⊢
  exact ready isOpen

end Instance

end GridSchema
