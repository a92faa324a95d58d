import GridSchema.Proofs.Instance.Resting
import GridSchema.Proofs.Wire.Stream

/-! A server at one connection whose client sends some bytes and ends the stream. The server reads a
chunk, acts on it and reads the next, until a chunk holds no request or there is none left. -/

namespace GridSchema

def Wire.request? (chunk : Bytes) : Option Request :=
  match Wire.readChunk Wire.maxFrame Request.ofJson? chunk with
  | .message request => some request
  | .ended | .fault _ => none

namespace Registry

def answers (registry : Registry) : List Request → List Response
  | [] => []
  | request :: requests => registry.answer request :: (registry.after request).answers requests

def afterAll (registry : Registry) (requests : List Request) : Registry :=
  requests.foldl after registry

theorem length_answers (registry : Registry) (requests : List Request) :
    (registry.answers requests).length = requests.length := by
  induction requests generalizing registry with
  | nil => rfl
  | cons request requests ih => rw [answers, List.length_cons, List.length_cons, ih]

end Registry

namespace Response

def lines (responses : List Response) : Bytes :=
  responses.flatMap fun response => Wire.frame response.toJson

theorem lines_cons (response : Response) (responses : List Response) :
    lines (response :: responses) = Wire.frame response.toJson ++ lines responses := rfl

theorem count_newline_lines (responses : List Response) :
    (lines responses).count Wire.newline = responses.length := by
  induction responses with
  | nil => rfl
  | cons response responses ih =>
    have one : (Wire.frame response.toJson).count Wire.newline = 1 :=
      (codec.newline_frame response).1
    rw [lines_cons, List.count_append, one, ih, List.length_cons, Nat.add_comm]

end Response

inductive Closing where
  | endOfStream
  | refused (error : Error)

/-- A server at a connection: its grid, the bytes that it has not read, the requests that it has
executed, the bytes that it has sent, and why it closed the connection if it has. -/
structure Serving where
  grid : Grid
  unread : Bytes
  executed : List Request
  sent : Bytes
  closing : Option Closing

namespace Serving

def begin (grid : Grid) (stream : Bytes) : Serving :=
  ⟨grid, stream, [], [], none⟩

/-- Reads the next frame. A request is executed and answered; at anything else the connection is
closed. -/
def step (s : Serving) : Serving :=
  match s.closing with
  | some _ => s
  | none =>
    match Wire.readFrame Wire.maxFrame Request.ofJson? s.unread with
    | (.message request, unread) =>
      let (response, grid) := s.grid.respond request
      { s with
        grid, unread
        executed := s.executed ++ [request]
        sent := s.sent ++ Wire.frame response.toJson }
    | (.ended, unread) => { s with unread, closing := some .endOfStream }
    | (.fault error, unread) => { s with unread, closing := some (.refused error) }

/-! ### One step -/

section step

variable {s : Serving}

theorem step_of_closing {closing : Closing} (closed : s.closing = some closing) : s.step = s := by
  unfold step
  rw [closed]

variable (isOpen : s.closing = none) {unread : Bytes}
include isOpen

theorem step_of_message {request : Request}
    (read : Wire.readFrame Wire.maxFrame Request.ofJson? s.unread = (.message request, unread)) :
    s.step = ⟨(s.grid.respond request).2, unread, s.executed ++ [request],
      s.sent ++ Wire.frame (s.grid.respond request).1.toJson, none⟩ := by
  unfold step
  rw [isOpen, read]

theorem step_of_ended
    (read : Wire.readFrame Wire.maxFrame Request.ofJson? s.unread = (.ended, unread)) :
    s.step = { s with unread, closing := some .endOfStream } := by
  unfold step
  rw [isOpen, read]

theorem step_of_fault {error : Error}
    (read : Wire.readFrame Wire.maxFrame Request.ofJson? s.unread = (.fault error, unread)) :
    s.step = { s with unread, closing := some (.refused error) } := by
  unfold step
  rw [isOpen, read]

end step

/-! ### The steps together are what serving a stream is -/

/-- What becomes of the connection when the rest of the stream is served. -/
def outcome (s : Serving) : Served :=
  match s.closing with
  | none =>
    let served := s.grid.serve s.unread
    { served with answers := s.sent ++ served.answers }
  | some .endOfStream => ⟨s.sent, true, s.grid⟩
  | some (.refused _) => ⟨s.sent, false, s.grid⟩

theorem outcome_begin (grid : Grid) (stream : Bytes) :
    (begin grid stream).outcome = grid.serve stream := rfl

theorem outcome_of_open {s : Serving} (isOpen : s.closing = none) :
    s.outcome = ⟨s.sent ++ (s.grid.serve s.unread).answers, (s.grid.serve s.unread).isOpen,
      (s.grid.serve s.unread).grid⟩ := by
  unfold outcome
  rw [isOpen]

theorem outcome_step (s : Serving) : s.step.outcome = s.outcome := by
  cases isOpen : s.closing with
  | some closing => rw [step_of_closing isOpen]
  | none =>
    rw [outcome_of_open isOpen, Grid.serve]
    split
    case h_1 request rest read =>
      rw [step_of_message isOpen read, outcome_of_open rfl, List.append_assoc]
    case h_2 rest read =>
      rw [step_of_ended isOpen read, List.append_nil]
      rfl
    case h_3 error rest read =>
      rw [step_of_fault isOpen read, List.append_nil]
      rfl

theorem outcome_iterate (n : Nat) (s : Serving) : (step^[n] s).outcome = s.outcome := by
  induction n generalizing s with
  | zero => rfl
  | succ n ih => rw [Function.iterate_succ_apply, ih, outcome_step]

/-! ### Requests one after another -/

section requests

variable {s : Serving} (isOpen : s.closing = none) {front back : List Bytes}
include isOpen

theorem step_of_request {chunk : Bytes} {request : Request} {later : List Bytes}
    (split : Wire.chunks Wire.maxFrame s.unread = chunk :: later)
    (asked : Wire.request? chunk = some request) :
    s.step = ⟨(s.grid.respond request).2, later.flatten, s.executed ++ [request],
      s.sent ++ Wire.frame (s.grid.respond request).1.toJson, none⟩ := by
  have read := Wire.readFrame_of_chunks split Request.ofJson?
  unfold Wire.request? at asked
  split at asked
  case h_1 message held =>
    rw [held] at read
    cases asked
    exact step_of_message isOpen read
  case h_2 => cases asked
  case h_3 => cases asked

/-- The chunks at the front, which all hold a request, are executed one by one. -/
theorem iterate_of_requests {member : Member} {registry : Registry} {nextRequest : Nat}
    (atRest : s.grid = .resting member registry nextRequest) {requests : List Request}
    (split : Wire.chunks Wire.maxFrame s.unread = front ++ back)
    (asked : front.map Wire.request? = requests.map some) :
    (∃ next, step^[requests.length] s =
      ⟨.resting member (registry.afterAll requests) next, back.flatten, s.executed ++ requests,
        s.sent ++ Response.lines (registry.answers requests), none⟩) ∧
      Wire.chunks Wire.maxFrame back.flatten = back := by
  induction front generalizing s registry nextRequest requests with
  | nil =>
    obtain rfl : requests = [] := by simpa using asked.symm
    have unread : back.flatten = s.unread := by
      rw [← Wire.flatten_chunks Wire.maxFrame s.unread, split, List.nil_append]
    refine ⟨⟨nextRequest, ?_⟩, unread ▸ split⟩
    obtain ⟨grid, stream, executed, sent, closing⟩ := s
    obtain rfl : closing = none := isOpen
    obtain rfl : grid = _ := atRest
    obtain rfl : back.flatten = stream := unread
    simp [Registry.afterAll, Registry.answers, Response.lines]
  | cons chunk front ih =>
    obtain _ | ⟨request, requests⟩ := requests
    · cases asked
    obtain ⟨first, others⟩ := List.cons.inj asked
    obtain ⟨-, -, later⟩ := Wire.of_chunks_eq_cons split
    obtain ⟨next, responded⟩ := Grid.respond_resting member registry nextRequest request
    have stepped := step_of_request isOpen split first
    rw [atRest, responded] at stepped
    have open' : s.step.closing = none := by rw [stepped]
    have unread' : s.step.unread = (front ++ back).flatten := by rw [stepped]; rfl
    have atRest' : s.step.grid = .resting member (registry.after request) next := by rw [stepped]
    obtain ⟨⟨last, run⟩, rest⟩ := ih open' atRest' (unread'.symm ▸ later) others
    refine ⟨⟨last, ?_⟩, rest⟩
    rw [List.length_cons, Function.iterate_succ_apply, run, stepped]
    simp [Registry.afterAll, Registry.answers, Response.lines_cons]

theorem step_of_no_request (split : Wire.chunks Wire.maxFrame s.unread = back)
    (stop : ∀ chunk ∈ back.head?, Wire.request? chunk = none) :
    ∃ closing, s.step = { s with unread := back.tail.flatten, closing := some closing } ∧
      (back = [] → closing = .endOfStream) ∧
      ∀ chunk ∈ back.head?, ∃ error, closing = .refused error ∧
        Wire.readChunk Wire.maxFrame Request.ofJson? chunk = .fault error := by
  cases back with
  | nil =>
    have ended : s.unread = [] := Wire.eq_nil_of_chunks_eq_nil split
    have read : Wire.readFrame Wire.maxFrame Request.ofJson? s.unread = (.ended, []) := by
      rw [ended, Wire.readFrame_nil]
    exact ⟨.endOfStream, step_of_ended isOpen read, fun _ => rfl, nofun⟩
  | cons chunk later =>
    obtain ⟨held, -, -⟩ := Wire.of_chunks_eq_cons split
    have read := Wire.readFrame_of_chunks split Request.ofJson?
    have bad : Wire.request? chunk = none := stop chunk rfl
    rcases seen : Wire.readChunk Wire.maxFrame Request.ofJson? chunk with request | _ | error
    · simp [Wire.request?, seen] at bad
    · exact absurd seen (Wire.readChunk_ne_ended held Request.ofJson?)
    · rw [seen] at read
      refine ⟨.refused error, step_of_fault isOpen read, nofun, ?_⟩
      rintro _ ⟨⟩
      exact ⟨error, rfl, seen⟩

end requests

/-- Nothing happens at a connection that is closed. -/
theorem iterate_of_le {s : Serving} {closing : Closing} {m n : Nat}
    (closed : (step^[m] s).closing = some closing) (later : m ≤ n) : step^[n] s = step^[m] s := by
  obtain ⟨more, rfl⟩ := Nat.exists_eq_add_of_le later
  rw [Nat.add_comm, Function.iterate_add_apply]
  exact Function.iterate_fixed (step_of_closing closed) more

/-- The longest run of chunks that hold requests. -/
theorem exists_requests (chunks : List Bytes) :
    ∃ (front back : List Bytes) (requests : List Request), chunks = front ++ back ∧
      front.map Wire.request? = requests.map some ∧
      ∀ chunk ∈ back.head?, Wire.request? chunk = none := by
  induction chunks with
  | nil => exact ⟨[], [], [], rfl, rfl, nofun⟩
  | cons chunk chunks ih =>
    cases held : Wire.request? chunk with
    | none =>
      refine ⟨[], chunk :: chunks, [], rfl, rfl, ?_⟩
      rintro _ ⟨⟩
      exact held
    | some request =>
      obtain ⟨front, back, requests, rfl, asked, stop⟩ := ih
      refine ⟨chunk :: front, back, request :: requests, rfl, ?_, stop⟩
      rw [List.map_cons, List.map_cons, held, asked]

/-- There is only one such run. -/
theorem requests_eq_takeWhile {chunks front back : List Bytes} {requests : List Request}
    (split : chunks = front ++ back) (asked : front.map Wire.request? = requests.map some)
    (stop : ∀ chunk ∈ back.head?, Wire.request? chunk = none) :
    requests.map some = (chunks.map Wire.request?).takeWhile Option.isSome := by
  have all : ∀ held ∈ requests.map some, Option.isSome held = true := by
    intro held mem
    obtain ⟨request, -, rfl⟩ := List.mem_map.mp mem
    rfl
  rw [split, List.map_append, asked, List.takeWhile_append_of_pos all]
  cases back with
  | nil => rw [List.map_nil, List.takeWhile_nil, List.append_nil]
  | cons chunk back =>
    rw [List.map_cons, stop chunk rfl, List.takeWhile_cons_of_neg Bool.false_ne_true,
      List.append_nil]

/-- Of a stream exactly the chunks before the first that holds no request are executed, one at a
time and in their order. Each gets one line, the answer of the registry that those before it have
left. Then the connection is closed, and nothing that stands behind has any effect. -/
theorem requests_served (member : Member) (registry : Registry) (nextRequest : Nat)
    (stream : Bytes) :
    ∃ (front back : List Bytes) (requests : List Request),
      Wire.chunks Wire.maxFrame stream = front ++ back ∧
      front.map Wire.request? = requests.map some ∧
      (∀ chunk ∈ back.head?, Wire.request? chunk = none) ∧
      (∀ k ≤ requests.length, ∃ next,
        step^[k] (begin (.resting member registry nextRequest) stream) =
          ⟨.resting member (registry.afterAll (requests.take k)) next,
            (front.drop k ++ back).flatten, requests.take k,
            Response.lines (registry.answers (requests.take k)), none⟩ ∧
        (Response.lines (registry.answers (requests.take k))).count Wire.newline = k) ∧
      ∃ closing next,
        (∀ n > requests.length, step^[n] (begin (.resting member registry nextRequest) stream) =
          ⟨.resting member (registry.afterAll requests) next, back.tail.flatten, requests,
            Response.lines (registry.answers requests), some closing⟩) ∧
        (back = [] → closing = .endOfStream) ∧
        (∀ chunk ∈ back.head?, ∃ error, closing = .refused error ∧
          Wire.readChunk Wire.maxFrame Request.ofJson? chunk = .fault error) ∧
        (Grid.resting member registry nextRequest).serve stream =
          ⟨Response.lines (registry.answers requests), back.isEmpty,
            .resting member (registry.afterAll requests) next⟩ := by
  obtain ⟨front, back, requests, split, asked, stop⟩ :=
    exists_requests (Wire.chunks Wire.maxFrame stream)
  refine ⟨front, back, requests, split, asked, stop, ?_, ?_⟩
  · intro k bound
    have split' : Wire.chunks Wire.maxFrame stream = front.take k ++ (front.drop k ++ back) := by
      rw [← List.append_assoc, List.take_append_drop, split]
    have asked' : (front.take k).map Wire.request? = (requests.take k).map some := by
      rw [List.map_take, asked, List.map_take]
    obtain ⟨⟨next, run⟩, -⟩ := iterate_of_requests
      (s := begin (.resting member registry nextRequest) stream) rfl rfl split' asked'
    rw [List.length_take_of_le bound] at run
    refine ⟨next, run, ?_⟩
    rw [Response.count_newline_lines, Registry.length_answers, List.length_take_of_le bound]
  · obtain ⟨⟨next, run⟩, rest⟩ := iterate_of_requests
      (s := begin (.resting member registry nextRequest) stream) rfl rfl split asked
    obtain ⟨closing, stepped, ended, refused⟩ := step_of_no_request
      (s := step^[requests.length] (begin (.resting member registry nextRequest) stream))
      (by rw [run]) (by rw [run]; exact rest) stop
    rw [run] at stepped
    have closed : step^[requests.length + 1] (begin (.resting member registry nextRequest) stream) =
        ⟨.resting member (registry.afterAll requests) next, back.tail.flatten, requests,
          Response.lines (registry.answers requests), some closing⟩ := by
      rw [Function.iterate_succ_apply', run, stepped]
      rfl
    refine ⟨closing, next, ?_, ended, refused, ?_⟩
    · intro n later
      rw [← closed]
      exact iterate_of_le (by rw [closed]) later
    · have served := outcome_iterate (requests.length + 1)
        (begin (.resting member registry nextRequest) stream)
      rw [closed, outcome_begin] at served
      rw [← served]
      cases back with
      | nil =>
        obtain rfl := ended rfl
        rfl
      | cons chunk later =>
        obtain ⟨error, rfl, -⟩ := refused chunk rfl
        rfl

/-- A cache is created and the caches are listed. Then comes a line that is no request, and one that
would be. -/
def spoiltLines : List String :=
  ["\x7b\"op\":\"create_cache\",\"cache\":\x7b\"name\":\"a\"\x7d\x7d",
    "\x7b\"op\":\"cache_names\"\x7d", "\x7b\x7d",
    "\x7b\"op\":\"destroy_cache\",\"name\":\"a\"\x7d"]

theorem requests_served_spoilt :
    ∃ next, (Grid.resting ⟨"node", "node", 1, ∅⟩ ∅ 0).serve
        (spoiltLines.flatMap fun line => Utf8.encode line ++ [0x0A]) =
      ⟨("\x7b\"status\":\"done\"\x7d\n" ++
          "\x7b\"status\":\"cache_names\",\"names\":[\"a\"]\x7d\n").toUTF8.data.toList,
        false, .resting ⟨"node", "node", 1, ∅⟩ ((∅ : Registry).insert "a" (.bare "a")) next⟩ := by
  have parts : Wire.chunks Wire.maxFrame
      (spoiltLines.flatMap fun line => Utf8.encode line ++ [0x0A]) =
        spoiltLines.map fun line => Utf8.encode line ++ [0x0A] := by
    have each : ∀ line ∈ spoiltLines.map Utf8.encode,
        Wire.newline ∉ line ∧ line.length ≤ Wire.maxFrame := by
      decide +kernel
    have lines := Wire.chunks_lines each
    rw [List.flatMap_map, List.map_map] at lines
    exact lines
  obtain ⟨front, back, requests, split, asked, stop, -, closing, next, -, -, -, served⟩ :=
    requests_served ⟨"node", "node", 1, ∅⟩ ∅ 0
      (spoiltLines.flatMap fun line => Utf8.encode line ++ [0x0A])
  have few := requests_eq_takeWhile split asked stop
  have known : requests = [.createCache (.bare "a"), .cacheNames] := by
    have held : (Wire.chunks Wire.maxFrame
        (spoiltLines.flatMap fun line => Utf8.encode line ++ [0x0A])).map Wire.request? =
          [some (.createCache (.bare "a")), some .cacheNames, none, some (.destroyCache "a")] := by
      rw [parts]
      decide +kernel
    rw [held] at few
    exact (List.map_inj_right fun _ _ => Option.some.inj).mp few
  subst known
  have more : back.isEmpty = false := by
    cases back with
    | nil =>
      have lengths := congrArg List.length split
      rw [parts, List.append_nil] at lengths
      have answered := congrArg List.length asked
      rw [List.length_map, ← lengths] at answered
      cases answered
    | cons => rfl
  refine ⟨next, served.trans ?_⟩
  rw [more]
  refine congrArg₂ (Served.mk · false ·) ?_ rfl
  decide +kernel

end Serving

end GridSchema
