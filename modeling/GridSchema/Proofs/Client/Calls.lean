import GridSchema.Client.Basic
import GridSchema.Proofs.Wire.Frame

/-! Calls of a client, one after another, with a server that answers each request with one frame or
closes the connection. As long as no answer is over the limit, nothing is left in the stream when
the next request is sent, and what is read then is the answer to it. -/

namespace GridSchema

/-! ### What a call makes of an answer -/

/-- Whether an answer is of the kind that a request asks for. -/
def Response.answers : Response → Request → Bool
  | .cacheNames _, .cacheNames => true
  | .cacheConfiguration _, .cacheConfiguration _ => true
  | .done, .createCache _ | .done, .destroyCache _ => true
  | _, _ => false

/-- What the call for a request returns when it has read an answer: the answer, the error that it
reports, or the error that it is of another kind. -/
def Request.decode (request : Request) (response : Response) : Except Error Response :=
  response.outcome.bind fun answer =>
    if answer.answers request then .ok answer else .error answer.unexpected

/-- A call that succeeded returns the answer itself, which is of the kind asked for. -/
theorem Request.decode_eq_ok {request : Request} {response returned : Response}
    (ok : request.decode response = .ok returned) :
    response = returned ∧ returned.answers request = true := by
  cases response with
  | failure kind message => cases ok
  | _ =>
    simp only [decode, Response.outcome, Except.bind] at ok
    split_ifs at ok with kind
    cases ok
    exact ⟨rfl, kind⟩

/-- Whether an answer is within the limit. -/
def Response.Fits (response : Response) : Prop :=
  (Utf8.encode response.toJson.render).length ≤ Wire.maxFrame

def Request.Fits (request : Request) : Prop :=
  (Utf8.encode request.toJson.render).length ≤ Wire.maxFrame

instance (response : Response) : Decidable response.Fits :=
  inferInstanceAs (Decidable (_ ≤ _))

instance (request : Request) : Decidable request.Fits :=
  inferInstanceAs (Decidable (_ ≤ _))

theorem Response.fits_iff (response : Response) :
    response.Fits ↔ response.toJson.size ≤ Wire.maxFrame := by
  rw [Fits, Json.length_encode_render]

theorem Request.fits_iff (request : Request) :
    request.Fits ↔ request.toJson.size ≤ Wire.maxFrame := by
  rw [Fits, Json.length_encode_render]

def Error.oversizedAnswer : Error :=
  .client (.oversizedFrame Wire.maxFrame)

variable {κ ω : Type}

/-- Whether the other end of a connection sends, for each request, the frame of the answer that
`reply` gives, or nothing before it closes the connection. -/
def Peer.Replies (peer : Peer κ ω) (reply : Request → κ → ω → Option Response × κ × ω) : Prop :=
  ∀ request remote world,
    peer.exchange (Wire.frame request.toJson) remote world =
      ((reply request remote world).1.elim [] fun response => Wire.frame response.toJson,
        (reply request remote world).2)

namespace ThinClient

def call (peer : Peer κ ω) (request : Request) (world : ThinClient κ × ω) :
    Except Error Response × ThinClient κ × ω :=
  match request with
  | .cacheNames =>
    let (result, world) := names peer world
    (result.map .cacheNames, world)
  | .cacheConfiguration name =>
    let (result, world) := definition peer name world
    (result.map .cacheConfiguration, world)
  | .createCache cache =>
    let (result, world) := create peer cache world
    (result.map fun _ => .done, world)
  | .destroyCache name =>
    let (result, world) := destroy peer name world
    (result.map fun _ => .done, world)

theorem ask_eq {α : Type} (peer : Peer κ ω) {request : Request} {expected? : Response → Option α}
    {answer : α → Response}
    (kind : ∀ response,
      (match expected? response with
        | some value => Except.ok value
        | none => .error response.unexpected).map answer =
      if response.answers request then .ok response else .error response.unexpected)
    (world : ThinClient κ × ω) :
    (ask peer request expected? world).1.map answer =
      (ThinClient.request peer request world).1.bind fun response =>
        if response.answers request then .ok response else .error response.unexpected := by
  simp only [ask]
  cases (ThinClient.request peer request world).1 with
  | error e => rfl
  | ok response => exact kind response

/-- A call sends its request and takes what was asked for out of the answer. -/
theorem call_eq (peer : Peer κ ω) (request : Request) (world : ThinClient κ × ω) :
    call peer request world =
      ((ThinClient.request peer request world).1.bind fun response =>
          if response.answers request then .ok response else .error response.unexpected,
        (ThinClient.request peer request world).2) := by
  refine Prod.ext ?_ (by cases request <;> rfl)
  cases request with
  | cacheNames => exact ask_eq peer (by rintro (_ | _ | _ | _) <;> rfl) world
  | cacheConfiguration name => exact ask_eq peer (by rintro (_ | _ | _ | _) <;> rfl) world
  | createCache cache => exact ask_eq peer (by rintro (_ | _ | _ | _) <;> rfl) world
  | destroyCache name => exact ask_eq peer (by rintro (_ | _ | _ | _) <;> rfl) world

/-! ### One call -/

section call

variable {peer : Peer κ ω} {reply : Request → κ → ω → Option Response × κ × ω}
  {request : Request} {remote remote' : κ} {world world' : ω}
  (endpoint : Endpoint) (user schema : String)

theorem call_of_closed :
    call peer request (⟨none, endpoint, user, schema⟩, world) =
      (.error .clientClosed, ⟨none, endpoint, user, schema⟩, world) := by
  rw [call_eq]
  rfl

variable (replies : peer.Replies reply)
include replies

/-- What a call reads is the first frame of what was left unread and the answer after it. -/
theorem call_of_message {unread rest : Bytes} {sent read : Response}
    (replied : reply request remote world = (some sent, remote', world'))
    (first : Wire.readFrame Wire.maxFrame Response.ofJson? (unread ++ Wire.frame sent.toJson) =
      (.message read, rest)) :
    call peer request (⟨some ⟨unread, remote⟩, endpoint, user, schema⟩, world) =
      (request.decode read, ⟨some ⟨rest, remote'⟩, endpoint, user, schema⟩, world') := by
  have exchanged := replies request remote world
  rw [replied] at exchanged
  rw [call_eq]
  simp [ThinClient.request, exchanged, first, Request.decode]

theorem call_of_fault {unread rest : Bytes} {sent : Response} {e : Error}
    (replied : reply request remote world = (some sent, remote', world'))
    (first : Wire.readFrame Wire.maxFrame Response.ofJson? (unread ++ Wire.frame sent.toJson) =
      (.fault e, rest)) :
    call peer request (⟨some ⟨unread, remote⟩, endpoint, user, schema⟩, world) =
      (.error e, ⟨some ⟨rest, remote'⟩, endpoint, user, schema⟩, world') := by
  have exchanged := replies request remote world
  rw [replied] at exchanged
  rw [call_eq]
  simp [ThinClient.request, exchanged, first]
  rfl

theorem call_of_silence (replied : reply request remote world = (none, remote', world')) :
    call peer request (⟨some ⟨[], remote⟩, endpoint, user, schema⟩, world) =
      (.error (.client (.connectionClosed endpoint.text)),
        ⟨none, endpoint, user, schema⟩, world') := by
  have exchanged := replies request remote world
  rw [replied] at exchanged
  rw [call_eq]
  simp [ThinClient.request, exchanged, Wire.readFrame_nil, close]
  rfl

variable {response : Response}
  (replied : reply request remote world = (some response, remote', world'))
include replied

/-- An answer within the limit is what the call for it reads. -/
theorem call_of_fits (fits : response.Fits) :
    call peer request (⟨some ⟨[], remote⟩, endpoint, user, schema⟩, world) =
      (request.decode response, ⟨some ⟨[], remote'⟩, endpoint, user, schema⟩, world') := by
  refine call_of_message endpoint user schema replies replied ?_
  have first := Response.codec.readFrame_frame fits []
  rwa [List.append_nil] at first

/-- Of an answer over the limit the end is left unread. -/
theorem call_of_not_fits (long : ¬ response.Fits) :
    call peer request (⟨some ⟨[], remote⟩, endpoint, user, schema⟩, world) =
      (.error .oversizedAnswer,
        ⟨some ⟨(Response.codec.line response).drop (Wire.maxFrame + 1) ++ [Wire.newline], remote'⟩,
          endpoint, user, schema⟩, world') := by
  refine call_of_fault endpoint user schema replies replied ?_
  have first := Response.codec.readFrame_oversized (Nat.lt_of_not_le long) []
  rwa [List.append_nil] at first

end call

end ThinClient

/-! ### Calls one after another -/

/-- A call to be made once others have acted on the world. -/
structure Turn (ω : Type) where
  meanwhile : ω → ω
  request : Request

/-- A call that was made: what was asked, what the server sent for it and what the call returned. -/
structure CallRecord where
  request : Request
  answer : Option Response
  result : Except Error Response

namespace CallRecord

def Fits (record : CallRecord) : Prop :=
  ∀ answer ∈ record.answer, answer.Fits

/-- A call returned what its own answer says, or why that could not be read: it is over the limit,
or none came because the connection has ended. -/
inductive Paired (record : CallRecord) : Prop where
  | answered (answer : Response) (sent : record.answer = some answer) (fits : answer.Fits)
    (result : record.result = record.request.decode answer)
  | oversized (answer : Response) (sent : record.answer = some answer) (long : ¬ answer.Fits)
    (result : record.result = .error .oversizedAnswer)
  | unanswered (silent : record.answer = none)
    (result : record.result = .error .clientClosed ∨
      ∃ peer, record.result = .error (.client (.connectionClosed peer)))

variable {record : CallRecord}

/-- A call that succeeded has read its answer. -/
theorem Paired.of_ok (paired : record.Paired) {returned : Response}
    (ok : record.result = .ok returned) :
    ∃ answer, record.answer = some answer ∧ answer.Fits ∧
      record.request.decode answer = .ok returned := by
  cases paired with
  | answered answer sent fits result => exact ⟨answer, sent, fits, result.symm.trans ok⟩
  | oversized answer sent long result => exact nomatch result.symm.trans ok
  | unanswered silent result =>
    rcases result with result | ⟨_, result⟩ <;> exact nomatch result.symm.trans ok

theorem Paired.fits_of_ok (paired : record.Paired) {returned : Response}
    (ok : record.result = .ok returned) : record.Fits := by
  obtain ⟨answer, sent, fits, -⟩ := paired.of_ok ok
  intro other mem
  rw [sent] at mem
  exact Option.some.inj mem ▸ fits

end CallRecord

namespace ThinClient

def InStep (client : ThinClient κ) : Prop :=
  ∀ link ∈ client.link, link.unread = []

theorem inStep_connected (endpoint : Endpoint) (user : String) (remote : κ) :
    (connected endpoint user remote).InStep := by
  intro link h
  cases h
  rfl

variable (peer : Peer κ ω) (reply : Request → κ → ω → Option Response × κ × ω)

def record (request : Request) (world : ThinClient κ × ω) : CallRecord where
  request := request
  answer := world.1.link.bind fun link => (reply request link.remote world.2).1
  result := (call peer request world).1

def take (turn : Turn ω) (world : ThinClient κ × ω) : ThinClient κ × ω :=
  (call peer turn.request (world.1, turn.meanwhile world.2)).2

def history : List (Turn ω) → ThinClient κ × ω → List CallRecord
  | [], _ => []
  | turn :: turns, world =>
    record peer reply turn.request (world.1, turn.meanwhile world.2) ::
      history turns (take peer turn world)

def after : List (Turn ω) → ThinClient κ × ω → ThinClient κ × ω
  | [], world => world
  | turn :: turns, world => after turns (take peer turn world)

/-- A call leaves the world alone, or sends something over the connection. -/
theorem world_call (request : Request) (client : ThinClient κ) (world : ω) :
    (call peer request (client, world)).2.2 = world ∨ ∃ bytes remote,
      (call peer request (client, world)).2.2 = (peer.exchange bytes remote world).2.2 := by
  rw [call_eq]
  obtain ⟨_ | ⟨unread, remote⟩, endpoint, user, schema⟩ := client
  · exact .inl rfl
  · refine .inr ⟨Wire.frame request.toJson, remote, ?_⟩
    simp only [ThinClient.request]
    split <;> rfl

variable {peer} in
theorem result_of_call {request : Request} {result : Except Error Response}
    {world next : ThinClient κ × ω} (called : call peer request world = (result, next)) :
    (record peer reply request world).result = result := by
  rw [record, called]

variable {peer} in
theorem take_of_call {turn : Turn ω} {result : Except Error Response}
    {world next : ThinClient κ × ω}
    (called : call peer turn.request (world.1, turn.meanwhile world.2) = (result, next)) :
    take peer turn world = next := by
  rw [take, called]

theorem history_pair (first second : Turn ω) (world : ThinClient κ × ω) :
    history peer reply [first, second] world =
      [record peer reply first.request (world.1, first.meanwhile world.2),
        record peer reply second.request ((take peer first world).1,
          second.meanwhile (take peer first world).2)] := rfl

variable {peer reply}

theorem kind_call (Kind : ω → Prop)
    (exchanged : ∀ bytes remote world, Kind world → Kind (peer.exchange bytes remote world).2.2)
    (request : Request) {client : ThinClient κ} {world : ω} (kind : Kind world) :
    Kind (call peer request (client, world)).2.2 := by
  rcases world_call peer request client world with same | ⟨bytes, remote, next⟩
  · exact same.symm ▸ kind
  · exact next.symm ▸ exchanged bytes remote world kind

/-- What holds of every answer that is given in a world of some kind holds of the answers to calls,
if the world stays of that kind. -/
theorem answer_of_mem_history (Kind : ω → Prop) (Holds : Request → Response → Prop)
    (answered : ∀ request remote world response, Kind world →
      (reply request remote world).1 = some response → Holds request response)
    (exchanged : ∀ bytes remote world, Kind world → Kind (peer.exchange bytes remote world).2.2)
    {turns : List (Turn ω)} (meanwhile : ∀ turn ∈ turns, ∀ world, Kind world →
      Kind (turn.meanwhile world))
    {client : ThinClient κ} {world : ω} (kind : Kind world) {record : CallRecord}
    (mem : record ∈ history peer reply turns (client, world)) {response : Response}
    (sent : record.answer = some response) : Holds record.request response := by
  induction turns generalizing client world with
  | nil => exact nomatch mem
  | cons turn turns ih =>
    have now := meanwhile turn List.mem_cons_self world kind
    rcases List.mem_cons.mp mem with rfl | mem
    · obtain ⟨link, -, replied⟩ := Option.bind_eq_some_iff.mp sent
      exact answered _ _ _ _ now replied
    · refine ih (fun t h => meanwhile t (List.mem_cons_of_mem _ h)) ?_ mem
      exact kind_call Kind exchanged turn.request now

theorem kind_after (Kind : ω → Prop)
    (exchanged : ∀ bytes remote world, Kind world → Kind (peer.exchange bytes remote world).2.2)
    {turns : List (Turn ω)} (meanwhile : ∀ turn ∈ turns, ∀ world, Kind world →
      Kind (turn.meanwhile world))
    {client : ThinClient κ} {world : ω} (kind : Kind world) :
    Kind (after peer turns (client, world)).2 := by
  induction turns generalizing client world with
  | nil => exact kind
  | cons turn turns ih =>
    refine ih (fun t h => meanwhile t (List.mem_cons_of_mem _ h)) ?_
    exact kind_call Kind exchanged turn.request (meanwhile turn List.mem_cons_self world kind)

variable (replies : peer.Replies reply) {client : ThinClient κ} (inStep : client.InStep)
include replies inStep

/-- With nothing left unread, a call is paired with its own answer, and nothing is left unread
again unless that was over the limit. -/
theorem record_paired (request : Request) (world : ω) :
    (record peer reply request (client, world)).Paired ∧
      ((record peer reply request (client, world)).Fits →
        (call peer request (client, world)).2.1.InStep) := by
  obtain ⟨_ | ⟨unread, remote⟩, endpoint, user, schema⟩ := client
  · rw [record, call_of_closed]
    exact ⟨.unanswered rfl (.inl rfl), fun _ _ h => nomatch h⟩
  · obtain rfl : unread = [] := inStep _ rfl
    rcases replied : reply request remote world with ⟨answer, remote', world'⟩
    rw [CallRecord.Fits, record]
    simp only [Option.bind_some, replied]
    cases answer with
    | none =>
      rw [call_of_silence endpoint user schema replies replied]
      exact ⟨.unanswered rfl (.inr ⟨_, rfl⟩), fun _ _ h => nomatch h⟩
    | some response =>
      by_cases fits : response.Fits
      · rw [call_of_fits endpoint user schema replies replied fits]
        exact ⟨.answered response rfl fits rfl, fun _ link h => by cases h; rfl⟩
      · rw [call_of_not_fits endpoint user schema replies replied fits]
        exact ⟨.oversized response rfl fits rfl, fun within => absurd (within response rfl) fits⟩

/-- Each call is paired with its own answer as long as no earlier answer was over the limit. -/
theorem history_paired {turns : List (Turn ω)} {world : ω} {before after : List CallRecord}
    {record : CallRecord}
    (split : history peer reply turns (client, world) = before ++ record :: after)
    (fit : ∀ earlier ∈ before, earlier.Fits) : record.Paired := by
  -- what carries the induction is that the client is in step again after an answer that fits
  induction turns generalizing client world before with
  | nil => exact absurd split (by simp [history])
  | cons turn turns ih =>
    obtain ⟨paired, next⟩ := record_paired replies inStep turn.request (turn.meanwhile world)
    cases before with
    | nil => exact (List.cons.inj split).1 ▸ paired
    | cons first before =>
      obtain ⟨rfl, rest⟩ := List.cons.inj split
      exact ih (next (fit _ List.mem_cons_self)) rest fun e h => fit e (List.mem_cons_of_mem _ h)

/-- Nothing is left unread after calls that all succeeded. -/
theorem inStep_after {turns : List (Turn ω)} {world : ω}
    (succeeded : ∀ record ∈ history peer reply turns (client, world),
      ∃ answer, record.result = .ok answer) :
    (after peer turns (client, world)).1.InStep := by
  induction turns generalizing client world with
  | nil => exact inStep
  | cons turn turns ih =>
    obtain ⟨paired, next⟩ := record_paired replies inStep turn.request (turn.meanwhile world)
    obtain ⟨answer, ok⟩ := succeeded _ List.mem_cons_self
    exact ih (next (paired.fits_of_ok ok)) fun r h => succeeded r (List.mem_cons_of_mem _ h)

end ThinClient

end GridSchema
