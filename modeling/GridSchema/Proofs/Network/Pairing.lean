import GridSchema.Proofs.Network.Events

/-! Answers and the requests they are taken for. Until an answer is over the limit each call gets
its own; after one that was, calls may get the answers to earlier requests. -/

namespace GridSchema

namespace Network

/-- An instance at rest that sends the definition of a cache sends the one that was asked for. -/
theorem name_of_reply {network : Network} (ready : network.Ready) {name : String}
    {connection : Connection} {cache : CacheDefinition}
    (replied : (reply (.cacheConfiguration name) connection network).1 =
      some (.cacheConfiguration cache)) : cache.name = name := by
  obtain ⟨number, registry, rfl, named, holds, fits⟩ := ready.of_reply replied
  obtain ⟨network', answered, -⟩ := holds.reply fits
  rw [answered] at replied
  exact Registry.name_of_find? named
    (Registry.answer_cacheConfiguration_eq_iff.mp (Option.some.inj replied))

end Network

namespace ThinClient

/-- A server that sends prepared answers, one for each request. -/
def prepared : Peer Unit (List Response) where
  exchange _ remote
    | [] => ([], remote, [])
    | response :: rest => (Wire.frame response.toJson, remote, rest)

def preparedReply (_ : Request) (remote : Unit) :
    List Response → Option Response × Unit × List Response
  | [] => (none, remote, [])
  | response :: rest => (some response, remote, rest)

theorem prepared_replies : prepared.Replies preparedReply := by
  rintro request remote (_ | ⟨response, rest⟩) <;> rfl

/-- A call is paired with the answer to its own request, as long as no answer before it was over the
limit. In particular an instance that is asked for a cache is never found to have sent another
one. -/
theorem calls_paired_with_answers (before after : List CallRecord) (record : CallRecord)
    (fit : ∀ earlier ∈ before, earlier.Fits) :
    (∀ {κ ω : Type} (peer : Peer κ ω) (reply : Request → κ → ω → Option Response × κ × ω)
      (turns : List (Turn ω)) (client : ThinClient κ) (world : ω),
      peer.Replies reply → client.InStep →
      history peer reply turns (client, world) = before ++ record :: after → record.Paired) ∧
    ∀ (addressed : Bool) (events : List NetworkEvent)
      (calls : List (List NetworkEvent × Request)) (client : ThinClient Connection)
      (name : String) (cache : CacheDefinition),
      client.InStep →
      history Network.peer Network.reply (Network.turns calls)
        (client, (Network.empty addressed).run events) = before ++ record :: after →
      record.request = .cacheConfiguration name →
      record.result = .ok (.cacheConfiguration cache) → cache.name = name := by
  constructor
  · intro κ ω peer reply turns client world replies inStep split
    exact history_paired replies inStep split fit
  · intro addressed events calls client name cache inStep split asked ok
    have paired := history_paired Network.replies inStep split fit
    obtain ⟨answer, sent, -, decoded⟩ := paired.of_ok ok
    obtain ⟨rfl, -⟩ := Request.decode_eq_ok decoded
    have mem : record ∈ history Network.peer Network.reply _ _ :=
      split ▸ List.mem_append_right before List.mem_cons_self
    refine answer_of_mem_history Network.Ready
      (fun request response => ∀ name cache, request = .cacheConfiguration name →
        response = .cacheConfiguration cache → cache.name = name)
      ?_ Network.Ready.peer Network.Ready.meanwhile
      ((Network.ready_empty addressed).run events) mem sent name cache asked rfl
    rintro request connection network response ready replied name cache rfl rfl
    exact Network.name_of_reply ready replied

theorem calls_paired_with_answers_twice :
    (∃ first second,
      history prepared preparedReply [⟨id, .cacheNames⟩, ⟨id, .destroyCache "a"⟩]
          (connected ⟨.loopback, 4000⟩ "user" (),
            [.cacheNames ["a"], .failure .cacheNotFound "a"]) = [first, second] ∧
        second.Paired) ∧
    ∃ first second cache,
      history Network.peer Network.reply
          (Network.turns [([], .createCache Wire.oddCache),
            ([], .cacheConfiguration Wire.oddCache.name)])
          (lone, (Network.empty true).run [.start ⟨defaultHost, 4000⟩]) = [first, second] ∧
        second.result = .ok (.cacheConfiguration cache) ∧ cache.name = Wire.oddCache.name := by
  constructor
  · have split := history_pair prepared preparedReply ⟨id, .cacheNames⟩ ⟨id, .destroyCache "a"⟩
      (connected ⟨.loopback, 4000⟩ "user" (), [.cacheNames ["a"], .failure .cacheNotFound "a"])
    have names : Response.Fits (.cacheNames ["a"]) := by
      rw [Response.fits_iff]
      decide +kernel
    have fits : CallRecord.Fits (record prepared preparedReply .cacheNames
        (connected ⟨.loopback, 4000⟩ "user" (),
          [.cacheNames ["a"], .failure .cacheNotFound "a"])) :=
      fun _ sent => Option.some.inj sent ▸ names
    exact ⟨_, _, split,
      (calls_paired_with_answers [_] [] _ (List.forall_mem_singleton.mpr fits)).1
        prepared preparedReply _ _ _ prepared_replies (inStep_connected _ _ _) split⟩
  · obtain ⟨network, _, made, read⟩ := calls_lone Network.holds_lone
    have split := history_pair Network.peer Network.reply
      ⟨fun network => network.run [], .createCache Wire.oddCache⟩
      ⟨fun network => network.run [], .cacheConfiguration Wire.oddCache.name⟩ (lone, Network.lone)
    rw [take_of_call made] at split
    have fits := (record_paired Network.replies inStep_lone (.createCache Wire.oddCache)
      Network.lone).1.fits_of_ok (result_of_call _ made)
    have result := result_of_call Network.reply read
    exact ⟨_, _, Wire.oddCache, split, result,
      (calls_paired_with_answers [_] [] _ (List.forall_mem_singleton.mpr fits)).2
        true [.start ⟨defaultHost, 4000⟩]
        [([], .createCache Wire.oddCache), ([], .cacheConfiguration Wire.oddCache.name)] lone
        _ _ inStep_lone split rfl result⟩

/-! ### An answer over the limit -/

/-- The answer that there is one cache, whose name is an `a` over and over. -/
def longAnswer (length : Nat) : Response :=
  .cacheNames [String.ofList (List.replicate length 'a')]

def longAnswerStart : Bytes :=
  Utf8.encode "\x7b\"status\":\"cache_names\",\"names\":[\""

def longAnswerEnd : Bytes :=
  Utf8.encode "\"]\x7d"

theorem line_cacheNames_singleton (name : String) :
    Response.codec.line (.cacheNames [name]) =
      longAnswerStart ++ Utf8.encode (Json.escape name) ++ longAnswerEnd := by
  have front : "\x7b\"" ++ Json.escape "status" ++ "\":" ++ Json.render (.ofText "cache_names") ++
      ",\"" ++ Json.escape "names" ++ "\":" ++ "[" ++ "\"" =
        "\x7b\"status\":\"cache_names\",\"names\":[\"" := by
    decide
  have back : "\"" ++ "" ++ "]" ++ "" ++ "\x7d" = "\"]\x7d" := by
    decide
  have render : (Response.cacheNames [name]).toJson.render =
      "\x7b\"" ++ Json.escape "status" ++ "\":" ++ Json.render (.ofText "cache_names") ++
        (",\"" ++ Json.escape "names" ++ "\":" ++
          ("[" ++ ("\"" ++ Json.escape name ++ "\"") ++ "" ++ "]") ++ "") ++ "\x7d" := rfl
  change Utf8.encode (Response.cacheNames [name]).toJson.render = _
  rw [render, longAnswerStart, longAnswerEnd, ← front, ← back]
  simp only [Utf8.encode_append, List.append_assoc]

theorem line_longAnswer (length : Nat) :
    Response.codec.line (longAnswer length) =
      longAnswerStart ++ List.replicate length 0x61 ++ longAnswerEnd := by
  have escaped : Json.escapeChar 'a' = ['a'] := rfl
  have encoded : String.utf8EncodeChar 'a' = [0x61] := rfl
  rw [longAnswer, line_cacheNames_singleton, Json.escape_replicate escaped,
    Utf8.encode_replicate encoded]

theorem decodeLine_longAnswerEnd :
    Wire.decodeLine (longAnswerEnd ++ [Wire.newline]) = .error (.client .malformedFrame) := by
  rfl

/-- A long answer leaves its end unread. -/
theorem drop_line_longAnswer {length : Nat}
    (long : longAnswerStart.length + length = Wire.maxFrame + 1) :
    (Response.codec.line (longAnswer length)).drop (Wire.maxFrame + 1) = longAnswerEnd := by
  rw [line_longAnswer, ← long]
  exact List.drop_left' (by simp)

theorem not_fits_longAnswer {length : Nat}
    (long : longAnswerStart.length + length = Wire.maxFrame + 1) : ¬ (longAnswer length).Fits := by
  intro fits
  change (Response.codec.line (longAnswer length)).length ≤ Wire.maxFrame at fits
  rw [line_longAnswer] at fits
  simp only [List.length_append, List.length_replicate] at fits
  omega

theorem fits_bare : (Response.cacheConfiguration (.bare "a")).Fits := by
  rw [Response.fits_iff]
  decide

/-- Asked for two caches after an answer over the limit, a client reads the end of that for the
first, and the definition of the first for the second. -/
theorem history_longAnswer {length : Nat}
    (long : longAnswerStart.length + length = Wire.maxFrame + 1) (endpoint : Endpoint)
    (user : String) :
    history prepared preparedReply
        [⟨id, .cacheNames⟩, ⟨id, .cacheConfiguration "a"⟩, ⟨id, .cacheConfiguration "b"⟩]
        (connected endpoint user (),
          [longAnswer length, .cacheConfiguration (.bare "a"), .cacheConfiguration (.bare "b")]) =
      [⟨.cacheNames, some (longAnswer length), .error .oversizedAnswer⟩,
        ⟨.cacheConfiguration "a", some (.cacheConfiguration (.bare "a")),
          .error (.client .malformedFrame)⟩,
        ⟨.cacheConfiguration "b", some (.cacheConfiguration (.bare "b")),
          .ok (.cacheConfiguration (.bare "a"))⟩] := by
  let client (unread : Bytes) : ThinClient Unit :=
    ⟨some ⟨unread, ()⟩, endpoint, user, defaultSchema⟩
  let a : Response := .cacheConfiguration (.bare "a")
  let b : Response := .cacheConfiguration (.bare "b")
  -- from the first answer on, each call begins with what the one before it left unread
  have first : call prepared .cacheNames (client [], [longAnswer length, a, b]) =
      (.error .oversizedAnswer, client (longAnswerEnd ++ [Wire.newline]), [a, b]) := by
    rw [call_of_not_fits endpoint user defaultSchema prepared_replies rfl
      (not_fits_longAnswer long), drop_line_longAnswer long]
  have malformed : Wire.readFrame Wire.maxFrame Response.ofJson?
      ((longAnswerEnd ++ [Wire.newline]) ++ Wire.frame a.toJson) =
        (.fault (.client .malformedFrame), Wire.frame a.toJson) := by
    rw [List.append_assoc, List.singleton_append,
      Wire.readFrame_of_le (by decide) _ _ (by decide), Wire.readChunk,
      decodeLine_longAnswerEnd]
    rfl
  have second : call prepared (.cacheConfiguration "a")
      (client (longAnswerEnd ++ [Wire.newline]), [a, b]) =
        (.error (.client .malformedFrame), client (Wire.frame a.toJson), [b]) :=
    call_of_fault endpoint user defaultSchema prepared_replies rfl malformed
  have third : call prepared (.cacheConfiguration "b") (client (Wire.frame a.toJson), [b]) =
      (.ok a, client (Wire.frame b.toJson), []) := by
    have fits : (Response.codec.line a).length ≤ Wire.maxFrame := fits_bare
    have read := Response.codec.readFrame_frame fits (Wire.frame b.toJson)
    exact call_of_message endpoint user defaultSchema prepared_replies rfl read
  change history prepared preparedReply _ (client [], [longAnswer length, a, b]) = _
  simp only [history, record, take, id_eq, first, second, third]
  rfl

/-- It is not so that a call returns what the answer to its own request says, or fails on the
client's side, whatever answers came before. -/
theorem calls_mispaired_after_oversized :
    ¬ ∀ (peer : Peer Unit (List Response))
        (reply : Request → Unit → List Response → Option Response × Unit × List Response)
        (turns : List (Turn (List Response))) (client : ThinClient Unit) (answers : List Response),
        peer.Replies reply → client.InStep →
        ∀ record ∈ history peer reply turns (client, answers),
          (∃ fault, record.result = .error (.client fault)) ∨
            record.result = .error .clientClosed ∨
            ∃ answer, record.answer = some answer ∧
              record.result = record.request.decode answer := by
  intro paired
  have start : longAnswerStart.length ≤ Wire.maxFrame + 1 := by decide +kernel
  have seen := history_longAnswer (Nat.add_sub_of_le start) ⟨.loopback, 4000⟩ "user"
  have last := paired prepared preparedReply
    [⟨id, .cacheNames⟩, ⟨id, .cacheConfiguration "a"⟩, ⟨id, .cacheConfiguration "b"⟩]
    (connected ⟨.loopback, 4000⟩ "user" ()) _ prepared_replies (inStep_connected _ _ _)
    ⟨.cacheConfiguration "b", some (.cacheConfiguration (.bare "b")),
      .ok (.cacheConfiguration (.bare "a"))⟩ (by rw [seen]; simp)
  rcases last with ⟨fault, h⟩ | h | ⟨answer, sent, h⟩
  · cases h
  · cases h
  · obtain rfl := Option.some.inj sent
    have same : CacheDefinition.bare "a" = .bare "b" := by
      simpa [Request.decode, Response.outcome, Except.bind, Response.answers] using h
    exact absurd (congrArg CacheDefinition.name same) (by decide)

end ThinClient

end GridSchema
