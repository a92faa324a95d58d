import GridSchema.Proofs.Instance.Resting
import GridSchema.Proofs.Json.Truncation
import GridSchema.Proofs.Wire.Stream

/-! Frames cut short. The last frame of a stream needs no newline, and still a part of it is never
taken for a message: no text of an object has a shorter one at its start. -/

namespace GridSchema

namespace Wire

variable {α : Type} {limit : Nat} {front back : Bytes}

theorem readFrame_last {line : Bytes} (oneLine : newline ∉ line) (held : line ≠ [])
    (fits : line.length ≤ limit) (ofJson? : Json → Option α) :
    readFrame limit ofJson? line = (decoded ofJson? line, []) := by
  rw [readFrame, takeLine_of_ends oneLine [] (Nat.lt_succ_of_le fits)]
  change (readChunk limit ofJson? line, []) = _
  rw [readChunk_eq held (Nat.le_succ_of_le fits), if_neg (by omega)]

namespace Codec

variable (codec : Codec α) {message : α}

variable (message) in
/-- The text of a message is decoded without the newline. -/
theorem decodeLine_line : decodeLine (codec.line message) = .ok (codec.toJson message) := by
  have written := codec.written message
  have room : ∀ most ∈ some maxNesting, 6 ≤ most := by simp [maxNesting]
  have parsed : Json.parseWithin? (some maxNesting) (codec.toJson message).render =
      some (codec.toJson message) := by
    obtain ⟨members, eq⟩ := codec.isObject message
    rw [eq] at written ⊢
    exact written.parseWithin?_object room
  rw [decodeLine, line, Utf8.decode?_encode]
  simp [parsed, written.sound]

/-- Wherever the text of a message is cut, also inside a character, its start is malformed. -/
theorem decodeLine_of_cut (cut : codec.line message = front ++ back) (left : back ≠ []) :
    decodeLine front = .error (.client .malformedFrame) := by
  have unread :
      (Utf8.decode? front).bind (Json.parseWithin? (some maxNesting)) = none := by
    rw [Option.bind_eq_none_iff]
    intro start decoded
    obtain ⟨more, split, some⟩ := Utf8.exists_of_decode? cut left decoded
    have written := codec.written message
    have room : ∀ most ∈ Option.some maxNesting, 6 ≤ most := by simp [maxNesting]
    obtain ⟨members, eq⟩ := codec.isObject message
    rw [eq] at written split
    have unread := written.parseWithin?_of_cut room split some
    rwa [String.ofList_toList] at unread
  rw [decodeLine, unread]

variable (fits : (codec.line message).length ≤ limit)
include fits

theorem readFrame_line :
    readFrame limit codec.ofJson? (codec.line message) = (.message message, []) := by
  have held : codec.line message ≠ [] := by
    intro none
    have read := codec.decodeLine_line message
    rw [none] at read
    cases read
  rw [readFrame_last (codec.newline_notMem_line message) held fits, decoded, codec.decodeLine_line]
  simp only [codec.ofJson?_toJson]

theorem readFrame_of_cut (cut : codec.line message = front ++ back) (held : front ≠ [])
    (left : back ≠ []) :
    readFrame limit codec.ofJson? front = (.fault (.client .malformedFrame), []) := by
  have oneLine : newline ∉ front := fun h =>
    codec.newline_notMem_line message (cut ▸ List.mem_append_left back h)
  have short : front.length ≤ limit := by
    rw [cut, List.length_append] at fits
    omega
  rw [readFrame_last oneLine held short, decoded, codec.decodeLine_of_cut cut left]

end Codec

/-- The text of a request or an answer within the limit is read also without its newline. A part of
it from its start, wherever it is cut off, is malformed, and a server that is sent such a part of a
request closes the connection and does nothing else. -/
theorem truncated_frames_refused :
    (∀ request : Request, (Utf8.encode request.toJson.render).length ≤ maxFrame →
      readFrame maxFrame Request.ofJson? (Utf8.encode request.toJson.render) =
        (.message request, []) ∧
      ∀ front back, Utf8.encode request.toJson.render = front ++ back → front ≠ [] → back ≠ [] →
        readFrame maxFrame Request.ofJson? front = (.fault (.client .malformedFrame), []) ∧
        ∀ grid : Grid, grid.serve front = ⟨[], false, grid⟩) ∧
    (∀ response : Response, (Utf8.encode response.toJson.render).length ≤ maxFrame →
      readFrame maxFrame Response.ofJson? (Utf8.encode response.toJson.render) =
        (.message response, []) ∧
      ∀ front back, Utf8.encode response.toJson.render = front ++ back → front ≠ [] → back ≠ [] →
        readFrame maxFrame Response.ofJson? front = (.fault (.client .malformedFrame), [])) := by
  constructor
  · intro request fits
    refine ⟨Request.codec.readFrame_line fits, ?_⟩
    intro front back cut held left
    have refused := Request.codec.readFrame_of_cut fits cut held left
    exact ⟨refused, fun _ => Grid.serve_of_fault refused⟩
  · intro response fits
    refine ⟨Response.codec.readFrame_line fits, ?_⟩
    intro front back cut held left
    exact Response.codec.readFrame_of_cut fits cut held left

/-- The start of a request, cut off inside a character of two bytes. -/
def splitStart : Bytes :=
  (Utf8.encode (Request.destroyCache "é").toJson.render).take 31

theorem truncated_frames_refused_split :
    (Utf8.encode (Request.destroyCache "é").toJson.render).length ≤ maxFrame ∧
    (Utf8.encode (Response.cacheNames ["\n"]).toJson.render).length ≤ maxFrame ∧
    Utf8.decode? splitStart = none ∧
    readFrame maxFrame Request.ofJson? splitStart = (.fault (.client .malformedFrame), []) ∧
    readFrame maxFrame Response.ofJson?
        (Utf8.encode (Response.cacheNames ["\n"]).toJson.render) =
      (.message (.cacheNames ["\n"]), []) := by
  have requestFits : (Utf8.encode (Request.destroyCache "é").toJson.render).length ≤ maxFrame := by
    rw [Json.length_encode_render]
    decide +kernel
  have responseFits :
      (Utf8.encode (Response.cacheNames ["\n"]).toJson.render).length ≤ maxFrame := by
    rw [Json.length_encode_render]
    decide +kernel
  have cut := (List.take_append_drop 31
    (Utf8.encode (Request.destroyCache "é").toJson.render)).symm
  obtain ⟨requests, responses⟩ := truncated_frames_refused
  have refused := (requests (.destroyCache "é") requestFits).2 splitStart _ cut
    (by decide +kernel) (by decide +kernel)
  have read := (responses (.cacheNames ["\n"]) responseFits).1
  exact ⟨requestFits, responseFits, by decide +kernel, refused.1, read⟩

end Wire

end GridSchema
