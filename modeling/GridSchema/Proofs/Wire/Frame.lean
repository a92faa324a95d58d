import GridSchema.Proofs.Json.Size
import GridSchema.Proofs.Wire.Message
import GridSchema.Wire.Frame

/-! Frames are read back from a stream one after another. A frame over the limit is not: what is
left of its line stays in the stream. -/

namespace GridSchema.Wire

variable {α : Type}

/-! ### Lines of a stream -/

section line

variable {line : Bytes} (oneLine : newline ∉ line) (taken rest : Bytes)
include oneLine

theorem takeLine_of_lt {room : Nat} (fits : line.length < room) :
    takeLine taken room (line ++ newline :: rest) =
      (taken.reverse ++ (line ++ [newline]), rest) := by
  induction line generalizing taken room with
  | nil =>
    obtain ⟨room, rfl⟩ := Nat.exists_eq_succ_of_ne_zero (Nat.ne_zero_of_lt fits)
    simp [takeLine]
  | cons b line ih =>
    obtain ⟨first, others⟩ := not_or.mp (List.mem_cons.not.mp oneLine)
    obtain ⟨room, rfl⟩ := Nat.exists_eq_succ_of_ne_zero (Nat.ne_zero_of_lt fits)
    rw [List.cons_append, takeLine, if_neg (Ne.symm first),
      ih others (b :: taken) (Nat.lt_of_succ_lt_succ fits)]
    simp

theorem takeLine_of_le {room : Nat} (long : room ≤ line.length) :
    takeLine taken room (line ++ rest) =
      (taken.reverse ++ line.take room, line.drop room ++ rest) := by
  induction room generalizing taken line with
  | zero => simp [takeLine]
  | succ room ih =>
    obtain _ | ⟨b, line⟩ := line
    · exact absurd long (by simp)
    · obtain ⟨first, others⟩ := not_or.mp (List.mem_cons.not.mp oneLine)
      rw [List.cons_append, takeLine, if_neg (Ne.symm first),
        ih others (b :: taken) (Nat.le_of_succ_le_succ long)]
      simp

variable (ofJson? : Json → Option α)

theorem readFrame_of_le {limit : Nat} (fits : line.length ≤ limit) :
    readFrame limit ofJson? (line ++ newline :: rest) =
      (readChunk limit ofJson? (line ++ [newline]), rest) := by
  rw [readFrame, takeLine_of_lt oneLine [] rest (Nat.lt_succ_of_le fits)]
  rfl

/-- A line over the limit is refused, and what was not read of it stays in the stream. -/
theorem readFrame_of_lt {limit : Nat} (long : limit < line.length) :
    readFrame limit ofJson? (line ++ newline :: rest) =
      (.fault (.client (.oversizedFrame limit)), line.drop (limit + 1) ++ newline :: rest) := by
  have length : (line.take (limit + 1)).length = limit + 1 := List.length_take_of_le long
  have last : (line.take (limit + 1)).getLast? ≠ some newline := fun h =>
    oneLine (List.mem_of_mem_take (List.mem_of_getLast? h))
  have some : (line.take (limit + 1)).isEmpty = false :=
    List.isEmpty_eq_false_iff.mpr (List.ne_nil_of_length_pos (by omega))
  rw [readFrame, takeLine_of_le oneLine [] (newline :: rest) long]
  simp [readChunk, some, last, length]

end line

/-! ### Messages in frames -/

/-- How messages of one kind are written as JSON and read from it. -/
structure Codec (α : Type) where
  toJson : α → Json
  ofJson? : Json → Option α
  ofJson?_toJson : ∀ message, ofJson? (toJson message) = some message
  written : ∀ message, Json.Written 6 (toJson message)
  isObject : ∀ message, ∃ members, toJson message = .object members

end GridSchema.Wire

namespace GridSchema

def Request.codec : Wire.Codec Request :=
  ⟨toJson, ofJson?, ofJson?_toJson, written, fun message => by cases message <;> exact ⟨_, rfl⟩⟩

def Response.codec : Wire.Codec Response :=
  ⟨toJson, ofJson?, ofJson?_toJson, written, fun message => by cases message <;> exact ⟨_, rfl⟩⟩

end GridSchema

namespace GridSchema.Wire

variable {α : Type} (codec : Codec α) (message : α)

namespace Codec

def line : Bytes := Utf8.encode (codec.toJson message).render

theorem frame_toJson : frame (codec.toJson message) = codec.line message ++ [newline] := rfl

/-- The text of a message is one line, since control characters are escaped in it. -/
theorem newline_notMem_line : newline ∉ codec.line message := by
  intro h
  obtain ⟨c, mem, byte⟩ := List.mem_flatMap.mp h
  have visible := (codec.written message).printable_render c mem
  have code := Utf8.toNat_of_mem_utf8EncodeChar byte (by decide)
  rw [code] at visible
  exact absurd visible (by decide)

theorem decodeLine_frame :
    decodeLine (frame (codec.toJson message)) = .ok (codec.toJson message) := by
  have bytes : frame (codec.toJson message) =
      Utf8.encode ((codec.toJson message).render ++ "\n") := by
    rw [frame, Utf8.encode, Utf8.encode, String.toList_append, List.flatMap_append]
    rfl
  have ends : Json.Ends (codec.toJson message) ['\n'] := by
    obtain ⟨members, eq⟩ := codec.isObject message
    rw [eq]
    trivial
  -- the message, its cache, the list of entities, an entity, the list of fields and a field
  have room : ∀ most ∈ some maxNesting, 6 ≤ most := by simp [maxNesting]
  have parsed := (codec.written message).parseWithin?_render room ends
  rw [decodeLine, bytes, Utf8.decode?_encode]
  simp [parsed, (codec.written message).sound]

theorem readChunk_frame {limit : Nat} :
    readChunk limit codec.ofJson? (frame (codec.toJson message)) = .message message := by
  have bytes : (frame (codec.toJson message)).isEmpty = false := by simp [frame]
  have last : (frame (codec.toJson message)).getLast? = some newline := List.getLast?_concat
  simp [readChunk, codec.decodeLine_frame, codec.ofJson?_toJson, bytes, last]

variable {message} in
/-- A message within the limit is read, and the stream stands after it. -/
theorem readFrame_frame {limit : Nat} (fits : (codec.line message).length ≤ limit) (rest : Bytes) :
    readFrame limit codec.ofJson? (frame (codec.toJson message) ++ rest) =
      (.message message, rest) := by
  have read := readFrame_of_le (codec.newline_notMem_line message) rest codec.ofJson? fits
  rw [← codec.frame_toJson, codec.readChunk_frame] at read
  rw [← read, codec.frame_toJson, List.append_assoc]
  rfl

variable {message} in
/-- A message over the limit is refused, and the end of its line stands in the stream. -/
theorem readFrame_oversized {limit : Nat} (long : limit < (codec.line message).length)
    (rest : Bytes) :
    readFrame limit codec.ofJson? (frame (codec.toJson message) ++ rest) =
      (.fault (.client (.oversizedFrame limit)),
        (codec.line message).drop (limit + 1) ++ newline :: rest) := by
  rw [← readFrame_of_lt (codec.newline_notMem_line message) rest codec.ofJson? long,
    codec.frame_toJson, List.append_assoc]
  rfl

/-- The newline of a frame is its last byte and no other. -/
theorem newline_frame :
    (frame (codec.toJson message)).count newline = 1 ∧
      (frame (codec.toJson message)).getLast? = some newline := by
  have none := List.count_eq_zero.mpr (codec.newline_notMem_line message)
  rw [codec.frame_toJson, List.count_append, none]
  exact ⟨rfl, List.getLast?_concat⟩

end Codec

/-! ### Streams of frames -/

def readFrames (limit : Nat) (ofJson? : Json → Option α) : Nat → Bytes → List (Frame α) × Bytes
  | 0, stream => ([], stream)
  | n + 1, stream =>
    let (frame, rest) := readFrame limit ofJson? stream
    let (frames, rest) := readFrames limit ofJson? n rest
    (frame :: frames, rest)

/-- Messages within the limit are read in their order, and then the end of the stream. -/
theorem Codec.readFrames_flatMap_frame {limit : Nat} {messages : List α}
    (fit : ∀ message ∈ messages, (codec.line message).length ≤ limit) :
    readFrames limit codec.ofJson? (messages.length + 1)
        (messages.flatMap fun message => frame (codec.toJson message)) =
      (messages.map .message ++ [.ended], []) := by
  -- one reading more than there are messages finds the end
  induction messages with
  | nil => rfl
  | cons message messages ih =>
    rw [List.flatMap_cons, List.length_cons, readFrames,
      codec.readFrame_frame (fit message List.mem_cons_self)]
    simp only [ih fun m h => fit m (List.mem_cons_of_mem _ h)]
    rfl

/-- Requests and answers pass through a stream: each is one line, and reading gives them back
unchanged and in their order, before the end of the stream. -/
theorem frames_read_back (requests : List Request) (responses : List Response)
    (fitting : (∀ request ∈ requests, (Utf8.encode request.toJson.render).length ≤ maxFrame) ∧
      ∀ response ∈ responses, (Utf8.encode response.toJson.render).length ≤ maxFrame) :
    ((∀ request ∈ requests, (frame request.toJson).count newline = 1 ∧
        (frame request.toJson).getLast? = some newline) ∧
      readFrames maxFrame Request.ofJson? (requests.length + 1)
          (requests.flatMap fun request => frame request.toJson) =
        (requests.map .message ++ [.ended], [])) ∧
    ((∀ response ∈ responses, (frame response.toJson).count newline = 1 ∧
        (frame response.toJson).getLast? = some newline) ∧
      readFrames maxFrame Response.ofJson? (responses.length + 1)
          (responses.flatMap fun response => frame response.toJson) =
        (responses.map .message ++ [.ended], [])) :=
  ⟨⟨fun request _ => Request.codec.newline_frame request,
      Request.codec.readFrames_flatMap_frame fitting.1⟩,
    ⟨fun response _ => Response.codec.newline_frame response,
      Response.codec.readFrames_flatMap_frame fitting.2⟩⟩

/-- A cache whose names hold quotes, control characters and others that take several bytes, with
fields, options and collections given and left out. -/
def oddCache : CacheDefinition :=
  ⟨"a\n\"\\\x00😀", none, some "", 4294967295, 0, some .transactionalSnapshot, .fullAsync,
    [⟨"java.lang.Object", "V$x", none, some "é", none,
        [⟨"ID", "java.lang.Long"⟩, ⟨"ID", "\t"⟩], NameSet.ofNames ["ID", "A\n"], ∅⟩,
      ⟨"K", "", some "T", none, some "ID", [], ∅, NameMap.ofList [("b", 7), ("A", 0)]⟩]⟩

def oddRequests : List Request :=
  [.createCache oddCache, .cacheNames, .cacheConfiguration oddCache.name, .destroyCache ""]

def oddResponses : List Response :=
  [.done, .cacheNames ["", "\r\n", oddCache.name], .cacheConfiguration oddCache,
    .failure .cacheNotFound "\n"]

theorem frames_read_back_odd :
    ((∀ request ∈ oddRequests, (Utf8.encode request.toJson.render).length ≤ maxFrame) ∧
      ∀ response ∈ oddResponses, (Utf8.encode response.toJson.render).length ≤ maxFrame) ∧
    readFrames maxFrame Request.ofJson? 5
        (oddRequests.flatMap fun request => frame request.toJson) =
      (oddRequests.map .message ++ [.ended], []) ∧
    readFrames maxFrame Response.ofJson? 5
        (oddResponses.flatMap fun response => frame response.toJson) =
      (oddResponses.map .message ++ [.ended], []) := by
  have fitting : (∀ request ∈ oddRequests,
        (Utf8.encode request.toJson.render).length ≤ maxFrame) ∧
      ∀ response ∈ oddResponses, (Utf8.encode response.toJson.render).length ≤ maxFrame := by
    simp only [Json.length_encode_render]
    decide +kernel
  have read := frames_read_back oddRequests oddResponses fitting
  exact ⟨fitting, read.1.2, read.2.2⟩

end GridSchema.Wire
