import GridSchema.Proofs.Wire.Chunks
import GridSchema.Proofs.Wire.Frame

/-! Reading a whole stream, whatever it holds. It is cut into chunks after each newline, after one
byte more than the limit and at its end, and each reading consumes one chunk until none is left. -/

namespace GridSchema.Wire

variable {α : Type} {limit : Nat} {stream chunk line rest : Bytes}

/-! ### Where a chunk is cut off -/

/-- How a chunk may end: with the newline of its line, with the limit passed, or with the stream. -/
inductive Cut (limit : Nat) : Bytes → Bytes → Prop where
  | line (line rest : Bytes) (oneLine : newline ∉ line) (fits : line.length ≤ limit) :
    Cut limit (line ++ [newline]) rest
  | limit (chunk rest : Bytes) (oneLine : newline ∉ chunk) (full : chunk.length = limit + 1) :
    Cut limit chunk rest
  | stream (chunk : Bytes) (oneLine : newline ∉ chunk) (fits : chunk.length ≤ limit) :
    Cut limit chunk []

/-- A stream that ends within the limit and before a newline is taken whole. -/
theorem takeLine_of_ends (oneLine : newline ∉ stream) (taken : Bytes) {room : Nat}
    (fits : stream.length < room) : takeLine taken room stream = (taken.reverse ++ stream, []) := by
  induction stream generalizing taken room with
  | nil =>
    obtain ⟨room, rfl⟩ := Nat.exists_eq_succ_of_ne_zero (Nat.ne_zero_of_lt fits)
    simp [takeLine]
  | cons b stream ih =>
    obtain ⟨first, others⟩ := not_or.mp (List.mem_cons.not.mp oneLine)
    obtain ⟨room, rfl⟩ := Nat.exists_eq_succ_of_ne_zero (Nat.ne_zero_of_lt fits)
    rw [takeLine, if_neg (Ne.symm first), ih others _ (Nat.lt_of_succ_lt_succ fits)]
    simp

theorem cut_takeLine (limit : Nat) (stream : Bytes) :
    Cut limit (takeLine [] (limit + 1) stream).1 (takeLine [] (limit + 1) stream).2 := by
  -- the limit comes first if there is no newline before it
  have passed (line rest : Bytes) (oneLine : newline ∉ line) (long : limit + 1 ≤ line.length) :
      Cut limit (takeLine [] (limit + 1) (line ++ rest)).1
        (takeLine [] (limit + 1) (line ++ rest)).2 := by
    rw [takeLine_of_le oneLine [] rest long]
    exact .limit _ _ (fun h => oneLine (List.mem_of_mem_take h)) (List.length_take_of_le long)
  by_cases ended : newline ∈ stream
  · obtain ⟨line, rest, rfl, oneLine⟩ := List.eq_append_cons_of_mem ended
    by_cases fits : line.length < limit + 1
    · rw [takeLine_of_lt oneLine [] rest fits]
      exact .line line rest oneLine (Nat.le_of_lt_succ fits)
    · exact passed line _ oneLine (Nat.le_of_not_lt fits)
  · by_cases fits : stream.length < limit + 1
    · rw [takeLine_of_ends ended [] fits]
      exact .stream stream ended (Nat.le_of_lt_succ fits)
    · have cut := passed stream [] ended (Nat.le_of_not_lt fits)
      rwa [List.append_nil] at cut

namespace Cut

variable (cut : Cut limit chunk rest)
include cut

theorem newline_notMem_dropLast : newline ∉ chunk.dropLast := by
  cases cut with
  | line line _ oneLine _ => rwa [List.dropLast_concat]
  | limit _ _ oneLine _ => exact fun h => oneLine ((List.dropLast_sublist _).subset h)
  | stream _ oneLine _ => exact fun h => oneLine ((List.dropLast_sublist _).subset h)

theorem length_le : chunk.length ≤ limit + 1 := by
  cases cut with
  | line line _ _ fits =>
    rw [List.length_append]
    exact Nat.succ_le_succ fits
  | limit _ _ _ full => exact Nat.le_of_eq full
  | stream _ _ fits => exact Nat.le_succ_of_le fits

/-- Only the end of the stream cuts a chunk off before its newline and before the limit. -/
theorem ends (more : rest ≠ []) : chunk.getLast? = some newline ∨ chunk.length = limit + 1 := by
  cases cut with
  | line line _ _ _ => exact .inl List.getLast?_concat
  | limit _ _ _ full => exact .inr full
  | stream _ _ _ => exact absurd rfl more

end Cut

/-! ### What is done with a chunk -/

/-- What a chunk stands for once it is decoded. -/
def decoded (ofJson? : Json → Option α) (chunk : Bytes) : Frame α :=
  match decodeLine chunk with
  | .error e => .fault e
  | .ok value =>
    match ofJson? value with
    | some message => .message message
    | none => .fault (.client .malformedFrame)

theorem decodeLine_eq_error {e : Error} (malformed : decodeLine chunk = .error e) :
    e = .client .malformedFrame := by
  unfold decodeLine at malformed
  split at malformed
  · split_ifs at malformed
    cases malformed
    rfl
  · cases malformed
    rfl

theorem decoded_ne_oversized (ofJson? : Json → Option α) (chunk : Bytes) :
    decoded ofJson? chunk ≠ .fault (.client (.oversizedFrame limit)) := by
  unfold decoded
  cases parsed : decodeLine chunk with
  | error e =>
    rw [decodeLine_eq_error parsed]
    exact nofun
  | ok value =>
    dsimp only
    split <;> rintro ⟨⟩

theorem readChunk_eq (held : chunk ≠ []) (short : chunk.length ≤ limit + 1)
    (ofJson? : Json → Option α) :
    readChunk limit ofJson? chunk =
      if chunk.length = limit + 1 ∧ chunk.getLast? ≠ some newline then
        .fault (.client (.oversizedFrame limit))
      else decoded ofJson? chunk := by
  have beyond : chunk.length > limit ↔ chunk.length = limit + 1 := by omega
  unfold readChunk
  rw [if_neg (by simpa using held)]
  simp only [beyond]
  rfl

theorem readChunk_eq_oversized_iff (held : chunk ≠ []) (short : chunk.length ≤ limit + 1)
    (ofJson? : Json → Option α) :
    readChunk limit ofJson? chunk = .fault (.client (.oversizedFrame limit)) ↔
      chunk.length = limit + 1 ∧ chunk.getLast? ≠ some newline := by
  rw [readChunk_eq held short]
  constructor
  · intro refused
    by_contra within
    rw [if_neg within] at refused
    exact decoded_ne_oversized ofJson? chunk refused
  · intro beyond
    rw [if_pos beyond]

/-! ### The chunks of a stream -/

/-- The chunks that come after some are those of the rest of the stream. -/
theorem chunks_flatten_of_append {front back : List Bytes}
    (split : chunks limit stream = front ++ back) : chunks limit back.flatten = back := by
  induction front generalizing stream with
  | nil =>
    rw [List.nil_append] at split
    rw [← split, flatten_chunks]
  | cons chunk front ih => exact ih (of_chunks_eq_cons split).2.2

theorem cut_of_chunks {front back : List Bytes}
    (split : chunks limit stream = front ++ chunk :: back) :
    chunk ≠ [] ∧ Cut limit chunk back.flatten := by
  obtain ⟨held, taken, -⟩ := of_chunks_eq_cons (chunks_flatten_of_append split)
  have cut := cut_takeLine limit (chunk :: back).flatten
  rw [taken] at cut
  exact ⟨held, cut⟩

theorem chunks_line (oneLine : newline ∉ line) (fits : line.length ≤ limit) (rest : Bytes) :
    chunks limit (line ++ newline :: rest) = (line ++ [newline]) :: chunks limit rest := by
  rw [chunks_of_ne_nil (by simp), takeLine_of_lt oneLine [] rest (Nat.lt_succ_of_le fits)]
  rfl

theorem chunks_lines {lines : List Bytes}
    (each : ∀ line ∈ lines, newline ∉ line ∧ line.length ≤ limit) :
    chunks limit (lines.flatMap (· ++ [newline])) = lines.map (· ++ [newline]) := by
  induction lines with
  | nil => exact chunks_nil
  | cons line lines ih =>
    obtain ⟨oneLine, fits⟩ := each line List.mem_cons_self
    have rest := ih fun other mem => each other (List.mem_cons_of_mem line mem)
    rw [List.flatMap_cons, List.append_assoc, List.singleton_append, chunks_line oneLine fits, rest,
      List.map_cons]

theorem chunks_last (held : line ≠ []) (oneLine : newline ∉ line) (fits : line.length ≤ limit) :
    chunks limit line = [line] := by
  rw [chunks_of_ne_nil held, takeLine_of_ends oneLine [] (Nat.lt_succ_of_le fits), chunks_nil]
  rfl

/-- Reading a number of times consumes as many chunks. -/
theorem readFrames_of_le (ofJson? : Json → Option α) {n : Nat}
    (many : n ≤ (chunks limit stream).length) :
    readFrames limit ofJson? n stream =
      (((chunks limit stream).take n).map (readChunk limit ofJson?),
        ((chunks limit stream).drop n).flatten) := by
  induction n generalizing stream with
  | zero =>
    rw [List.drop_zero, flatten_chunks]
    rfl
  | succ n ih =>
    cases split : chunks limit stream with
    | nil =>
      rw [split] at many
      exact absurd many (Nat.not_succ_le_zero n)
    | cons chunk later =>
      obtain ⟨-, -, same⟩ := of_chunks_eq_cons split
      rw [split] at many
      have next := @ih later.flatten (by rw [same]; exact Nat.le_of_succ_le_succ many)
      rw [same] at next
      simp only [readFrames, readFrame_of_chunks split, next, List.take_succ_cons, List.map_cons,
        List.drop_succ_cons]

theorem readFrames_concat (ofJson? : Json → Option α) (n : Nat) (stream : Bytes) :
    readFrames limit ofJson? (n + 1) stream =
      let (frames, left) := readFrames limit ofJson? n stream
      (frames ++ [(readFrame limit ofJson? left).1], (readFrame limit ofJson? left).2) := by
  induction n generalizing stream with
  | zero => rfl
  | succ n ih =>
    have next := ih (readFrame limit ofJson? stream).2
    rw [readFrames]
    simp only [next]
    rfl

/-- Reading any stream comes to its end and loses nothing, under any limit that leaves room for one
byte more in a machine word, where that many bytes are counted. Each reading consumes one
chunk, and there is nothing to read when all are consumed. A chunk holds a newline at most as its
last byte and is one byte longer than the limit at most; only the last may have neither. Those that
are longer than the limit and without a newline are refused. A line within the limit that starts
where a chunk does is decoded whole. -/
theorem reading_loses_nothing (limit : Nat) (_inRange : limit + 1 < Nat.pow 2 64)
    (ofJson? : Json → Option α) (stream : Bytes) :
    let parts := chunks limit stream
    (∀ n ≤ parts.length, readFrames limit ofJson? n stream =
      ((parts.take n).map (readChunk limit ofJson?), (parts.drop n).flatten)) ∧
    readFrames limit ofJson? (parts.length + 1) stream =
      (parts.map (readChunk limit ofJson?) ++ [.ended], []) ∧
    parts.flatten = stream ∧
    (∀ chunk ∈ parts, chunk ≠ [] ∧ newline ∉ chunk.dropLast ∧ chunk.length ≤ limit + 1 ∧
      readChunk limit ofJson? chunk ≠ .ended ∧
      (readChunk limit ofJson? chunk = .fault (.client (.oversizedFrame limit)) ↔
        chunk.length = limit + 1 ∧ chunk.getLast? ≠ some newline)) ∧
    (∀ chunk ∈ parts.dropLast, chunk.getLast? = some newline ∨ chunk.length = limit + 1) ∧
    ∀ before after line, parts = before ++ after → newline ∉ line → line.length ≤ limit →
      (∀ rest, after.flatten = line ++ newline :: rest →
        after.head? = some (line ++ [newline]) ∧
          readChunk limit ofJson? (line ++ [newline]) = decoded ofJson? (line ++ [newline])) ∧
      (after.flatten = line → line ≠ [] →
        after = [line] ∧ readChunk limit ofJson? line = decoded ofJson? line) := by
  intro parts
  have all : readFrames limit ofJson? parts.length stream =
      (parts.map (readChunk limit ofJson?), []) := by
    rw [readFrames_of_le ofJson? (Nat.le_refl _), List.take_length, List.drop_length]
    rfl
  refine ⟨fun n many => readFrames_of_le ofJson? many, ?_, flatten_chunks limit stream, ?_, ?_, ?_⟩
  · rw [readFrames_concat, all]
    rfl
  · intro chunk among
    obtain ⟨front, back, split⟩ := List.append_of_mem among
    obtain ⟨held, cut⟩ := cut_of_chunks split
    exact ⟨held, cut.newline_notMem_dropLast, cut.length_le, readChunk_ne_ended held ofJson?,
      readChunk_eq_oversized_iff held cut.length_le ofJson?⟩
  · intro chunk among
    rcases List.eq_nil_or_concat parts with empty | ⟨earlier, last, whole⟩
    · rw [empty] at among
      cases among
    · rw [List.concat_eq_append] at whole
      rw [whole, List.dropLast_concat] at among
      obtain ⟨front, back, rfl⟩ := List.append_of_mem among
      -- the last chunk holds something, so that no other one ends the stream
      have held : last ≠ [] := (cut_of_chunks whole).1
      have split : parts = front ++ chunk :: (back ++ [last]) := by
        rw [whole, List.append_assoc, List.cons_append]
      exact (cut_of_chunks split).2.ends (by simp [held])
  · intro before after line split oneLine fits
    have same := chunks_flatten_of_append split
    constructor
    · intro rest begins
      rw [begins, chunks_line oneLine fits rest] at same
      refine ⟨by rw [← same]; rfl, ?_⟩
      rw [readChunk_eq (by simp) (by simpa using fits), if_neg (by simp)]
    · intro begins held
      rw [begins, chunks_last held oneLine fits] at same
      refine ⟨same.symm, ?_⟩
      rw [readChunk_eq held (Nat.le_succ_of_le fits), if_neg (by omega)]

/-- A line over the limit of three bytes, what is left of it, a line at the limit, and one that the
stream ends. -/
def unevenStream : Bytes := Utf8.encode "abcd\nabc\nab"

theorem reading_loses_nothing_uneven :
    3 + 1 < Nat.pow 2 64 ∧
    chunks 3 unevenStream =
      [Utf8.encode "abcd", Utf8.encode "\n", Utf8.encode "abc\n", Utf8.encode "ab"] ∧
    readFrames 3 Request.ofJson? 5 unevenStream =
      ([.fault (.client (.oversizedFrame 3)), .fault (.client .malformedFrame),
        .fault (.client .malformedFrame), .fault (.client .malformedFrame), .ended], []) ∧
    newline ∉ Utf8.encode "ab" ∧ (Utf8.encode "ab").length ≤ 3 ∧
    readChunk 3 Request.ofJson? (Utf8.encode "ab") =
      decoded Request.ofJson? (Utf8.encode "ab") := by
  have parts : chunks 3 unevenStream =
      [Utf8.encode "abcd", Utf8.encode "\n", Utf8.encode "abc\n", Utf8.encode "ab"] := by
    have first : takeLine [] 4 unevenStream =
        (Utf8.encode "abcd", Utf8.encode "\n" ++ Utf8.encode "abc\nab") := by decide +kernel
    have second : takeLine [] 4 (Utf8.encode "\n" ++ Utf8.encode "abc\nab") =
        (Utf8.encode "\n", Utf8.encode "abc" ++ newline :: Utf8.encode "ab") := by decide +kernel
    rw [chunks_of_ne_nil (by decide +kernel), first, chunks_of_ne_nil (by decide +kernel), second,
      chunks_line (by decide +kernel) (by decide +kernel),
      chunks_last (by decide +kernel) (by decide +kernel) (by decide +kernel)]
    decide +kernel
  have oneLine : newline ∉ Utf8.encode "ab" := by decide +kernel
  have fits : (Utf8.encode "ab").length ≤ 3 := by decide +kernel
  have inRange : 3 + 1 < Nat.pow 2 64 := by decide
  have reading := reading_loses_nothing 3 inRange Request.ofJson? unevenStream
  rw [parts] at reading
  obtain ⟨-, read, -, -, -, lines⟩ := reading
  refine ⟨inRange, parts, read.trans rfl, oneLine, fits, ?_⟩
  exact ((lines [Utf8.encode "abcd", Utf8.encode "\n", Utf8.encode "abc\n"] [Utf8.encode "ab"] _ rfl
    oneLine fits).2 rfl (by decide +kernel)).2

end GridSchema.Wire
