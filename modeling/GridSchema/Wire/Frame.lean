import GridSchema.Json.Parser
import GridSchema.Json.Printer
import GridSchema.Text.Utf8
import GridSchema.Wire.Message

/-! Messages as lines of JSON. -/

namespace GridSchema.Wire

/-- The most bytes that a frame may have without its newline. -/
def maxFrame : Nat := 16 * 1024 * 1024

/-- How deep arrays and objects may nest in a frame. -/
def maxNesting : Nat := 127

def newline : UInt8 := 0x0A

def frame (value : Json) : Bytes :=
  Utf8.encode value.render ++ [newline]

/-- Takes bytes up to the first newline, but at most `room` of them. `taken` holds those before,
latest first. -/
def takeLine (taken : Bytes) : Nat → Bytes → Bytes × Bytes
  | 0, rest => (taken.reverse, rest)
  | _ + 1, [] => (taken.reverse, [])
  | room + 1, b :: rest =>
    if b = newline then ((b :: taken).reverse, rest) else takeLine (b :: taken) room rest

theorem length_takeLine_le (taken : Bytes) (room : Nat) (stream : Bytes) :
    (takeLine taken room stream).2.length ≤ stream.length := by
  induction room generalizing taken stream with
  | zero => simp [takeLine]
  | succ room ih =>
    cases stream with
    | nil => simp [takeLine]
    | cons b rest =>
      unfold takeLine
      split
      · exact Nat.le_succ _
      · exact Nat.le_succ_of_le (ih _ _)

def decodeLine (line : Bytes) : Except Error Json :=
  match (Utf8.decode? line).bind (Json.parseWithin? (some maxNesting)) with
  | some value => if value.sound then .ok value else .error (.client .malformedFrame)
  | none => .error (.client .malformedFrame)

inductive Frame (α : Type) where
  | message (value : α)
  | ended
  | fault (error : Error)

/-- What one chunk of a stream stands for. A chunk longer than `limit` that no newline ends is
refused unread. -/
def readChunk (limit : Nat) (ofJson? : Json → Option α) (chunk : Bytes) : Frame α :=
  if chunk.isEmpty then .ended
  else if chunk.length > limit ∧ chunk.getLast? ≠ some newline then
    .fault (.client (.oversizedFrame limit))
  else match decodeLine chunk with
    | .error e => .fault e
    | .ok value =>
      match ofJson? value with
      | some message => .message message
      | none => .fault (.client .malformedFrame)

/-- Reads the next frame and returns the bytes after it. Of a line longer than `limit` that many
bytes are read and one more. -/
def readFrame (limit : Nat) (ofJson? : Json → Option α) (stream : Bytes) : Frame α × Bytes :=
  let (chunk, rest) := takeLine [] (limit + 1) stream
  (readChunk limit ofJson? chunk, rest)

theorem length_readFrame_lt (limit : Nat) (ofJson? : Json → Option α) {stream : Bytes}
    (h : stream ≠ []) : (readFrame limit ofJson? stream).2.length < stream.length := by
  cases stream with
  | nil => exact absurd rfl h
  | cons b rest =>
    simp only [readFrame, takeLine]
    split
    · exact Nat.lt_succ_self _
    · exact Nat.lt_succ_of_le (length_takeLine_le _ _ _)

theorem readFrame_nil (limit : Nat) (ofJson? : Json → Option α) :
    readFrame limit ofJson? [] = (.ended, []) := rfl

end GridSchema.Wire
