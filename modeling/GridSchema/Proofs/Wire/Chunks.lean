import GridSchema.Wire.Frame

/-! The chunks that a stream is read in. Joined they are the stream, and reading takes one after
another. -/

namespace GridSchema.Wire

variable {α : Type} {limit : Nat} {stream : Bytes}

theorem append_takeLine (taken : Bytes) (room : Nat) (stream : Bytes) :
    (takeLine taken room stream).1 ++ (takeLine taken room stream).2 = taken.reverse ++ stream := by
  induction room generalizing taken stream with
  | zero => rw [takeLine]
  | succ room ih =>
    cases stream with
    | nil => rfl
    | cons b rest =>
      unfold takeLine
      split
      · simp
      · rw [ih (b :: taken) rest]
        simp

theorem takeLine_ne_nil (limit : Nat) (held : stream ≠ []) :
    (takeLine [] (limit + 1) stream).1 ≠ [] := by
  intro empty
  have whole := append_takeLine [] (limit + 1) stream
  have shorter : (takeLine [] (limit + 1) stream).2.length < stream.length :=
    length_readFrame_lt limit (fun _ => none (α := Unit)) held
  rw [empty] at whole
  have same : (takeLine [] (limit + 1) stream).2 = stream := whole
  rw [same] at shorter
  exact Nat.lt_irrefl _ shorter

/-- The chunks of a stream: each is as much as one reading takes. -/
def chunks (limit : Nat) (stream : Bytes) : List Bytes :=
  if _h : stream = [] then []
  else
    let taken := takeLine [] (limit + 1) stream
    taken.1 :: chunks limit taken.2
termination_by stream.length
decreasing_by exact length_readFrame_lt limit (fun _ => none (α := Unit)) _h

theorem chunks_nil : chunks limit [] = [] := by
  rw [chunks]
  rfl

theorem chunks_of_ne_nil (held : stream ≠ []) :
    chunks limit stream =
      (takeLine [] (limit + 1) stream).1 :: chunks limit (takeLine [] (limit + 1) stream).2 := by
  rw [chunks, dif_neg held]

theorem flatten_chunks (limit : Nat) (stream : Bytes) : (chunks limit stream).flatten = stream := by
  fun_induction chunks limit stream with
  | case1 => rfl
  | case2 stream _ taken ih =>
    have whole := append_takeLine [] (limit + 1) stream
    rw [List.flatten_cons, ih]
    exact whole

theorem of_chunks_eq_cons {chunk : Bytes} {later : List Bytes}
    (split : chunks limit stream = chunk :: later) :
    chunk ≠ [] ∧ takeLine [] (limit + 1) stream = (chunk, later.flatten) ∧
      chunks limit later.flatten = later := by
  have held : stream ≠ [] := by
    rintro rfl
    rw [chunks_nil] at split
    exact nomatch split
  rw [chunks_of_ne_nil held] at split
  obtain ⟨rfl, rfl⟩ := List.cons.inj split
  rw [flatten_chunks]
  exact ⟨takeLine_ne_nil limit held, rfl, rfl⟩

theorem readFrame_of_chunks {chunk : Bytes} {later : List Bytes}
    (split : chunks limit stream = chunk :: later) (ofJson? : Json → Option α) :
    readFrame limit ofJson? stream = (readChunk limit ofJson? chunk, later.flatten) := by
  obtain ⟨-, taken, -⟩ := of_chunks_eq_cons split
  rw [readFrame, taken]

theorem eq_nil_of_chunks_eq_nil (split : chunks limit stream = []) : stream = [] := by
  rw [← flatten_chunks limit stream, split]
  rfl

/-- Only the end of the stream is an empty chunk. -/
theorem readChunk_ne_ended {chunk : Bytes} (held : chunk ≠ []) (ofJson? : Json → Option α) :
    readChunk limit ofJson? chunk ≠ .ended := by
  unfold readChunk
  rw [if_neg (by simpa using held)]
  split
  · exact nofun
  · split
    · exact nofun
    · split <;> exact nofun

end GridSchema.Wire
