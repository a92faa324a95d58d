import GridSchema.Proofs.Json.RoundTrip

/-! The text of an object without its end is the text of no value. From its first character on
something is open, up to the last character, and where something is open a text cannot end. -/

namespace GridSchema.Json

namespace Parser

variable {limit : Option Nat} {state next : State} {opened : List Opened} {c : Char}

theorem run_append (limit : Option Nat) (state : State) (front back : List Char) :
    run limit state (front ++ back) =
      (run limit state front).bind fun middle => run limit middle back := by
  induction front generalizing state with
  | nil => rfl
  | cons c front ih =>
    rw [List.cons_append, run, run]
    cases step limit state c with
    | none => rfl
    | some next => exact ih next

/-! ### What is open -/

/-- Whether an array or object is open, or what was opened has been closed. -/
def Inside (state : State) : Prop :=
  state.opened ≠ [] ∨ ∃ value, state.position = .finished value

theorem inside_complete (value : Json) (opened : List Opened) : Inside (complete value opened) := by
  cases opened with
  | nil => exact .inr ⟨value, rfl⟩
  | cons innermost around => cases innermost <;> exact .inl (List.cons_ne_nil _ _)

theorem inside_close (closed : close c opened = some next) : Inside next := by
  unfold close at closed
  split at closed
  · split_ifs at closed
    cases closed
    exact inside_complete _ _
  · split_ifs at closed
    cases closed
    exact inside_complete _ _
  · cases closed

theorem inside_afterValue (inside : Inside state) (stepped : afterValue state c = some next) :
    Inside next := by
  unfold afterValue at stepped
  split_ifs at stepped
  · cases stepped
    exact inside
  · split at stepped
    case h_1 around => cases stepped; exact .inl (by simp [around])
    case h_2 around => cases stepped; exact .inl (by simp [around])
    case h_3 => cases stepped
  · exact inside_close stepped

theorem inside_readNumber {part : NumberPart} {spelled : List Char} (within : opened ≠ [])
    (stepped : readNumber part spelled opened c = some next) : Inside next := by
  unfold readNumber at stepped
  split at stepped
  · cases stepped
    exact .inl within
  · split_ifs at stepped
    exact inside_afterValue (inside_complete _ opened) stepped

section within

variable (within : opened ≠ [])
include within

theorem inside_startValue {first : Bool}
    (stepped : startValue limit first opened c = some next) : Inside next := by
  unfold startValue at stepped
  split at stepped
  · cases stepped
    exact .inl within
  · split at stepped
    case h_1 | h_2 =>
      split at stepped <;> cases stepped
      exact .inl (List.cons_ne_nil _ _)
    case h_3 =>
      split at stepped
      · exact inside_close stepped
      · cases stepped
    case h_10 =>
      split at stepped <;> cases stepped
      exact .inl within
    all_goals
      cases stepped
      exact .inl within

theorem inside_endString {isKey : Bool} {spelling : String}
    (stepped : endString isKey spelling opened = some next) : Inside next := by
  unfold endString at stepped
  split at stepped
  · split at stepped <;> cases stepped
    exact .inl (List.cons_ne_nil _ _)
  · cases stepped
    exact inside_complete _ _

theorem inside_readString {isKey : Bool} {part : StringPart} {spelled : List Char}
    (stepped : readString isKey part spelled opened c = some next) : Inside next := by
  unfold readString at stepped
  cases part with
  | plain =>
    dsimp only at stepped
    split at stepped
    · exact inside_endString within stepped
    · split_ifs at stepped <;> cases stepped <;> exact .inl within
  | escape =>
    dsimp only at stepped
    split_ifs at stepped <;> cases stepped <;> exact .inl within
  | unicode owed =>
    dsimp only at stepped
    split_ifs at stepped <;> cases stepped <;> exact .inl within

/-- Where something is open, something is after the next character, or the last has been closed. -/
theorem inside_step_of_opened {position : Position}
    (stepped : step limit ⟨position, opened⟩ c = some next) : Inside next := by
  cases position with
  | value first => exact inside_startValue within stepped
  | key first =>
    simp only [step] at stepped
    split_ifs at stepped
    · cases stepped
      exact .inl within
    · cases stepped
      exact .inl within
    · exact inside_close stepped
  | colon =>
    simp only [step] at stepped
    split_ifs at stepped <;> cases stepped <;> exact .inl within
  | afterValue => exact inside_afterValue (.inl within) stepped
  | finished value =>
    simp only [step] at stepped
    split_ifs at stepped
    cases stepped
    exact .inl within
  | word rest value =>
    obtain _ | ⟨first, _ | ⟨second, rest⟩⟩ := rest
    · cases stepped
    · simp only [step] at stepped
      split_ifs at stepped
      cases stepped
      exact inside_complete _ _
    · simp only [step] at stepped
      split_ifs at stepped
      cases stepped
      exact .inl within
  | number part spelled => exact inside_readNumber within stepped
  | string isKey part spelled => exact inside_readString within stepped

end within

/-- After the end of a value only blanks come. -/
theorem step_finished {value : Json} (finished : state.position = .finished value)
    (stepped : step limit state c = some next) : next = state ∧ c ≠ '}' := by
  unfold step at stepped
  rw [finished] at stepped
  dsimp only at stepped
  split at stepped
  case isTrue blank =>
    cases stepped
    refine ⟨rfl, ?_⟩
    rintro rfl
    cases blank
  case isFalse => cases stepped

theorem inside_run {rest : List Char} (inside : Inside state)
    (reached : run limit state rest = some next) : Inside next := by
  induction rest generalizing state with
  | nil =>
    cases reached
    exact inside
  | cons c rest ih =>
    rw [run] at reached
    cases stepped : step limit state c with
    | none =>
      rw [stepped] at reached
      cases reached
    | some middle =>
      rw [stepped] at reached
      refine ih ?_ reached
      rcases inside with within | ⟨value, finished⟩
      · exact inside_step_of_opened within stepped
      · rw [(step_finished finished stepped).1]
        exact .inr ⟨value, finished⟩

theorem run_finished {value : Json} {rest : List Char}
    (finished : state.position = .finished value) (brace : '}' ∈ rest) :
    run limit state rest = none := by
  induction rest with
  | nil => cases brace
  | cons c rest ih =>
    rw [run]
    cases stepped : step limit state c with
    | none => rfl
    | some next =>
      obtain ⟨rfl, other⟩ := step_finished finished stepped
      exact ih (List.mem_of_ne_of_mem (Ne.symm other) brace)

theorem inside_of_brace {rest : List Char}
    (reached : run limit .initial ('{' :: rest) = some state) : Inside state := by
  have opens : step limit .initial '{' =
      if fits limit [] then some ⟨.key true, [.object [] ""]⟩ else none := rfl
  rw [run, opens] at reached
  split_ifs at reached
  exact inside_run (.inl (List.cons_ne_nil _ _)) reached

/-- A text that ends inside of what it opened has closed it. -/
theorem finished_of_inside {value : Json} (inside : Inside state)
    (ends : finish state = some value) : state.position = .finished value := by
  obtain ⟨position, opened⟩ := state
  cases position with
  | finished read =>
    cases ends
    rfl
  | number part spelled =>
    cases opened with
    | nil =>
      rcases inside with within | ⟨_, finished⟩
      · exact absurd rfl within
      · cases finished
    | cons innermost around => cases ends
  | _ => cases ends

end Parser

/-! ### Objects -/

variable {members : List (String × Json)} {front back : List Char}

theorem exists_render_object (members : List (String × Json)) :
    ∃ inner, (object members).render.toList = '{' :: (inner ++ ['}']) := by
  cases members with
  | nil => exact ⟨[], rfl⟩
  | cons member members =>
    obtain ⟨key, value⟩ := member
    refine ⟨'"' :: (key.toList ++ '"' :: ':' ::
      (value.render.toList ++ (renderMembers members).toList)), ?_⟩
    rw [toList_render_object_cons]
    simp

/-- A written object is read without anything behind it. -/
theorem Written.parseWithin?_object {depth : Nat} (written : Written depth (.object members))
    {limit : Option Nat} (room : ∀ most ∈ limit, depth ≤ most) :
    parseWithin? limit (Json.object members).render = some (.object members) := by
  have whole := Parser.Reads.of_written written false [] [] (by simpa using room) trivial
  rw [List.append_nil] at whole
  rw [parseWithin?]
  change (Parser.run limit ⟨.value false, []⟩ _).bind _ = _
  rw [whole]
  rfl

/-- A written object whose text is cut off anywhere before its end is not read as a value. -/
theorem Written.parseWithin?_of_cut {depth : Nat} (written : Written depth (.object members))
    {limit : Option Nat} (room : ∀ most ∈ limit, depth ≤ most)
    (cut : (Json.object members).render.toList = front ++ back) (left : back ≠ []) :
    parseWithin? limit (String.ofList front) = none := by
  have whole := Parser.Reads.of_written written false [] [] (by simpa using room) trivial
  rw [List.append_nil, cut] at whole
  obtain ⟨inner, spelled⟩ := exists_render_object members
  rw [spelled] at cut
  cases front with
  | nil => rfl
  | cons first front =>
    rw [List.cons_append] at cut
    obtain ⟨rfl, split⟩ := List.cons.inj cut
    -- the last character, which closes the object, is among those that are missing
    have brace : '}' ∈ back := by
      have last := congrArg List.getLast? split
      rw [List.getLast?_concat, List.getLast?_append, Option.or_of_isSome] at last
      · exact List.mem_of_getLast? last.symm
      · exact List.getLast?_isSome.mpr left
    rw [Option.eq_none_iff_forall_ne_some]
    intro value read
    obtain ⟨state, reached, ends⟩ := Option.bind_eq_some_iff.mp read
    rw [String.toList_ofList] at reached
    have finished := Parser.finished_of_inside (Parser.inside_of_brace reached) ends
    change Parser.run limit .initial (('{' :: front) ++ back) = _ at whole
    rw [Parser.run_append, reached, Option.bind_some, Parser.run_finished finished brace] at whole
    cases whole

end GridSchema.Json
