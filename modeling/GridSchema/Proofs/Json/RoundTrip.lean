import GridSchema.Json.Parser
import GridSchema.Json.Printer
import GridSchema.Proofs.Json.Spelling

/-! Values made of texts and natural numbers are read back from the line in which they are rendered,
by a reader that has room for their nesting. -/

namespace GridSchema.Json

/-- Values made of texts and small natural numbers, with at most `depth` arrays and objects inside
one another. -/
inductive Written : Nat → Json → Prop where
  | text {depth : Nat} (text : String) : Written depth (.ofText text)
  | number {depth : Nat} (n : Nat) (small : n < Nat.pow 2 53) : Written depth (.ofNat n)
  | array {depth : Nat} (items : List Json) (each : ∀ item ∈ items, Written depth item) :
    Written (depth + 1) (.array items)
  | object {depth : Nat} (fields : List (String × Json))
    (each : ∀ field ∈ fields, Written depth field.2) : Written (depth + 1) (.ofFields fields)

/-- Whether `rest` ends what was read for a value. A number goes on until a comma or the end of what
is around it. -/
def Ends : Json → List Char → Prop
  | .number _, rest => ∃ c tail, rest = c :: tail ∧ (c = ',' ∨ c = ']' ∨ c = '}')
  | _, _ => True

theorem Ends.of_cons (value : Json) {c : Char} (tail : List Char)
    (h : c = ',' ∨ c = ']' ∨ c = '}') : Ends value (c :: tail) := by
  cases value <;> first | exact ⟨c, tail, rfl, h⟩ | trivial

/-! ### Rendered values -/

theorem toList_render_ofText (text : String) :
    (ofText text).render.toList = '"' :: (text.toList.flatMap escapeChar ++ ['"']) := by
  simp [ofText, escape, render]

theorem toList_render_array_cons (item : Json) (items : List Json) :
    (array (item :: items)).render.toList =
      '[' :: (item.render.toList ++ ((renderItems items).toList ++ [']'])) := by
  simp [render]

theorem toList_renderItems_cons (item : Json) (items : List Json) :
    (renderItems (item :: items)).toList =
      ',' :: (item.render.toList ++ (renderItems items).toList) := by
  simp [renderItems]

theorem toList_render_object_cons (key : String) (value : Json) (members : List (String × Json)) :
    (object ((key, value) :: members)).render.toList =
      '{' :: '"' :: (key.toList ++ '"' :: ':' ::
        (value.render.toList ++ ((renderMembers members).toList ++ ['}']))) := by
  simp [render]

theorem toList_renderMembers_cons (key : String) (value : Json)
    (members : List (String × Json)) :
    (renderMembers ((key, value) :: members)).toList =
      ',' :: '"' :: (key.toList ++ '"' :: ':' ::
        (value.render.toList ++ (renderMembers members).toList)) := by
  simp [renderMembers]

namespace Parser

variable {limit : Option Nat} {opened : List Opened}

/-! ### Texts -/

theorem run_string_escapeChar (isKey : Bool) (c : Char) (spelled rest : List Char) :
    run limit ⟨.string isKey .plain spelled, opened⟩ (escapeChar c ++ rest) =
      run limit ⟨.string isKey .plain ((escapeChar c).reverse ++ spelled), opened⟩ rest := by
  induction c using escapeChar_cases with
  | control n h => interval_cases n <;> rfl
  | quote => rfl
  | backslash => rfl
  | plain c same above quote backslash =>
    rw [same]
    simp [run, step, readString, quote, backslash, Nat.not_lt.mpr above]

theorem run_string_escape (isKey : Bool) (text spelled rest : List Char) :
    run limit ⟨.string isKey .plain spelled, opened⟩ (text.flatMap escapeChar ++ rest) =
      run limit ⟨.string isKey .plain ((text.flatMap escapeChar).reverse ++ spelled), opened⟩
        rest := by
  induction text generalizing spelled with
  | nil => rfl
  | cons c text ih =>
    rw [List.flatMap_cons, List.append_assoc, run_string_escapeChar, ih, List.reverse_append,
      List.append_assoc]

theorem run_text (first : Bool) (text : String) (rest : List Char) :
    run limit ⟨.value first, opened⟩ ((ofText text).render.toList ++ rest) =
      run limit (complete (ofText text) opened) rest := by
  rw [toList_render_ofText, List.cons_append, List.append_assoc]
  refine (run_string_escape false text.toList [] ('"' :: rest)).trans ?_
  rw [List.append_nil]
  change run limit (complete (.string (String.ofList _)) opened) rest = _
  rw [List.reverse_reverse]
  rfl

theorem run_key (members : List (String × Json)) (key : String) (rest : List Char) :
    run limit ⟨.string true .plain [], .object members "" :: opened⟩
        ((escape key).toList ++ '"' :: ':' :: rest) =
      run limit ⟨.value false, .object members (escape key) :: opened⟩ rest := by
  rw [escape, String.toList_ofList]
  refine (run_string_escape true key.toList [] ('"' :: ':' :: rest)).trans ?_
  rw [List.append_nil]
  change run limit ⟨.value false, .object members (String.ofList _) :: opened⟩ rest = _
  rw [List.reverse_reverse]

/-! ### Natural numbers -/

theorem toDigits_of_pos {n : Nat} (pos : 0 < n) :
    ∃ d rest, 0 < d ∧ d < 10 ∧ Nat.toDigits 10 n = Nat.digitChar d :: rest := by
  induction n using Nat.strongRecOn with
  | ind n ih =>
    by_cases small : n < 10
    · exact ⟨n, [], pos, small, Nat.toDigits_of_lt_base small⟩
    · obtain ⟨d, rest, above, below, first⟩ := ih (n / 10) (by omega) (by omega)
      refine ⟨d, rest ++ [Nat.digitChar (n % 10)], above, below, ?_⟩
      rw [Nat.toDigits_of_base_le (by decide) (by omega), first, List.cons_append]

theorem run_first_digit {d : Nat} (above : 0 < d) (below : d < 10) (first : Bool)
    (rest : List Char) :
    run limit ⟨.value first, opened⟩ (Nat.digitChar d :: rest) =
      run limit ⟨.number .whole [Nat.digitChar d], opened⟩ rest := by
  interval_cases d <;> rfl

theorem run_digits (spelled digits rest : List Char) (all : ∀ c ∈ digits, c.isDigit = true) :
    run limit ⟨.number .whole spelled, opened⟩ (digits ++ rest) =
      run limit ⟨.number .whole (digits.reverse ++ spelled), opened⟩ rest := by
  induction digits generalizing spelled with
  | nil => rfl
  | cons d digits ih =>
    have digit := all d List.mem_cons_self
    have next := ih (d :: spelled) fun c h => all c (List.mem_cons_of_mem d h)
    simpa [run, step, readNumber, NumberPart.next?, digit] using next

/-- What is no part of a number ends it. -/
theorem run_number_end {part : NumberPart} (whole : part = .zero ∨ part = .whole)
    (spelled rest : List Char) (ends : Ends (.number (String.ofList spelled.reverse)) rest) :
    run limit ⟨.number part spelled, opened⟩ rest =
      run limit (complete (.number (String.ofList spelled.reverse)) opened) rest := by
  obtain ⟨c, tail, rfl, h⟩ := ends
  rcases whole with rfl | rfl <;> rcases h with rfl | rfl | rfl <;>
    cases opened with
    | nil => rfl
    | cons innermost _ => cases innermost <;> rfl

theorem run_number (first : Bool) (n : Nat) (rest : List Char) (ends : Ends (ofNat n) rest) :
    run limit ⟨.value first, opened⟩ ((ofNat n).render.toList ++ rest) =
      run limit (complete (ofNat n) opened) rest := by
  have spelling : (ofNat n).render.toList = Nat.toDigits 10 n := toList_toString n
  have value : ofNat n = .number (String.ofList (Nat.toDigits 10 n)) := by
    rw [ofNat, Nat.toString_eq_ofList_toDigits]
  rw [spelling, value]
  rw [value] at ends
  -- after a zero no digit may follow, so that it is a number of its own kind
  rcases Nat.eq_zero_or_pos n with rfl | pos
  · rw [Nat.toDigits_zero] at ends ⊢
    exact run_number_end (.inl rfl) ['0'] rest ends
  · obtain ⟨d, digits, above, below, head⟩ := toDigits_of_pos pos
    have all := isDigit_toDigits n
    rw [head] at all ends ⊢
    rw [List.cons_append, run_first_digit above below,
      run_digits _ _ _ fun c h => all c (List.mem_cons_of_mem _ h)]
    have spelled : (digits.reverse ++ [Nat.digitChar d]).reverse = Nat.digitChar d :: digits := by
      simp
    rw [← spelled] at ends ⊢
    exact run_number_end (.inr rfl) _ rest ends

/-! ### Arrays and objects -/

/-- Whether a value is read wherever there is room for it and something ends it. -/
def Reads (limit : Option Nat) (depth : Nat) (value : Json) : Prop :=
  ∀ (first : Bool) (opened : List Opened) (rest : List Char),
    (∀ most ∈ limit, opened.length + depth ≤ most) → Ends value rest →
      run limit ⟨.value first, opened⟩ (value.render.toList ++ rest) =
        run limit (complete value opened) rest

theorem run_first_key (rest : List Char) :
    run limit ⟨.key true, .object [] "" :: opened⟩ ('"' :: rest) =
      run limit ⟨.string true .plain [], .object [] "" :: opened⟩ rest := rfl

theorem run_next_key (before : List (String × Json)) (rest : List Char) :
    run limit ⟨.afterValue, .object before "" :: opened⟩ (',' :: '"' :: rest) =
      run limit ⟨.string true .plain [], .object before "" :: opened⟩ rest := rfl

variable {depth : Nat}

section room

variable (room : ∀ most ∈ limit, opened.length + (depth + 1) ≤ most)
include room

theorem fits_of_room : fits limit opened = true := by
  cases limit with
  | none => rfl
  | some most =>
    have h := room most rfl
    exact decide_eq_true (by omega)

theorem room_inside (around : Opened) :
    ∀ most ∈ limit, (around :: opened).length + depth ≤ most := by
  intro most h
  have := room most h
  rw [List.length_cons]
  omega

theorem run_open_array (first : Bool) (rest : List Char) :
    run limit ⟨.value first, opened⟩ ('[' :: rest) =
      run limit ⟨.value true, .array [] :: opened⟩ rest := by
  have opens : step limit ⟨.value first, opened⟩ '[' =
      if fits limit opened then some ⟨.value true, .array [] :: opened⟩ else none := rfl
  rw [run, opens, if_pos (fits_of_room room)]

theorem run_open_object (first : Bool) (rest : List Char) :
    run limit ⟨.value first, opened⟩ ('{' :: rest) =
      run limit ⟨.key true, .object [] "" :: opened⟩ rest := by
  have opens : step limit ⟨.value first, opened⟩ '{' =
      if fits limit opened then some ⟨.key true, .object [] "" :: opened⟩ else none := rfl
  rw [run, opens, if_pos (fits_of_room room)]

theorem run_item {item : Json} (reads : Reads limit depth item) (first : Bool)
    (before items : List Json) (rest : List Char) :
    run limit ⟨.value first, .array before :: opened⟩
        (item.render.toList ++ ((renderItems items).toList ++ ']' :: rest)) =
      run limit ⟨.afterValue, .array (item :: before) :: opened⟩
        ((renderItems items).toList ++ ']' :: rest) := by
  refine reads first _ _ (room_inside room _) ?_
  cases items with
  | nil => exact .of_cons item rest (.inr (.inl rfl))
  | cons next items =>
    rw [toList_renderItems_cons]
    exact .of_cons item _ (.inl rfl)

theorem run_renderItems {items : List Json} (each : ∀ item ∈ items, Reads limit depth item)
    (before : List Json) (rest : List Char) :
    run limit ⟨.afterValue, .array before :: opened⟩ ((renderItems items).toList ++ ']' :: rest) =
      run limit (complete (.array (before.reverse ++ items)) opened) rest := by
  -- the items read so far stand in the array that is open, the last one first
  induction items generalizing before with
  | nil =>
    rw [List.append_nil]
    rfl
  | cons item items ih =>
    rw [toList_renderItems_cons, List.cons_append, List.append_assoc]
    refine (run_item room (each item List.mem_cons_self) false before items rest).trans ?_
    rw [ih fun i h => each i (List.mem_cons_of_mem _ h), List.reverse_cons, List.append_assoc,
      List.singleton_append]

theorem run_member (key : String) {value : Json} (reads : Reads limit depth value)
    (before members : List (String × Json)) (rest : List Char) :
    run limit ⟨.string true .plain [], .object before "" :: opened⟩
        ((escape key).toList ++ '"' :: ':' ::
          (value.render.toList ++ ((renderMembers members).toList ++ '}' :: rest))) =
      run limit ⟨.afterValue, .object ((escape key, value) :: before) "" :: opened⟩
        ((renderMembers members).toList ++ '}' :: rest) := by
  rw [run_key]
  refine reads false _ _ (room_inside room _) ?_
  cases members with
  | nil => exact .of_cons value rest (.inr (.inr rfl))
  | cons next members =>
    rw [toList_renderMembers_cons]
    exact .of_cons value _ (.inl rfl)

theorem run_renderMembers {fields : List (String × Json)}
    (each : ∀ field ∈ fields, Reads limit depth field.2) (before : List (String × Json))
    (rest : List Char) :
    run limit ⟨.afterValue, .object before "" :: opened⟩
        ((renderMembers (fields.map fun (key, value) => (escape key, value))).toList ++
          '}' :: rest) =
      run limit (complete (.object
        (before.reverse ++ fields.map fun (key, value) => (escape key, value))) opened) rest := by
  induction fields generalizing before with
  | nil =>
    rw [List.map_nil, List.append_nil]
    rfl
  | cons field fields ih =>
    obtain ⟨key, value⟩ := field
    rw [List.map_cons, toList_renderMembers_cons]
    simp only [List.cons_append, List.append_assoc]
    have here : Reads limit depth value := each (key, value) List.mem_cons_self
    rw [run_next_key, run_member room key here, ih fun f h => each f (List.mem_cons_of_mem _ h),
      List.reverse_cons, List.append_assoc, List.singleton_append]

end room

theorem Reads.array {items : List Json} (each : ∀ item ∈ items, Reads limit depth item) :
    Reads limit (depth + 1) (.array items) := by
  intro first opened rest room _
  cases items with
  | nil => exact run_open_array room first (']' :: rest)
  | cons item items =>
    rw [toList_render_array_cons, List.cons_append, List.append_assoc, List.append_assoc,
      List.singleton_append, run_open_array room,
      run_item room (each item List.mem_cons_self),
      run_renderItems room fun i h => each i (List.mem_cons_of_mem _ h)]
    rfl

theorem Reads.object {fields : List (String × Json)}
    (each : ∀ field ∈ fields, Reads limit depth field.2) :
    Reads limit (depth + 1) (.ofFields fields) := by
  intro first opened rest room _
  cases fields with
  | nil => exact run_open_object room first ('}' :: rest)
  | cons field fields =>
    obtain ⟨key, value⟩ := field
    rw [ofFields, List.map_cons, toList_render_object_cons]
    simp only [List.cons_append, List.append_assoc, List.nil_append]
    have here : Reads limit depth value := each (key, value) List.mem_cons_self
    rw [run_open_object room, run_first_key, run_member room key here,
      run_renderMembers room fun f h => each f (List.mem_cons_of_mem _ h)]
    rfl

theorem Reads.of_written {value : Json} (written : Written depth value) :
    Reads limit depth value := by
  induction written with
  | text text => exact fun first opened rest _ _ => run_text first text rest
  | number n small => exact fun first opened rest _ ends => run_number first n rest ends
  | array items _ each => exact .array each
  | object fields _ each => exact .object each

end Parser

namespace Written

variable {depth : Nat} {value : Json}

/-- A line that holds a written value, and no number alone, is read as that value. -/
theorem parseWithin?_render (written : Written depth value) {limit : Option Nat}
    (room : ∀ most ∈ limit, depth ≤ most) (ends : Ends value ['\n']) :
    parseWithin? limit (value.render ++ "\n") = some value := by
  have room : ∀ most ∈ limit, ([] : List Parser.Opened).length + depth ≤ most := by
    simpa using room
  have read := Parser.Reads.of_written written false [] ['\n'] room ends
  rw [parseWithin?, String.toList_append]
  change (Parser.run limit ⟨.value false, []⟩ (value.render.toList ++ ['\n'])).bind _ = _
  rw [read]
  rfl

theorem soundItems_eq_true {items : List Json} (each : ∀ item ∈ items, item.sound = true) :
    soundItems items = true := by
  induction items with
  | nil => rfl
  | cons item items ih =>
    rw [soundItems, each item List.mem_cons_self, ih fun i h => each i (List.mem_cons_of_mem _ h)]
    rfl

theorem soundMembers_eq_true {fields : List (String × Json)}
    (each : ∀ field ∈ fields, field.2.sound = true) :
    soundMembers (fields.map fun (key, value) => (escape key, value)) = true := by
  induction fields with
  | nil => rfl
  | cons field fields ih =>
    obtain ⟨key, value⟩ := field
    rw [List.map_cons, soundMembers, unescape?_escape, each _ List.mem_cons_self,
      ih fun f h => each f (List.mem_cons_of_mem _ h)]
    rfl

theorem sound (written : Written depth value) : value.sound = true := by
  induction written with
  | text text =>
    rw [ofText, Json.sound, unescape?_escape]
    rfl
  | number n small => exact finiteLiteral_toString small
  | array items _ each => exact soundItems_eq_true each
  | object fields _ each => exact soundMembers_eq_true each

/-! ### Lines -/

/-- Text without control characters, which all fits on one line. -/
def Printable (chars : List Char) : Prop :=
  ∀ c ∈ chars, 0x20 ≤ c.toNat

instance (chars : List Char) : Decidable (Printable chars) :=
  List.decidableBAll _ chars

theorem printable_cons {c : Char} {chars : List Char} :
    Printable (c :: chars) ↔ 0x20 ≤ c.toNat ∧ Printable chars :=
  List.forall_mem_cons

theorem printable_append {front back : List Char} :
    Printable (front ++ back) ↔ Printable front ∧ Printable back :=
  List.forall_mem_append

theorem printable_escape (text : String) : Printable (escape text).toList := by
  intro c h
  rw [escape, String.toList_ofList] at h
  obtain ⟨d, -, h⟩ := List.mem_flatMap.mp h
  exact le_toNat_of_mem_escapeChar d c h

theorem printable_renderItems {items : List Json}
    (each : ∀ item ∈ items, Printable item.render.toList) :
    Printable (renderItems items).toList := by
  induction items with
  | nil => exact fun _ h => nomatch h
  | cons item items ih =>
    rw [toList_renderItems_cons, printable_cons, printable_append]
    exact ⟨by decide, each item List.mem_cons_self,
      ih fun i h => each i (List.mem_cons_of_mem _ h)⟩

theorem printable_renderMembers {fields : List (String × Json)}
    (each : ∀ field ∈ fields, Printable field.2.render.toList) :
    Printable (renderMembers (fields.map fun (key, value) => (escape key, value))).toList := by
  induction fields with
  | nil => exact fun _ h => nomatch h
  | cons field fields ih =>
    obtain ⟨key, value⟩ := field
    rw [List.map_cons, toList_renderMembers_cons]
    simp only [printable_cons, printable_append]
    exact ⟨by decide, by decide, printable_escape key, by decide, by decide,
      each _ List.mem_cons_self, ih fun f h => each f (List.mem_cons_of_mem _ h)⟩

/-- What is written is rendered in one line. -/
theorem printable_render (written : Written depth value) : Printable value.render.toList := by
  induction written with
  | text text =>
    have spelled := printable_escape text
    rw [escape, String.toList_ofList] at spelled
    rw [toList_render_ofText, printable_cons, printable_append]
    exact ⟨by decide, spelled, by decide⟩
  | number n small =>
    intro c h
    have digit := isDigit_toDigits n c (toList_toString n ▸ h)
    simp only [Char.isDigit, Bool.and_eq_true, decide_eq_true_eq] at digit
    exact Nat.le_trans (by decide) digit.1
  | array items _ each =>
    cases items with
    | nil => decide
    | cons item items =>
      rw [toList_render_array_cons]
      simp only [printable_cons, printable_append]
      exact ⟨by decide, each item List.mem_cons_self,
        printable_renderItems fun i h => each i (List.mem_cons_of_mem _ h), by decide⟩
  | object fields _ each =>
    cases fields with
    | nil => decide
    | cons field fields =>
      obtain ⟨key, value⟩ := field
      rw [ofFields, List.map_cons, toList_render_object_cons]
      simp only [printable_cons, printable_append]
      exact ⟨by decide, by decide, printable_escape key, by decide, by decide,
        each _ List.mem_cons_self,
        printable_renderMembers fun f h => each f (List.mem_cons_of_mem _ h), by decide⟩

end Written

end GridSchema.Json
