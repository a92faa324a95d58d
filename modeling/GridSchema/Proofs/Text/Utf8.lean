import GridSchema.Text.Utf8
import Mathlib.Tactic.SplitIfs

/-! Text that was encoded is decoded again, one byte after the other. -/

namespace GridSchema.Utf8

/-! ### Bytes -/

theorem first_one : ∀ n < 128, first (UInt8.ofNat n) = (some (Char.ofNat n), .start) := by
  decide

theorem first_two : ∀ n < 32, 2 ≤ n →
    first (UInt8.ofNat (n + 0xC0)) = (none, .inside 1 0x80 0xBF n) := by
  decide

theorem first_three : ∀ n < 16, first (UInt8.ofNat (n + 0xE0)) =
    (none, .inside 2 (if n = 0 then 0xA0 else 0x80) (if n = 13 then 0x9F else 0xBF) n) := by
  decide

theorem first_four : ∀ n < 5, first (UInt8.ofNat (n + 0xF0)) =
    (none, .inside 3 (if n = 0 then 0x90 else 0x80) (if n = 4 then 0x8F else 0xBF) n) := by
  decide

variable {text : List Char} {rest : Bytes}

theorem scan?_start {b : UInt8} {after : Pending} (opened : first b = (none, after))
    (inside : after ≠ .start) : scan? text .start (b :: rest) = scan? text after rest := by
  cases after with
  | start => exact absurd rfl inside
  | inside owed low high code => simp [scan?, step, openChar, opened]

/-- A byte inside a character adds six bits to it. -/
theorem scan?_inside {owed code n : Nat} {low high : UInt8} (above : low.toNat ≤ n % 0x40 + 0x80)
    (below : n % 0x40 + 0x80 ≤ high.toNat) :
    scan? text (.inside owed low high code) (UInt8.ofNat (n % 0x40 + 0x80) :: rest) =
      if owed ≤ 1 then scan? (Char.ofNat (code * 0x40 + n % 0x40) :: text) .start rest
      else scan? text (.inside (owed - 1) 0x80 0xBF (code * 0x40 + n % 0x40)) rest := by
  have value : (UInt8.ofNat (n % 0x40 + 0x80)).toNat = n % 0x40 + 0x80 := by
    rw [UInt8.toNat_ofNat']
    omega
  have within : low ≤ UInt8.ofNat (n % 0x40 + 0x80) ∧ UInt8.ofNat (n % 0x40 + 0x80) ≤ high := by
    rw [UInt8.le_iff_toNat_le, UInt8.le_iff_toNat_le, value]
    exact ⟨above, below⟩
  have bits : (n % 0x40 + 0x80) % 0x40 = n % 0x40 := by omega
  by_cases last : owed ≤ 1
  · simp only [scan?, step, if_pos within, value, bits, if_pos last]
  · simp only [scan?, step, if_pos within, value, bits, if_neg last]

/-! ### Characters and texts -/

/-- The bytes of a character are read as that character. -/
theorem scan?_utf8EncodeChar (text : List Char) (c : Char) (rest : Bytes) :
    scan? text .start (String.utf8EncodeChar c ++ rest) = scan? (c :: text) .start rest := by
  have meant : Char.ofNat c.val.toNat = c := c.ofNat_toNat
  have valid : c.val.toNat < 0xD800 ∨ 0xDFFF < c.val.toNat ∧ c.val.toNat < 0x110000 := c.valid
  unfold String.utf8EncodeChar
  generalize c.val.toNat = v at meant valid
  have low (n : Nat) : (0x80 : UInt8).toNat ≤ n % 0x40 + 0x80 := Nat.le_add_left _ _
  have high (n : Nat) : n % 0x40 + 0x80 ≤ (0xBF : UInt8).toNat := by
    change n % 0x40 + 0x80 ≤ 0xBF
    omega
  by_cases one : v ≤ 0x7F
  · simp only [one, ↓reduceIte, List.cons_append, List.nil_append, scan?, step, openChar,
      first_one v (by omega), meant]
  by_cases two : v ≤ 0x7FF
  · have code : v / 64 % 0x20 * 0x40 + v % 0x40 = v := by omega
    simp only [one, two, ↓reduceIte, List.cons_append, List.nil_append]
    rw [scan?_start (first_two _ (by omega) (by omega)) nofun, scan?_inside (low v) (high v),
      if_pos (Nat.le_refl 1), code, meant]
  by_cases three : v ≤ 0xFFFF
  · -- the second byte keeps out longer spellings after 0xE0 and surrogates after 0xED
    have above : (if v / 4096 % 0x10 = 0 then 0xA0 else 0x80 : UInt8).toNat ≤
        v / 64 % 0x40 + 0x80 := by
      split
      · change 0xA0 ≤ v / 64 % 0x40 + 0x80
        omega
      · exact low _
    have below : v / 64 % 0x40 + 0x80 ≤
        (if v / 4096 % 0x10 = 13 then 0x9F else 0xBF : UInt8).toNat := by
      split
      · change v / 64 % 0x40 + 0x80 ≤ 0x9F
        omega
      · exact high _
    have code : (v / 4096 % 0x10 * 0x40 + v / 64 % 0x40) * 0x40 + v % 0x40 = v := by omega
    simp only [one, two, three, ↓reduceIte, List.cons_append, List.nil_append]
    rw [scan?_start (first_three _ (by omega)) nofun, scan?_inside above below,
      if_neg (by decide), scan?_inside (low v) (high v), if_pos (Nat.le_refl 1), code, meant]
  · -- and after 0xF0 and 0xF4 also what is beyond the last character
    have above : (if v / 262144 % 8 = 0 then 0x90 else 0x80 : UInt8).toNat ≤
        v / 4096 % 0x40 + 0x80 := by
      split
      · change 0x90 ≤ v / 4096 % 0x40 + 0x80
        omega
      · exact low _
    have below : v / 4096 % 0x40 + 0x80 ≤
        (if v / 262144 % 8 = 4 then 0x8F else 0xBF : UInt8).toNat := by
      split
      · change v / 4096 % 0x40 + 0x80 ≤ 0x8F
        omega
      · exact high _
    have code : ((v / 262144 % 8 * 0x40 + v / 4096 % 0x40) * 0x40 + v / 64 % 0x40) * 0x40 +
        v % 0x40 = v := by omega
    simp only [one, two, three, ↓reduceIte, List.cons_append, List.nil_append]
    rw [scan?_start (first_four _ (by omega)) nofun, scan?_inside above below,
      if_neg (by decide), scan?_inside (low _) (high _), if_neg (by decide),
      scan?_inside (low v) (high v), if_pos (Nat.le_refl 1), code, meant]

theorem decode?_encode (text : String) : decode? (encode text) = some text := by
  have scanned (read chars : List Char) (rest : Bytes) :
      scan? read .start (chars.flatMap String.utf8EncodeChar ++ rest) =
        scan? (chars.reverse ++ read) .start rest := by
    induction chars generalizing read with
    | nil => rfl
    | cons c chars ih =>
      rw [List.flatMap_cons, List.append_assoc, scan?_utf8EncodeChar, ih]
      simp
  have whole := scanned [] text.toList []
  rw [List.append_nil] at whole
  simp [decode?, encode, whole, scan?]

theorem encode_append (a b : String) : encode (a ++ b) = encode a ++ encode b := by
  simp [encode]

theorem encode_replicate {c : Char} {b : UInt8} (one : String.utf8EncodeChar c = [b]) (n : Nat) :
    encode (String.ofList (List.replicate n c)) = List.replicate n b := by
  rw [encode, String.toList_ofList, List.flatMap_replicate, one, List.flatten_replicate_singleton]

theorem length_encode (text : String) : (encode text).length = text.utf8ByteSize := by
  have bytes : text.toByteArray = (encode text).toByteArray := by
    rw [encode, ← List.utf8Encode, ← String.toByteArray_ofList, String.ofList_toList]
  rw [← String.size_toByteArray, bytes, List.size_toByteArray]

/-- A byte of a character is in the range of ASCII only if the character is. -/
theorem toNat_of_mem_utf8EncodeChar {c : Char} {b : UInt8} (h : b ∈ String.utf8EncodeChar c)
    (ascii : b.toNat < 0x80) : c.toNat = b.toNat := by
  have outside {n : Nat} (le : 0x80 ≤ n) (lt : n < 0x100) : b ≠ UInt8.ofNat n := by
    rintro rfl
    rw [UInt8.toNat_ofNat'] at ascii
    omega
  unfold String.utf8EncodeChar at h
  change c.val.toNat = b.toNat
  generalize c.val.toNat = v at h
  dsimp only at h
  split_ifs at h with one two three <;> simp only [List.mem_cons, List.not_mem_nil, or_false] at h
  · rw [h, UInt8.toNat_ofNat']
    omega
  · rcases h with h | h <;> exact absurd h (outside (by omega) (by omega))
  · rcases h with h | h | h <;> exact absurd h (outside (by omega) (by omega))
  · rcases h with h | h | h | h <;> exact absurd h (outside (by omega) (by omega))

/-! ### Texts cut short -/

theorem step_ne_start {pending after : Pending} {b : UInt8} (silent : step pending b = ([], after)) :
    after ≠ .start := by
  have opens {after : Pending} (silent : openChar b = ([], after)) : after ≠ .start := by
    unfold openChar at silent
    split at silent
    · cases silent
    · cases silent
    · next inside _ =>
      cases silent
      exact fun h => inside h
  cases pending with
  | start => exact opens silent
  | inside owed low high code =>
    simp only [step] at silent
    split_ifs at silent
    all_goals cases silent
    exact nofun

/-- What is read is added to what was read before, and some bytes add something. -/
theorem exists_of_scan? {pending : Pending} {bytes : Bytes} {read : List Char}
    (scanned : scan? text pending bytes = some read) :
    ∃ more, read = text.reverse ++ more ∧ (bytes ≠ [] → more ≠ []) := by
  fun_induction scan? text pending bytes with
  | case1 text =>
    cases scanned
    exact ⟨[], by simp, fun held => absurd rfl held⟩
  | case2 => cases scanned
  | case3 text pending b rest after silent ih =>
    obtain ⟨more, rfl, adds⟩ := ih scanned
    refine ⟨more, rfl, fun _ => adds ?_⟩
    -- a character is open, so that the bytes do not end here
    rintro rfl
    cases after with
    | start => exact step_ne_start silent rfl
    | inside owed low high code => cases scanned
  | case4 text pending b rest c after _ ih =>
    obtain ⟨more, rfl, -⟩ := ih scanned
    exact ⟨c :: more, by simp, fun _ => List.cons_ne_nil c more⟩
  | case5 => cases scanned

theorem scan?_append {pending : Pending} {bytes : Bytes} {read : List Char}
    (scanned : scan? text pending bytes = some read) (rest : Bytes) :
    scan? text pending (bytes ++ rest) = scan? read.reverse .start rest := by
  fun_induction scan? text pending bytes with
  | case1 text =>
    cases scanned
    rw [List.nil_append, List.reverse_reverse]
  | case2 => cases scanned
  | case3 text pending b bytes after silent ih =>
    rw [List.cons_append, scan?, silent]
    exact ih scanned
  | case4 text pending b bytes c after found ih =>
    rw [List.cons_append, scan?, found]
    exact ih scanned
  | case5 => cases scanned

/-- Of the bytes of a text the first ones are the bytes of no text or of a shorter one. -/
theorem exists_of_decode? {text start : String} {bytes rest : Bytes}
    (cut : encode text = bytes ++ rest) (left : rest ≠ [])
    (decoded : decode? bytes = some start) :
    ∃ more, text.toList = start.toList ++ more ∧ more ≠ [] := by
  obtain ⟨read, scanned, rfl⟩ := Option.map_eq_some_iff.mp decoded
  have whole := decode?_encode text
  rw [cut, decode?, scan?_append scanned] at whole
  obtain ⟨all, scanned, rfl⟩ := Option.map_eq_some_iff.mp whole
  obtain ⟨more, rfl, adds⟩ := exists_of_scan? scanned
  exact ⟨more, by simp, adds left⟩

end GridSchema.Utf8
