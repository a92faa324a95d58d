import GridSchema.Json.Range
import Mathlib.Data.List.TakeWhile
import Mathlib.Tactic.IntervalCases
import Mathlib.Tactic.SplitIfs

/-! Texts and natural numbers are read back from their spelling. -/

namespace GridSchema.Json

/-! ### Texts -/

/-- What holds of the characters that have an escape, and of every other one that is spelled as
itself, holds of all. -/
theorem escapeChar_cases {P : Char → Prop} (control : ∀ n < 0x20, P (Char.ofNat n))
    (quote : P '"') (backslash : P '\\')
    (plain : ∀ c, escapeChar c = [c] → 0x20 ≤ c.toNat → c ≠ '"' → c ≠ '\\' → P c) (c : Char) :
    P c := by
  by_cases below : c.toNat < 0x20
  · have h := control c.toNat below
    rwa [Char.ofNat_toNat] at h
  by_cases isQuote : c = '"'
  · exact isQuote ▸ quote
  by_cases isBackslash : c = '\\'
  · exact isBackslash ▸ backslash
  refine plain c ?_ (Nat.le_of_not_lt below) isQuote isBackslash
  unfold escapeChar
  split
  all_goals first
    | exact absurd rfl isQuote
    | exact absurd rfl isBackslash
    | exact absurd (by decide) below
    | rw [if_neg below]

/-- Four digits stand for a character of the basic plane. -/
theorem readSpelling_unicode {a b c d : Char} {unit : Nat} (text rest : List Char)
    (value : Text.numberIn? 16 [a, b, c, d] = some unit) (below : unit < 0xD800) :
    readSpelling text ('\\' :: 'u' :: a :: b :: c :: d :: rest) =
      readSpelling (Char.ofNat unit :: text) rest := by
  rw [readSpelling, value]
  simp only [below, true_or, ↓reduceIte]

theorem readSpelling_escapeChar (c : Char) (text rest : List Char) :
    readSpelling text (escapeChar c ++ rest) = readSpelling (c :: text) rest := by
  induction c using escapeChar_cases with
  | control n h =>
    interval_cases n <;> first | rfl | exact readSpelling_unicode text rest rfl (by decide)
  | quote => rfl
  | backslash => rfl
  | plain c spelled h quote backslash =>
    rw [spelled, List.singleton_append, readSpelling]
    all_goals simp [backslash]

theorem unescape?_escape (text : String) : unescape? (escape text) = some text := by
  have read (before chars : List Char) :
      readSpelling before (chars.flatMap escapeChar) = some (before.reverse ++ chars) := by
    induction chars generalizing before with
    | nil => simp [readSpelling]
    | cons c rest ih => simp [readSpelling_escapeChar, ih]
  simp [unescape?, escape, read]

theorem escape_replicate {c : Char} (plain : escapeChar c = [c]) (n : Nat) :
    escape (String.ofList (List.replicate n c)) = String.ofList (List.replicate n c) := by
  rw [escape, String.toList_ofList, List.flatMap_replicate, plain,
    List.flatten_replicate_singleton]

/-- No spelling has a control character. -/
theorem le_toNat_of_mem_escapeChar (c d : Char) (h : d ∈ escapeChar c) : 0x20 ≤ d.toNat := by
  have all : (escapeChar c).all (0x20 ≤ ·.toNat) = true := by
    induction c using escapeChar_cases with
    | control n lt => interval_cases n <;> decide
    | quote => decide
    | backslash => decide
    | plain c spelled above => simpa [spelled] using above
  exact of_decide_eq_true (List.all_eq_true.mp all d h)

/-! ### Natural numbers -/

theorem toList_toString (n : Nat) : (toString n).toList = Nat.toDigits 10 n := by
  rw [Nat.toString_eq_ofList_toDigits, String.toList_ofList]

theorem isDigit_toDigits (n : Nat) : ∀ c ∈ Nat.toDigits 10 n, c.isDigit = true :=
  fun _ h => Nat.isDigit_of_mem_toDigits (by decide) (by decide) h

theorem decimal_toDigits (n : Nat) : Text.decimal (Nat.toDigits 10 n) = n := by
  have h := Nat.ofDigitChars_ten_toDigits (n := n)
  simp only [Nat.ofDigitChars_eq_foldl, Nat.mul_comm 10] at h
  exact h

theorem digits?_toString (n : Nat) : digits? (toString n) = some n := by
  have all := List.all_eq_true.mpr (isDigit_toDigits n)
  simp [digits?, all, decimal_toDigits, Nat.toDigits_ne_nil]

theorem le_ofDigitChars (digits : List Char) (before : Nat) :
    before ≤ Nat.ofDigitChars 10 digits before := by
  induction digits generalizing before with
  | nil => rw [Nat.ofDigitChars_nil]
  | cons d rest ih =>
    have next := ih (10 * before + (d.toNat - '0'.toNat))
    rw [Nat.ofDigitChars_cons]
    omega

/-- Digits whose value fits are all taken into the significand. -/
theorem Decimal.take_of_lt (digits : List Char) (before : Nat)
    (fits : Nat.ofDigitChars 10 digits before < Nat.pow 2 64) :
    take before digits = (Nat.ofDigitChars 10 digits before, []) := by
  induction digits generalizing before with
  | nil => rw [take, Nat.ofDigitChars_nil]
  | cons d rest ih =>
    rw [Nat.ofDigitChars_cons] at fits ⊢
    rw [take, Nat.mul_comm before, if_pos (Nat.lt_of_le_of_lt (le_ofDigitChars rest _) fits),
      ih _ fits]

theorem Decimal.finite_of_lt {n : Nat} (small : n < Nat.pow 2 53) : finite ⟨n, 0⟩ = true := by
  have bound : n < Nat.pow 2 1024 - Nat.pow 2 970 :=
    Nat.lt_of_lt_of_le small (by decide +kernel)
  have unit : roundSignificant (Nat.pow 10 (0 : Int).toNat) = 1 := by decide
  have same : roundSignificant n = n := by rw [roundSignificant, if_pos small]
  simp only [finite, same, unit, Nat.mul_one, decide_eq_true bound]
  simp

theorem finiteLiteral_toString {n : Nat} (small : n < Nat.pow 2 53) :
    finiteLiteral (toString n) = true := by
  have all := isDigit_toDigits n
  have unsigned (rest : List Char) : Nat.toDigits 10 n ≠ '-' :: rest := by
    intro h
    have sign := all '-' (by rw [h]; exact List.mem_cons_self)
    exact absurd sign (by decide)
  have taken : Decimal.take 0 (Nat.toDigits 10 n) = (n, []) := by
    rw [Decimal.take_of_lt, Nat.ofDigitChars_ten_toDigits]
    rw [Nat.ofDigitChars_ten_toDigits]
    exact Nat.lt_trans small (by decide)
  unfold finiteLiteral
  rw [toList_toString]
  split
  next rest h => exact absurd h (unsigned rest)
  next digits h =>
    dsimp only
    rw [List.takeWhile_eq_self_iff.mpr all, List.dropWhile_eq_nil_iff.mpr all]
    simp [Decimal.ofDigits, taken, Decimal.take, Decimal.finite_of_lt small]

end GridSchema.Json
