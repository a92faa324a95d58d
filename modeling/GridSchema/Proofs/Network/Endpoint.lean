import GridSchema.Network.Endpoint
import GridSchema.Proofs.Json.Spelling

/-! How addresses are read: a port behind the last colon, and in front of it the name of a host, or
an address of version 6 in brackets. -/

namespace GridSchema

namespace Text

theorem splitLast?_append {separator : Char} (before : List Char) {after : List Char}
    (plain : separator ∉ after) :
    splitLast? separator (before ++ separator :: after) = some (before, after) := by
  have others : ∀ c ∈ after.reverse, (c != separator) = true := by
    intro c mem
    rw [bne_iff_ne]
    rintro rfl
    exact plain (List.mem_reverse.mp mem)
  have reversed : (before ++ separator :: after).reverse =
      after.reverse ++ separator :: before.reverse := by
    simp
  rw [splitLast?, reversed, List.dropWhile_append_of_pos others,
    List.takeWhile_append_of_pos others]
  simp

theorem digit?_of_isDigit {c : Char} (digit : c.isDigit = true) :
    digit? c = some (c.toNat - '0'.toNat) ∧ c.toNat - '0'.toNat < 10 := by
  have bounds : 48 ≤ c.toNat ∧ c.toNat ≤ 57 := by
    simpa [Char.isDigit, UInt32.le_iff_toNat_le] using digit
  constructor
  · rw [digit?, if_pos digit]
  · have zero : '0'.toNat = 48 := rfl
    omega

/-- The value of digits is that of the decimal number that they spell. -/
theorem numberIn?_decimal {digits : List Char} (given : digits ≠ [])
    (decimal : ∀ c ∈ digits, c.isDigit = true) :
    numberIn? 10 digits = some (Text.decimal digits) := by
  have folded (n : Nat) : digits.foldlM (fun n d =>
      (digit? d).bind fun v => if v < 10 then some (n * 10 + v) else none) n =
      some (digits.foldl (fun n d => n * 10 + (d.toNat - '0'.toNat)) n) := by
    clear given
    induction digits generalizing n with
    | nil => rfl
    | cons c digits ih =>
      obtain ⟨read, small⟩ := digit?_of_isDigit (decimal c List.mem_cons_self)
      have later := ih fun d mem => decimal d (List.mem_cons_of_mem c mem)
      rw [List.foldlM_cons, read, Option.bind_some, if_pos small]
      exact later _
  rw [numberIn?, if_neg (by simpa using given)]
  exact folded 0

end Text

namespace Endpoint

theorem port?_toDigits (port : UInt16) : port? (Nat.toDigits 10 port.toNat) = some port := by
  have read := Text.numberIn?_decimal (Nat.toDigits_ne_nil (b := 10) (n := port.toNat))
    (Json.isDigit_toDigits port.toNat)
  rw [Json.decimal_toDigits] at read
  have small : port.toNat < 65536 := port.toNat_lt
  simp [port?, read, small]

/-- The host that is in brackets, if it is an address of version 6. -/
def bracketed? : List Char → Option Host
  | '[' :: rest => if rest.getLast? = some ']' then Host.parseScoped? false rest.dropLast else none
  | _ => none

/-- An address with a port leads to the host in brackets, or else to the one of the name. -/
theorem resolve_of_text {address : String} {name : List Char} {port : UInt16}
    (text : address.toList = name ++ ':' :: Nat.toDigits 10 port.toNat) :
    resolve address = match bracketed? name with
      | some host => .ok ⟨host, port⟩
      | none => (Host.lookup (String.ofList name)).map (⟨·, port⟩) := by
  have digits := Json.isDigit_toDigits port.toNat
  have read := port?_toDigits port
  obtain ⟨d, rest, spelled⟩ := List.exists_cons_of_ne_nil
    (Nat.toDigits_ne_nil (b := 10) (n := port.toNat))
  rw [spelled] at text digits read
  have plain : ':' ∉ d :: rest := fun mem => absurd (digits ':' mem) (by decide)
  have unsigned : d ≠ '+' := by
    rintro rfl
    exact absurd (digits '+' List.mem_cons_self) (by decide)
  have cut : Text.splitLast? ':' address.toList = some (name, d :: rest) := by
    rw [text, Text.splitLast?_append _ plain]
  have head : ((d :: rest).head? ≠ some '+') = True := by simp [unsigned]
  unfold resolve
  simp only [cut, head, and_true]
  split
  next port' found =>
    have same : port' = port := by
      simp [unsigned, read] at found
      exact found.symm
    subst same
    change (match bracketed? name with
      | some host => Except.ok (⟨host, port'⟩ : Endpoint)
      | none => (Host.lookup (String.ofList name)).bind fun host => .ok ⟨host, port'⟩) = _
    cases bracketed? name with
    | some host => rfl
    | none => cases Host.lookup (String.ofList name) <;> rfl
  next missing =>
    simp [unsigned, read] at missing

theorem toList_append_port (name : String) (port : UInt16) :
    (name ++ ":" ++ toString port).toList =
      name.toList ++ ':' :: Nat.toDigits 10 port.toNat := by
  have written : toString port = toString port.toNat := rfl
  rw [written, String.toList_append, String.toList_append, Json.toList_toString,
    List.append_assoc]
  rfl

theorem resolve_name {name : String} {host : Host} (known : Host.lookup name = .ok host)
    (bare : name.toList.head? ≠ some '[') (port : UInt16) :
    resolve (name ++ ":" ++ toString port) = .ok ⟨host, port⟩ := by
  have outside : bracketed? name.toList = none := by
    unfold bracketed?
    split
    next spelled =>
      rw [spelled] at bare
      exact absurd rfl bare
    · rfl
  rw [resolve_of_text (toList_append_port name port), outside, String.ofList_toList, known]
  rfl

theorem resolve_bracketed {text : String} {host : Host}
    (read : Host.parseScoped? false text.toList = some host) (port : UInt16) :
    resolve ("[" ++ text ++ "]:" ++ toString port) = .ok ⟨host, port⟩ := by
  have written : "[" ++ text ++ "]:" ++ toString port =
      "[" ++ text ++ "]" ++ ":" ++ toString port := by
    simp [String.append_assoc]
  have inside : bracketed? ("[" ++ text ++ "]").toList = some host := by
    have spelled : ("[" ++ text ++ "]").toList = '[' :: (text.toList ++ [']']) := by
      simp
    simp [spelled, bracketed?, read]
  rw [written, resolve_of_text (toList_append_port _ port), inside]

end Endpoint

end GridSchema
