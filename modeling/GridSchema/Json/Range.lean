import GridSchema.Json.Basic

/-! Which values can be taken in whole: numbers that fit a double, and text without half surrogate
pairs. -/

namespace GridSchema.Json

/-- The nearest number of 53 significant bits; of two, the even one. -/
def roundSignificant (n : Nat) : Nat :=
  if n < Nat.pow 2 53 then n
  else
    let unit := Nat.pow 2 (n.log2 - 52)
    let low := n / unit
    let rest := n % unit
    let up := 2 * rest > unit || (2 * rest == unit && low % 2 == 1)
    (if up then low + 1 else low) * unit

structure Decimal where
  significand : Nat
  exponent : Int

def Decimal.take (significand : Nat) : List Char → Nat × List Char
  | [] => (significand, [])
  | d :: rest =>
    let next := significand * 10 + (d.toNat - '0'.toNat)
    if next < Nat.pow 2 64 then Decimal.take next rest else (significand, d :: rest)

/-- The significand and exponent of digits before and after a decimal point. -/
def Decimal.ofDigits (whole fraction : List Char) : Decimal :=
  let (significand, dropped) := Decimal.take 0 whole
  let (extended, left) := Decimal.take significand fraction
  ⟨extended, (dropped.length : Int) - ((fraction.length - left.length : Nat) : Int)⟩

/-- Whether the decimal, rounded as doubles are, is finite. -/
def Decimal.finite (decimal : Decimal) : Bool :=
  decimal.significand == 0 || decimal.exponent < 0 ||
    (decimal.exponent ≤ 308 &&
      roundSignificant decimal.significand * roundSignificant (Nat.pow 10 decimal.exponent.toNat)
        < Nat.pow 2 1024 - Nat.pow 2 970)

/-- Whether a number's literal denotes a double. An exponent of its own that does not fit 31 bits
is infinite, or zero. -/
def finiteLiteral (literal : String) : Bool :=
  let unsigned := match literal.toList with
    | '-' :: rest => rest
    | all => all
  let whole := unsigned.takeWhile Char.isDigit
  let afterWhole := unsigned.dropWhile Char.isDigit
  let fraction := match afterWhole with
    | '.' :: rest => rest.takeWhile Char.isDigit
    | _ => []
  let decimal := Decimal.ofDigits whole fraction
  match afterWhole.dropWhile fun c => c != 'e' && c != 'E' with
  | [] => decimal.finite
  | _ :: power =>
    let negative := power.head? == some '-'
    let digits := power.filter Char.isDigit
    let size := Text.decimal digits
    if size < Nat.pow 2 31 then
      (Decimal.mk decimal.significand
        (if negative then decimal.exponent - size else decimal.exponent + size)).finite
    else negative || decimal.significand == 0

mutual

/-- Whether every text of a value has a meaning and every number is a double. -/
def sound : Json → Bool
  | .number spelling => finiteLiteral spelling
  | .string spelling => (unescape? spelling).isSome
  | .array items => soundItems items
  | .object members => soundMembers members
  | _ => true

def soundItems : List Json → Bool
  | [] => true
  | item :: items => item.sound && soundItems items

def soundMembers : List (String × Json) → Bool
  | [] => true
  | (key, value) :: members =>
    (unescape? key).isSome && value.sound && soundMembers members

end

end GridSchema.Json
