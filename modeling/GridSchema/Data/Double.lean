/-! Numbers of 53 significant bits, and the shortest decimals that are read as them. -/

namespace GridSchema

/-- A quotient to the nearest integer; a half goes to the even one. -/
def roundEven (numerator denominator : Nat) : Nat :=
  let quotient := numerator / denominator
  let rest := 2 * (numerator % denominator)
  if denominator < rest ∨ (rest = denominator ∧ quotient % 2 = 1) then quotient + 1 else quotient

structure Double where
  mantissa : Nat
  exponent : Int
  deriving DecidableEq, Repr

namespace Double

def precision : Nat := 53

def scale (numerator denominator : Nat) (exponent : Int) : Nat × Nat :=
  (numerator <<< (-exponent).toNat, denominator <<< exponent.toNat)

/-- The number nearest to a quotient; of two as near, the one with the even mantissa. -/
def nearest (numerator denominator : Nat) : Double :=
  if numerator = 0 then ⟨0, 0⟩
  else
    let least : Int := (numerator.log2 : Int) - denominator.log2 - precision
    let (above, below) := scale numerator denominator least
    let exponent := if above / below < 1 <<< precision then least else least + 1
    let (above, below) := scale numerator denominator exponent
    let mantissa := roundEven above below
    if mantissa < 1 <<< precision then ⟨mantissa, exponent⟩ else ⟨mantissa / 2, exponent + 1⟩

def ratio (x : Double) : Nat × Nat :=
  (x.mantissa <<< x.exponent.toNat, 1 <<< (-x.exponent).toNat)

def divide (x : Double) (divisor : Nat) : Double :=
  let (numerator, denominator) := x.ratio
  nearest numerator (denominator * divisor)

/-- A number rounded to `places` decimal places, as a count of units in the last of them. -/
def rounded (x : Double) (places : Nat) : Nat :=
  let (numerator, denominator) := x.ratio
  roundEven (numerator * Nat.pow 10 places) denominator

/-- The two decimals next to a number, the nearer one first, as counts of units in the last of
`places` decimal places. -/
def neighbours (x : Double) (places : Nat) : List Nat :=
  let (numerator, denominator) := x.ratio
  let lower := numerator * Nat.pow 10 places / denominator
  if x.rounded places = lower then [lower, lower + 1] else [lower + 1, lower]

/-- The decimal with the fewest places, of `limit` at most, that is read as a number: its places,
and how many units in the last of them it has. -/
def shortest? (x : Double) (limit : Nat) : Option (Nat × Nat) :=
  (List.range (limit + 1)).findSome? fun places =>
    ((x.neighbours places).find? fun units => nearest units (Nat.pow 10 places) == x).map
      fun units => (places, units)

end Double

end GridSchema
