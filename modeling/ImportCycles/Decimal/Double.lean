/-! # Decimal numerals of binary fractions

A decimal numeral is rounded to the nearest number with a significand of 53 bits, and written back
with the fewest digits that round to that number again. All arithmetic is exact.
-/

namespace ImportCycles.Decimal

/-- The quotient rounded to the nearest number, a half to the even neighbour. -/
def roundHalfEven (num den : Nat) : Nat :=
  let floor := num / den
  let twice := 2 * (num % den)
  if twice < den then floor
  else if den < twice then floor + 1
  else floor + floor % 2

/-- A fraction times a power of `base`, as a fraction. -/
def scale (base num den : Nat) (exponent : Int) : Nat × Nat :=
  if 0 ≤ exponent then (num * Nat.pow base exponent.toNat, den)
  else (num, den * Nat.pow base (-exponent).toNat)

/-- A positive number `significand * 2 ^ exponent` with a significand of at most 53 bits. -/
structure Double where
  significand : Nat
  exponent : Int
  deriving DecidableEq, Repr

/-- The least exponent. -/
def Double.minExponent : Int := -1074

/-- The greatest exponent. -/
def Double.maxExponent : Int := 971

/-- The double nearest to a positive fraction; `none` if the fraction is too large. -/
def nearest? (num den : Nat) : Option Double :=
  let guess : Int := (num.log2 : Int) - (den.log2 : Int) - 53
  let at? := fun (exponent : Int) =>
    let exponent := max exponent Double.minExponent
    let (n, d) := scale 2 num den (-exponent)
    let significand := roundHalfEven n d
    if significand < Nat.pow 2 53 && exponent ≤ Double.maxExponent then
      some (⟨significand, exponent⟩ : Double)
    else none
  (List.range 4).findSome? fun (i : Nat) => at? (guess + i)

/-- Is the decimal `digits * 10 ^ exponent` rounded to this double? -/
def Double.covers (x : Double) (digits : Nat) (exponent : Int) : Bool :=
  let (num, den) := scale 10 digits 1 exponent
  nearest? num den == some x

/-- The number of digits of a positive number before its decimal point; negative if zeros follow
the point. -/
def Double.magnitude (x : Double) : Int :=
  let (num, den) := scale 2 x.significand 1 x.exponent
  let shift : Nat := 350
  ((toString (num * Nat.pow 10 shift / den)).length : Int) - shift

/-- The nearest decimal with `count` digits that is rounded to this double. -/
def Double.withDigits? (x : Double) (count : Nat) : Option (Nat × Int) :=
  let exponent := x.magnitude - count
  let (num, den) := scale 2 x.significand 1 x.exponent
  let (n, d) := scale 10 num den (-exponent)
  let below := n / d
  let candidates := if 2 * (n % d) < d then [below, below + 1] else [below + 1, below]
  (candidates.find? fun digits => digits != 0 && x.covers digits exponent).map (·, exponent)

/-- The decimal with the fewest digits that is rounded to this double. -/
def Double.shortest (x : Double) : Nat × Int :=
  ((List.range 17).findSome? fun i => x.withDigits? (i + 1)).getD (0, 0)

/-- Drops the zeros at the end of the digits. -/
def dropZeros (fuel digits : Nat) (exponent : Int) : Nat × Int :=
  match fuel with
  | 0 => (digits, exponent)
  | fuel + 1 =>
    if digits ≠ 0 ∧ digits % 10 = 0 then dropZeros fuel (digits / 10) (exponent + 1)
    else (digits, exponent)

/-- The decimal written without an exponent and with a point. -/
def positional (digits : Nat) (exponent : Int) : String :=
  let (digits, exponent) := dropZeros 20 digits exponent
  let text := (toString digits).toList
  if 0 ≤ exponent then String.ofList (text ++ List.replicate exponent.toNat '0') ++ ".0"
  else
    let places := (-exponent).toNat
    let padded := List.replicate (places + 1 - text.length) '0' ++ text
    String.ofList (padded.take (padded.length - places)) ++ "." ++
      String.ofList (padded.drop (padded.length - places))

/-- The text of the double nearest to a decimal numeral; `none` if it is too large. -/
def text? (negative : Bool) (digits : Nat) (exponent : Int) : Option String :=
  let sign := if negative then "-" else ""
  let size := ((toString digits).length : Int) + exponent
  if digits = 0 ∨ size < -400 then some (sign ++ "0.0")
  else if 400 < size then none
  else
    let (num, den) := scale 10 digits 1 exponent
    match nearest? num den with
    | none => none
    | some x =>
      if x.significand = 0 then some (sign ++ "0.0")
      else
        let (digits, exponent) := x.shortest
        some (sign ++ positional digits exponent)

end ImportCycles.Decimal
