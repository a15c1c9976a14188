/-!
The shortest decimal text of a double. The reals that round to a double form an
interval; the text is a point of that interval on the coarsest decimal grid
that has one there, the nearer of two, the even one of two equally near.
-/

namespace ObliviousTransfer.Decimal

attribute [local instance (5000)] instPowNat instNatPowNat

structure Binary where
  mantissa : Nat
  exponent : Int
  /-- Whether the doubles below are twice as dense as those above. -/
  narrow : Bool
  deriving DecidableEq

structure Scaled where
  digits : Nat
  exponent : Int
  deriving DecidableEq

def Binary.ofBits (bits : UInt64) : Binary :=
  let field := ((bits >>> 52) &&& 0x7ff).toNat
  let fraction := (bits &&& 0xfffffffffffff).toNat
  if field = 0 then ⟨fraction, -1074, false⟩
  else ⟨fraction + 0x10000000000000, (field : Int) - 1075, fraction == 0 && field != 1⟩

/-- The factors that turn `a * 10 ^ decimal` against `b * 2 ^ binary` into a comparison of natural
numbers. -/
def factors (decimal binary : Int) : Nat × Nat :=
  (10 ^ decimal.toNat * 2 ^ (-binary).toNat, 2 ^ binary.toNat * 10 ^ (-decimal).toNat)

/-- The best point of the grid of `10 ^ decimal` that rounds to the double, if there is one. The
interval is measured in quarters of the unit of the mantissa. -/
def gridPoint? (value : Binary) (decimal : Int) : Option Nat :=
  let (pointFactor, unitFactor) := factors decimal (value.exponent - 2)
  let centre := 4 * value.mantissa * unitFactor
  let low := (4 * value.mantissa - (if value.narrow then 1 else 2)) * unitFactor
  let high := (4 * value.mantissa + 2) * unitFactor
  let closed := value.mantissa % 2 == 0
  let inside (point : Nat) : Bool :=
    let position := point * pointFactor
    if closed then low ≤ position && position ≤ high else low < position && position < high
  let below := centre / pointFactor
  let above := below + 1
  let distanceBelow := centre - below * pointFactor
  let distanceAbove := above * pointFactor - centre
  if inside below then
    if inside above then
      if distanceBelow < distanceAbove then some below
      else if distanceAbove < distanceBelow then some above
      else some (if below % 2 = 0 then below else above)
    else some below
  else if inside above then some above
  else none

/-- Tries grids from the coarsest that can matter; the finest is finer than every double needs. -/
def shortestFrom (value : Binary) : Nat → Int → Scaled
  | 0, _ => ⟨0, 0⟩
  | fuel + 1, decimal =>
      match gridPoint? value decimal with
      | some digits => ⟨digits, decimal⟩
      | none => shortestFrom value fuel (decimal - 1)

def shortest (value : Binary) : Scaled := shortestFrom value 640 310

/-- How a double is written: positional for the exponents between two bounds, with a point and at
least one place, and otherwise with one digit before the point and a signed exponent. -/
structure Style where
  leastPositional : Int
  greatestPositional : Int

def Scaled.text (style : Style) (number : Scaled) : String :=
  let digits := (Nat.repr number.digits).toList
  let count : Int := digits.length
  let leading := number.exponent + count - 1
  let zeros (amount : Int) : List Char := List.replicate amount.toNat '0'
  if style.leastPositional ≤ leading ∧ leading ≤ style.greatestPositional then
    if 0 ≤ number.exponent then
      String.ofList (digits ++ zeros number.exponent ++ ['.', '0'])
    else if 0 ≤ leading then
      String.ofList (digits.take (leading + 1).toNat ++ '.' :: digits.drop (leading + 1).toNat)
    else String.ofList ('0' :: '.' :: zeros (-leading - 1) ++ digits)
  else
    let places := if digits.length ≤ 1 then [] else '.' :: digits.drop 1
    let sign := if leading < 0 then '-' else '+'
    String.ofList (digits.take 1 ++ places ++ 'e' :: sign :: (Nat.repr leading.natAbs).toList)

def text (style : Style) (bits : UInt64) : String :=
  let sign := if bits >>> 63 = 1 then "-" else ""
  let value := Binary.ofBits bits
  if value.mantissa = 0 then sign ++ "0.0" else sign ++ (shortest value).text style

end ObliviousTransfer.Decimal
