/-!
The fewest decimal digits that read back as a given double.

A double stands for every real that rounds to it. Among the grids of whole multiples of a power of
ten, the coarsest one with a point in that interval gives the fewest digits; of two such points the
nearer one is taken.
-/

set_option autoImplicit false

namespace MiniPascal

/-- The positive number `mantissa * 2 ^ exponent`, as a double holds it. -/
structure Binary where
  mantissa : Nat
  exponent : Int
  -- Whether the next smaller double is only half as far away as the next larger one.
  narrowBelow : Bool

structure Decimal where
  digits : Nat
  exponent : Int

namespace Binary

-- Four times the mantissa, so that both ends of the rounding interval are whole.
def scaled (b : Binary) : Nat := 4 * b.mantissa

def lower (b : Binary) : Nat := b.scaled - if b.narrowBelow then 1 else 2

def upper (b : Binary) : Nat := b.scaled + 2

-- Ties go to the even mantissa, so the ends belong to the interval exactly if it is even.
def closedEnds (b : Binary) : Bool := b.mantissa % 2 == 0

/-- The unit of `scaled`, in steps of the grid of multiples of `10 ^ k`, as a fraction. -/
def unitOnGrid (b : Binary) (k : Int) : Nat × Nat :=
  (Nat.pow 2 (b.exponent - 2).toNat * Nat.pow 10 (-k).toNat,
    Nat.pow 2 (2 - b.exponent).toNat * Nat.pow 10 k.toNat)

def covers (b : Binary) (k : Int) (n : Nat) : Bool :=
  let (num, den) := b.unitOnGrid k
  let below := b.lower * num
  let above := b.upper * num
  if b.closedEnds then below ≤ n * den && n * den ≤ above else below < n * den && n * den < above

/-- The point of the grid of multiples of `10 ^ k` that stands for the double, if there is one: of
the two neighbours of its value the nearer one, the upper one if both are as near. -/
def onGrid? (b : Binary) (k : Int) : Option Nat :=
  let (num, den) := b.unitOnGrid k
  let floor := b.scaled * num / den
  match b.covers k floor, b.covers k (floor + 1) with
  | true, true => if 2 * (b.scaled * num % den) < den then some floor else some (floor + 1)
  | true, false => some floor
  | false, true => some (floor + 1)
  | false, false => none

-- A power of ten above the number: 30103 / 100000 is a little more than the logarithm of 2.
def decimalCeiling (b : Binary) : Int :=
  (b.exponent + b.mantissa.log2 + 1) * 30103 / 100000 + 1

def coarsest (b : Binary) : (steps : Nat) → (k : Int) → Decimal
  | 0, k => ⟨b.scaled * (b.unitOnGrid k).1 / (b.unitOnGrid k).2, k⟩
  | steps + 1, k =>
    match b.onGrid? k with
    | some digits => ⟨digits, k⟩
    | none => b.coarsest steps (k - 1)

/-- Seventeen digits tell any two doubles apart, so the search ends within twenty grids. -/
def shortest (b : Binary) : Decimal :=
  b.coarsest 20 b.decimalCeiling

end Binary

end MiniPascal
