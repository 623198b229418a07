import MiniPascal.Decimal.Shortest

set_option autoImplicit false

namespace MiniPascal

structure RealStyle where
  -- Whether a number whose first digit counts `10 ^ e` is written without an exponent.
  positional : (e : Int) → Bool
  -- What follows a whole number that is written without an exponent.
  wholeMark : String

namespace Decimal

def zeros (n : Nat) : String :=
  String.ofList (List.replicate n '0')

-- The power of ten that the first digit counts.
def leading (d : Decimal) : Int :=
  d.exponent + (toString d.digits).length - 1

def positionalText (d : Decimal) (wholeMark : String) : String :=
  let digits := (toString d.digits).toList
  if 0 ≤ d.exponent then
    String.ofList digits ++ zeros d.exponent.toNat ++ wholeMark
  else if 0 ≤ d.leading then
    let whole := (d.leading + 1).toNat
    String.ofList (digits.take whole) ++ "." ++ String.ofList (digits.drop whole)
  else
    "0." ++ zeros (-d.leading - 1).toNat ++ String.ofList digits

def exponentText (d : Decimal) : String :=
  match (toString d.digits).toList with
  | [] => ""
  | [first] => first.toString ++ "e" ++ toString d.leading
  | first :: others =>
    first.toString ++ "." ++ String.ofList others ++ "e" ++ toString d.leading

def text (style : RealStyle) (d : Decimal) : String :=
  if style.positional d.leading then d.positionalText style.wholeMark else d.exponentText

end Decimal

inductive Magnitude where
  | zero
  | finite (value : Binary)
  | infinite
  | nan

namespace Magnitude

def ofBits (bits : Nat) : Magnitude :=
  let exponent : Nat := (bits >>> 52) % 0x800
  let fraction : Nat := bits % 0x10000000000000
  if exponent = 2047 then (if fraction = 0 then .infinite else .nan)
  else if exponent = 0 then
    -- Subnormal: no hidden bit, and the spacing is that of the smallest normal numbers.
    if fraction = 0 then .zero else .finite ⟨fraction, -1074, false⟩
  else .finite ⟨0x10000000000000 + fraction, (exponent : Int) - 1075, fraction = 0 && 1 < exponent⟩

def text (style : RealStyle) : Magnitude → String
  | .zero => Decimal.text style ⟨0, 0⟩
  | .finite value => value.shortest.text style
  | .infinite => "inf"
  | .nan => "NaN"

end Magnitude

def RealStyle.text (style : RealStyle) (x : Float) : String :=
  let bits := x.toBits.toNat
  match Magnitude.ofBits bits with
  | .nan => Magnitude.text style .nan
  | magnitude => (if 0x8000000000000000 ≤ bits then "-" else "") ++ magnitude.text style

end MiniPascal
