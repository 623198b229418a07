set_option autoImplicit false

namespace MiniPascal.Text

/-- Inclusive ranges of code points in ascending order, no two of which meet. -/
abbrev CodeRanges := List (Nat × Nat)

def CodeRanges.contains : CodeRanges → Nat → Bool
  | [], _ => false
  | (first, last) :: rest, code =>
    -- The ranges ascend, so no later one can hold the code.
    if code < first then false
    else if code ≤ last then true
    else CodeRanges.contains rest code

end MiniPascal.Text
