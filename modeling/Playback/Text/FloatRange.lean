/-!
# The range of floating-point numbers

Decimal literals of every format stand for 64-bit floating-point numbers here, and a literal that
stands for none of them is refused.
-/

namespace Playback.Text

/-- The least number that rounds to no finite 64-bit floating-point number. -/
def overflowBound : Nat :=
  Nat.pow 2 1024 - Nat.pow 2 970

end Playback.Text
