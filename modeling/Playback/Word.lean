import Playback.Text.Numeral

/-!
# Sums of 64-bit numbers

Line numbers, indices, depths and columns are 64-bit numbers, held as natural numbers.  Most sums of
them stay far below the bound, because they count entries of a list.  Where nothing keeps a sum from
passing the bound, it is written with the sum here, which wraps around.
-/

namespace Playback.Word

def add (first second : Nat) : Nat :=
  (first + second) % (Text.maxWord + 1)

end Playback.Word
