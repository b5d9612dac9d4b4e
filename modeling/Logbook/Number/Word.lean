/-!
# Machine words

The integers that a signed word of 64 bits holds: as many below zero as from zero up.
-/

namespace Logbook.Word

/-- The least integer of a word. -/
def least : Int := -9223372036854775808

/-- The greatest integer of a word. -/
def greatest : Int := 9223372036854775807

/-- Does a word hold the integer? -/
def holds (n : Int) : Bool :=
  least ≤ n && n ≤ greatest

end Logbook.Word
