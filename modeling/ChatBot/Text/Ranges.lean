-- Sets of characters as ranges of code points. The tables that use them follow
-- version 16.0 of the Unicode standard.

namespace ChatBot.Text

/-- Ranges of code points in rising order, both ends included. -/
abbrev Ranges := List (Nat × Nat)

/-- Whether a code point lies in one of the ranges. Looks no further than it has to. -/
def Ranges.holds : Ranges → Nat → Bool
  | [], _ => false
  | (first, last) :: more, n => if n < first then false else n ≤ last || Ranges.holds more n

/-- Whether the ranges rise, without touching each other. -/
def Ranges.rise : Ranges → Bool
  | [] => true
  | [(first, last)] => first ≤ last
  | (first, last) :: (next, upTo) :: more =>
    first ≤ last && last < next && Ranges.rise ((next, upTo) :: more)

end ChatBot.Text
