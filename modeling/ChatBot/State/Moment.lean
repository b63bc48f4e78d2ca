-- Moments: what the clocks show when the bot looks at them.

namespace ChatBot.State

/-- What the clocks show. -/
structure Moment where
  /-- Milliseconds on a clock that never goes back, from a point that does not matter. -/
  instant : Int
  /-- The local date, time and zone, in words. -/
  dateTime : String
  /-- The local date and time to the minute, in words. -/
  minute : String
  deriving DecidableEq, Repr, Inhabited

end ChatBot.State
