-- How long the bot has been running, in words.
import ChatBot.Decimal.Plain

namespace ChatBot.Command

/-- Whole seconds as hours, minutes and seconds; units in front that would be zero are
left out. -/
def durationText (seconds : Nat) : String :=
  let hours := seconds / 3600
  let minutes := seconds % 3600 / 60
  let rest := Decimal.text (seconds % 60) ++ "s"
  if 0 < hours then Decimal.text hours ++ "h " ++ Decimal.text minutes ++ "m " ++ rest
  else if 0 < minutes then Decimal.text minutes ++ "m " ++ rest
  else rest

/-- Milliseconds as hours, in doubles: whole seconds and the rest of a second are added, and
the sum is divided. -/
def hours (milliseconds : Nat) : Float :=
  let whole := Decimal.nearest (milliseconds / 1000) 1
  let nanoseconds := Decimal.nearest (milliseconds % 1000 * Decimal.tenTo 6) 1
  (whole + nanoseconds / Decimal.nearest (Decimal.tenTo 9) 1) / Decimal.nearest 3600 1

/-- Milliseconds as hours with one place after the point. -/
def hoursText (milliseconds : Nat) : String :=
  String.ofList ((Decimal.Binary64.ofFloat (hours milliseconds)).fixed 1)

end ChatBot.Command
