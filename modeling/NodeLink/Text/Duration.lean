/-!
# Durations in text

Durations are whole milliseconds. From one second up a duration is written in
seconds with as many decimal places as it needs; below that in milliseconds; and
no time at all is written as zero nanoseconds.
-/

set_option autoImplicit false

namespace NodeLink.Text

/-- The decimal places of a number of thousandths, without trailing zeros. -/
def thousandths (n : Nat) : String :=
  if n = 0 then ""
  else if n % 100 = 0 then "." ++ toString (n / 100)
  else if n % 10 = 0 then "." ++ (if n < 100 then "0" else "") ++ toString (n / 10)
  else "." ++ (if n < 10 then "00" else if n < 100 then "0" else "") ++ toString n

/-- A number of milliseconds in text. -/
def duration (milliseconds : Nat) : String :=
  if milliseconds = 0 then "0ns"
  else if milliseconds < 1000 then toString milliseconds ++ "ms"
  else toString (milliseconds / 1000) ++ thousandths (milliseconds % 1000) ++ "s"

end NodeLink.Text
