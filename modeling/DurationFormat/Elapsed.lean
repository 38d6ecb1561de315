import DurationFormat.Template.Render

/-!
# Elapsed time

A span that is never negative, in seconds and nanoseconds, as clocks give it. It is shown by its
whole milliseconds, and a span too long for them is shown as the longest there is.
-/

namespace DurationFormat

structure Elapsed where
  seconds : UInt64
  /-- A billion or more of them count as seconds. -/
  nanoseconds : UInt32

namespace Elapsed

def maxMillis : Nat := 9223372036854775807

def wholeMillis (e : Elapsed) : Nat :=
  e.seconds.toNat * 1000 + e.nanoseconds.toNat / 1000000

def millis (e : Elapsed) : Int64 := .ofNat (min e.wholeMillis maxMillis)

def format (e : Elapsed) (format : String) : String := DurationFormat.format e.millis format

end Elapsed

end DurationFormat
