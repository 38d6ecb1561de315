import DurationFormat.Granularity
import DurationFormat.Numeral

/-!
# Breakdowns

A duration in milliseconds, counted in the units of a granularity. Milliseconds are cut off toward
zero and a negative duration counts as none. What is left over from a unit is counted in the next
finer one, so only the first count is unbounded.
-/

namespace DurationFormat

/-- Whole seconds in a duration; a negative duration has none. -/
def wholeSeconds (millis : Int64) : Nat := (millis.toInt.tdiv 1000).toNat

structure Part where
  unit : TimeUnit
  count : Nat
  /-- The count in at least two digits, if it was asked for. -/
  padded : Option String
  deriving DecidableEq

structure Breakdown where
  granularity : Granularity
  parts : List Part
  deriving DecidableEq

/-- Divides seconds among units, each taking what the ones before it have left over. A unit that
is longer than what is left takes nothing. -/
def shares : List TimeUnit → Nat → List (TimeUnit × Nat)
  | [], _ => []
  | u :: us, s =>
    if u.seconds ≤ s then (u, s / u.seconds) :: shares us (s % u.seconds)
    else (u, 0) :: shares us s

namespace Breakdown

def ofMillis (millis : Int64) (g : Granularity) (withStrings : Bool) : Breakdown where
  granularity := g
  parts := (shares g.units (wholeSeconds millis)).map fun (u, n) =>
    ⟨u, n, if withStrings then some (Numeral.twoDigits n) else none⟩

/-- The number of parts may be any count, as `Granularity.ofPartCount` takes it. -/
def ofPartCount (millis : Int64) (parts : Nat) (withStrings : Bool) : Breakdown :=
  ofMillis millis (.ofPartCount parts) withStrings

def part? (b : Breakdown) (u : TimeUnit) : Option Part := b.parts.find? (·.unit = u)

def get? (b : Breakdown) (u : TimeUnit) : Option Nat := (b.part? u).map (·.count)

def padded? (b : Breakdown) (u : TimeUnit) : Option String := (b.part? u).bind (·.padded)

def maxTotal : Nat := 18446744073709551615

/-- A sum or product past the greatest total stays there. -/
def saturate (n : Nat) : Nat := min n maxTotal

def totalSeconds (b : Breakdown) : Nat :=
  b.parts.foldl (fun sum p => saturate (sum + saturate (p.count * p.unit.seconds))) 0

end Breakdown

@[simp] theorem shares_nil (s : Nat) : shares [] s = [] := rfl

@[simp] theorem shares_cons (u : TimeUnit) (us : List TimeUnit) (s : Nat) :
    shares (u :: us) s = (u, s / u.seconds) :: shares us (s % u.seconds) := by
  rw [shares]
  split
  · rfl
  · rename_i h
    have hs : s < u.seconds := Nat.lt_of_not_le h
    rw [Nat.div_eq_of_lt hs, Nat.mod_eq_of_lt hs]

@[simp] theorem map_fst_shares (us : List TimeUnit) (s : Nat) :
    (shares us s).map Prod.fst = us := by
  induction us generalizing s with
  | nil => rfl
  | cons u us ih => simp [ih]

end DurationFormat
