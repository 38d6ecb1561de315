/-!
# Time units

The four units a duration is counted in. A month or a year has no fixed length and is not one of
them, so a day is the coarsest. Each unit's length divides that of the next coarser one.
-/

namespace DurationFormat

inductive TimeUnit where
  | day
  | hour
  | minute
  | second
  deriving DecidableEq

namespace TimeUnit

def all : List TimeUnit := [.day, .hour, .minute, .second]

def seconds : TimeUnit → Nat
  | .day => 86400
  | .hour => 3600
  | .minute => 60
  | .second => 1

def name : TimeUnit → String
  | .day => "day"
  | .hour => "hour"
  | .minute => "minute"
  | .second => "second"

/-- The key under which a count padded to two digits is filed beside the plain one. -/
def paddedKey : TimeUnit → String
  | .day => "day2"
  | .hour => "hour2"
  | .minute => "minute2"
  | .second => "second2"

/-- The letter that stands for the unit in a format string. -/
def letter : TimeUnit → Char
  | .day => 'd'
  | .hour => 'h'
  | .minute => 'm'
  | .second => 's'

def ofLetter? : Char → Option TimeUnit
  | 'd' => some .day
  | 'h' => some .hour
  | 'm' => some .minute
  | 's' => some .second
  | _ => none

theorem mem_all (u : TimeUnit) : u ∈ all := by cases u <;> decide

theorem seconds_pos (u : TimeUnit) : 0 < u.seconds := by cases u <;> decide

@[simp] theorem ofLetter?_letter (u : TimeUnit) : ofLetter? u.letter = some u := by cases u <;> rfl

theorem ofLetter?_eq_some_iff {c : Char} {u : TimeUnit} :
    ofLetter? c = some u ↔ c = u.letter := by
  refine ⟨fun h => ?_, fun h => h ▸ ofLetter?_letter u⟩
  unfold ofLetter? at h
  split at h <;> cases h <;> rfl

theorem letter_inj {u v : TimeUnit} : u.letter = v.letter ↔ u = v := by
  cases u <;> cases v <;> decide

theorem letter_ne_escape (u : TimeUnit) : u.letter ≠ '\\' := by cases u <;> decide

theorem letter_ne_open (u : TimeUnit) : u.letter ≠ '[' := by cases u <;> decide

theorem letter_ne_close (u : TimeUnit) : u.letter ≠ ']' := by cases u <;> decide

theorem ofLetter?_eq_none_iff {c : Char} : ofLetter? c = none ↔ ∀ u : TimeUnit, c ≠ u.letter := by
  simp [Option.eq_none_iff_forall_ne_some, ofLetter?_eq_some_iff]

end TimeUnit

end DurationFormat
