import DurationFormat.TimeUnit

/-!
# Granularity

How far up a breakdown reaches. A granularity includes its coarsest unit and every finer one, so
there are as many granularities as units, ordered by the number of parts they give. Nothing lies
above days: the coarsest unit of a granularity absorbs all longer time.
-/

namespace DurationFormat

inductive Granularity where
  | seconds
  | minutes
  | hours
  | days
  deriving DecidableEq

namespace Granularity

def partCount : Granularity → Nat
  | .seconds => 1
  | .minutes => 2
  | .hours => 3
  | .days => 4

def name : Granularity → String
  | .seconds => "seconds"
  | .minutes => "minutes"
  | .hours => "hours"
  | .days => "days"

/-- Hours, minutes and seconds are shown unless something else is asked for. -/
instance : Inhabited Granularity := ⟨.hours⟩

instance : LE Granularity := ⟨fun g k => g.partCount ≤ k.partCount⟩

instance : LT Granularity := ⟨fun g k => g.partCount < k.partCount⟩

instance (g k : Granularity) : Decidable (g ≤ k) :=
  inferInstanceAs (Decidable (g.partCount ≤ k.partCount))

instance (g k : Granularity) : Decidable (g < k) :=
  inferInstanceAs (Decidable (g.partCount < k.partCount))

instance : Ord Granularity := ⟨fun g k => compare g.partCount k.partCount⟩

instance : Max Granularity := maxOfLe

theorem partCount_inj {g k : Granularity} : g.partCount = k.partCount ↔ g = k := by
  cases g <;> cases k <;> decide

instance : Std.IsLinearOrder Granularity where
  le_refl _ := Nat.le_refl _
  le_trans _ _ _ := Nat.le_trans
  le_antisymm _ _ h h' := partCount_inj.mp (Nat.le_antisymm h h')
  le_total _ _ := Nat.le_total _ _

instance : Std.LawfulOrderMax Granularity where
  max_eq_or g k := by
    simp only [Max.max]
    split <;> simp
  max_le_iff g k m := by
    cases g <;> cases k <;> cases m <;> decide

def coarsest : Granularity → TimeUnit
  | .seconds => .second
  | .minutes => .minute
  | .hours => .hour
  | .days => .day

end Granularity

/-- The least granularity that includes the unit. -/
def TimeUnit.granularity : TimeUnit → Granularity
  | .day => .days
  | .hour => .hours
  | .minute => .minutes
  | .second => .seconds

namespace Granularity

def includes (g : Granularity) (u : TimeUnit) : Bool := decide (u.granularity ≤ g)

/-- The units of a granularity, coarsest first. -/
def units (g : Granularity) : List TimeUnit := TimeUnit.all.filter g.includes

/-- Any count is taken: none means the default, and more than four parts are not to be had. -/
def ofPartCount : Nat → Granularity
  | 0 => default
  | 1 => .seconds
  | 2 => .minutes
  | 3 => .hours
  | _ => .days

@[simp] theorem ofPartCount_partCount (g : Granularity) : ofPartCount g.partCount = g := by
  cases g <;> rfl

@[simp] theorem granularity_coarsest (g : Granularity) : g.coarsest.granularity = g := by
  cases g <;> rfl

@[simp] theorem coarsest_granularity (u : TimeUnit) : u.granularity.coarsest = u := by
  cases u <;> rfl

theorem includes_iff {g : Granularity} {u : TimeUnit} : g.includes u = true ↔ u.granularity ≤ g :=
  decide_eq_true_iff

theorem mem_units {g : Granularity} {u : TimeUnit} : u ∈ g.units ↔ u.granularity ≤ g := by
  simp [units, includes_iff, TimeUnit.mem_all]

@[simp] theorem length_units (g : Granularity) : g.units.length = g.partCount := by
  cases g <;> rfl

end Granularity

end DurationFormat
