import DurationFormat.Granularity

/-!
# Templates

A template is what a format string means: literal text and placeholders in order, and the
granularity that its placeholders need. Its atoms are the same thing with literal text taken
apart into characters. `Segment.runs` goes back from atoms to segments: it gives the one list in
normal form that has these atoms.
-/

namespace DurationFormat

inductive Width where
  | single
  | double
  deriving DecidableEq

structure Placeholder where
  unit : TimeUnit
  width : Width
  deriving DecidableEq

def Placeholder.letters (p : Placeholder) : List Char :=
  match p.width with
  | .single => [p.unit.letter]
  | .double => [p.unit.letter, p.unit.letter]

inductive Atom where
  | char (c : Char)
  | placeholder (p : Placeholder)
  deriving DecidableEq

inductive Segment where
  | literal (text : String)
  | placeholder (p : Placeholder)
  deriving DecidableEq

namespace Segment

def isLiteral : Segment → Bool
  | .literal _ => true
  | .placeholder _ => false

def placeholder? : Segment → Option Placeholder
  | .literal _ => none
  | .placeholder p => some p

def atoms : Segment → List Atom
  | .literal text => text.toList.map .char
  | .placeholder p => [.placeholder p]

/-- The greatest granularity that a placeholder needs; none if there are no placeholders. -/
def granularity? (segments : List Segment) : Option Granularity :=
  ((segments.filterMap placeholder?).map fun p => p.unit.granularity).max?

/-- No literal is empty and no two literals are adjacent. -/
def Normal : List Segment → Prop
  | [] => True
  | .placeholder _ :: rest => Normal rest
  | .literal text :: rest =>
    text ≠ "" ∧ (∀ s ∈ rest.head?, s.isLiteral = false) ∧ Normal rest

/-- The literal for a run of characters held last to first, or nothing for an empty run. -/
def ofRun : List Char → List Segment
  | [] => []
  | c :: run => [.literal (String.ofList (c :: run).reverse)]

/-- Cuts atoms into segments, the characters in `run` having been read already. -/
def runsFrom : List Char → List Atom → List Segment
  | run, [] => ofRun run
  | run, .char c :: as => runsFrom (c :: run) as
  | run, .placeholder p :: as => ofRun run ++ .placeholder p :: runsFrom [] as

/-- Cuts atoms into placeholders and longest runs of characters. -/
def runs (as : List Atom) : List Segment := runsFrom [] as

theorem atoms_ofRun (run : List Char) :
    (ofRun run).flatMap atoms = run.reverse.map Atom.char := by
  cases run <;> simp [ofRun, atoms]

theorem atoms_runsFrom (run : List Char) (as : List Atom) :
    (runsFrom run as).flatMap atoms = run.reverse.map Atom.char ++ as := by
  fun_induction runsFrom run as with
  | case1 run => simp [atoms_ofRun]
  | case2 run c as ih => simp [ih]
  | case3 run p as ih => simp [ih, atoms_ofRun, atoms]

theorem normal_ofRun_append {run : List Char} {rest : List Segment}
    (h : ∀ s ∈ rest.head?, s.isLiteral = false) (hr : Normal rest) : Normal (ofRun run ++ rest) := by
  cases run with
  | nil => exact hr
  | cons c run => exact ⟨by simp [← String.toList_inj], h, hr⟩

theorem normal_runsFrom (run : List Char) (as : List Atom) : Normal (runsFrom run as) := by
  fun_induction runsFrom run as with
  | case1 run =>
    rw [← List.append_nil (ofRun run)]
    exact normal_ofRun_append (by simp) trivial
  | case2 run c as ih => exact ih
  | case3 run p as ih => exact normal_ofRun_append (by simp [isLiteral]) ih

theorem normal_runs (as : List Atom) : Normal (runs as) := normal_runsFrom [] as

@[simp] theorem atoms_runs (as : List Atom) : (runs as).flatMap atoms = as := by
  simp [runs, atoms_runsFrom]

end Segment

structure Template where
  segments : List Segment
  granularity : Option Granularity
  deriving DecidableEq

namespace Template

structure WellFormed (t : Template) : Prop where
  normal : Segment.Normal t.segments
  granularity_eq : t.granularity = Segment.granularity? t.segments

def ofSegments (segments : List Segment) : Template where
  segments := segments
  granularity := Segment.granularity? segments

def atoms (t : Template) : List Atom := t.segments.flatMap Segment.atoms

def placeholders (t : Template) : List Placeholder := t.segments.filterMap Segment.placeholder?

def isLiteral (t : Template) : Bool := t.granularity.isNone

@[simp] theorem segments_ofSegments (segments : List Segment) :
    (ofSegments segments).segments = segments := rfl

end Template

end DurationFormat
