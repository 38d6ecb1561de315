import DurationFormat.Breakdown
import DurationFormat.Json

/-!
# Breakdowns written out

A breakdown is written as one line a part, or as one JSON object in which a padded count stands
beside the plain one under a key of its own.
-/

namespace DurationFormat

namespace Part

def line (p : Part) : String :=
  p.unit.name ++ ": " ++ Numeral.plain p.count ++
    (match p.padded with
    | some text => " (" ++ text ++ ")"
    | none => "") ++ "\n"

def fields (p : Part) : List (String × Json) :=
  (p.unit.name, .int p.count) ::
    match p.padded with
    | some text => [(p.unit.paddedKey, .str text)]
    | none => []

end Part

namespace Breakdown

def listing (b : Breakdown) : String := String.join (b.parts.map Part.line)

def fields (b : Breakdown) : List (String × Json) := b.parts.flatMap Part.fields

/-- How many fields there are, as it is announced before they are written. -/
def fieldCount (b : Breakdown) : Nat :=
  b.parts.length + (b.parts.filter (·.padded.isSome)).length

def toJson (b : Breakdown) : Json := .obj b.fields

def serialized (b : Breakdown) : String := b.toJson.compact

end Breakdown

end DurationFormat
