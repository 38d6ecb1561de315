import DurationFormat.Json
import DurationFormat.Template.Canonical
import DurationFormat.Text.Quoted

/-!
# Explaining a template

A listing shows one segment a line, then the granularity, then the canonical form. Literal text is
quoted, so no segment takes more than its line; the canonical form comes last and is not. The same
three things make up the JSON form.
-/

namespace DurationFormat

def padEnd (width : Nat) (text : String) : String :=
  String.ofList (text.toList.rightpad width ' ')

def Width.name : Width → String
  | .single => "single"
  | .double => "double"

def Width.description : Width → String
  | .single => "1+ digits"
  | .double => "2+ digits"

namespace Segment

/-- The text of a literal is quoted with the given characters raw. -/
def description (raw : Char → Bool) : Segment → String
  | .literal text => padEnd 12 "literal" ++ " " ++ Text.quoted raw text
  | .placeholder p =>
    padEnd 12 p.unit.name ++ " " ++ padEnd 2 (String.ofList p.letters) ++
      " (" ++ p.width.description ++ ")"

def toJson : Segment → Json
  | .literal text => .obj [("literal", .str text)]
  | .placeholder p =>
    .obj [("placeholder", .obj [("unit", .str p.unit.name), ("width", .str p.width.name)])]

end Segment

namespace Template

def granularityLine (t : Template) : String :=
  "granularity: " ++
    (match t.granularity with
    | some g => g.name
    | none => "none (literal only)") ++ "\n"

def listingWith (raw : Char → Bool) (t : Template) : String :=
  String.join (t.segments.map fun s => s.description raw ++ "\n") ++ t.granularityLine ++
    "canonical: " ++ t.canonical ++ "\n"

def listing (t : Template) : String := t.listingWith Text.isVisible

def toJson (t : Template) : Json :=
  .obj [("segments", .arr (t.segments.map Segment.toJson)),
    ("granularity", (t.granularity.map fun g => Json.str g.name).getD .null),
    ("canonical", .str t.canonical)]

end Template

end DurationFormat
