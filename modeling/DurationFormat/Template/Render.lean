import DurationFormat.Breakdown
import DurationFormat.Template.Reader

/-!
# Rendering

A template shows a duration by the breakdown at its granularity, so what a placeholder shows
depends on the coarsest unit among all of them. A template without placeholders needs no breakdown
and shows its text.
-/

namespace DurationFormat

def Placeholder.shown? (p : Placeholder) (b : Breakdown) : Option String :=
  match p.width with
  | .single => (b.get? p.unit).map Numeral.plain
  | .double =>
    match b.padded? p.unit with
    | some text => some text
    | none => (b.get? p.unit).map Numeral.twoDigits

/-- A placeholder whose unit the breakdown leaves out shows nothing. -/
def Segment.render (b : Breakdown) : Segment → String
  | .literal text => text
  | .placeholder p => (p.shown? b).getD ""

def Segment.literalText : Segment → String
  | .literal text => text
  | .placeholder _ => ""

namespace Template

def literalText (t : Template) : String := String.join (t.segments.map Segment.literalText)

def render (t : Template) (millis : Int64) : String :=
  match t.granularity with
  | none => t.literalText
  | some g => String.join (t.segments.map (Segment.render (.ofMillis millis g true)))

end Template

def defaultFormat : String := "hh:mm:ss"

/-- Shows a duration in milliseconds as a format string says. -/
def format (millis : Int64) (format : String) : String := (Template.ofString format).render millis

def formatOrDefault (millis : Int64) (format? : Option String) : String :=
  format millis (format?.getD defaultFormat)

end DurationFormat
