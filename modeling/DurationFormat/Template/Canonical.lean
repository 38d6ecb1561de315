import DurationFormat.Template

/-!
# The canonical format string

The canonical form of a template quotes what would be read as something else and nothing more: a
`\` goes before each literal `\`, `[` and unit letter, and an empty region separates a placeholder
of one digit from one of the same unit that follows at once, since the two letters would be read
as a doubled one. It is written as marks first, so that what quotes and what is quoted stay apart.
-/

namespace DurationFormat

inductive Mark where
  /-- Stands for itself. -/
  | plain (c : Char)
  /-- Makes the next character literal. -/
  | quote
  /-- Keeps two equal letters apart. -/
  | seam
  deriving DecidableEq

namespace Mark

def text : Mark → List Char
  | .plain c => [c]
  | .quote => ['\\']
  | .seam => ['[', ']']

def needsQuote (c : Char) : Bool :=
  c == '\\' || c == '[' || (TimeUnit.ofLetter? c).isSome

/-- Whether a placeholder would be read as doubled if the next one followed at once. -/
def needsSeam (p next : Placeholder) : Bool := p.width = .single && p.unit = next.unit

def ofChar (c : Char) : List Mark :=
  if needsQuote c then [.quote, .plain c] else [.plain c]

/-- The marks of segments that follow the placeholder `prev?`, or follow none at once. -/
def ofSegments : (prev? : Option Placeholder) → List Segment → List Mark
  | _, [] => []
  | _, .literal text :: rest => text.toList.flatMap ofChar ++ ofSegments none rest
  | prev?, .placeholder p :: rest =>
    (if prev?.any (needsSeam · p) then [.seam] else []) ++ p.letters.map .plain ++
      ofSegments (some p) rest

end Mark

namespace Template

def marks (t : Template) : List Mark := Mark.ofSegments none t.segments

def canonical (t : Template) : String := String.ofList (t.marks.flatMap Mark.text)

@[simp] theorem toList_canonical (t : Template) :
    t.canonical.toList = t.marks.flatMap Mark.text :=
  String.toList_ofList

end Template

end DurationFormat
