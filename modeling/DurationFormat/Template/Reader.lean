import DurationFormat.Template

/-!
# Reading format strings

A unit's letter calls for its count, and the letter written twice for at least two digits of it.
Text between `[` and `]` is a region, in which letters are plain text; the brackets themselves
vanish. A `\` makes the next character plain text whatever it is, even a `]` in a region.
All else stands for itself.

Every string is a format string. A region left open at the end and a `\` with nothing to quote are
forgiven, and reported. The text is read once from left to right: literal text is held back until
a placeholder or the end of the text completes it, and the granularity grows with the
placeholders met.
-/

namespace DurationFormat

inductive Mode where
  | active
  | inert
  deriving DecidableEq

/-- What a format string leaves open at its end. -/
inductive Diagnostic where
  | openRegion (format : String)
  | danglingEscape (format : String)
  deriving DecidableEq

def Diagnostic.message : Diagnostic → String
  | .openRegion format => "literal region still open at end of format format=" ++ format
  | .danglingEscape format => "dropping trailing escape character format=" ++ format

structure Reader where
  /-- The complete segments. -/
  segments : List Segment
  /-- Literal text that may still grow. -/
  literal : String
  granularity : Option Granularity
  mode : Mode
  quoting : Bool
  deriving DecidableEq

namespace Reader

def start : Reader := ⟨[], "", none, .active, false⟩

def addChar (r : Reader) (c : Char) : Reader :=
  { r with literal := r.literal.push c, quoting := false }

/-- Literal text becomes a segment, unless there is none. -/
def flush (r : Reader) : Reader :=
  if r.literal = "" then r
  else { r with segments := r.segments ++ [.literal r.literal], literal := "" }

def addPlaceholder (r : Reader) (p : Placeholder) : Reader :=
  { r.flush with
    segments := r.flush.segments ++ [.placeholder p]
    granularity := max r.granularity (some p.unit.granularity) }

/-- Takes a character that is neither quoted nor a bracket with a meaning of its own. -/
def addPlain (r : Reader) (c : Char) : Reader :=
  if c = '\\' then { r with quoting := true } else r.addChar c

/-- Takes a character that is neither quoted nor the letter of a placeholder. -/
def step (r : Reader) (c : Char) : Reader :=
  match r.mode with
  | .active => if c = '[' then { r with mode := .inert } else r.addPlain c
  | .inert => if c = ']' then { r with mode := .active } else r.addPlain c

def read (r : Reader) : List Char → Reader
  | [] => r
  | c :: rest =>
    if r.quoting then (r.addChar c).read rest
    else
      match r.mode, TimeUnit.ofLetter? c with
      | .active, some u =>
        match rest with
        | [] => r.addPlaceholder ⟨u, .single⟩
        | next :: rest =>
          if next = c then (r.addPlaceholder ⟨u, .double⟩).read rest
          else (r.addPlaceholder ⟨u, .single⟩).read (next :: rest)
      | _, _ => (r.step c).read rest

def template (r : Reader) : Template := ⟨r.flush.segments, r.granularity⟩

def diagnostics (r : Reader) (format : String) : List Diagnostic :=
  (if r.mode = .inert then [.openRegion format] else []) ++
    (if r.quoting then [.danglingEscape format] else [])

end Reader

def readFormat (format : String) : Reader := Reader.start.read format.toList

namespace Template

def ofString (format : String) : Template := (readFormat format).template

def diagnostics (format : String) : List Diagnostic := (readFormat format).diagnostics format

end Template

end DurationFormat
