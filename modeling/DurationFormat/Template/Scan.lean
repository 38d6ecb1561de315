import DurationFormat.Template.Reader

/-!
# Tokens of a format string

What a format string means, by recursion on its text: the tokens that it falls into, and where the
text stops, inside a region or not, and on a `\` with nothing to quote or not. No text is held
back and no granularity is kept, so that this is the reading to reason about.
-/

namespace DurationFormat

inductive Token where
  /-- A character behind a `\`. -/
  | quoted (c : Char)
  | openRegion
  | closeRegion
  | placeholder (p : Placeholder)
  /-- Stands for itself. -/
  | plain (c : Char)
  | dangling
  deriving DecidableEq

def Token.atoms : Token → List Atom
  | .quoted c => [.char c]
  | .openRegion => []
  | .closeRegion => []
  | .placeholder p => [.placeholder p]
  | .plain c => [.char c]
  | .dangling => []

structure Reading where
  tokens : List Token
  /-- The mode at the end of the text. -/
  mode : Mode
  /-- Whether the text ends in a `\` that quotes nothing. -/
  dangling : Bool
  deriving DecidableEq

namespace Reading

def atoms (r : Reading) : List Atom := r.tokens.flatMap Token.atoms

def cons (t : Token) (r : Reading) : Reading := { r with tokens := t :: r.tokens }

@[simp] theorem tokens_cons (t : Token) (r : Reading) : (r.cons t).tokens = t :: r.tokens := rfl

@[simp] theorem mode_cons (t : Token) (r : Reading) : (r.cons t).mode = r.mode := rfl

@[simp] theorem dangling_cons (t : Token) (r : Reading) : (r.cons t).dangling = r.dangling := rfl

@[simp] theorem atoms_cons (t : Token) (r : Reading) : (r.cons t).atoms = t.atoms ++ r.atoms := rfl

end Reading

def scan : Mode → List Char → Reading
  | mode, [] => ⟨[], mode, false⟩
  | mode, c :: rest =>
    if c = '\\' then
      match rest with
      | [] => ⟨[.dangling], mode, true⟩
      | quoted :: rest => (scan mode rest).cons (.quoted quoted)
    else
      match mode with
      | .inert =>
        if c = ']' then (scan .active rest).cons .closeRegion
        else (scan .inert rest).cons (.plain c)
      | .active =>
        if c = '[' then (scan .inert rest).cons .openRegion
        else
          match TimeUnit.ofLetter? c with
          | none => (scan .active rest).cons (.plain c)
          | some u =>
            match rest with
            | [] => ⟨[.placeholder ⟨u, .single⟩], .active, false⟩
            | next :: rest =>
              if next = c then (scan .active rest).cons (.placeholder ⟨u, .double⟩)
              else (scan .active (next :: rest)).cons (.placeholder ⟨u, .single⟩)

@[simp] theorem scan_nil (mode : Mode) : scan mode [] = ⟨[], mode, false⟩ := rfl

@[simp] theorem scan_dangling (mode : Mode) : scan mode ['\\'] = ⟨[.dangling], mode, true⟩ := by
  cases mode <;> rfl

@[simp] theorem scan_quoted (mode : Mode) (c : Char) (rest : List Char) :
    scan mode ('\\' :: c :: rest) = (scan mode rest).cons (.quoted c) := by
  cases mode <;> rfl

@[simp] theorem scan_open (rest : List Char) :
    scan .active ('[' :: rest) = (scan .inert rest).cons .openRegion := by
  cases rest <;> rfl

@[simp] theorem scan_close (rest : List Char) :
    scan .inert (']' :: rest) = (scan .active rest).cons .closeRegion := by
  cases rest <;> rfl

theorem scan_inert {c : Char} (rest : List Char) (hq : c ≠ '\\') (hc : c ≠ ']') :
    scan .inert (c :: rest) = (scan .inert rest).cons (.plain c) := by
  rw [scan.eq_def]
  simp [hq, hc]

theorem scan_plain {c : Char} (rest : List Char) (hq : c ≠ '\\') (hc : c ≠ '[')
    (hu : TimeUnit.ofLetter? c = none) :
    scan .active (c :: rest) = (scan .active rest).cons (.plain c) := by
  rw [scan.eq_def]
  simp [hq, hc, hu]

@[simp] theorem scan_double (u : TimeUnit) (rest : List Char) :
    scan .active (u.letter :: u.letter :: rest) =
      (scan .active rest).cons (.placeholder ⟨u, .double⟩) := by
  cases u <;> rfl

theorem scan_single (u : TimeUnit) {rest : List Char} (h : rest.head? ≠ some u.letter) :
    scan .active (u.letter :: rest) = (scan .active rest).cons (.placeholder ⟨u, .single⟩) := by
  cases rest with
  | nil => cases u <;> rfl
  | cons d rest =>
    have hd : d ≠ u.letter := by simpa using h
    rw [scan.eq_def]
    simp [TimeUnit.letter_ne_escape, TimeUnit.letter_ne_open, hd]

end DurationFormat
