import DurationFormat.Proofs.Reader

/-!
# Joining format strings

A text that leaves no `\` open can be read up to any point and then on from the mode it ends in,
unless the two letters of a doubled placeholder lie on both sides of that point. What stands for
literal text alone is read alike whatever follows it, and pieces of that kind can be put together.
Any format string can be closed, so that another may follow an empty region behind it: then the
atoms of the two stand side by side.
-/

namespace DurationFormat

/-- The mode behind a token. -/
def Token.next (mode : Mode) : Token → Mode
  | .openRegion => .inert
  | .closeRegion => .active
  | _ => mode

/-- Induction on the tokens of a text. What a token's characters mean depends on the text behind
them only by a unit's letter at its head. -/
theorem token_induction {motive : Mode → List Char → Prop}
    (nil : ∀ mode, motive mode []) (dangling : ∀ mode, motive mode ['\\'])
    (token : ∀ (mode : Mode) (t : Token) (lexeme rest : List Char), t ≠ .dangling →
      (∀ rest' : List Char,
        (∀ u : TimeUnit, rest'.head? = some u.letter → rest.head? = some u.letter) →
          scan mode (lexeme ++ rest') = (scan (t.next mode) rest').cons t) →
      motive (t.next mode) rest → motive mode (lexeme ++ rest))
    (mode : Mode) (cs : List Char) : motive mode cs := by
  have h := derivation_scan mode cs
  generalize (scan mode cs).tokens = ts at h
  induction h with
  | nil mode => exact nil mode
  | dangling mode => exact dangling mode
  | @quoted mode c rest ts _ ih =>
    exact token mode (.quoted c) ['\\', c] rest (by simp)
      (fun rest' _ => scan_quoted mode c rest') ih
  | @openRegion rest ts _ ih =>
    exact token .active .openRegion ['['] rest (by simp) (fun rest' _ => scan_open rest') ih
  | @closeRegion rest ts _ ih =>
    exact token .inert .closeRegion [']'] rest (by simp) (fun rest' _ => scan_close rest') ih
  | @double u rest ts _ ih =>
    exact token .active (.placeholder ⟨u, .double⟩) [u.letter, u.letter] rest (by simp)
      (fun rest' _ => scan_double u rest') ih
  | @single u rest ts hn _ ih =>
    exact token .active (.placeholder ⟨u, .single⟩) [u.letter] rest (by simp)
      (fun rest' h => scan_single u fun h' => hn (h u h')) ih
  | @plain c rest ts hq hc hu _ ih =>
    exact token .active (.plain c) [c] rest (by simp)
      (fun rest' _ => scan_plain rest' hq hc (TimeUnit.ofLetter?_eq_none_iff.mpr hu)) ih
  | @inert c rest ts hq hc _ ih =>
    exact token .inert (.plain c) [c] rest (by simp) (fun rest' _ => scan_inert rest' hq hc) ih

namespace Reading

/-- Another reading goes on where this one ends. -/
def append (r s : Reading) : Reading := ⟨r.tokens ++ s.tokens, s.mode, s.dangling⟩

@[simp] theorem cons_append (t : Token) (r s : Reading) :
    (r.cons t).append s = (r.append s).cons t := rfl

@[simp] theorem atoms_append (r s : Reading) : (r.append s).atoms = r.atoms ++ s.atoms :=
  List.flatMap_append

end Reading

theorem scan_append {mode : Mode} {cs rest : List Char} (hd : (scan mode cs).dangling = false)
    (hr : ∀ u : TimeUnit, rest.head? ≠ some u.letter) :
    scan mode (cs ++ rest) = (scan mode cs).append (scan (scan mode cs).mode rest) := by
  induction mode, cs using token_induction with
  | nil mode => rfl
  | dangling mode => simp at hd
  | token mode t lexeme cs _ hscan ih =>
    have hcs := hscan cs fun _ h => h
    have hjoin := hscan (cs ++ rest) fun u h => by
      cases cs with
      | nil => exact absurd h (hr u)
      | cons c cs => exact h
    rw [hcs] at hd ⊢
    rw [List.append_assoc, hjoin, ih hd]
    rfl

theorem scan_append_cons {mode : Mode} {cs rest : List Char} {c : Char}
    (hd : (scan mode cs).dangling = false) (hc : ∀ u : TimeUnit, c ≠ u.letter) :
    scan mode (cs ++ c :: rest) = (scan mode cs).append (scan (scan mode cs).mode (c :: rest)) :=
  scan_append hd fun u h => hc u (Option.some.inj h)

/-- In this mode the characters `written` are read as `cs` whatever follows, which is then read in
the same mode. -/
def Spells (mode : Mode) (written cs : List Char) : Prop :=
  ∃ ts : List Token, ts.flatMap Token.atoms = cs.map .char ∧
    ∀ rest, scan mode (written ++ rest) = Reading.append ⟨ts, mode, false⟩ (scan mode rest)

section Spelling
variable {mode : Mode} {written written' cs cs' : List Char}

theorem Spells.nil (mode : Mode) : Spells mode [] [] := ⟨[], rfl, fun _ => rfl⟩

theorem Spells.append (h : Spells mode written cs) (h' : Spells mode written' cs') :
    Spells mode (written ++ written') (cs ++ cs') := by
  obtain ⟨ts, hts, hscan⟩ := h
  obtain ⟨ts', hts', hscan'⟩ := h'
  refine ⟨ts ++ ts', by rw [List.flatMap_append, hts, hts', List.map_append], fun rest => ?_⟩
  rw [List.append_assoc, hscan, hscan', Reading.append, Reading.append, Reading.append,
    List.append_assoc]

theorem Spells.of_token {t : Token} {c : Char} (ht : t.atoms = [.char c])
    (h : ∀ rest, scan mode (written ++ rest) = (scan mode rest).cons t) :
    Spells mode written [c] :=
  ⟨[t], by rw [List.flatMap_cons, ht]; rfl, h⟩

theorem Spells.atoms_scan (h : Spells mode written cs) (rest : List Char) :
    (scan mode (written ++ rest)).atoms = cs.map .char ++ (scan mode rest).atoms := by
  obtain ⟨ts, hts, hscan⟩ := h
  rw [hscan, Reading.atoms_append, ← hts]
  rfl

theorem Spells.flatMap {write : Char → List Char} (h : ∀ c, Spells mode (write c) [c])
    (cs : List Char) : Spells mode (cs.flatMap write) cs := by
  induction cs with
  | nil => exact .nil mode
  | cons c cs ih => exact (h c).append ih

/-- The brackets of a region take the mode there and back. -/
theorem Spells.region (h : Spells .inert written cs) :
    Spells .active ('[' :: written ++ [']']) cs := by
  obtain ⟨ts, hts, hscan⟩ := h
  refine ⟨.openRegion :: ts ++ [.closeRegion], ?_, fun rest => ?_⟩
  · simp [hts, Token.atoms]
  · rw [List.append_assoc, List.cons_append, scan_open, hscan, List.singleton_append, scan_close]
    simp [Reading.append, Reading.cons]

theorem spells_quoted (mode : Mode) (c : Char) : Spells mode ['\\', c] [c] :=
  .of_token rfl fun rest => scan_quoted mode c rest

/-- What stands in front leaves nothing open, and no letter that ends it is doubled. -/
theorem Spells.scan_between (h : Spells .active written cs) {x : Char}
    (hx : written.head? = some x) (hu : ∀ u : TimeUnit, x ≠ u.letter) {front : List Char}
    (hm : (scan .active front).mode = .active) (hd : (scan .active front).dangling = false)
    (rest : List Char) :
    (scan .active (front ++ written ++ rest)).atoms =
      (scan .active front).atoms ++ (cs.map .char ++ (scan .active rest).atoms) ∧
    (scan .active (front ++ written ++ rest)).mode = (scan .active rest).mode ∧
    (scan .active (front ++ written ++ rest)).dangling = (scan .active rest).dangling := by
  have hr : ∀ u : TimeUnit, (written ++ rest).head? ≠ some u.letter := fun u h => by
    rw [List.head?_append, hx] at h
    exact hu u (Option.some.inj h)
  have hatoms := h.atoms_scan rest
  obtain ⟨ts, -, hscan⟩ := h
  rw [List.append_assoc, scan_append hd hr, hm, Reading.atoms_append, hatoms, hscan]
  exact ⟨rfl, rfl, rfl⟩

end Spelling

/-- A `\` that quotes nothing is the last character. -/
theorem exists_of_dangling {mode : Mode} {cs : List Char} (hd : (scan mode cs).dangling = true) :
    ∃ init, cs = init ++ ['\\'] ∧ (scan mode init).dangling = false := by
  induction mode, cs using token_induction with
  | nil mode => simp at hd
  | dangling mode => exact ⟨[], rfl, rfl⟩
  | token mode t lexeme cs _ hscan ih =>
    rw [hscan cs fun _ h => h] at hd
    obtain ⟨init, rfl, hi⟩ := ih hd
    have hinit := hscan init fun u h => by
      cases init with
      | nil => cases h
      | cons c init => exact h
    exact ⟨lexeme ++ init, by simp, by rw [hinit]; exact hi⟩

/-- A reader ends where the text does. -/
theorem read_state {mode : Mode} {cs : List Char} {r : Reader} (hm : r.mode = mode)
    (hq : r.quoting = false) :
    (r.read cs).mode = (scan mode cs).mode ∧ (r.read cs).quoting = (scan mode cs).dangling := by
  rw [(derivation_scan mode cs).read_eq r hm hq]
  induction mode, cs using token_induction generalizing r with
  | nil mode => exact ⟨hm, hq⟩
  | dangling mode => rw [scan_dangling]; exact ⟨hm, rfl⟩
  | token mode t lexeme cs ht hscan ih =>
    have hmt : (r.take t).mode = t.next mode := by
      cases t <;> simp [Reader.take, Token.next, Reader.addChar, hm]
    have hqt : (r.take t).quoting = false := by
      cases t with
      | dangling => exact absurd rfl ht
      | _ => simp [Reader.take, Reader.addChar, hq]
    rw [hscan cs fun _ h => h]
    exact ih hmt hqt

theorem mode_readFormat (format : String) :
    (readFormat format).mode = (scan .active format.toList).mode :=
  (read_state rfl rfl).1

theorem quoting_readFormat (format : String) :
    (readFormat format).quoting = (scan .active format.toList).dangling :=
  (read_state rfl rfl).2

namespace Template

/-- The format string without a `\` at its end that quotes nothing. -/
def withoutDangling (format : String) : String :=
  if (readFormat format).quoting then String.ofList format.toList.dropLast else format

/-- The format string with nothing left open at its end. -/
def closed (format : String) : String :=
  withoutDangling format ++ if (readFormat format).mode = .inert then "]" else ""

theorem scan_withoutDangling (format : String) :
    (scan .active (withoutDangling format).toList).atoms = (scan .active format.toList).atoms ∧
    (scan .active (withoutDangling format).toList).mode = (scan .active format.toList).mode ∧
    (scan .active (withoutDangling format).toList).dangling = false := by
  rw [withoutDangling, quoting_readFormat]
  cases hd : (scan .active format.toList).dangling with
  | false => exact ⟨rfl, rfl, hd⟩
  | true =>
    obtain ⟨init, hinit, hi⟩ := exists_of_dangling hd
    have hc : ∀ u : TimeUnit, '\\' ≠ u.letter := fun u => u.letter_ne_escape.symm
    have hlast : (String.ofList format.toList.dropLast).toList = init := by simp [hinit]
    rw [if_pos rfl, hlast, hinit, scan_append_cons hi hc, scan_dangling]
    exact ⟨by simp [Reading.atoms, Reading.append, Token.atoms], rfl, hi⟩

theorem scan_closed (format : String) :
    (scan .active (closed format).toList).atoms = (scan .active format.toList).atoms ∧
    (scan .active (closed format).toList).mode = .active ∧
    (scan .active (closed format).toList).dangling = false := by
  obtain ⟨hatoms, hmode, hdangling⟩ := scan_withoutDangling format
  rw [closed, mode_readFormat, String.toList_append]
  cases hm : (scan .active format.toList).mode with
  | active => simp [hatoms, hmode, hm, hdangling]
  | inert =>
    have hc : ∀ u : TimeUnit, ']' ≠ u.letter := fun u => u.letter_ne_close.symm
    have hclose : "]".toList = [']'] := rfl
    rw [if_pos rfl, hclose, scan_append_cons hdangling hc, hmode, hm, scan_close, ← hatoms]
    exact ⟨by simp [Reading.atoms, Reading.append, Token.atoms], rfl, rfl⟩

theorem ofString_closed (format : String) : ofString (closed format) = ofString format :=
  ofString_eq_iff.mpr (scan_closed format).1

/-- Nothing in front of the brackets and nothing behind them is read otherwise for them. -/
theorem atoms_ofString_closed_append (p q : String) :
    (ofString (closed p ++ "[]" ++ q)).atoms = (ofString p).atoms ++ (ofString q).atoms := by
  obtain ⟨hatoms, hmode, hdangling⟩ := scan_closed p
  have hregion := (Spells.nil .inert).region.scan_between rfl (fun u => u.letter_ne_open.symm)
    hmode hdangling q.toList
  rw [atoms_ofString, atoms_ofString, atoms_ofString, String.toList_append, String.toList_append,
    ← hatoms]
  exact hregion.1

end Template

end DurationFormat
