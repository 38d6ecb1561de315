import DurationFormat.Proofs.NormalForm
import DurationFormat.Template.Grammar
import Mathlib.Logic.ExistsUnique

/-!
# What the reader builds

A reader takes the tokens of its text one by one. Between two of them the complete segments are in
normal form and end in no literal, so that the text held back can follow them, and the granularity
is that of the placeholders met; and a token adds its atoms to those of the segments and of the
text held back. So a format string compiles to the one well-formed template with the atoms of its
tokens.
-/

namespace DurationFormat

namespace Reader

def take (r : Reader) : Token → Reader
  | .quoted c => r.addChar c
  | .openRegion => { r with mode := .inert }
  | .closeRegion => { r with mode := .active }
  | .placeholder p => r.addPlaceholder p
  | .plain c => r.addChar c
  | .dangling => { r with quoting := true }

section Text
variable {r : Reader}

theorem read_of_quoting (hq : r.quoting = true) (c : Char) (rest : List Char) :
    r.read (c :: rest) = (r.addChar c).read rest := by
  rw [read.eq_def]
  simp [hq]

theorem read_step (hq : r.quoting = false) {c : Char} (rest : List Char)
    (hc : r.mode = .inert ∨ TimeUnit.ofLetter? c = none) :
    r.read (c :: rest) = (r.step c).read rest := by
  rw [read.eq_def]
  rcases hc with hm | hu
  · simp [hq, hm]
  · cases r.mode <;> simp [hq, hu]

theorem step_escape (r : Reader) : r.step '\\' = { r with quoting := true } := by
  unfold step
  split <;> rfl

theorem read_dangling (hq : r.quoting = false) : r.read ['\\'] = r.take .dangling := by
  rw [read_step hq [] (.inr rfl), step_escape]
  rfl

theorem read_quoted (hq : r.quoting = false) (c : Char) (rest : List Char) :
    r.read ('\\' :: c :: rest) = (r.take (.quoted c)).read rest := by
  rw [read_step hq _ (.inr rfl), step_escape, read_of_quoting rfl]
  rfl

theorem read_open (hm : r.mode = .active) (hq : r.quoting = false) (rest : List Char) :
    r.read ('[' :: rest) = (r.take .openRegion).read rest := by
  rw [read_step hq rest (.inr rfl)]
  simp [step, hm, take]

theorem read_close (hm : r.mode = .inert) (hq : r.quoting = false) (rest : List Char) :
    r.read (']' :: rest) = (r.take .closeRegion).read rest := by
  rw [read_step hq rest (.inr rfl)]
  simp [step, hm, take]

theorem read_plain (hm : r.mode = .active) (hq : r.quoting = false) {c : Char}
    (rest : List Char) (he : c ≠ '\\') (hc : c ≠ '[') (hu : TimeUnit.ofLetter? c = none) :
    r.read (c :: rest) = (r.take (.plain c)).read rest := by
  rw [read_step hq rest (.inr hu)]
  simp [step, addPlain, hm, he, hc, take]

theorem read_inert (hm : r.mode = .inert) (hq : r.quoting = false) {c : Char}
    (rest : List Char) (he : c ≠ '\\') (hc : c ≠ ']') :
    r.read (c :: rest) = (r.take (.plain c)).read rest := by
  rw [read_step hq rest (.inl hm)]
  simp [step, addPlain, hm, he, hc, take]

theorem read_double (hm : r.mode = .active) (hq : r.quoting = false) (u : TimeUnit)
    (rest : List Char) :
    r.read (u.letter :: u.letter :: rest) = (r.take (.placeholder ⟨u, .double⟩)).read rest := by
  rw [read.eq_def]
  simp [hm, hq, take]

theorem read_single (hm : r.mode = .active) (hq : r.quoting = false) (u : TimeUnit)
    {rest : List Char} (hn : rest.head? ≠ some u.letter) :
    r.read (u.letter :: rest) = (r.take (.placeholder ⟨u, .single⟩)).read rest := by
  cases rest with
  | nil =>
    rw [read.eq_def]
    simp [hm, hq, take, read]
  | cons d rest =>
    have hd : d ≠ u.letter := by simpa using hn
    rw [read.eq_def]
    simp [hm, hq, hd, take]

end Text

@[simp] theorem mode_addPlaceholder (r : Reader) (p : Placeholder) :
    (r.addPlaceholder p).mode = r.mode := by
  unfold addPlaceholder flush
  split <;> rfl

@[simp] theorem quoting_addPlaceholder (r : Reader) (p : Placeholder) :
    (r.addPlaceholder p).quoting = r.quoting := by
  unfold addPlaceholder flush
  split <;> rfl

end Reader

/-- A reader reads text by the tokens that the text derives. -/
theorem Derivation.read_eq {mode : Mode} {cs : List Char} {ts : List Token}
    (h : Derivation mode cs ts) (r : Reader) (hm : r.mode = mode) (hq : r.quoting = false) :
    r.read cs = ts.foldl Reader.take r := by
  induction h generalizing r with
  | nil mode => rfl
  | dangling mode => exact Reader.read_dangling hq
  | quoted c _ ih =>
    rw [Reader.read_quoted hq]
    exact ih _ hm rfl
  | openRegion _ ih =>
    rw [Reader.read_open hm hq]
    exact ih _ rfl hq
  | closeRegion _ ih =>
    rw [Reader.read_close hm hq]
    exact ih _ rfl hq
  | double u _ ih =>
    rw [Reader.read_double hm hq]
    exact ih _ (by simpa [Reader.take] using hm) (by simpa [Reader.take] using hq)
  | single u hn _ ih =>
    rw [Reader.read_single hm hq u hn]
    exact ih _ (by simpa [Reader.take] using hm) (by simpa [Reader.take] using hq)
  | plain he hc hu _ ih =>
    rw [Reader.read_plain hm hq _ he hc (TimeUnit.ofLetter?_eq_none_iff.mpr hu)]
    exact ih _ hm rfl
  | inert he hc _ ih =>
    rw [Reader.read_inert hm hq _ he hc]
    exact ih _ hm rfl

namespace Reader

/-- What holds between two tokens. -/
structure Sound (r : Reader) : Prop where
  normal : Segment.Normal r.segments
  settled : ∀ s ∈ r.segments.getLast?, s.isLiteral = false
  granularity_eq : r.granularity = Segment.granularity? r.segments

def atoms (r : Reader) : List Atom :=
  r.segments.flatMap Segment.atoms ++ r.literal.toList.map .char

theorem sound_start : start.Sound := ⟨trivial, by simp [start], rfl⟩

theorem normal_flush {r : Reader} (h : r.Sound) : Segment.Normal r.flush.segments := by
  unfold flush
  split
  · exact h.normal
  · rename_i hl
    exact Segment.normal_append h.normal ⟨hl, by simp, trivial⟩ (.inl h.settled)

@[simp] theorem granularity?_flush (r : Reader) :
    Segment.granularity? r.flush.segments = Segment.granularity? r.segments := by
  unfold flush
  split
  · rfl
  · exact Segment.granularity?_append_literal _ _

@[simp] theorem atoms_flush (r : Reader) : r.flush.segments.flatMap Segment.atoms = r.atoms := by
  unfold flush atoms
  split
  · rename_i hl
    simp [hl]
  · simp [Segment.atoms]

theorem sound_take {r : Reader} (h : r.Sound) (t : Token) : (r.take t).Sound := by
  cases t with
  | placeholder p =>
    refine ⟨?_, by simp [take, addPlaceholder, Segment.isLiteral], ?_⟩
    · exact Segment.normal_append (normal_flush h) trivial (.inr (by simp [Segment.isLiteral]))
    · simp [take, addPlaceholder, h.granularity_eq]
  | _ => exact ⟨h.normal, h.settled, h.granularity_eq⟩

theorem atoms_addChar (r : Reader) (c : Char) : (r.addChar c).atoms = r.atoms ++ [.char c] := by
  simp [atoms, addChar]

theorem atoms_addPlaceholder (r : Reader) (p : Placeholder) :
    (r.addPlaceholder p).atoms = r.atoms ++ [.placeholder p] := by
  have hl : r.flush.literal = "" := by
    unfold flush
    split
    · assumption
    · rfl
  rw [← atoms_flush]
  simp [atoms, addPlaceholder, hl, Segment.atoms]

theorem atoms_take (r : Reader) (t : Token) : (r.take t).atoms = r.atoms ++ t.atoms := by
  cases t with
  | quoted c => exact atoms_addChar r c
  | plain c => exact atoms_addChar r c
  | placeholder p => exact atoms_addPlaceholder r p
  | openRegion => exact (List.append_nil _).symm
  | closeRegion => exact (List.append_nil _).symm
  | dangling => exact (List.append_nil _).symm

theorem sound_foldl_take {r : Reader} (h : r.Sound) (ts : List Token) :
    (ts.foldl take r).Sound := by
  induction ts generalizing r with
  | nil => exact h
  | cons t ts ih => exact ih (sound_take h t)

theorem atoms_foldl_take (r : Reader) (ts : List Token) :
    (ts.foldl take r).atoms = r.atoms ++ ts.flatMap Token.atoms := by
  induction ts generalizing r with
  | nil => simp
  | cons t ts ih => simp [ih, atoms_take]

theorem wellFormed_template {r : Reader} (h : r.Sound) : r.template.WellFormed where
  normal := normal_flush h
  granularity_eq := by rw [template, granularity?_flush, h.granularity_eq]

end Reader

theorem readFormat_eq (format : String) :
    readFormat format = (scan .active format.toList).tokens.foldl Reader.take .start :=
  (derivation_scan .active format.toList).read_eq .start rfl rfl

namespace Template

theorem wellFormed_ofString (format : String) : (ofString format).WellFormed := by
  rw [ofString, readFormat_eq]
  exact Reader.wellFormed_template (Reader.sound_foldl_take Reader.sound_start _)

@[simp] theorem atoms_ofString (format : String) :
    (ofString format).atoms = (scan .active format.toList).atoms := by
  rw [ofString, atoms, Reader.template, Reader.atoms_flush, readFormat_eq,
    Reader.atoms_foldl_take]
  rfl

theorem ofString_eq_iff {a b : String} : ofString a = ofString b ↔
    (scan .active a.toList).atoms = (scan .active b.toList).atoms := by
  rw [← atoms_ofString, ← atoms_ofString]
  exact ⟨congrArg atoms, (wellFormed_ofString a).ext_atoms (wellFormed_ofString b)⟩

/-- A format string has exactly one derivation, the atoms of its template are those of that
derivation, and the segments are these atoms with the characters joined in longest runs. -/
theorem atoms_ofString_eq_iff_derivation (format : String) :
    (∀ as : List Atom, (ofString format).atoms = as ↔
      ∃ ts, Derivation .active format.toList ts ∧ ts.flatMap Token.atoms = as) ∧
    (∃! ts, Derivation .active format.toList ts) ∧
    (ofString format).segments = Segment.runs (ofString format).atoms := by
  have hd := derivation_scan .active format.toList
  refine ⟨fun as => ?_, ⟨_, hd, fun ts h => h.eq_tokens⟩, ?_⟩
  · rw [atoms_ofString]
    constructor
    · rintro rfl
      exact ⟨_, hd, rfl⟩
    · rintro ⟨ts, h, rfl⟩
      rw [h.eq_tokens]
      rfl
  · exact congrArg segments (wellFormed_ofString format).eq_ofSegments

end Template

end DurationFormat
