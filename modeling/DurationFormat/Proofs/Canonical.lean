import DurationFormat.Proofs.Seams
import DurationFormat.Template.Canonical

/-!
# Reading the canonical form

The canonical form of a well-formed template compiles back to that template. Outside regions a
character and its quote are read as that character whatever follows. A placeholder is read as it
was meant because of what may follow it: nothing that is written behind a letter written once
begins with that letter.
-/

namespace DurationFormat

namespace Mark

/-- The text of segments that follow the placeholder `prev?`, or follow none at once. -/
def written (prev? : Option Placeholder) (segments : List Segment) : List Char :=
  (ofSegments prev? segments).flatMap text

theorem needsQuote_letter (u : TimeUnit) : needsQuote u.letter = true := by
  simp [needsQuote]

theorem not_needsQuote_iff {c : Char} :
    needsQuote c = false ↔ c ≠ '\\' ∧ c ≠ '[' ∧ TimeUnit.ofLetter? c = none := by
  simp [needsQuote, and_assoc]

theorem text_ofChar_of_needsQuote {c : Char} (h : needsQuote c = true) :
    (ofChar c).flatMap text = ['\\', c] := by
  simp [ofChar, h, text]

theorem text_ofChar_of_not_needsQuote {c : Char} (h : needsQuote c = false) :
    (ofChar c).flatMap text = [c] := by
  simp [ofChar, h, text]

theorem spells_ofChar (c : Char) : Spells .active ((ofChar c).flatMap text) [c] := by
  cases hc : needsQuote c with
  | true =>
    rw [text_ofChar_of_needsQuote hc]
    exact spells_quoted .active c
  | false =>
    obtain ⟨he, ho, hu⟩ := not_needsQuote_iff.mp hc
    rw [text_ofChar_of_not_needsQuote hc]
    exact .of_token rfl fun rest => scan_plain rest he ho hu

theorem atoms_scan_chars (cs rest : List Char) :
    (scan .active ((cs.flatMap ofChar).flatMap text ++ rest)).atoms =
      cs.map .char ++ (scan .active rest).atoms := by
  rw [List.flatMap_assoc]
  exact (Spells.flatMap spells_ofChar cs).atoms_scan rest

theorem atoms_scan_seam (rest : List Char) :
    (scan .active (seam.text ++ rest)).atoms = (scan .active rest).atoms :=
  (Spells.nil .inert).region.atoms_scan rest

theorem head?_ofChar_ne (c : Char) (rest : List Char) (u : TimeUnit) :
    ((ofChar c).flatMap text ++ rest).head? ≠ some u.letter := by
  cases hc : needsQuote c with
  | true =>
    have hne : '\\' ≠ u.letter := u.letter_ne_escape.symm
    simp [text_ofChar_of_needsQuote hc, hne]
  | false =>
    have hne : c ≠ u.letter := by
      rintro rfl
      simp [needsQuote_letter] at hc
    simp [text_ofChar_of_not_needsQuote hc, hne]

theorem written_literal (prev? : Option Placeholder) (t : String) (rest : List Segment) :
    written prev? (.literal t :: rest) =
      (t.toList.flatMap ofChar).flatMap text ++ written none rest := by
  simp [written, ofSegments]

theorem text_letters (p : Placeholder) : (p.letters.map plain).flatMap text = p.letters := by
  simp [List.flatMap_map, text]

theorem written_placeholder (prev? : Option Placeholder) (p : Placeholder) (rest : List Segment) :
    written prev? (.placeholder p :: rest) =
      (if prev?.any (needsSeam · p) then seam.text else []) ++
        (p.letters ++ written (some p) rest) := by
  rw [written, ofSegments, List.flatMap_append, List.flatMap_append, text_letters,
    List.append_assoc]
  split
  · rw [List.flatMap_cons, List.flatMap_nil, List.append_nil]
    rfl
  · rfl

/-- What is written behind a letter that stands alone does not begin with that letter. -/
theorem head?_written_ne {p : Placeholder} (hp : p.width = .single) {rest : List Segment}
    (h : Segment.Normal rest) : (written (some p) rest).head? ≠ some p.unit.letter := by
  cases rest with
  | nil => simp [written, ofSegments]
  | cons s rest =>
    cases s with
    | literal t =>
      have ht : t.toList ≠ [] := fun hn => h.1 (String.toList_inj.mp hn)
      obtain ⟨c, cs, hc⟩ := List.exists_cons_of_ne_nil ht
      rw [written_literal, hc, List.flatMap_cons, List.flatMap_append, List.append_assoc]
      exact head?_ofChar_ne c _ p.unit
    | placeholder q =>
      rw [written_placeholder]
      by_cases hu : p.unit = q.unit
      · have hs : needsSeam p q = true := by simp [needsSeam, hp, hu]
        have hne : '[' ≠ p.unit.letter := p.unit.letter_ne_open.symm
        simp [hs, text, hne]
      · have hs : needsSeam p q = false := by simp [needsSeam, hu]
        have hne : q.unit.letter ≠ p.unit.letter := fun he =>
          hu (TimeUnit.letter_inj.mp he).symm
        cases hw : q.width <;> simp [hs, Placeholder.letters, hw, hne]

theorem atoms_scan_letters {p : Placeholder} {rest : List Char}
    (h : p.width = .single → rest.head? ≠ some p.unit.letter) :
    (scan .active (p.letters ++ rest)).atoms = .placeholder p :: (scan .active rest).atoms := by
  obtain ⟨u, w⟩ := p
  cases w with
  | single => exact congrArg Reading.atoms (scan_single u (h rfl))
  | double => exact congrArg Reading.atoms (scan_double u rest)

theorem atoms_scan_written {segments : List Segment} (h : Segment.Normal segments)
    (prev? : Option Placeholder) :
    (scan .active (written prev? segments)).atoms = segments.flatMap Segment.atoms := by
  induction segments generalizing prev? with
  | nil => rfl
  | cons s rest ih =>
    cases s with
    | literal t =>
      rw [written_literal, atoms_scan_chars, ih h.2.2]
      rfl
    | placeholder p =>
      have hr : Segment.Normal rest := h
      have hl : (scan .active (p.letters ++ written (some p) rest)).atoms =
          .placeholder p :: rest.flatMap Segment.atoms := by
        rw [atoms_scan_letters fun hp => head?_written_ne hp hr, ih hr]
      rw [written_placeholder]
      split
      · rw [atoms_scan_seam, hl]
        rfl
      · exact hl

end Mark

namespace Template

theorem ofString_canonical {t : Template} (h : t.WellFormed) : ofString t.canonical = t := by
  apply (wellFormed_ofString _).ext_atoms h
  rw [atoms_ofString, toList_canonical]
  exact Mark.atoms_scan_written h.normal none

/-- The canonical form is a format string of the template it is made from, so every list of
segments in normal form has a format string. -/
theorem canonical_roundTrip :
    (∀ segments : List Segment, Segment.Normal segments →
      ofString (ofSegments segments).canonical = ofSegments segments) ∧
    (∀ format : String, ofString (ofString format).canonical = ofString format) ∧
    ∀ segments : List Segment, Segment.Normal segments →
      ∃ format : String, (ofString format).segments = segments := by
  have roundTrip {segments : List Segment} (h : Segment.Normal segments) :
      ofString (ofSegments segments).canonical = ofSegments segments :=
    ofString_canonical (wellFormed_ofSegments h)
  refine ⟨fun segments h => roundTrip h, fun format => ?_, fun segments h => ?_⟩
  · exact ofString_canonical (wellFormed_ofString format)
  · exact ⟨_, congrArg Template.segments (roundTrip h)⟩

/-- Equal letters side by side, and text that would open a region and close it. -/
theorem canonical_roundTrip_letters :
    Segment.Normal [.placeholder ⟨.hour, .single⟩, .placeholder ⟨.hour, .double⟩,
      .literal "h[m]\\"] ∧
    ofString (ofSegments [.placeholder ⟨.hour, .single⟩, .placeholder ⟨.hour, .double⟩,
      .literal "h[m]\\"]).canonical =
      ofSegments [.placeholder ⟨.hour, .single⟩, .placeholder ⟨.hour, .double⟩,
        .literal "h[m]\\"] := by
  have h : Segment.Normal [.placeholder ⟨.hour, .single⟩, .placeholder ⟨.hour, .double⟩,
      .literal "h[m]\\"] := ⟨by decide, by simp, trivial⟩
  exact ⟨h, canonical_roundTrip.1 _ h⟩

end Template

end DurationFormat
