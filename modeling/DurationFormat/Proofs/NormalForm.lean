import DurationFormat.Template

/-!
# Normal form of segments

A list of segments in normal form is determined by its atoms: `Segment.runs` finds it again. So a
well-formed template, whose granularity follows from its segments, is determined by its atoms too.
-/

namespace DurationFormat

namespace Segment

theorem normal_append {xs ys : List Segment} (hx : Normal xs) (hy : Normal ys)
    (hxy : (∀ s ∈ xs.getLast?, s.isLiteral = false) ∨ ∀ s ∈ ys.head?, s.isLiteral = false) :
    Normal (xs ++ ys) := by
  induction xs with
  | nil => exact hy
  | cons x xs ih =>
    cases x with
    | placeholder p =>
      apply ih hx
      rcases hxy with hl | hh
      · left
        intro s hs
        apply hl s
        simp_all [List.getLast?_cons]
      · exact .inr hh
    | literal text =>
      obtain ⟨ht, hn, hr⟩ := hx
      cases xs with
      | nil =>
        rcases hxy with hl | hh
        · simp [isLiteral] at hl
        · exact ⟨ht, hh, hy⟩
      | cons y zs =>
        exact ⟨ht, hn, ih hr (by simpa [List.getLast?_cons_cons] using hxy)⟩

theorem runsFrom_chars (run cs : List Char) (as : List Atom) :
    runsFrom run (cs.map Atom.char ++ as) = runsFrom (cs.reverse ++ run) as := by
  induction cs generalizing run with
  | nil => rfl
  | cons c cs ih => simp [runsFrom, ih]

theorem ofRun_reverse {text : String} (h : text ≠ "") :
    ofRun text.toList.reverse = [.literal text] := by
  cases hr : text.toList.reverse with
  | nil => exact absurd (String.toList_inj.mp (by simpa using hr)) h
  | cons c run => rw [ofRun, ← hr, List.reverse_reverse, String.ofList_toList]

theorem runsFrom_of_head? {segments : List Segment} (run : List Char)
    (h : ∀ s ∈ segments.head?, s.isLiteral = false) :
    runsFrom run (segments.flatMap atoms) = ofRun run ++ runs (segments.flatMap atoms) := by
  cases segments with
  | nil => simp [runs, runsFrom, ofRun]
  | cons s rest =>
    cases s with
    | literal text => simp [isLiteral] at h
    | placeholder p => simp [runs, runsFrom, atoms, ofRun]

theorem runs_atoms {segments : List Segment} (h : Normal segments) :
    runs (segments.flatMap atoms) = segments := by
  induction segments with
  | nil => rfl
  | cons s rest ih =>
    cases s with
    | placeholder p =>
      have hr : runs (rest.flatMap atoms) = rest := ih h
      simp only [runs] at hr
      simp [runs, runsFrom, atoms, ofRun, hr]
    | literal text =>
      obtain ⟨ht, hn, hr⟩ := h
      simp only [runs, List.flatMap_cons, atoms, runsFrom_chars, List.append_nil]
      rw [runsFrom_of_head? _ hn, ofRun_reverse ht, ih hr]
      rfl

@[simp] theorem granularity?_append_literal (segments : List Segment) (text : String) :
    granularity? (segments ++ [.literal text]) = granularity? segments := by
  have hn : [Segment.literal text].filterMap placeholder? = [] := rfl
  rw [granularity?, List.filterMap_append, hn, List.append_nil, granularity?]

@[simp] theorem granularity?_append_placeholder (segments : List Segment) (p : Placeholder) :
    granularity? (segments ++ [.placeholder p]) =
      max (granularity? segments) (some p.unit.granularity) := by
  have hp : [Segment.placeholder p].filterMap placeholder? = [p] := rfl
  rw [granularity?, List.filterMap_append, hp, List.map_append, granularity?]
  cases (segments.filterMap placeholder?).map fun p => p.unit.granularity with
  | nil => rfl
  | cons g gs => simp only [List.cons_append, List.max?_cons', List.map_cons, List.map_nil,
      List.foldl_append, List.foldl_cons, List.foldl_nil, Option.max_some_some]

end Segment

namespace Template

theorem WellFormed.eq_ofSegments {t : Template} (h : t.WellFormed) :
    t = ofSegments (Segment.runs t.atoms) := by
  obtain ⟨segments, granularity⟩ := t
  obtain ⟨hn, hg⟩ := h
  simp only at hn hg
  rw [atoms, Segment.runs_atoms hn, hg, ofSegments]

theorem WellFormed.ext_atoms {t u : Template} (ht : t.WellFormed) (hu : u.WellFormed)
    (h : t.atoms = u.atoms) : t = u := by
  rw [ht.eq_ofSegments, hu.eq_ofSegments, h]

theorem wellFormed_ofSegments {segments : List Segment} (h : Segment.Normal segments) :
    (ofSegments segments).WellFormed :=
  ⟨h, rfl⟩

end Template

end DurationFormat
