import DurationFormat.Proofs.Canonical

/-!
# No mark is idle

No mark of the canonical form can be left out: without any one of its quotes or seams it compiles
to another template. The rest of the text may be read in quite another way then, so the difference
is looked for where the mark stood. A letter without its quote is no character, and a placeholder
without the seam behind it is no longer one of a single digit. A `\` or a `[` may be followed by
more of its kind, each of which is read as the one before it was meant; at the end of such a run
something else stands in the place of the last one.
-/

namespace DurationFormat

/-- The characters of literal text and the letters of placeholders. -/
def Segment.letters : Segment → List Char
  | .literal text => text.toList
  | .placeholder p => p.letters

namespace Mark

def char? : Mark → Option Char
  | .plain c => some c
  | .quote => none
  | .seam => none

theorem filterMap_char?_ofChar (c : Char) : (ofChar c).filterMap char? = [c] := by
  rw [ofChar]
  split <;> rfl

/-- Quotes and seams are all that is put in. -/
theorem filterMap_char?_ofSegments (prev? : Option Placeholder) (segments : List Segment) :
    (ofSegments prev? segments).filterMap char? = segments.flatMap Segment.letters := by
  induction segments generalizing prev? with
  | nil => rfl
  | cons s rest ih =>
    cases s with
    | literal t =>
      rw [ofSegments, List.filterMap_append, ih, List.filterMap_flatMap]
      simp [filterMap_char?_ofChar, Segment.letters]
    | placeholder p =>
      have hp : (p.letters.map plain).filterMap char? = p.letters := by
        simp [List.filterMap_map, Function.comp_def, char?]
      rw [ofSegments, List.filterMap_append, List.filterMap_append, ih, hp]
      split <;> rfl

/-- What is left without one quote or one seam. -/
inductive Drops : List Mark → List Mark → Prop where
  | quote (ms : List Mark) : Drops (.quote :: ms) ms
  | seam (ms : List Mark) : Drops (.seam :: ms) ms
  | later (m : Mark) {ms ms' : List Mark} : Drops ms ms' → Drops (m :: ms) (m :: ms')

section Drops
variable {xs ys ms : List Mark}

theorem drops_append {before after : List Mark} {m : Mark} (hm : m = .quote ∨ m = .seam) :
    Drops (before ++ m :: after) (before ++ after) := by
  induction before with
  | nil =>
    rcases hm with rfl | rfl
    · exact .quote after
    · exact .seam after
  | cons x before ih => exact .later x ih

theorem Drops.of_append (h : Drops (xs ++ ys) ms) :
    (∃ xs', Drops xs xs' ∧ ms = xs' ++ ys) ∨ ∃ ys', Drops ys ys' ∧ ms = xs ++ ys' := by
  induction xs generalizing ms with
  | nil => exact .inr ⟨ms, h, rfl⟩
  | cons x xs ih =>
    cases h with
    | quote => exact .inl ⟨xs, .quote xs, rfl⟩
    | seam => exact .inl ⟨xs, .seam xs, rfl⟩
    | later x h =>
      rcases ih h with ⟨xs', hx, rfl⟩ | ⟨ys', hy, rfl⟩
      · exact .inl ⟨x :: xs', .later x hx, rfl⟩
      · exact .inr ⟨ys', hy, rfl⟩

theorem not_drops_plain (cs : List Char) : ¬ Drops (cs.map .plain) ms := by
  intro h
  induction cs generalizing ms with
  | nil => cases h
  | cons c cs ih =>
    cases h with
    | later _ h => exact ih h

theorem Drops.of_ofChar {c : Char} (h : Drops (ofChar c) ms) :
    needsQuote c = true ∧ ms = [.plain c] := by
  rw [ofChar] at h
  split at h
  · rename_i hc
    cases h with
    | quote => exact ⟨hc, rfl⟩
    | later _ h => exact absurd h (not_drops_plain [c])
  · exact absurd h (not_drops_plain [c])

/-- Of literal text only the quote of one character can be dropped. -/
theorem Drops.of_chars {cs : List Char} (h : Drops (cs.flatMap ofChar) ms) :
    ∃ front c back, cs = front ++ c :: back ∧ needsQuote c = true ∧
      ms = front.flatMap ofChar ++ .plain c :: back.flatMap ofChar := by
  induction cs generalizing ms with
  | nil => cases h
  | cons c cs ih =>
    rw [List.flatMap_cons] at h
    rcases h.of_append with ⟨xs', hx, rfl⟩ | ⟨ys', hy, rfl⟩
    · obtain ⟨hc, rfl⟩ := hx.of_ofChar
      exact ⟨[], c, cs, rfl, hc, rfl⟩
    · obtain ⟨front, d, back, rfl, hd, rfl⟩ := ih hy
      exact ⟨c :: front, d, back, rfl, hd, by rw [List.flatMap_cons, List.append_assoc]⟩

/-- Of a placeholder only the seam in front can be dropped. -/
theorem Drops.of_placeholder {prev? : Option Placeholder} {p : Placeholder} {rest : List Segment}
    (h : Drops (ofSegments prev? (.placeholder p :: rest)) ms) :
    (∃ q, prev? = some q ∧ needsSeam q p = true ∧
      ms = p.letters.map .plain ++ ofSegments (some p) rest) ∨
    ∃ ms', Drops (ofSegments (some p) rest) ms' ∧
      ms = (if prev?.any (needsSeam · p) then [.seam] else []) ++ p.letters.map .plain ++ ms' := by
  rcases Drops.of_append h with ⟨xs', hx, rfl⟩ | hlater
  · rcases hx.of_append with ⟨seams, hs, rfl⟩ | ⟨zs, hz, rfl⟩
    · split at hs
      · rename_i hany
        obtain ⟨q, rfl, hq⟩ := (Option.any_eq_true _ _).mp hany
        cases hs with
        | later _ hs => cases hs
        | seam => exact .inl ⟨q, rfl, hq, rfl⟩
      · cases hs
    · exact absurd hz (not_drops_plain p.letters)
  · exact .inr hlater

end Drops

theorem needsQuote_cases {c : Char} (h : needsQuote c = true) :
    c = '\\' ∨ c = '[' ∨ ∃ u : TimeUnit, c = u.letter := by
  simpa [needsQuote, or_assoc, Option.isSome_iff_exists, TimeUnit.ofLetter?_eq_some_iff] using h

/-- What stands behind literal text does, unless it is nothing. -/
def BeginsWithLetter (rest : List Char) : Prop := ∀ x ∈ rest.head?, ∃ u : TimeUnit, x = u.letter

theorem beginsWithLetter_written {segments : List Segment}
    (h : ∀ s ∈ segments.head?, s.isLiteral = false) :
    BeginsWithLetter (written none segments) := by
  cases segments with
  | nil => simp [BeginsWithLetter, written, ofSegments]
  | cons s rest =>
    cases s with
    | literal t => simp [Segment.isLiteral] at h
    | placeholder p =>
      have hp : ∀ x ∈ (p.letters ++ written (some p) rest).head?, x = p.unit.letter := by
        cases hw : p.width <;> simp [Placeholder.letters, hw]
      rw [written_placeholder]
      exact fun x hx => ⟨p.unit, hp x hx⟩

section Letters
variable {rest : List Char} {as : List Atom}

theorem head?_atoms_scan_letter (u : TimeUnit) (rest : List Char) :
    ∃ w, (scan .active (u.letter :: rest)).atoms.head? = some (.placeholder ⟨u, w⟩) := by
  by_cases h : rest.head? = some u.letter
  · obtain ⟨rest, rfl⟩ := List.head?_eq_some_iff.mp h
    exact ⟨.double, by rw [scan_double]; rfl⟩
  · exact ⟨.single, by rw [scan_single u h]; rfl⟩

/-- A letter that stands alone is doubled by an equal one. -/
theorem atoms_scan_doubled_ne {p : Placeholder} (hp : p.width = .single)
    (h : rest.head? = some p.unit.letter) :
    (scan .active (p.letters ++ rest)).atoms ≠ .placeholder p :: as := by
  obtain ⟨u, w⟩ := p
  obtain rfl : w = .single := hp
  obtain ⟨rest, rfl⟩ := List.head?_eq_some_iff.mp h
  have hscan := congrArg Reading.atoms (scan_double u rest)
  intro heq
  cases hscan.symm.trans heq

/-- A placeholder in front of a difference does not level it. -/
theorem atoms_scan_letters_ne (p : Placeholder) (h : (scan .active rest).atoms ≠ as) :
    (scan .active (p.letters ++ rest)).atoms ≠ .placeholder p :: as := by
  by_cases hm : p.width = .single ∧ rest.head? = some p.unit.letter
  · exact atoms_scan_doubled_ne hm.1 hm.2
  · rw [atoms_scan_letters fun hp hr => hm ⟨hp, hr⟩]
    exact fun heq => h (List.cons.inj heq).2

theorem atoms_scan_chars_ne (cs : List Char) (h : (scan .active rest).atoms ≠ as) :
    (scan .active ((cs.flatMap ofChar).flatMap text ++ rest)).atoms ≠ cs.map .char ++ as := by
  rw [atoms_scan_chars]
  exact fun heq => h (List.append_cancel_left heq)

end Letters

section Unquoted
variable {rest : List Char} (hrest : BeginsWithLetter rest)
include hrest

/-- Text of a region that a literal `[` has opened. -/
theorem atoms_scan_opened_ne (cs : List Char) :
    (scan .inert ((cs.flatMap ofChar).flatMap text ++ rest)).atoms ≠
      .char '[' :: (cs.map .char ++ (scan .active rest).atoms) := by
  induction cs with
  | nil =>
    cases rest with
    | nil => simp [Reading.atoms]
    | cons x rest =>
      obtain ⟨u, rfl⟩ := hrest x rfl
      rw [List.flatMap_nil, List.flatMap_nil, List.nil_append,
        scan_inert rest u.letter_ne_escape u.letter_ne_close]
      simp [Token.atoms, u.letter_ne_open]
  | cons d ds ih =>
    rw [List.flatMap_cons, List.flatMap_append, List.append_assoc]
    cases hd : needsQuote d with
    | true =>
      have hscan := congrArg Reading.atoms
        (scan_quoted .inert d ((ds.flatMap ofChar).flatMap text ++ rest))
      rw [text_ofChar_of_needsQuote hd]
      intro heq
      -- another `[`, and then the same again
      obtain ⟨hhead, htail⟩ := List.cons.inj (hscan.symm.trans heq)
      obtain rfl : d = '[' := Atom.char.inj hhead
      exact ih htail
    | false =>
      obtain ⟨he, ho, -⟩ := not_needsQuote_iff.mp hd
      rw [text_ofChar_of_not_needsQuote hd, List.singleton_append]
      by_cases hc : d = ']'
      · subst hc
        rw [scan_close, Reading.atoms_cons, atoms_scan_chars]
        intro heq
        have hlength := congrArg List.length heq
        simp [Token.atoms] at hlength
        omega
      · rw [scan_inert _ he hc]
        simp [Token.atoms, ho]

theorem atoms_scan_active_ne {c : Char} (hc : c = '[' ∨ ∃ u : TimeUnit, c = u.letter)
    (cs : List Char) :
    (scan .active (c :: ((cs.flatMap ofChar).flatMap text ++ rest))).atoms ≠
      .char c :: (cs.map .char ++ (scan .active rest).atoms) := by
  rcases hc with rfl | ⟨u, rfl⟩
  · rw [scan_open]
    exact atoms_scan_opened_ne hrest cs
  · obtain ⟨w, hw⟩ := head?_atoms_scan_letter u ((cs.flatMap ofChar).flatMap text ++ rest)
    intro heq
    rw [heq] at hw
    cases hw

/-- A `\` quotes what comes next, which may be the quote of another character. -/
theorem atoms_scan_escape_ne (cs : List Char) :
    (scan .active ('\\' :: ((cs.flatMap ofChar).flatMap text ++ rest))).atoms ≠
      .char '\\' :: (cs.map .char ++ (scan .active rest).atoms) := by
  induction cs with
  | nil =>
    cases rest with
    | nil => simp [Reading.atoms, Token.atoms]
    | cons x rest =>
      obtain ⟨u, rfl⟩ := hrest x rfl
      simp [Token.atoms, u.letter_ne_escape]
  | cons d ds ih =>
    rw [List.flatMap_cons, List.flatMap_append, List.append_assoc]
    cases hd : needsQuote d with
    | true =>
      have hscan := congrArg Reading.atoms
        (scan_quoted .active '\\' (d :: ((ds.flatMap ofChar).flatMap text ++ rest)))
      rw [text_ofChar_of_needsQuote hd]
      intro heq
      have htail := (List.cons.inj (hscan.symm.trans heq)).2
      -- now `d` is without its quote
      rcases needsQuote_cases hd with rfl | hd
      · exact ih htail
      · exact atoms_scan_active_ne hrest hd ds htail
    | false =>
      obtain ⟨he, -, -⟩ := not_needsQuote_iff.mp hd
      rw [text_ofChar_of_not_needsQuote hd, List.singleton_append]
      simp [Token.atoms, he]

/-- A character that needs its quote is not read as that character without it. -/
theorem atoms_scan_unquoted_ne {c : Char} (hc : needsQuote c = true) (cs : List Char) :
    (scan .active (c :: ((cs.flatMap ofChar).flatMap text ++ rest))).atoms ≠
      .char c :: (cs.map .char ++ (scan .active rest).atoms) := by
  rcases needsQuote_cases hc with rfl | hc
  · exact atoms_scan_escape_ne hrest cs
  · exact atoms_scan_active_ne hrest hc cs

end Unquoted

/-- The letters of the placeholder in front, if there is one at once. -/
def front (prev? : Option Placeholder) : List Char := prev?.toList.flatMap Placeholder.letters

theorem front_some (p : Placeholder) : front (some p) = p.letters := List.append_nil _

theorem atoms_scan_front_ne (prev? : Option Placeholder) {rest : List Char} {as : List Atom}
    (h : (scan .active rest).atoms ≠ as) :
    (scan .active (front prev? ++ rest)).atoms ≠ prev?.toList.map .placeholder ++ as := by
  cases prev? with
  | none => exact h
  | some p =>
    rw [front_some]
    exact atoms_scan_letters_ne p h

theorem atoms_scan_dropped_quote_ne {t : String} {rest : List Segment}
    (hn : ∀ s ∈ rest.head?, s.isLiteral = false) (hr : Segment.Normal rest) {ms : List Mark}
    (hd : Drops (t.toList.flatMap ofChar) ms) :
    (scan .active (ms.flatMap text ++ written none rest)).atoms ≠
      t.toList.map .char ++ rest.flatMap Segment.atoms := by
  obtain ⟨before, c, after, ht, hc, rfl⟩ := hd.of_chars
  have hwritten : (before.flatMap ofChar ++ plain c :: after.flatMap ofChar).flatMap text =
      (before.flatMap ofChar).flatMap text ++ (c :: (after.flatMap ofChar).flatMap text) := by
    rw [List.flatMap_append, List.flatMap_cons]
    rfl
  rw [hwritten, ht, List.map_append, List.append_assoc, List.append_assoc,
    ← atoms_scan_written hr none]
  exact atoms_scan_chars_ne before
    (atoms_scan_unquoted_ne (beginsWithLetter_written hn) hc after)

theorem atoms_scan_dropped_seam_ne {p next : Placeholder} (h : needsSeam p next = true)
    {rest : List Char} {as : List Atom} :
    (scan .active (p.letters ++ (next.letters ++ rest))).atoms ≠ .placeholder p :: as := by
  obtain ⟨hp, hu⟩ : p.width = .single ∧ p.unit = next.unit := by simpa [needsSeam] using h
  apply atoms_scan_doubled_ne hp
  cases hw : next.width <;> simp [Placeholder.letters, hw, hu]

/-- Wherever a mark is dropped, and whatever placeholder stands in front at once. -/
theorem atoms_scan_drops_ne {segments : List Segment} (h : Segment.Normal segments)
    {prev? : Option Placeholder} {ms : List Mark} (hd : Drops (ofSegments prev? segments) ms) :
    (scan .active (front prev? ++ ms.flatMap text)).atoms ≠
      prev?.toList.map .placeholder ++ segments.flatMap Segment.atoms := by
  induction segments generalizing prev? ms with
  | nil => cases hd
  | cons s rest ih =>
    rw [List.flatMap_cons]
    cases s with
    | literal t =>
      obtain ⟨-, hn, hr⟩ := h
      apply atoms_scan_front_ne
      rcases Drops.of_append hd with ⟨xs', hx, rfl⟩ | ⟨ys', hy, rfl⟩
      · rw [List.flatMap_append]
        exact atoms_scan_dropped_quote_ne hn hr hx
      · rw [List.flatMap_append]
        exact atoms_scan_chars_ne t.toList (ih hr hy)
    | placeholder p =>
      have hr : Segment.Normal rest := h
      rcases hd.of_placeholder with ⟨q, rfl, hq, rfl⟩ | ⟨ms', hms, rfl⟩
      · rw [List.flatMap_append, text_letters, front_some]
        exact atoms_scan_dropped_seam_ne hq
      · have hp := ih hr hms
        rw [front_some] at hp
        rw [List.flatMap_append, List.flatMap_append, text_letters, List.append_assoc]
        apply atoms_scan_front_ne
        split
        · exact fun heq => hp ((atoms_scan_seam _).symm.trans heq)
        · exact hp

end Mark

namespace Template

/-- The canonical form holds the text and the letters of a template and between them quotes and
seams. None of these is missing, and none can be left out. -/
theorem canonical_marks_needed (format : String) :
    (ofString format).marks.filterMap Mark.char? =
      (ofString format).segments.flatMap Segment.letters ∧
    ofString (ofString format).canonical = ofString format ∧
    ∀ (before after : List Mark) (mark : Mark), mark = .quote ∨ mark = .seam →
      (ofString format).marks = before ++ mark :: after →
      (ofString format).canonical = String.ofList
        (before.flatMap Mark.text ++ (mark.text ++ after.flatMap Mark.text)) ∧
      ofString (String.ofList (before.flatMap Mark.text ++ after.flatMap Mark.text)) ≠
        ofString format := by
  have hf := wellFormed_ofString format
  refine ⟨Mark.filterMap_char?_ofSegments none _, ofString_canonical hf,
    fun before after mark hmark hmarks => ⟨?_, fun heq => ?_⟩⟩
  · rw [canonical, hmarks, List.flatMap_append, List.flatMap_cons]
  · have hd : Mark.Drops (Mark.ofSegments none (ofString format).segments) (before ++ after) := by
      rw [← marks, hmarks]
      exact Mark.drops_append hmark
    have hatoms := congrArg atoms heq
    rw [atoms_ofString, String.toList_ofList, ← List.flatMap_append] at hatoms
    exact Mark.atoms_scan_drops_ne hf.normal hd hatoms

/-- Without the quote of the `\` that character quotes the quote of the `[`. -/
theorem canonical_marks_needed_run :
    ((Mark.quote = .quote ∨ Mark.quote = .seam) ∧
      (ofString "h[]h[\\\\[").marks = [.plain 'h', .seam, .plain 'h'] ++
        .quote :: [.plain '\\', .quote, .plain '[']) ∧
    (ofString "h[]h[\\\\[").canonical = "h[]h\\\\\\[" ∧
    ofString "h[]h\\\\[" ≠ ofString "h[]h[\\\\[" := by
  have hmarks : (ofString "h[]h[\\\\[").marks = [.plain 'h', .seam, .plain 'h'] ++
      .quote :: [.plain '\\', .quote, .plain '['] := by decide +kernel
  obtain ⟨-, -, hneeded⟩ := canonical_marks_needed "h[]h[\\\\["
  obtain ⟨htext, hne⟩ := hneeded _ _ .quote (.inl rfl) hmarks
  exact ⟨⟨.inl rfl, hmarks⟩, htext.trans (by decide +kernel), hne⟩

end Template

end DurationFormat
