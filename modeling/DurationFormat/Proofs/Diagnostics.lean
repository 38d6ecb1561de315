import DurationFormat.Proofs.Seams

/-!
# What a format string is forgiven

A diagnostic can be told from what one more character would do. A `\` behind a text means nothing,
unless the text itself ends in a `\` that quotes nothing: then the two are a literal `\`. Behind a
text without such an end a `]` closes the region that is open, or is literal if none is.
-/

namespace DurationFormat

namespace Template

/-- Text that is read apart from what is in front of it changes nothing if it is read as nothing. -/
theorem ofString_append_eq_iff {format : String} (rest : String) {c : Char} {cs : List Char}
    (hd : (scan .active format.toList).dangling = false) (hrest : rest.toList = c :: cs)
    (hc : ∀ u : TimeUnit, c ≠ u.letter) : ofString (format ++ rest) = ofString format ↔
      (scan (scan .active format.toList).mode (c :: cs)).atoms = [] := by
  rw [ofString_eq_iff, String.toList_append, hrest, scan_append_cons hd hc, Reading.atoms_append,
    List.append_right_eq_self]

section End
variable {format : String}

theorem withoutDangling_append (hd : (scan .active format.toList).dangling = true) :
    withoutDangling format ++ "\\" = format := by
  obtain ⟨init, hinit, -⟩ := exists_of_dangling hd
  have hlast : "\\".toList = ['\\'] := rfl
  apply String.toList_inj.mp
  rw [withoutDangling, quoting_readFormat, if_pos hd, String.toList_append, String.toList_ofList,
    hinit, hlast, List.dropLast_concat]

theorem ofString_append_escape_eq_iff : ofString (format ++ "\\") = ofString format ↔
    (scan .active format.toList).dangling = false := by
  obtain ⟨hatoms, -, hkept⟩ := scan_withoutDangling format
  have he : ∀ u : TimeUnit, '\\' ≠ u.letter := fun u => u.letter_ne_escape.symm
  cases hd : (scan .active format.toList).dangling with
  | false =>
    have hone : "\\".toList = ['\\'] := rfl
    rw [ofString_append_eq_iff "\\" hd hone he, scan_dangling]
    exact iff_of_true rfl rfl
  | true =>
    -- the last `\` quotes the new one
    have htwo : "\\\\".toList = ['\\', '\\'] := rfl
    have hjoin : withoutDangling format ++ "\\\\" = format ++ "\\" := by
      rw [← congrArg (· ++ "\\") (withoutDangling_append hd), String.append_assoc]
      rfl
    rw [← hjoin, ← ofString_eq_iff.mpr hatoms, ofString_append_eq_iff "\\\\" hkept htwo he,
      scan_quoted]
    exact iff_of_false (List.cons_ne_nil _ _) Bool.noConfusion

theorem ofString_append_close_eq_iff (hd : (scan .active format.toList).dangling = false) :
    ofString (format ++ "]") = ofString format ↔
      (scan .active format.toList).mode = .inert := by
  have hclose : "]".toList = [']'] := rfl
  rw [ofString_append_eq_iff "]" hd hclose fun u => u.letter_ne_close.symm]
  cases (scan .active format.toList).mode with
  | active =>
    have hplain : (scan .active [']']).atoms = [.char ']'] := rfl
    rw [hplain]
    exact iff_of_false (List.cons_ne_nil _ _) Mode.noConfusion
  | inert =>
    rw [scan_close]
    exact iff_of_true rfl rfl

end End

section Diagnostics
variable {format : String}

theorem danglingEscape_mem_diagnostics : .danglingEscape format ∈ diagnostics format ↔
    (scan .active format.toList).dangling = true := by
  simp [diagnostics, Reader.diagnostics, quoting_readFormat]

theorem openRegion_mem_diagnostics : .openRegion format ∈ diagnostics format ↔
    (scan .active format.toList).mode = .inert := by
  simp [diagnostics, Reader.diagnostics, mode_readFormat]

theorem diagnostics_sublist :
    (diagnostics format).Sublist [.openRegion format, .danglingEscape format] := by
  have hif (c : Prop) [Decidable c] (d : Diagnostic) : (if c then [d] else []).Sublist [d] := by
    split
    · exact .refl _
    · exact List.nil_sublist _
  exact (hif _ _).append (hif _ _)

end Diagnostics

/-- A `\` that quotes nothing is reported exactly if one more would change the template, and an
open region exactly if a `]` behind the text, without such a `\`, would not. There are no other
reports; the region comes first, and each report tells the format string. -/
theorem diagnostics_forgiven (format : String) :
    (.danglingEscape format ∈ diagnostics format ↔
      ofString (format ++ "\\") ≠ ofString format) ∧
    withoutDangling format = (if .danglingEscape format ∈ diagnostics format then
      String.ofList format.toList.dropLast else format) ∧
    (.openRegion format ∈ diagnostics format ↔
      ofString (withoutDangling format ++ "]") = ofString (withoutDangling format)) ∧
    (diagnostics format).Sublist [.openRegion format, .danglingEscape format] ∧
    (Diagnostic.openRegion format).message =
      "literal region still open at end of format format=" ++ format ∧
    (Diagnostic.danglingEscape format).message =
      "dropping trailing escape character format=" ++ format := by
  obtain ⟨-, hmode, hkept⟩ := scan_withoutDangling format
  refine ⟨?_, ?_, ?_, diagnostics_sublist, rfl, rfl⟩
  · rw [danglingEscape_mem_diagnostics, Ne, ofString_append_escape_eq_iff, Bool.not_eq_false]
  · simp only [withoutDangling, danglingEscape_mem_diagnostics, quoting_readFormat]
  · rw [openRegion_mem_diagnostics, ofString_append_close_eq_iff hkept, hmode]

/-- Of three `\` the first quotes the second. -/
example : diagnostics "[h\\\\\\" = [.openRegion "[h\\\\\\", .danglingEscape "[h\\\\\\"] := by
  decide +kernel

end Template

end DurationFormat
