import DurationFormat.Proofs.Granularity
import DurationFormat.Proofs.Seams

/-!
# Text kept as it is

Any text can stand in a format string for itself, with a `\` before each of its characters or as a
region. Neither form runs into what is in front of it or changes how what follows is read, so the
two mean the same wherever neither a region nor a `\` is open.
-/

namespace DurationFormat

/-- A `\` before every character. -/
def escaped (text : String) : String := String.ofList (text.toList.flatMap fun c => ['\\', c])

/-- A region, in which each `\` and each `]` has a `\` before it. -/
def bracketed (text : String) : String :=
  String.ofList
    ('[' :: (text.toList.flatMap fun c => if c = '\\' ∨ c = ']' then ['\\', c] else [c]) ++ [']'])

theorem spells_escaped (text : String) : Spells .active (escaped text).toList text.toList := by
  rw [escaped, String.toList_ofList]
  exact .flatMap (spells_quoted .active) text.toList

theorem spells_bracketed (text : String) : Spells .active (bracketed text).toList text.toList := by
  rw [bracketed, String.toList_ofList]
  refine (Spells.flatMap (fun c => ?_) text.toList).region
  split
  · exact spells_quoted .inert c
  · rename_i h
    rw [not_or] at h
    exact .of_token rfl fun rest => scan_inert rest h.1 h.2

theorem head?_escaped {text : String} (h : text ≠ "") : (escaped text).toList.head? = some '\\' := by
  have hl : text.toList ≠ [] := fun hn => h (String.toList_inj.mp hn)
  obtain ⟨c, cs, hc⟩ := List.exists_cons_of_ne_nil hl
  rw [escaped, String.toList_ofList, hc]
  rfl

theorem head?_bracketed (text : String) : (bracketed text).toList.head? = some '[' := by
  rw [bracketed, String.toList_ofList]
  rfl

namespace Template

theorem atoms_ofString_of_spells {written text : String}
    (h : Spells .active written.toList text.toList) :
    (ofString written).atoms = text.toList.map .char := by
  have hall := h.atoms_scan []
  rw [List.append_nil] at hall
  rw [atoms_ofString, hall]
  exact List.append_nil _

end Template

theorem format_of_spells {written text : String} (h : Spells .active written.toList text.toList)
    (millis : Int64) : format millis written = text := by
  obtain ⟨c, hc⟩ := (Template.ofString written).exists_countsIn
  apply String.toList_inj.mp
  rw [format, hc.toList_render (Template.wellFormed_ofString written),
    Template.atoms_ofString_of_spells h, List.flatMap_map]
  exact List.flatMap_singleton' text.toList

namespace Template

section Between
variable {p : String} (hm : (readFormat p).mode = .active) (hq : (readFormat p).quoting = false)
variable {text : String} (ht : text ≠ "") {written : String}
variable (hw : written = escaped text ∨ written = bracketed text) (q : String)
include hm hq ht hw

theorem scan_between : (scan .active (p ++ written ++ q).toList).atoms =
      (scan .active p.toList).atoms ++
        (text.toList.map .char ++ (scan .active q.toList).atoms) ∧
    (scan .active (p ++ written ++ q).toList).mode = (scan .active q.toList).mode ∧
    (scan .active (p ++ written ++ q).toList).dangling = (scan .active q.toList).dangling := by
  rw [mode_readFormat] at hm
  rw [quoting_readFormat] at hq
  rw [String.toList_append, String.toList_append]
  rcases hw with rfl | rfl
  · exact (spells_escaped text).scan_between (head?_escaped ht) (fun u => u.letter_ne_escape.symm)
      hm hq q.toList
  · exact (spells_bracketed text).scan_between (head?_bracketed text)
      (fun u => u.letter_ne_open.symm) hm hq q.toList

end Between

/-- Behind a format string that leaves nothing open any text can be quoted in both ways with the
same result: its characters come between what the format strings on both sides mean. No placeholder
comes of it, and what stands behind it is read as it would be alone. -/
theorem ofString_verbatim {p : String} (hm : (readFormat p).mode = .active)
    (hq : (readFormat p).quoting = false) {text : String} (ht : text ≠ "") (q : String) :
    ofString (p ++ escaped text ++ q) = ofString (p ++ bracketed text ++ q) ∧
    (∀ written, written = escaped text ∨ written = bracketed text →
      (ofString (p ++ written ++ q)).atoms =
        (ofString p).atoms ++ (text.toList.map .char ++ (ofString q).atoms) ∧
      (ofString (p ++ written ++ q)).placeholders =
        (ofString p).placeholders ++ (ofString q).placeholders ∧
      (ofString (p ++ written ++ q)).granularity =
        max (ofString p).granularity (ofString q).granularity ∧
      (readFormat (p ++ written ++ q)).mode = (readFormat q).mode ∧
      (readFormat (p ++ written ++ q)).quoting = (readFormat q).quoting) ∧
    ∀ millis : Int64, format millis (escaped text) = text ∧ format millis (bracketed text) = text := by
  refine ⟨?_, fun written hw => ?_, fun millis => ?_⟩
  · apply (wellFormed_ofString _).ext_atoms (wellFormed_ofString _)
    rw [atoms_ofString, atoms_ofString, (scan_between hm hq ht (.inl rfl) q).1,
      (scan_between hm hq ht (.inr rfl) q).1]
  · obtain ⟨hatoms, hmode, hdangling⟩ := scan_between hm hq ht hw q
    simp only [← atoms_ofString] at hatoms
    have hplaceholders := placeholders_of_atoms_append hatoms
    rw [mode_readFormat, mode_readFormat, quoting_readFormat, quoting_readFormat]
    refine ⟨hatoms, hplaceholders, ?_, hmode, hdangling⟩
    exact (wellFormed_ofString _).granularity_of_placeholders_append (wellFormed_ofString p)
      (wellFormed_ofString q) hplaceholders
  · exact ⟨format_of_spells (spells_escaped text) millis,
      format_of_spells (spells_bracketed text) millis⟩

/-- An equal letter stands on both sides of the text, and a region stays open behind it. -/
theorem ofString_verbatim_letters :
    (readFormat "h").mode = .active ∧ (readFormat "h").quoting = false ∧ "h]\\" ≠ "" ∧
    ofString ("h" ++ escaped "h]\\" ++ "h[s") = ofString ("h" ++ bracketed "h]\\" ++ "h[s") ∧
    (ofString ("h" ++ bracketed "h]\\" ++ "h[s")).atoms =
      (ofString "h").atoms ++ ("h]\\".toList.map .char ++ (ofString "h[s").atoms) ∧
    (readFormat ("h" ++ bracketed "h]\\" ++ "h[s")).mode = (readFormat "h[s").mode := by
  have hm : (readFormat "h").mode = .active := by decide +kernel
  have hq : (readFormat "h").quoting = false := by decide +kernel
  have ht : "h]\\" ≠ "" := by decide
  obtain ⟨heq, hbetween, -⟩ := ofString_verbatim hm hq ht "h[s"
  obtain ⟨hatoms, -, -, hmode, -⟩ := hbetween _ (.inr rfl)
  exact ⟨hm, hq, ht, heq, hatoms, hmode⟩

end Template

end DurationFormat
