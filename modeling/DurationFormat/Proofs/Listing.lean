import DurationFormat.Proofs.Canonical
import DurationFormat.Proofs.Quoting
import DurationFormat.Template.Explanation

/-!
# Reading a listing back

A listing tells which template it is of. Its lines are read as segments until one that is none,
which is the line of the granularity; and what stands behind the label of the canonical form, line
feeds and all, is a format string of the template.
-/

namespace DurationFormat

def Placeholder.all : List Placeholder :=
  TimeUnit.all.flatMap fun u => [⟨u, .single⟩, ⟨u, .double⟩]

theorem Placeholder.mem_all (p : Placeholder) : p ∈ all := by
  obtain ⟨u, w⟩ := p
  cases u <;> cases w <;> decide

namespace Segment

/-- The segment that a line describes. -/
def ofLine? (line : List Char) : Option Segment :=
  if line.take 13 = "literal      ".toList then (Text.unquoted? (line.drop 13)).map .literal
  else
    (Placeholder.all.find? fun p =>
      (description Text.isVisible (.placeholder p)).toList = line).map .placeholder

theorem toList_description_literal (raw : Char → Bool) (text : String) :
    (description raw (.literal text)).toList =
      "literal      ".toList ++ (Text.quoted raw text).toList := by
  rw [description, String.toList_append, String.toList_append]
  rfl

@[simp] theorem ofLine?_description (raw : Char → Bool) (s : Segment) :
    ofLine? (s.description raw).toList = some s := by
  cases s with
  | literal text =>
    have hl : "literal      ".toList.length = 13 := rfl
    rw [toList_description_literal, ofLine?, List.take_left' hl, List.drop_left' hl, if_pos rfl,
      Text.unquoted?_quoted]
    rfl
  | placeholder p =>
    have hp : ∀ p ∈ Placeholder.all, ofLine? (description Text.isVisible (.placeholder p)).toList =
      some (.placeholder p) := by decide +kernel
    exact hp p p.mem_all

theorem newline_not_mem_description (raw : Char → Bool) (s : Segment) :
    '\n' ∉ (s.description raw).toList := by
  cases s with
  | literal text =>
    have hq := Text.newline_not_mem_quoted raw text
    rw [toList_description_literal, List.mem_append]
    exact fun h => h.elim (by decide) hq
  | placeholder p =>
    have hp : ∀ p ∈ Placeholder.all,
      '\n' ∉ (description Text.isVisible (.placeholder p)).toList := by decide +kernel
    exact hp p p.mem_all

end Segment

theorem splitOn_lines {α : Type} {x : α} [BEq α] [LawfulBEq α] {lines : List (List α)}
    (h : ∀ line ∈ lines, x ∉ line) (rest : List α) :
    (lines.flatMap (· ++ [x]) ++ rest).splitOn x = lines ++ rest.splitOn x := by
  induction lines with
  | nil => rfl
  | cons line lines ih =>
    obtain ⟨hline, hlines⟩ := List.forall_mem_cons.mp h
    have hcut : (line :: lines).flatMap (· ++ [x]) ++ rest =
        line ++ x :: (lines.flatMap (· ++ [x]) ++ rest) := by simp
    rw [hcut, List.splitOn_append_cons_self_of_not_mem hline, ih hlines, List.cons_append]

namespace Listing

def describes (line : List Char) : Bool := (Segment.ofLine? line).isSome

/-- The segments of the lines before the first that describes none. -/
def segments (listing : String) : List Segment :=
  ((listing.toList.splitOn '\n').takeWhile describes).filterMap Segment.ofLine?

/-- What stands behind the line of the granularity and the label, up to the line feed at the end. -/
def canonical (listing : String) : String :=
  let rest := (listing.toList.splitOn '\n').dropWhile describes
  String.ofList ((['\n'].intercalate rest.tail).drop "canonical: ".length).dropLast

end Listing

namespace Template

/-- The line of the granularity without its line feed. -/
def granularityLabel (t : Template) : String :=
  "granularity: " ++ (t.granularity.map Granularity.name).getD "none (literal only)"

theorem granularityLine_eq (t : Template) : t.granularityLine = t.granularityLabel ++ "\n" := by
  unfold granularityLine granularityLabel
  cases t.granularity <;> simp

theorem granularityLabel_spec (t : Template) :
    '\n' ∉ t.granularityLabel.toList ∧ Segment.ofLine? t.granularityLabel.toList = none := by
  unfold granularityLabel
  generalize t.granularity = g
  cases g with
  | none => decide +kernel
  | some g => cases g <;> decide +kernel

theorem toList_listingWith (raw : Char → Bool) (t : Template) :
    (t.listingWith raw).toList =
      (t.segments.map fun s => (s.description raw).toList).flatMap (· ++ ['\n']) ++
        (t.granularityLabel.toList ++
          '\n' :: ("canonical: ".toList ++ (t.canonical.toList ++ ['\n']))) := by
  rw [listingWith, granularityLine_eq]
  simp [String.toList_join, List.flatMap_map]

theorem splitOn_listingWith (raw : Char → Bool) (t : Template) :
    (t.listingWith raw).toList.splitOn '\n' =
      (t.segments.map fun s => (s.description raw).toList) ++
        t.granularityLabel.toList ::
          ("canonical: ".toList ++ (t.canonical.toList ++ ['\n'])).splitOn '\n' := by
  have hlines : ∀ line ∈ t.segments.map fun s => (s.description raw).toList, '\n' ∉ line :=
    List.forall_mem_map.mpr fun s _ => s.newline_not_mem_description raw
  rw [toList_listingWith, splitOn_lines hlines,
    List.splitOn_append_cons_self_of_not_mem t.granularityLabel_spec.1]

section Lines
variable (raw : Char → Bool) (t : Template)

theorem describes_lines :
    ∀ line ∈ t.segments.map fun s => (s.description raw).toList, Listing.describes line = true :=
  List.forall_mem_map.mpr fun s _ => by rw [Listing.describes, Segment.ofLine?_description]; rfl

theorem describes_granularityLabel : Listing.describes t.granularityLabel.toList = false := by
  rw [Listing.describes, t.granularityLabel_spec.2]
  rfl

theorem segments_listingWith : Listing.segments (t.listingWith raw) = t.segments := by
  have hread : (Segment.ofLine? ∘ fun s => (s.description raw).toList) = some :=
    funext (Segment.ofLine?_description raw)
  rw [Listing.segments, splitOn_listingWith,
    List.takeWhile_append_of_pos (describes_lines raw t), List.takeWhile_cons,
    describes_granularityLabel]
  simp only [Bool.false_eq_true, if_false, List.append_nil]
  rw [List.filterMap_map, hread, List.filterMap_some]

theorem canonical_listingWith : Listing.canonical (t.listingWith raw) = t.canonical := by
  have hl : "canonical: ".toList.length = "canonical: ".length := rfl
  rw [Listing.canonical, splitOn_listingWith,
    List.dropWhile_append_of_pos (describes_lines raw t), List.dropWhile_cons,
    describes_granularityLabel]
  simp only [Bool.false_eq_true, if_false, List.tail_cons]
  rw [List.intercalate_splitOn, List.drop_left' hl, List.dropLast_concat, String.ofList_toList]

end Lines

/-- A listing, whichever characters its quoted texts leave raw, is a line for each segment, a line
for the granularity and the canonical form. The segments can be read back from their lines, the
line of the granularity is read as none, and the canonical form is a format string of the template.
So listings are equal exactly for equal templates. -/
theorem listingWith_readBack (raw : Char → Bool) :
    (∀ format : String, ∃ lines : List String,
      lines.length = (ofString format).segments.length ∧
      (ofString format).listingWith raw =
        String.join (lines.map (· ++ "\n")) ++ ((ofString format).granularityLabel ++ "\n") ++
          "canonical: " ++ (ofString format).canonical ++ "\n" ∧
      (∀ line ∈ (ofString format).granularityLabel :: lines, '\n' ∉ line.toList) ∧
      (lines.map fun line => Segment.ofLine? line.toList) =
        (ofString format).segments.map some ∧
      Segment.ofLine? (ofString format).granularityLabel.toList = none ∧
      Listing.segments ((ofString format).listingWith raw) = (ofString format).segments ∧
      ofString (Listing.canonical ((ofString format).listingWith raw)) = ofString format) ∧
    ∀ f g : String, (ofString f).listingWith raw = (ofString g).listingWith raw ↔
      ofString f = ofString g := by
  refine ⟨fun format => ?_, fun f g => ⟨fun h => ?_, fun h => by rw [h]⟩⟩
  · generalize ht : ofString format = t
    have hw : t.WellFormed := ht ▸ wellFormed_ofString format
    refine ⟨t.segments.map (Segment.description raw), List.length_map .., ?_, ?_, ?_,
      t.granularityLabel_spec.2, segments_listingWith raw t, ?_⟩
    · rw [listingWith, granularityLine_eq, List.map_map]
      rfl
    · refine List.forall_mem_cons.mpr ⟨t.granularityLabel_spec.1, ?_⟩
      exact List.forall_mem_map.mpr fun s _ => s.newline_not_mem_description raw
    · simp
    · rw [canonical_listingWith, ofString_canonical hw]
  · have hf := ofString_canonical (wellFormed_ofString f)
    have hg := ofString_canonical (wellFormed_ofString g)
    rw [← hf, ← hg, ← canonical_listingWith raw, h, canonical_listingWith]

end Template

end DurationFormat
