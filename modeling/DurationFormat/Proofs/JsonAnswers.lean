import DurationFormat.Proofs.BreakdownReading
import DurationFormat.Proofs.FormatOrigin
import DurationFormat.Proofs.Granularity

/-!
# Answers in JSON

What `format` and `explain` write in JSON holds everything that they write in text. The fields are
looked up by their keys, and the segments of a template are read back from their tagged objects, so
equal answers come from equal templates.
-/

namespace DurationFormat

namespace Json

def field? (key : String) : Json → Option Json
  | .obj fields => fields.lookup key
  | _ => none

def keys : Json → List String
  | .obj fields => fields.map Prod.fst
  | _ => []

end Json

def Width.named? (name : String) : Option Width := [.single, .double].find? (·.name = name)

@[simp] theorem Width.named?_name (w : Width) : named? w.name = some w := by cases w <;> rfl

namespace Segment

def ofJson? : Json → Option Segment
  | .obj [("literal", .str text)] => some (.literal text)
  | .obj [("placeholder", .obj [("unit", .str unit), ("width", .str width)])] =>
    match TimeUnit.named? unit, Width.named? width with
    | some u, some w => some (.placeholder ⟨u, w⟩)
    | _, _ => none
  | _ => none

@[simp] theorem ofJson?_toJson (s : Segment) : ofJson? s.toJson = some s := by
  cases s with
  | literal text => rfl
  | placeholder p =>
    obtain ⟨u, w⟩ := p
    cases u <;> cases w <;> rfl

end Segment

namespace Template

def segmentsOfJson? (x : Json) : Option (List Segment) :=
  match x.field? "segments" with
  | some (.arr items) => items.mapM Segment.ofJson?
  | _ => none

/-- The granularity, which may be none, if there is a field for it. -/
def granularityOfJson? (x : Json) : Option (Option Granularity) :=
  match x.field? "granularity" with
  | some .null => some none
  | some (.str name) => (Granularity.all.find? (·.name = name)).map some
  | _ => none

section Forms
variable (t : Template)

theorem keys_toJson : t.toJson.keys = ["segments", "granularity", "canonical"] := rfl

theorem segmentsOfJson?_toJson : segmentsOfJson? t.toJson = some t.segments := by
  have hread : Segment.ofJson? ∘ Segment.toJson = pure := funext Segment.ofJson?_toJson
  have hfield : t.toJson.field? "segments" = some (.arr (t.segments.map Segment.toJson)) := rfl
  rw [segmentsOfJson?, hfield]
  simp only
  rw [List.mapM_map, hread, List.mapM_pure, List.map_id']
  rfl

theorem field?_granularity_toJson : t.toJson.field? "granularity" =
    some ((t.granularity.map fun g => Json.str g.name).getD .null) := rfl

theorem granularityOfJson?_toJson : granularityOfJson? t.toJson = some t.granularity := by
  rw [granularityOfJson?, field?_granularity_toJson]
  cases t.granularity with
  | none => rfl
  | some g => cases g <;> rfl

theorem field?_granularity_eq_null_iff :
    t.toJson.field? "granularity" = some .null ↔ t.granularity = none := by
  rw [field?_granularity_toJson]
  cases t.granularity with
  | none => simp
  | some g => simp

theorem field?_canonical_toJson : t.toJson.field? "canonical" = some (.str t.canonical) := rfl

end Forms

theorem toJson_inj {t u : Template} : t.toJson = u.toJson ↔ t = u := by
  refine ⟨fun h => ?_, fun h => h ▸ rfl⟩
  have hsegments := segmentsOfJson?_toJson t
  have hgranularity := granularityOfJson?_toJson t
  rw [h, segmentsOfJson?_toJson, Option.some.injEq] at hsegments
  rw [h, granularityOfJson?_toJson, Option.some.injEq] at hgranularity
  cases t
  cases u
  simp_all

end Template

namespace Command

theorem printed_inj {x y : Json} : printed x = printed y ↔ x = y := Json.pretty_newline_inj

theorem explain_stdout_json (text : String) (s : Surroundings) :
    ((Command.explain text).run .json s).stdout = printed (Template.ofString text).toJson := rfl

/-- What `format` writes in JSON is one object that gives back the duration and the format string,
and the output in it is what is written in text and what the two give. What `explain` writes in
JSON gives back the segments and the granularity of the template, which are also those of the
canonical form in it, so it is the same for equal templates only. -/
theorem json_readBack :
    (∀ (s : Surroundings) (millis : Int64) (argument path : Option String)
        (choice : FormatChoice),
      chooseFormat s.files argument path s.format? = .ok choice →
      ∃ x output,
        Json.read ((Command.format millis argument path).run .json s).stdout = some x ∧
        x.keys = ["duration_ms", "format", "source", "output"] ∧
        x.field? "duration_ms" = some (.int millis.toInt) ∧
        x.field? "format" = some (.str choice.format) ∧
        x.field? "source" = some (.str choice.origin.name) ∧
        x.field? "output" = some (.str output) ∧
        ((Command.format millis argument path).run .text s).stdout = output ++ "\n" ∧
        DurationFormat.format millis choice.format = output) ∧
    (∀ (s : Surroundings) (text : String), ∃ x canonical,
      Json.read ((Command.explain text).run .json s).stdout = some x ∧
      x.keys = ["segments", "granularity", "canonical"] ∧
      Template.segmentsOfJson? x = some (Template.ofString text).segments ∧
      Template.granularityOfJson? x = some (Template.ofString text).granularity ∧
      (x.field? "granularity" = some .null ↔ (Template.ofString text).placeholders = []) ∧
      x.field? "canonical" = some (.str canonical) ∧
      Template.segmentsOfJson? x = some (Template.ofString canonical).segments ∧
      Template.granularityOfJson? x = some (Template.ofString canonical).granularity) ∧
    ∀ (s s' : Surroundings) (text text' : String),
      ((Command.explain text).run .json s).stdout =
          ((Command.explain text').run .json s').stdout ↔
        Template.ofString text = Template.ofString text' := by
  refine ⟨?_, ?_, ?_⟩
  · intro s millis argument path choice h
    rw [stdout_format_of_chooseFormat h millis .json, stdout_format_of_chooseFormat h millis .text]
    exact ⟨_, _, Json.read_pretty_newline _, rfl, rfl, rfl, rfl, rfl, rfl, rfl⟩
  · intro s text
    have hw := Template.wellFormed_ofString text
    have hcanonical := Template.ofString_canonical hw
    have hsegments := (Template.ofString text).segmentsOfJson?_toJson
    have hgranularity := (Template.ofString text).granularityOfJson?_toJson
    refine ⟨_, _, Json.read_pretty_newline _, Template.keys_toJson _, hsegments, hgranularity, ?_,
      Template.field?_canonical_toJson _, ?_, ?_⟩
    · rw [Template.field?_granularity_eq_null_iff, hw.granularity_eq_none_iff]
    · rw [hcanonical, hsegments]
    · rw [hcanonical, hgranularity]
  · intro s s' text text'
    rw [explain_stdout_json, explain_stdout_json, printed_inj, Template.toJson_inj]

/-- A quote and a line feed are given back. -/
theorem json_readBack_quote :
    chooseFormat (sameEverywhere "").files (some "s\"\n") none (sameEverywhere "").format? =
      .ok ⟨"s\"\n", .argument⟩ ∧
    ∃ x, Json.read
        ((Command.format 2500 (some "s\"\n") none).run .json (sameEverywhere "")).stdout = some x ∧
      x.field? "format" = some (.str "s\"\n") ∧ x.field? "output" = some (.str "2\"\n") := by
  have hshown : DurationFormat.format 2500 "s\"\n" = "2\"\n" := by decide +kernel
  have hchosen : chooseFormat (sameEverywhere "").files (some "s\"\n") none
      (sameEverywhere "").format? = .ok ⟨"s\"\n", .argument⟩ := rfl
  obtain ⟨x, output, hread, -, -, hformat, -, houtput, -, hequal⟩ :=
    json_readBack.1 (sameEverywhere "") 2500 (some "s\"\n") none _ hchosen
  rw [← hequal, hshown] at houtput
  exact ⟨hchosen, x, hread, hformat, houtput⟩

end Command

end DurationFormat
