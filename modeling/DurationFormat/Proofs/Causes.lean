import DurationFormat.Command.Run

/-!
# Failures keep their causes

Whichever way a failure is told, every message in it can be found in the text. Nothing is listed
below the first message exactly if that contains all others. One cause that is missing from it
brings all of them, in their order and each in a block with its number.
-/

namespace DurationFormat

theorem infix_toList_join {s : String} {l : List String} (h : s ∈ l) :
    s.toList <:+: (String.join l).toList := by
  rw [String.toList_join, List.flatMap_def]
  exact List.infix_of_mem_flatten (List.mem_map_of_mem h)

namespace Failure

/-- The message contains that of every cause. -/
def TellsAll (f : Failure) : Prop := ∀ cause ∈ f.causes, cause.toList <:+: f.message.toList

def blocks (f : Failure) : List String := f.causes.mapIdx fun i cause => causeBlock cause i

theorem causeBlock_eq (cause : String) (i : Nat) :
    causeBlock cause i = "\n\nCaused by:\n    " ++ toString i ++ ": " ++ cause := rfl

theorem causeBlock_ne_empty (cause : String) (i : Nat) : causeBlock cause i ≠ "" := by
  simp [causeBlock_eq, String.append_assoc, String.append_eq_empty_iff]

theorem infix_causeBlock (cause : String) (i : Nat) :
    cause.toList <:+: (causeBlock cause i).toList := by
  rw [causeBlock_eq, String.toList_append]
  exact (List.suffix_append _ _).isInfix

section Text
variable {f : Failure}

theorem text_of_tellsAll (h : f.TellsAll) : f.text = f.message := by
  rw [text, if_pos]
  exact List.all_eq_true.mpr fun cause hc => Text.occurs_iff.mpr (h cause hc)

theorem text_of_not_tellsAll (h : ¬ f.TellsAll) : f.text = f.message ++ String.join f.blocks := by
  rw [text, if_neg]
  · rfl
  · exact fun hall => h fun cause hc => Text.occurs_iff.mp (List.all_eq_true.mp hall cause hc)

theorem exists_mem_blocks {cause : String} (h : cause ∈ f.causes) :
    ∃ i, causeBlock cause i ∈ f.blocks := by
  obtain ⟨i, hi, rfl⟩ := List.mem_iff_getElem.mp h
  exact ⟨i, List.mem_mapIdx.mpr ⟨i, hi, rfl⟩⟩

theorem message_infix_text (f : Failure) : f.message.toList <:+: f.text.toList := by
  by_cases h : f.TellsAll
  · simp only [text_of_tellsAll h, List.infix_rfl]
  · rw [text_of_not_tellsAll h, String.toList_append]
    exact (List.prefix_append _ _).isInfix

theorem cause_infix_text {cause : String} (hc : cause ∈ f.causes) :
    cause.toList <:+: f.text.toList := by
  by_cases h : f.TellsAll
  · rw [text_of_tellsAll h]
    exact h cause hc
  · obtain ⟨i, hi⟩ := exists_mem_blocks hc
    rw [text_of_not_tellsAll h, String.toList_append]
    have hblock := (infix_causeBlock cause i).trans (infix_toList_join hi)
    exact hblock.trans (List.suffix_append _ _).isInfix

theorem text_eq_message_iff : f.text = f.message ↔ f.TellsAll := by
  refine ⟨fun heq => ?_, text_of_tellsAll⟩
  apply Classical.byContradiction
  intro h
  -- then no block has any text, but a cause that is missing has one
  rw [text_of_not_tellsAll h, String.append_eq_left_iff] at heq
  apply h
  intro cause hc
  obtain ⟨i, hi⟩ := exists_mem_blocks hc
  have hempty := infix_toList_join hi
  rw [heq] at hempty
  exact absurd (String.toList_inj.mp (List.eq_nil_of_infix_nil hempty)) (causeBlock_ne_empty _ _)

theorem text_eq_empty_iff : f.text = "" ↔ ∀ message ∈ f.message :: f.causes, message = "" := by
  constructor
  · intro h message hm
    have hin : message.toList <:+: f.text.toList := by
      rcases List.mem_cons.mp hm with rfl | hc
      · exact f.message_infix_text
      · exact cause_infix_text hc
    rw [h] at hin
    exact String.toList_inj.mp (List.eq_nil_of_infix_nil hin)
  · intro h
    obtain ⟨hm, hc⟩ := List.forall_mem_cons.mp h
    rw [text_of_tellsAll, hm]
    intro cause hcause
    rw [hc cause hcause]
    exact List.nil_infix

theorem stderr_failed_eq_empty_iff : (Outcome.failed f).stderr = "" ↔ f.text = "" := by
  rw [Outcome.stderr]
  split
  · simp [*]
  · simp [*, String.append_eq_empty_iff]

end Text

/-- No message is lost. The first one stands alone exactly if it contains all causes; otherwise
they all follow it, numbered from zero. Nothing is written exactly if no message has any text. -/
theorem text_keeps_causes (f : Failure) :
    (∀ message ∈ f.message :: f.causes, message.toList <:+: f.text.toList) ∧
    (f.text = f.message ↔ ∀ cause ∈ f.causes, cause.toList <:+: f.message.toList) ∧
    ((∃ cause ∈ f.causes, ¬ cause.toList <:+: f.message.toList) →
      ∃ blocks : List String, f.text = f.message ++ String.join blocks ∧
        blocks.length = f.causes.length ∧
        ∀ (i : Nat) (cause : String), f.causes[i]? = some cause →
          blocks[i]? = some ("\n\nCaused by:\n    " ++ toString i ++ ": " ++ cause)) ∧
    (f.text = "" ↔ ∀ message ∈ f.message :: f.causes, message = "") ∧
    ((Outcome.failed f).stderr = "" ↔ ∀ message ∈ f.message :: f.causes, message = "") := by
  refine ⟨?_, text_eq_message_iff, ?_, text_eq_empty_iff, ?_⟩
  · exact List.forall_mem_cons.mpr ⟨f.message_infix_text, fun _ => cause_infix_text⟩
  · rintro ⟨missing, hm, hno⟩
    refine ⟨f.blocks, text_of_not_tellsAll fun h => hno (h missing hm), List.length_mapIdx, ?_⟩
    intro i cause hi
    rw [blocks, List.getElem?_mapIdx, hi, Option.map_some, causeBlock_eq]
  · rw [stderr_failed_eq_empty_iff]
    exact text_eq_empty_iff

/-- One cause is told already and one has no text, but the last is missing and so all are listed. -/
theorem text_keeps_causes_missing :
    let f : Failure := ⟨"reading: gone", ["gone", "", "disk\n    0: gone"]⟩
    "" ∈ f.message :: f.causes ∧ "".toList <:+: f.text.toList ∧
    (∃ cause ∈ f.causes, ¬ cause.toList <:+: f.message.toList) ∧
    f.causes[2]? = some "disk\n    0: gone" ∧
    ∃ blocks : List String, f.text = f.message ++ String.join blocks ∧
      blocks[2]? = some ("\n\nCaused by:\n    " ++ toString 2 ++ ": " ++ "disk\n    0: gone") := by
  intro f
  have hempty : "" ∈ f.message :: f.causes := by decide
  have hmissing : ∃ cause ∈ f.causes, ¬ cause.toList <:+: f.message.toList :=
    ⟨"disk\n    0: gone", by decide, fun h => absurd (Text.occurs_iff.mpr h) (by decide)⟩
  obtain ⟨hin, -, hlisted, -, -⟩ := text_keeps_causes f
  obtain ⟨blocks, htext, -, hblocks⟩ := hlisted hmissing
  exact ⟨hempty, hin _ hempty, hmissing, rfl, blocks, htext, hblocks 2 _ rfl⟩

end Failure

end DurationFormat
