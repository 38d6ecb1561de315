import DurationFormat.Proofs.BreakdownReading
import DurationFormat.Proofs.FormatOrigin

/-!
# How a run ends

A command that was read either fails, because a template file gives no text, or writes at least one
line. Nothing takes the place of the template file, and an argument for the format string makes
both the file and the variable irrelevant.
-/

namespace DurationFormat

/-- Not empty, and a line feed ends the last line. -/
def EndsLine (text : String) : Prop := ∃ body, text = body ++ "\n"

theorem Breakdown.endsLine_listing {b : Breakdown} (h : b.parts ≠ []) : EndsLine b.listing := by
  obtain ⟨ps, p, hp⟩ := (List.eq_nil_or_concat b.parts).resolve_left h
  refine ⟨String.join (ps.map Part.line) ++ p.label, ?_⟩
  rw [listing, hp, List.concat_eq_append, List.map_append, String.join_append, String.append_assoc]
  exact congrArg _ (String.toList_inj.mp (by simp [p.line_eq]))

theorem Template.endsLine_listing (t : Template) : EndsLine t.listing := ⟨_, rfl⟩

namespace Command

theorem endsLine_formatOutput (millis : Int64) (choice : FormatChoice) (mode : OutputMode) :
    EndsLine (formatOutput millis choice mode) := by
  cases mode <;> exact ⟨_, rfl⟩

theorem endsLine_splitOutput (millis : Int64) (g : Granularity) (withStrings : Bool)
    (mode : OutputMode) : EndsLine (splitOutput (.ofMillis millis g withStrings) mode) := by
  cases mode with
  | text =>
    apply Breakdown.endsLine_listing
    intro h
    have hunits := Breakdown.map_unit_parts millis g withStrings
    rw [h] at hunits
    cases g <;> cases hunits
  | json => exact ⟨_, rfl⟩

theorem endsLine_explainOutput (t : Template) (mode : OutputMode) :
    EndsLine (explainOutput t mode) := by
  cases mode with
  | text => exact t.endsLine_listing
  | json => exact ⟨_, rfl⟩

theorem run_of_refuses {s : Surroundings} {path reason : String} (h : s.files.Refuses path reason)
    (millis : Int64) (mode : OutputMode) :
    (Command.format millis none (some path)).run mode s =
      .failed ⟨"failed to read template file " ++ path ++ ": " ++ reason, []⟩ := by
  obtain ⟨e, he, hm⟩ := readTemplateFile_of_refuses h
  rw [run, answer, chooseFormat, he, ← hm]
  rfl

/-- A run fails on a template file or is done. -/
theorem run_cases (c : Command) (mode : OutputMode) (s : Surroundings) :
    (∃ millis path reason, c = .format millis none (some path) ∧ s.files.Refuses path reason) ∨
      ∃ text log, c.run mode s = .done text log ∧ EndsLine text := by
  cases c with
  | format millis argument path =>
    rcases chooseFormat_cases s.files argument path s.format? with ⟨choice, h⟩ | ⟨file, reason, h⟩
    · obtain ⟨log, hrun⟩ := run_format_of_chooseFormat h millis mode
      exact .inr ⟨_, log, hrun, endsLine_formatOutput millis choice mode⟩
    · obtain ⟨rfl, rfl, hr⟩ := h
      exact .inl ⟨millis, file, reason, rfl, hr⟩
  | split millis parts strings =>
    exact .inr ⟨_, _, rfl, endsLine_splitOutput millis parts strings mode⟩
  | explain text => exact .inr ⟨_, _, rfl, endsLine_explainOutput (.ofString text) mode⟩

theorem text_failed (path reason : String) :
    Failure.text ⟨"failed to read template file " ++ path ++ ": " ++ reason, []⟩ =
      "failed to read template file " ++ path ++ ": " ++ reason := rfl

theorem stderr_failed (path reason : String) :
    (Outcome.failed ⟨"failed to read template file " ++ path ++ ": " ++ reason, []⟩).stderr =
      "Error: failed to read template file " ++ path ++ ": " ++ reason ++ "\n" := by
  have hne : "failed to read template file " ++ path ++ ": " ++ reason ≠ "" := by
    intro h
    have hl := congrArg String.toList h
    simp at hl
  rw [Outcome.stderr, text_failed, if_neg hne]
  simp [← String.toList_inj]

theorem exitCode_eq_one_iff {c : Command} {mode : OutputMode} {s : Surroundings} :
    (c.run mode s).exitCode = 1 ↔
      ∃ millis path reason, c = .format millis none (some path) ∧ s.files.Refuses path reason := by
  constructor
  · intro h
    rcases run_cases c mode s with hf | ⟨text, log, hd, -⟩
    · exact hf
    · rw [hd] at h
      cases h
  · rintro ⟨millis, path, reason, rfl, hr⟩
    rw [run_of_refuses hr]
    rfl

/-- A command fails exactly if it has to read a template file that gives no text. Then nothing is
written but why, whatever the variable holds. With an argument for the format string neither files
nor the variable matter, and whatever does not fail writes whole lines. -/
theorem run_fails_iff (c : Command) (mode : OutputMode) (s : Surroundings) :
    (∀ arguments, readInvocation arguments = .ok ⟨c, mode⟩ →
      runProgram arguments s = c.run mode s) ∧
    ((c.run mode s).exitCode = 1 ↔
      ∃ millis path reason, c = .format millis none (some path) ∧ s.files.Refuses path reason) ∧
    (∀ millis path reason, c = .format millis none (some path) → s.files.Refuses path reason →
      (c.run mode s).stdout = "" ∧ (c.run mode s).log = [] ∧
      (c.run mode s).stderr =
        "Error: failed to read template file " ++ path ++ ": " ++ reason ++ "\n" ∧
      (∃ f, c.run mode s = .failed f ∧ f.text = f.message) ∧
      ∀ env, c.run mode { s with format := env } = c.run mode s) ∧
    (∀ millis format path, c = .format millis (some format) path →
      ∀ files env, c.run mode { s with files := files, format := env } = c.run mode s) ∧
    ((c.run mode s).exitCode ≠ 1 →
      (c.run mode s).exitCode = 0 ∧ EndsLine (c.run mode s).stdout) := by
  refine ⟨?_, exitCode_eq_one_iff, ?_, ?_, ?_⟩
  · intro arguments h
    rw [runProgram, h]
  · rintro millis path reason rfl hr
    have hf := run_of_refuses hr millis mode
    rw [hf]
    refine ⟨rfl, rfl, stderr_failed path reason, ⟨_, rfl, text_failed path reason⟩, fun env => ?_⟩
    have hr' : { s with format := env }.files.Refuses path reason := hr
    exact run_of_refuses hr' millis mode
  · rintro millis format path rfl files env
    rfl
  · intro h
    rcases run_cases c mode s with hf | ⟨text, log, hd, hends⟩
    · exact absurd (exitCode_eq_one_iff.mpr hf) h
    · rw [hd]
      exact ⟨rfl, hends⟩

/-- The variable holds a format string, and there are no files. No event is a warning. -/
def withoutFiles : Surroundings :=
  ⟨some "s", none, fun _ => some fun _ => false, fun _ => .error .notFound⟩

/-- The variable does not stand in for the file that is missing. -/
theorem run_fails_iff_missing :
    withoutFiles.files.Refuses "f" "No such file or directory (os error 2)" ∧
    ((Command.format 1000 none (some "f")).run .json withoutFiles).exitCode = 1 ∧
    ((Command.format 1000 none (some "f")).run .json withoutFiles).stdout = "" ∧
    ((Command.format 1000 none (some "f")).run .json withoutFiles).stderr =
      "Error: failed to read template file f: No such file or directory (os error 2)\n" ∧
    EndsLine ((Command.format 1000 none none).run .json withoutFiles).stdout := by
  have hmissing : withoutFiles.files "f" = .error .notFound := rfl
  have hr := FileReader.Refuses.failure hmissing
  obtain ⟨-, hexit, hfailed, -, -⟩ :=
    run_fails_iff (.format 1000 none (some "f")) .json withoutFiles
  obtain ⟨hout, -, herr, -, -⟩ := hfailed 1000 "f" _ rfl hr
  obtain ⟨-, -, -, -, hdone⟩ := run_fails_iff (.format 1000 none none) .json withoutFiles
  exact ⟨hr, hexit.mpr ⟨1000, "f", _, rfl, hr⟩, hout, herr, (hdone (by decide)).2⟩

end Command

end DurationFormat
