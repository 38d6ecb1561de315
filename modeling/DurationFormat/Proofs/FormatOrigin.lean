import DurationFormat.Command.Run

/-!
# Where a format string comes from

Each way to supply a format string, and what `format` writes for it. The text shown depends on the
format string alone; in JSON the origin is named and nothing else changes with it. A template file
holds its format string and at most one line ending, so every content of a file holds exactly one
format string.
-/

namespace DurationFormat

theorem fromUTF8?_toUTF8 (text : String) : String.fromUTF8? text.toUTF8 = some text := by
  unfold String.fromUTF8?
  rw [dif_pos (by simpa using text.isValidUTF8)]
  rfl

namespace FileReader

theorem text_of_error {files : FileReader} {path : String} {failure : ReadFailure}
    (h : files path = .error failure) : files.text path = .error failure := by
  rw [text, h]
  rfl

theorem text_of_ok {files : FileReader} {path content : String}
    (h : files path = .ok content.toUTF8) : files.text path = .ok content := by
  simp only [text, h, bind, Except.bind, fromUTF8?_toUTF8]
  rfl

theorem text_of_not_valid {files : FileReader} {path : String} {bytes : ByteArray}
    (h : files path = .ok bytes) (hb : ¬ bytes.IsValidUTF8) :
    files.text path = .error .notText := by
  have hn : String.fromUTF8? bytes = none := dif_neg hb
  simp only [text, h, bind, Except.bind, hn]
  rfl

/-- Why a file gives no text. -/
inductive Refuses (files : FileReader) (path : String) : (reason : String) → Prop where
  | failure {failure : ReadFailure} :
    files path = .error failure → Refuses files path failure.message
  | notText {bytes : ByteArray} :
    files path = .ok bytes → ¬ bytes.IsValidUTF8 →
      Refuses files path "stream did not contain valid UTF-8"

/-- A file gives text or there is a reason why not. -/
theorem exists_content_or_refuses (files : FileReader) (path : String) :
    (∃ content : String, files path = .ok content.toUTF8) ∨
      ∃ reason, files.Refuses path reason := by
  cases h : files path with
  | error failure => exact .inr ⟨_, .failure h⟩
  | ok bytes =>
    by_cases hb : bytes.IsValidUTF8
    · exact .inl ⟨String.ofByteArray bytes hb, rfl⟩
    · exact .inr ⟨_, .notText h hb⟩

theorem Refuses.text_eq {files : FileReader} {path reason : String}
    (h : files.Refuses path reason) :
    ∃ failure, files.text path = .error failure ∧ failure.message = reason := by
  cases h with
  | failure h => exact ⟨_, text_of_error h, rfl⟩
  | notText h hb => exact ⟨_, text_of_not_valid h hb, rfl⟩

end FileReader

/-- A file with this content gives the format string. A line feed at the end always belongs to a
line ending, and so does a carriage return before it. -/
def HoldsFormat (content format : String) : Prop :=
  (content = format ∧ content.toList.getLast? ≠ some '\n') ∨
  (content = format ++ "\n" ∧ format.toList.getLast? ≠ some '\r') ∨
  content = format ++ "\r\n"

theorem exists_holdsFormat (content : String) : ∃ format, HoldsFormat content format := by
  by_cases hn : content.toList.getLast? = some '\n'
  · obtain ⟨cs, hcs⟩ := List.getLast?_eq_some_iff.mp hn
    by_cases hr : cs.getLast? = some '\r'
    · obtain ⟨ds, rfl⟩ := List.getLast?_eq_some_iff.mp hr
      refine ⟨String.ofList ds, .inr (.inr (String.toList_inj.mp ?_))⟩
      simp [hcs]
    · refine ⟨String.ofList cs, .inr (.inl ⟨String.toList_inj.mp ?_, by simpa using hr⟩)⟩
      simp [hcs]
  · exact ⟨content, .inl ⟨rfl, hn⟩⟩

theorem HoldsFormat.dropLineEnding_eq {content format : String} (h : HoldsFormat content format) :
    dropLineEnding content = format := by
  rcases h with ⟨rfl, hn⟩ | ⟨rfl, hr⟩ | rfl
  · rw [List.getLast?_eq_head?_reverse] at hn
    unfold dropLineEnding
    split
    · next h => exact absurd (by rw [h]; rfl) hn
    · next h => exact absurd (by rw [h]; rfl) hn
    · rfl
  · have hrev : (format ++ "\n").toList.reverse = '\n' :: format.toList.reverse := by simp
    rw [List.getLast?_eq_head?_reverse] at hr
    unfold dropLineEnding
    rw [hrev]
    split
    · next h =>
      rw [List.cons.injEq] at h
      exact absurd (by rw [h.2]; rfl) hr
    · next h =>
      rw [List.cons.injEq] at h
      rw [← h.2, List.reverse_reverse, String.ofList_toList]
    · next h => exact absurd rfl (h _)
  · have hrev : (format ++ "\r\n").toList.reverse = '\n' :: '\r' :: format.toList.reverse := by simp
    unfold dropLineEnding
    rw [hrev]
    exact (congrArg String.ofList (List.reverse_reverse _)).trans String.ofList_toList

theorem holdsFormat_iff {content format : String} :
    HoldsFormat content format ↔ format = dropLineEnding content := by
  refine ⟨fun h => h.dropLineEnding_eq.symm, ?_⟩
  rintro rfl
  obtain ⟨format, h⟩ := exists_holdsFormat content
  rwa [h.dropLineEnding_eq]

theorem readTemplateFile_of_ok {files : FileReader} {path content : String}
    (h : files path = .ok content.toUTF8) :
    readTemplateFile files path = .ok (dropLineEnding content) := by
  rw [readTemplateFile, FileReader.text_of_ok h]

theorem readTemplateFile_of_refuses {files : FileReader} {path reason : String}
    (h : files.Refuses path reason) : ∃ e, readTemplateFile files path = .error e ∧
      e.message = "failed to read template file " ++ path ++ ": " ++ reason := by
  obtain ⟨failure, ht, rfl⟩ := h.text_eq
  exact ⟨⟨path, failure⟩, by rw [readTemplateFile, ht], rfl⟩

theorem readTemplateFile_eq_ok_iff {files : FileReader} {path format : String} :
    readTemplateFile files path = .ok format ↔
      ∃ content : String, files path = .ok content.toUTF8 ∧ HoldsFormat content format := by
  constructor
  · intro h
    rcases files.exists_content_or_refuses path with ⟨content, hc⟩ | ⟨reason, hr⟩
    · rw [readTemplateFile_of_ok hc, Except.ok.injEq] at h
      exact ⟨content, hc, holdsFormat_iff.mpr h.symm⟩
    · obtain ⟨e, he, -⟩ := readTemplateFile_of_refuses hr
      rw [he] at h
      cases h
  · rintro ⟨content, hc, hf⟩
    rw [readTemplateFile_of_ok hc, hf.dropLineEnding_eq]

/-- The ways to supply a format string by an argument, the path of a template file or neither. -/
inductive Supplied (s : Surroundings) (format : String) :
    (argument path : Option String) → Origin → Prop where
  | argument (path : Option String) : Supplied s format (some format) path .argument
  | file {path content : String} :
    s.files path = .ok content.toUTF8 → HoldsFormat content format →
      Supplied s format none (some path) .file
  | env : s.format = some format → format ≠ "" → Supplied s format none none .env
  | default :
    s.format = none ∨ s.format = some "" → format = "hh:mm:ss" →
      Supplied s format none none .default

theorem format?_eq_some_iff {s : Surroundings} {format : String} :
    s.format? = some format ↔ s.format = some format ∧ format ≠ "" := by
  rw [Surroundings.format?, Option.filter_eq_some_iff, decide_eq_true_iff]

theorem format?_eq_none_iff {s : Surroundings} :
    s.format? = none ↔ s.format = none ∨ s.format = some "" := by
  rw [Surroundings.format?]
  cases s.format with
  | none => simp
  | some format => by_cases h : format = "" <;> simp [h, Option.filter]

theorem Supplied.chooseFormat_eq {s : Surroundings} {format : String}
    {argument path : Option String} {origin : Origin}
    (h : Supplied s format argument path origin) :
    chooseFormat s.files argument path s.format? = .ok ⟨format, origin⟩ := by
  cases h with
  | argument path => rfl
  | file hc hf =>
    rw [chooseFormat, readTemplateFile_eq_ok_iff.mpr ⟨_, hc, hf⟩]
    rfl
  | env he hne =>
    rw [format?_eq_some_iff.mpr ⟨he, hne⟩]
    rfl
  | default he hf =>
    rw [format?_eq_none_iff.mpr he, hf]
    rfl

theorem supplied_of_chooseFormat {s : Surroundings} {argument path : Option String}
    {choice : FormatChoice} (h : chooseFormat s.files argument path s.format? = .ok choice) :
    Supplied s choice.format argument path choice.origin := by
  cases argument with
  | some format =>
    cases h
    exact .argument path
  | none =>
    cases path with
    | some path =>
      rw [chooseFormat] at h
      cases hr : readTemplateFile s.files path with
      | error e =>
        rw [hr] at h
        cases h
      | ok format =>
        rw [hr] at h
        cases h
        obtain ⟨content, hc, hf⟩ := readTemplateFile_eq_ok_iff.mp hr
        exact .file hc hf
    | none =>
      cases he : s.format? with
      | some format =>
        rw [he] at h
        cases h
        exact .env (format?_eq_some_iff.mp he).1 (format?_eq_some_iff.mp he).2
      | none =>
        rw [he] at h
        cases h
        exact .default (format?_eq_none_iff.mp he) rfl

/-- A format string is chosen unless it has to come from a template file that gives no text. -/
theorem chooseFormat_cases (files : FileReader) (argument path env : Option String) :
    (∃ choice, chooseFormat files argument path env = .ok choice) ∨
      ∃ file reason, argument = none ∧ path = some file ∧ files.Refuses file reason := by
  cases argument with
  | some format => exact .inl ⟨_, rfl⟩
  | none =>
    cases path with
    | none => cases env <;> exact .inl ⟨_, rfl⟩
    | some file =>
      rcases files.exists_content_or_refuses file with ⟨content, hc⟩ | ⟨reason, hr⟩
      · left
        rw [chooseFormat, readTemplateFile_of_ok hc]
        exact ⟨_, rfl⟩
      · exact .inr ⟨file, reason, rfl, rfl, hr⟩

namespace Command

theorem run_format_of_chooseFormat {s : Surroundings} {argument path : Option String}
    {choice : FormatChoice} (h : chooseFormat s.files argument path s.format? = .ok choice)
    (millis : Int64) (mode : OutputMode) :
    ∃ log, (Command.format millis argument path).run mode s =
      .done (formatOutput millis choice mode) log := by
  rw [run, answer, h]
  exact ⟨_, rfl⟩

theorem stdout_format_of_chooseFormat {s : Surroundings} {argument path : Option String}
    {choice : FormatChoice} (h : chooseFormat s.files argument path s.format? = .ok choice)
    (millis : Int64) (mode : OutputMode) :
    ((Command.format millis argument path).run mode s).stdout =
      formatOutput millis choice mode := by
  obtain ⟨log, hrun⟩ := run_format_of_chooseFormat h millis mode
  rw [hrun]
  rfl

/-- A file with text in it gives the one format string that it holds. The format string is the one
supplied, wherever it is supplied, and what is written for it in text is the same for every origin.
In JSON only the name of the origin differs. -/
theorem run_format_of_supplied :
    (∀ (files : FileReader) (path content : String) (env : Option String),
      files path = .ok content.toUTF8 →
        ∃ format, chooseFormat files none (some path) env = .ok ⟨format, .file⟩ ∧
          ∀ other, HoldsFormat content other ↔ other = format) ∧
    ∀ (s : Surroundings) (format : String) (argument path : Option String) (origin : Origin),
      (Supplied s format argument path origin ↔
        chooseFormat s.files argument path s.format? = .ok ⟨format, origin⟩) ∧
      (Supplied s format argument path origin → ∀ millis : Int64,
        ((Command.format millis argument path).run .text s).stdout =
          DurationFormat.format millis format ++ "\n" ∧
        ((Command.format millis argument path).run .json s).stdout =
          printed (.obj [("duration_ms", .int millis.toInt), ("format", .str format),
            ("source", .str origin.name),
            ("output", .str (DurationFormat.format millis format))])) := by
  constructor
  · intro files path content env h
    refine ⟨dropLineEnding content, ?_, fun other => holdsFormat_iff⟩
    rw [chooseFormat, readTemplateFile_of_ok h]
    rfl
  · intro s format argument path origin
    refine ⟨⟨Supplied.chooseFormat_eq, supplied_of_chooseFormat⟩, ?_⟩
    intro h millis
    have hchosen := h.chooseFormat_eq
    exact ⟨stdout_format_of_chooseFormat hchosen millis .text,
      stdout_format_of_chooseFormat hchosen millis .json⟩

/-- The variable and every file hold the same format string. No event is a warning. -/
def sameEverywhere (format : String) : Surroundings :=
  ⟨some format, none, fun _ => some fun _ => false, fun _ => .ok (format ++ "\r\n").toUTF8⟩

/-- As an argument, from the variable and from a file, whose line ending is dropped. -/
theorem run_format_of_supplied_minutes :
    Supplied (sameEverywhere "m[m]") "m[m]" (some "m[m]") none .argument ∧
    Supplied (sameEverywhere "m[m]") "m[m]" none none .env ∧
    Supplied (sameEverywhere "m[m]") "m[m]" none (some "f") .file ∧
    ((Command.format 125000 (some "m[m]") none).run .text (sameEverywhere "m[m]")).stdout =
      "2m\n" ∧
    ((Command.format 125000 none none).run .text (sameEverywhere "m[m]")).stdout = "2m\n" ∧
    ((Command.format 125000 none (some "f")).run .text (sameEverywhere "m[m]")).stdout =
      "2m\n" := by
  have hshown : DurationFormat.format 125000 "m[m]" ++ "\n" = "2m\n" := by decide +kernel
  have hargument : Supplied (sameEverywhere "m[m]") "m[m]" (some "m[m]") none .argument :=
    .argument none
  have henv : Supplied (sameEverywhere "m[m]") "m[m]" none none .env := .env rfl (by decide)
  have hfile : Supplied (sameEverywhere "m[m]") "m[m]" none (some "f") .file :=
    .file rfl (.inr (.inr rfl))
  rw [← hshown]
  exact ⟨hargument, henv, hfile, ((run_format_of_supplied.2 _ _ _ _ _).2 hargument 125000).1,
    ((run_format_of_supplied.2 _ _ _ _ _).2 henv 125000).1,
    ((run_format_of_supplied.2 _ _ _ _ _).2 hfile 125000).1⟩

end Command

end DurationFormat
