import DurationFormat.Proofs.JsonLexemes

/-!
# Reading JSON back

A value is read from its lexemes with the lists and objects around it on a stack. What was written
in any layout is read as the value it was written from, and blanks may follow it. So JSON text
stands for one value only.
-/

namespace DurationFormat.Json

/-- A list or an object that has been read up to a value inside it. -/
inductive Frame where
  | arr (items : List Json)
  | obj (fields : List (String × Json)) (key : String)

mutual

/-- Reads a value inside the frames, and all that follows it. -/
def readValue : List Frame → List Lexeme → Option Json
  | frames, .null :: ls => readAfter frames .null ls
  | frames, .int n :: ls => readAfter frames (.int n) ls
  | frames, .str text :: ls => readAfter frames (.str text) ls
  | frames, .openArr :: .closeArr :: ls => readAfter frames (.arr []) ls
  | frames, .openArr :: ls => readValue (.arr [] :: frames) ls
  | frames, .openObj :: .closeObj :: ls => readAfter frames (.obj []) ls
  | frames, .openObj :: .str key :: .colon :: ls => readValue (.obj [] key :: frames) ls
  | _, _ => none

/-- Reads what follows a value inside the frames. -/
def readAfter : List Frame → Json → List Lexeme → Option Json
  | [], x, [] => some x
  | .arr xs :: frames, x, .comma :: ls => readValue (.arr (xs ++ [x]) :: frames) ls
  | .arr xs :: frames, x, .closeArr :: ls => readAfter frames (.arr (xs ++ [x])) ls
  | .obj fields key :: frames, x, .comma :: .str next :: .colon :: ls =>
    readValue (.obj (fields ++ [(key, x)]) next :: frames) ls
  | .obj fields key :: frames, x, .closeObj :: ls =>
    readAfter frames (.obj (fields ++ [(key, x)])) ls
  | _, _, _ => none

end

/-- The value that a text is written from, if it is JSON text. -/
def read (text : String) : Option Json :=
  (Lexer.run ⟨[], .between⟩ text.toList).bind (readValue [])

/-- No value begins with a closing bracket. -/
theorem readValue_openArr (frames : List Frame) (x : Json) (ls : List Lexeme) :
    readValue frames (.openArr :: (x.lexemes ++ ls)) =
      readValue (.arr [] :: frames) (x.lexemes ++ ls) := by
  cases x with
  | null => rfl
  | int n => rfl
  | str text => rfl
  | arr xs => cases xs <;> rfl
  | obj fields => cases fields <;> rfl

mutual

theorem readValue_lexemes (x : Json) (frames : List Frame) (ls : List Lexeme) :
    readValue frames (x.lexemes ++ ls) = readAfter frames x ls := by
  cases x with
  | null => rfl
  | int n => rfl
  | str text => rfl
  | arr xs =>
    cases xs with
    | nil => rfl
    | cons x xs =>
      simp only [lexemes, List.cons_append, List.append_assoc, List.nil_append]
      rw [readValue_openArr, readValue_lexemes x, readAfter_itemLexemes xs, List.nil_append]
  | obj fields =>
    cases fields with
    | nil => rfl
    | cons field fields =>
      obtain ⟨key, x⟩ := field
      simp only [lexemes, List.cons_append, List.append_assoc, List.nil_append]
      rw [readValue, readValue_lexemes x, readAfter_fieldLexemes fields, List.nil_append]

theorem readAfter_itemLexemes (ys : List Json) (xs : List Json) (x : Json) (frames : List Frame)
    (ls : List Lexeme) :
    readAfter (.arr xs :: frames) x (itemLexemes ys ++ .closeArr :: ls) =
      readAfter frames (.arr (xs ++ x :: ys)) ls := by
  cases ys with
  | nil => rfl
  | cons y ys =>
    simp only [itemLexemes, List.cons_append, List.append_assoc]
    rw [readAfter, readValue_lexemes y, readAfter_itemLexemes ys, List.append_assoc,
      List.singleton_append]

theorem readAfter_fieldLexemes (gs fs : List (String × Json)) (key : String) (x : Json)
    (frames : List Frame) (ls : List Lexeme) :
    readAfter (.obj fs key :: frames) x (fieldLexemes gs ++ .closeObj :: ls) =
      readAfter frames (.obj (fs ++ (key, x) :: gs)) ls := by
  cases gs with
  | nil => rfl
  | cons g gs =>
    obtain ⟨next, y⟩ := g
    simp only [fieldLexemes, List.cons_append, List.append_assoc]
    rw [readAfter, readValue_lexemes y, readAfter_fieldLexemes gs, List.append_assoc,
      List.singleton_append]

end

theorem read_write {l : Layout} (hl : l.IsBlank) (x : Json) (blanks : List Char)
    (hb : ∀ c ∈ blanks, Lexer.isBlank c = true) :
    read (String.ofList (x.write l 0 ++ blanks)) = some x := by
  have hend : Lexer.EndsNumber blanks := by
    rw [← List.append_nil blanks]
    exact Lexer.endsNumber_blanks hb fun c hc => by cases hc
  have hrun : Lexer.run ⟨[], .between⟩ (x.write l 0 ++ blanks) = some x.lexemes := by
    rw [run_write hl x [] 0 hend, ← List.append_nil blanks, Lexer.run_blanks _ hb]
    rfl
  have hread := readValue_lexemes x [] []
  rw [List.append_nil] at hread
  rw [read, String.toList_ofList, hrun, Option.bind_some, hread, readAfter]

@[simp] theorem read_compact (x : Json) : read x.compact = some x := by
  have h := read_write Layout.isBlank_compact x [] (by simp)
  rwa [List.append_nil] at h

/-- A line feed may end the text. -/
@[simp] theorem read_pretty_newline (x : Json) : read (x.pretty ++ "\n") = some x := by
  have h := read_write Layout.isBlank_pretty x ['\n'] (by simp [Lexer.isBlank])
  rwa [String.ofList_append] at h

theorem compact_inj {x y : Json} : x.compact = y.compact ↔ x = y := by
  refine ⟨fun h => ?_, fun h => h ▸ rfl⟩
  have hx := read_compact x
  rw [h, read_compact] at hx
  exact (Option.some.inj hx).symm

theorem pretty_newline_inj {x y : Json} : x.pretty ++ "\n" = y.pretty ++ "\n" ↔ x = y := by
  refine ⟨fun h => ?_, fun h => h ▸ rfl⟩
  have hx := read_pretty_newline x
  rw [h, read_pretty_newline] at hx
  exact (Option.some.inj hx).symm

example : read "\x7b\"a\\u0007/\":[-12, null]\x7d" =
    some (.obj [("a\x07/", .arr [.int (-12), .null])]) := by rfl

end DurationFormat.Json
