import DurationFormat.Json
import DurationFormat.Proofs.Quoting

/-!
# The lexemes of JSON text

JSON text is cut into brackets, commas, colons, names, numbers and strings by a machine that takes
one character after another. Written values fall into the same lexemes in every layout: blanks
stand only between lexemes, and a string gives back the text it was written from. A number is over
when something else than a digit comes, so what follows a value must not begin with one.

Fractions, exponents and truth values are not written and not read, nor are code points in
escapes beyond four digits.
-/

namespace DurationFormat.Json

inductive Lexeme where
  | openArr
  | closeArr
  | openObj
  | closeObj
  | comma
  | colon
  | null
  | int (n : Int)
  | str (text : String)
  deriving DecidableEq

mutual

def lexemes : Json → List Lexeme
  | .null => [.null]
  | .int n => [.int n]
  | .str text => [.str text]
  | .arr [] => [.openArr, .closeArr]
  | .arr (x :: xs) => .openArr :: lexemes x ++ itemLexemes xs ++ [.closeArr]
  | .obj [] => [.openObj, .closeObj]
  | .obj ((key, x) :: fields) =>
    .openObj :: .str key :: .colon :: lexemes x ++ fieldLexemes fields ++ [.closeObj]

/-- The lexemes of items after the first. -/
def itemLexemes : List Json → List Lexeme
  | [] => []
  | x :: xs => .comma :: lexemes x ++ itemLexemes xs

/-- The lexemes of fields after the first. -/
def fieldLexemes : List (String × Json) → List Lexeme
  | [] => []
  | (key, x) :: fields => .comma :: .str key :: .colon :: lexemes x ++ fieldLexemes fields

end

/-- What a lexer is in the middle of. -/
inductive LexState where
  | between
  /-- A minus sign has been read and no digit yet. -/
  | sign
  | digits (negative : Bool) (value : Nat)
  /-- Letters of a name are still to come. -/
  | name (letters : List Char)
  | string (text : List Char)
  | escape (text : List Char)
  /-- So many digits of a code point are still to come. -/
  | code (text : List Char) (missing value : Nat)
  | stuck
  deriving DecidableEq

structure Lexer where
  done : List Lexeme
  state : LexState
  deriving DecidableEq

namespace Lexer

def isBlank (c : Char) : Bool := c == ' ' || c == '\n' || c == '\t' || c == '\r'

def signed (negative : Bool) (n : Nat) : Int := if negative then -(n : Int) else n

def namedEscape? : Char → Option Char
  | '"' => some '"'
  | '\\' => some '\\'
  | '/' => some '/'
  | 'b' => some '\x08'
  | 't' => some '\t'
  | 'n' => some '\n'
  | 'f' => some '\x0c'
  | 'r' => some '\r'
  | _ => none

def mark? : Char → Option Lexeme
  | '[' => some .openArr
  | ']' => some .closeArr
  | '\x7b' => some .openObj
  | '\x7d' => some .closeObj
  | ',' => some .comma
  | ':' => some .colon
  | _ => none

/-- Takes a character where a lexeme may begin. -/
def start (done : List Lexeme) (c : Char) : Lexer :=
  match mark? c with
  | some x => ⟨done ++ [x], .between⟩
  | none =>
    if isBlank c then ⟨done, .between⟩
    else if c.isDigit then ⟨done, .digits false (Numeral.digitValue c)⟩
    else if c = '"' then ⟨done, .string []⟩
    else if c = '-' then ⟨done, .sign⟩
    else if c = 'n' then ⟨done, .name ['u', 'l', 'l']⟩
    else ⟨done, .stuck⟩

def take (s : Lexer) (c : Char) : Lexer :=
  match s.state with
  | .between => start s.done c
  | .sign =>
    if c.isDigit then ⟨s.done, .digits true (Numeral.digitValue c)⟩ else ⟨s.done, .stuck⟩
  | .digits negative n =>
    if c.isDigit then ⟨s.done, .digits negative (10 * n + Numeral.digitValue c)⟩
    else start (s.done ++ [.int (signed negative n)]) c
  | .name [] => ⟨s.done, .stuck⟩
  | .name (letter :: letters) =>
    if c ≠ letter then ⟨s.done, .stuck⟩
    else if letters = [] then ⟨s.done ++ [.null], .between⟩
    else ⟨s.done, .name letters⟩
  | .string text =>
    if c = '"' then ⟨s.done ++ [.str (String.ofList text)], .between⟩
    else if c = '\\' then ⟨s.done, .escape text⟩
    else if c.toNat < 0x20 then ⟨s.done, .stuck⟩
    else ⟨s.done, .string (text ++ [c])⟩
  | .escape text =>
    if c = 'u' then ⟨s.done, .code text 3 0⟩
    else
      match namedEscape? c with
      | some d => ⟨s.done, .string (text ++ [d])⟩
      | none => ⟨s.done, .stuck⟩
  | .code text missing n =>
    match Text.hexValue? c, missing with
    | none, _ => ⟨s.done, .stuck⟩
    | some d, missing + 1 => ⟨s.done, .code text missing (16 * n + d)⟩
    | some d, 0 =>
      if (16 * n + d).isValidChar then ⟨s.done, .string (text ++ [Char.ofNat (16 * n + d)])⟩
      else ⟨s.done, .stuck⟩
  | .stuck => s

def finish (s : Lexer) : Option (List Lexeme) :=
  match s.state with
  | .between => some s.done
  | .digits negative n => some (s.done ++ [.int (signed negative n)])
  | _ => none

/-- The lexemes done and those of the text after them, unless it is no JSON text. -/
def run (s : Lexer) (cs : List Char) : Option (List Lexeme) := (cs.foldl take s).finish

theorem run_append (s : Lexer) (cs rest : List Char) :
    s.run (cs ++ rest) = (cs.foldl take s).run rest := by
  rw [run, run, List.foldl_append]

theorem isDigit_of_mark {c : Char} {x : Lexeme} (h : mark? c = some x) : c.isDigit = false := by
  unfold mark? at h
  split at h <;> first | rfl | cases h

theorem isDigit_of_isBlank {c : Char} (h : isBlank c = true) : c.isDigit = false := by
  simp only [isBlank, Bool.or_eq_true, beq_iff_eq] at h
  rcases h with ((rfl | rfl) | rfl) | rfl <;> rfl

theorem mark?_of_isBlank {c : Char} (h : isBlank c = true) : mark? c = none := by
  simp only [isBlank, Bool.or_eq_true, beq_iff_eq] at h
  rcases h with ((rfl | rfl) | rfl) | rfl <;> rfl

/-- What may stand behind a number. -/
def EndsNumber (rest : List Char) : Prop := ∀ c ∈ rest.head?, c.isDigit = false

theorem endsNumber_mark {c : Char} {x : Lexeme} (h : mark? c = some x) (rest : List Char) :
    EndsNumber (c :: rest) := by
  intro d hd
  cases hd
  exact isDigit_of_mark h

theorem endsNumber_blanks {cs rest : List Char} (h : ∀ c ∈ cs, isBlank c = true)
    (hr : EndsNumber rest) : EndsNumber (cs ++ rest) := by
  cases cs with
  | nil => exact hr
  | cons c cs =>
    intro d hd
    cases hd
    exact isDigit_of_isBlank (h c List.mem_cons_self)

section Marks
variable (done : List Lexeme)

theorem run_mark {c : Char} {x : Lexeme} (h : mark? c = some x) (rest : List Char) :
    run ⟨done, .between⟩ (c :: rest) = run ⟨done ++ [x], .between⟩ rest := by
  have hc : take ⟨done, .between⟩ c = ⟨done ++ [x], .between⟩ := by
    simp only [take, start, h]
  rw [run, List.foldl_cons, hc, run]

theorem run_blanks {cs : List Char} (h : ∀ c ∈ cs, isBlank c = true) (rest : List Char) :
    run ⟨done, .between⟩ (cs ++ rest) = run ⟨done, .between⟩ rest := by
  induction cs with
  | nil => rfl
  | cons c cs ih =>
    obtain ⟨hc, hcs⟩ := List.forall_mem_cons.mp h
    have hblank : take ⟨done, .between⟩ c = ⟨done, .between⟩ := by
      simp only [take, start, mark?_of_isBlank hc, if_pos hc]
    rw [List.cons_append, run, List.foldl_cons, hblank]
    exact ih hcs

end Marks

section Numbers
variable (done : List Lexeme)

theorem take_digit {c : Char} (hc : c.isDigit = true) (negative : Bool) (n : Nat) :
    take ⟨done, .digits negative n⟩ c = ⟨done, .digits negative (10 * n + Numeral.digitValue c)⟩ :=
  if_pos hc

theorem foldl_take_digits {cs : List Char} (h : ∀ c ∈ cs, c.isDigit = true) (negative : Bool)
    (n : Nat) :
    cs.foldl take ⟨done, .digits negative n⟩ =
      ⟨done, .digits negative (Nat.ofDigitChars 10 cs n)⟩ := by
  induction cs generalizing n with
  | nil => rfl
  | cons c cs ih =>
    obtain ⟨hc, hcs⟩ := List.forall_mem_cons.mp h
    rw [List.foldl_cons, take_digit done hc, ih hcs, Nat.ofDigitChars_cons]
    rfl

/-- A number is done when the text ends or something else than a digit follows. -/
theorem run_digits (negative : Bool) (n : Nat) {rest : List Char}
    (h : EndsNumber rest) :
    run ⟨done, .digits negative n⟩ rest =
      run ⟨done ++ [.int (signed negative n)], .between⟩ rest := by
  cases rest with
  | nil => rfl
  | cons c rest =>
    have hc : c.isDigit = false := h c rfl
    have htake : take ⟨done, .digits negative n⟩ c =
        take ⟨done ++ [.int (signed negative n)], .between⟩ c := by
      simp only [take, hc, Bool.false_eq_true, if_false]
    rw [run, run, List.foldl_cons, List.foldl_cons, htake]

theorem take_first_digit {c : Char} (hc : c.isDigit = true) :
    take ⟨done, .between⟩ c = ⟨done, .digits false (Numeral.digitValue c)⟩ ∧
      take ⟨done, .sign⟩ c = ⟨done, .digits true (Numeral.digitValue c)⟩ := by
  have hm : mark? c = none := by
    refine Option.eq_none_iff_forall_ne_some.mpr fun x hx => ?_
    rw [isDigit_of_mark hx] at hc
    cases hc
  have hb : ¬ isBlank c = true := by
    intro hb
    rw [isDigit_of_isBlank hb] at hc
    cases hc
  constructor
  · simp only [take, start, hm, if_neg hb, if_pos hc]
  · simp only [take, if_pos hc]

/-- Behind a sign or not, the digits of a numeral are read as its value. -/
theorem foldl_take_toDigits (n : Nat) :
    (Nat.toDigits 10 n).foldl take ⟨done, .between⟩ = ⟨done, .digits false n⟩ ∧
      (Nat.toDigits 10 n).foldl take ⟨done, .sign⟩ = ⟨done, .digits true n⟩ := by
  have hd : ∀ c ∈ Nat.toDigits 10 n, c.isDigit = true :=
    fun c hc => Nat.isDigit_of_mem_toDigits (by omega) (by omega) hc
  have hn : Nat.ofDigitChars 10 (Nat.toDigits 10 n) 0 = n := Nat.ofDigitChars_ten_toDigits
  cases hcs : Nat.toDigits 10 n with
  | nil => exact absurd hcs Nat.toDigits_ne_nil
  | cons c cs =>
    rw [hcs] at hd hn
    obtain ⟨hc, hcs⟩ := List.forall_mem_cons.mp hd
    have hn : Nat.ofDigitChars 10 cs (Numeral.digitValue c) = n := by
      rw [← hn, Nat.ofDigitChars_cons, Nat.mul_zero, Nat.zero_add, Numeral.digitValue]
    obtain ⟨hstart, hsign⟩ := take_first_digit done hc
    constructor
    · rw [List.foldl_cons, hstart, foldl_take_digits done hcs, hn]
    · rw [List.foldl_cons, hsign, foldl_take_digits done hcs, hn]

theorem run_signed (n : Int) {rest : List Char} (h : EndsNumber rest) :
    run ⟨done, .between⟩ ((Numeral.signed n).toList ++ rest) =
      run ⟨done ++ [.int n], .between⟩ rest := by
  cases n with
  | ofNat n =>
    rw [run_append, Numeral.signed, Numeral.toList_plain, (foldl_take_toDigits done n).1,
      run_digits done false n h]
    rfl
  | negSucc n =>
    have hminus : (Numeral.signed (.negSucc n)).toList = '-' :: Nat.toDigits 10 (n + 1) := by
      rw [Numeral.signed, String.toList_append, Numeral.toList_plain]
      rfl
    have hsign : take ⟨done, .between⟩ '-' = ⟨done, .sign⟩ := rfl
    rw [run_append, hminus, List.foldl_cons, hsign, (foldl_take_toDigits done (n + 1)).2,
      run_digits done true (n + 1) h]
    rfl

end Numbers

/-- A character is written in one of three ways. -/
theorem escapedChar_cases (c : Char) :
    (∃ e, escapedChar c = ['\\', e] ∧ namedEscape? e = some c) ∨
    (escapedChar c = ['\\', 'u', '0', '0'] ++ hexPair c.toNat ∧ c.toNat < 0x20) ∨
    (escapedChar c = [c] ∧ c ≠ '"' ∧ c ≠ '\\' ∧ ¬ c.toNat < 0x20) := by
  rcases eq_or_ne c '"' with rfl | hq
  · exact .inl ⟨'"', rfl, rfl⟩
  rcases eq_or_ne c '\\' with rfl | he
  · exact .inl ⟨'\\', rfl, rfl⟩
  rcases eq_or_ne c '\x08' with rfl | hb
  · exact .inl ⟨'b', rfl, rfl⟩
  rcases eq_or_ne c '\t' with rfl | ht
  · exact .inl ⟨'t', rfl, rfl⟩
  rcases eq_or_ne c '\n' with rfl | hn
  · exact .inl ⟨'n', rfl, rfl⟩
  rcases eq_or_ne c '\x0c' with rfl | hf
  · exact .inl ⟨'f', rfl, rfl⟩
  rcases eq_or_ne c '\r' with rfl | hr
  · exact .inl ⟨'r', rfl, rfl⟩
  rw [escapedChar, if_neg hq, if_neg he, if_neg hb, if_neg ht, if_neg hn, if_neg hf, if_neg hr]
  by_cases hc : c.toNat < 0x20
  · exact .inr (.inl ⟨if_pos hc, hc⟩)
  · exact .inr (.inr ⟨if_neg hc, hq, he, hc⟩)

section Strings
variable (done : List Lexeme)

theorem take_named {e d : Char} (h : namedEscape? e = some d) (text : List Char) :
    ['\\', e].foldl take ⟨done, .string text⟩ = ⟨done, .string (text ++ [d])⟩ := by
  have hu : e ≠ 'u' := by
    rintro rfl
    cases h
  have he : take ⟨done, .escape text⟩ e = ⟨done, .string (text ++ [d])⟩ := by
    simp only [take, if_neg hu, h]
  exact he

theorem take_raw {c : Char} (hq : c ≠ '"') (he : c ≠ '\\') (hc : ¬ c.toNat < 0x20)
    (text : List Char) : take ⟨done, .string text⟩ c = ⟨done, .string (text ++ [c])⟩ := by
  simp only [take, if_neg hq, if_neg he, if_neg hc]

theorem take_control {n : Nat} (hn : n < 0x20) (text : List Char) :
    (['\\', 'u', '0', '0'] ++ hexPair n).foldl take ⟨done, .string text⟩ =
      ⟨done, .string (text ++ [Char.ofNat n])⟩ := by
  interval_cases n <;> rfl

theorem take_escapedChar (c : Char) (text : List Char) :
    (escapedChar c).foldl take ⟨done, .string text⟩ = ⟨done, .string (text ++ [c])⟩ := by
  rcases escapedChar_cases c with ⟨e, hc, he⟩ | ⟨hc, hlt⟩ | ⟨hc, hq, he, hge⟩
  · rw [hc]
    exact take_named done he text
  · rw [hc, take_control done hlt, Char.ofNat_toNat]
  · rw [hc]
    exact take_raw done hq he hge text

theorem take_escaped (cs text : List Char) :
    (cs.flatMap escapedChar).foldl take ⟨done, .string text⟩ = ⟨done, .string (text ++ cs)⟩ := by
  induction cs generalizing text with
  | nil => rw [List.flatMap_nil, List.append_nil, List.foldl_nil]
  | cons c cs ih =>
    rw [List.flatMap_cons, List.foldl_append, take_escapedChar, ih, List.append_assoc,
      List.singleton_append]

theorem run_writeString (text : String) (rest : List Char) :
    run ⟨done, .between⟩ (writeString text ++ rest) =
      run ⟨done ++ [.str text], .between⟩ rest := by
  have hopen : take ⟨done, .between⟩ '"' = ⟨done, .string []⟩ := rfl
  have hclose : take ⟨done, .string text.toList⟩ '"' =
      ⟨done ++ [.str (String.ofList text.toList)], .between⟩ := rfl
  rw [run_append, writeString, List.cons_append, List.foldl_cons, hopen, List.foldl_append,
    take_escaped, List.nil_append, List.foldl_cons, List.foldl_nil, hclose, String.ofList_toList]

end Strings

end Lexer

/-- Nothing but blanks goes between the lexemes. -/
structure Layout.IsBlank (l : Layout) : Prop where
  lineBreak (depth : Nat) : ∀ c ∈ l.lineBreak depth, Lexer.isBlank c = true
  colon : ∃ blanks, l.colon = ':' :: blanks ∧ ∀ c ∈ blanks, Lexer.isBlank c = true

theorem Layout.isBlank_compact : Layout.compact.IsBlank where
  lineBreak _ := by simp [compact]
  colon := ⟨[], rfl, by simp⟩

theorem Layout.isBlank_pretty : Layout.pretty.IsBlank where
  lineBreak depth := by
    refine List.forall_mem_cons.mpr ⟨rfl, fun c hc => ?_⟩
    rw [List.eq_of_mem_replicate hc]
    rfl
  colon := ⟨[' '], rfl, by simp [Lexer.isBlank]⟩

section Write
variable {l : Layout} (hl : l.IsBlank)
include hl

theorem run_label (done : List Lexeme) (depth : Nat) (key : String) (rest : List Char) :
    Lexer.run ⟨done, .between⟩ (l.lineBreak depth ++ (writeString key ++ (l.colon ++ rest))) =
      Lexer.run ⟨done ++ [.str key, .colon], .between⟩ rest := by
  obtain ⟨blanks, hcolon, hblanks⟩ := hl.colon
  rw [Lexer.run_blanks done (hl.lineBreak depth), Lexer.run_writeString, hcolon,
    List.cons_append, Lexer.run_mark _ rfl, Lexer.run_blanks _ hblanks, List.append_assoc]
  rfl

/-- Behind the parts of a value comes its closing bracket on a line of its own. -/
theorem run_close (done : List Lexeme) (depth : Nat) {c : Char} {x : Lexeme}
    (h : Lexer.mark? c = some x) (rest : List Char) :
    Lexer.run ⟨done, .between⟩ (l.lineBreak depth ++ c :: rest) =
      Lexer.run ⟨done ++ [x], .between⟩ rest := by
  rw [Lexer.run_blanks done (hl.lineBreak depth), Lexer.run_mark done h]

omit hl in
theorem endsNumber_items (depth : Nat) (xs : List Json) {rest : List Char}
    (hr : Lexer.EndsNumber rest) : Lexer.EndsNumber (writeItems l depth xs ++ rest) := by
  cases xs with
  | nil => exact hr
  | cons x xs => exact Lexer.endsNumber_mark rfl _

omit hl in
theorem endsNumber_fields (depth : Nat) (fields : List (String × Json)) {rest : List Char}
    (hr : Lexer.EndsNumber rest) : Lexer.EndsNumber (writeFields l depth fields ++ rest) := by
  cases fields with
  | nil => exact hr
  | cons field fields => exact Lexer.endsNumber_mark rfl _

theorem endsNumber_close (depth : Nat) {c : Char} {x : Lexeme} (h : Lexer.mark? c = some x)
    (rest : List Char) : Lexer.EndsNumber (l.lineBreak depth ++ c :: rest) :=
  Lexer.endsNumber_blanks (hl.lineBreak depth) (Lexer.endsNumber_mark h rest)

mutual

theorem run_write (x : Json) (done : List Lexeme) (depth : Nat) {rest : List Char}
    (hr : Lexer.EndsNumber rest) :
    Lexer.run ⟨done, .between⟩ (x.write l depth ++ rest) =
      Lexer.run ⟨done ++ x.lexemes, .between⟩ rest := by
  cases x with
  | null => rfl
  | int n => exact Lexer.run_signed done n hr
  | str text => exact Lexer.run_writeString done text rest
  | arr xs =>
    cases xs with
    | nil =>
      simp only [write, lexemes, List.cons_append, List.nil_append]
      rw [Lexer.run_mark done rfl, Lexer.run_mark _ rfl, List.append_assoc]
      rfl
    | cons x xs =>
      have hclose := endsNumber_close hl depth (c := ']') rfl rest
      simp only [write, List.cons_append, List.append_assoc, List.nil_append]
      rw [Lexer.run_mark done rfl, Lexer.run_blanks _ (hl.lineBreak _),
        run_write x _ _ (endsNumber_items _ xs hclose), run_writeItems xs _ _ hclose,
        run_close hl _ _ rfl]
      simp only [lexemes, List.cons_append, List.append_assoc, List.nil_append]
  | obj fields =>
    cases fields with
    | nil =>
      simp only [write, lexemes, List.cons_append, List.nil_append]
      rw [Lexer.run_mark done rfl, Lexer.run_mark _ rfl, List.append_assoc]
      rfl
    | cons field fields =>
      obtain ⟨key, x⟩ := field
      have hclose := endsNumber_close hl depth (c := '\x7d') rfl rest
      simp only [write, List.cons_append, List.append_assoc, List.nil_append]
      rw [Lexer.run_mark done rfl, run_label hl,
        run_write x _ _ (endsNumber_fields _ fields hclose), run_writeFields fields _ _ hclose,
        run_close hl _ _ rfl]
      simp only [lexemes, List.cons_append, List.append_assoc, List.nil_append]

theorem run_writeItems (xs : List Json) (done : List Lexeme) (depth : Nat) {rest : List Char}
    (hr : Lexer.EndsNumber rest) :
    Lexer.run ⟨done, .between⟩ (writeItems l depth xs ++ rest) =
      Lexer.run ⟨done ++ itemLexemes xs, .between⟩ rest := by
  cases xs with
  | nil => simp only [writeItems, itemLexemes, List.nil_append, List.append_nil]
  | cons x xs =>
    simp only [writeItems, List.cons_append, List.append_assoc]
    rw [Lexer.run_mark done rfl, Lexer.run_blanks _ (hl.lineBreak _),
      run_write x _ _ (endsNumber_items _ xs hr), run_writeItems xs _ _ hr]
    simp only [itemLexemes, List.cons_append, List.append_assoc, List.nil_append]

theorem run_writeFields (fields : List (String × Json)) (done : List Lexeme) (depth : Nat)
    {rest : List Char} (hr : Lexer.EndsNumber rest) :
    Lexer.run ⟨done, .between⟩ (writeFields l depth fields ++ rest) =
      Lexer.run ⟨done ++ fieldLexemes fields, .between⟩ rest := by
  cases fields with
  | nil => simp only [writeFields, fieldLexemes, List.nil_append, List.append_nil]
  | cons field fields =>
    obtain ⟨key, x⟩ := field
    simp only [writeFields, List.cons_append, List.append_assoc]
    rw [Lexer.run_mark done rfl, run_label hl,
      run_write x _ _ (endsNumber_fields _ fields hr), run_writeFields fields _ _ hr]
    simp only [fieldLexemes, List.cons_append, List.append_assoc, List.nil_append]

end

end Write

end DurationFormat.Json
