import DurationFormat.Text.Quoted
import Mathlib.Tactic.IntervalCases

/-!
# Reading quoted text back

Quoted text stays on one line and can be read back without knowing which characters were left
raw: what a `\` begins is an escape, all else stands for itself, and a quote that no `\` precedes
ends the text.
-/

namespace DurationFormat.Text

/-- The character that a `\` and one letter or sign stand for. -/
def namedEscape? : Char → Option Char
  | '0' => some '\x00'
  | 't' => some '\t'
  | 'r' => some '\r'
  | 'n' => some '\n'
  | '"' => some '"'
  | '\\' => some '\\'
  | _ => none

def hexValue? (c : Char) : Option Nat := (List.range 16).find? fun n => n.digitChar = c

/-- Reads text behind the opening quote up to the closing one, which has to be the last character.
Inside an escape by code point, what its digits have given so far is at hand. -/
def unquoteFrom : (code? : Option Nat) → List Char → Option (List Char)
  | _, [] => none
  | some code, c :: rest =>
    if c = '\x7d' then (unquoteFrom none rest).map (Char.ofNat code :: ·)
    else
      match hexValue? c with
      | some d => unquoteFrom (some (16 * code + d)) rest
      | none => none
  | none, c :: rest =>
    if c = '"' then if rest = [] then some [] else none
    else if c = '\\' then
      match rest with
      | [] => none
      | 'u' :: '\x7b' :: rest => unquoteFrom (some 0) rest
      | e :: rest =>
        match namedEscape? e with
        | some d => (unquoteFrom none rest).map (d :: ·)
        | none => none
    else (unquoteFrom none rest).map (c :: ·)

def unquoted? : List Char → Option String
  | '"' :: rest => (unquoteFrom none rest).map String.ofList
  | _ => none

theorem hexValue?_digitChar {d : Nat} (hd : d < 16) : hexValue? d.digitChar = some d := by
  interval_cases d <;> rfl

theorem digitChar_ne {c : Char} (hc : c = '\n' ∨ c = '\x7d') {d : Nat} (hd : d < 16) :
    d.digitChar ≠ c := by
  rcases hc with rfl | rfl <;> interval_cases d <;> decide

theorem unquoteFrom_digitChar (code : Nat) {d : Nat} (hd : d < 16) (rest : List Char) :
    unquoteFrom (some code) (d.digitChar :: rest) = unquoteFrom (some (16 * code + d)) rest := by
  rw [unquoteFrom, if_neg (digitChar_ne (.inr rfl) hd), hexValue?_digitChar hd]

theorem unquoteFrom_toDigits (n : Nat) (rest : List Char) :
    unquoteFrom (some 0) (Nat.toDigits 16 n ++ rest) = unquoteFrom (some n) rest := by
  induction n using Nat.strongRecOn generalizing rest with
  | ind n ih =>
    rw [Nat.toDigits_eq_if (by omega)]
    split
    · rename_i hn
      rw [List.singleton_append, unquoteFrom_digitChar 0 hn, Nat.mul_zero, Nat.zero_add]
    · rw [List.append_assoc, ih (n / 16) (by omega), List.singleton_append,
        unquoteFrom_digitChar _ (Nat.mod_lt n (by omega)), Nat.div_add_mod]

theorem newline_not_mem_toDigits (n : Nat) : '\n' ∉ Nat.toDigits 16 n := by
  induction n using Nat.strongRecOn with
  | ind n ih =>
    rw [Nat.toDigits_eq_if (by omega)]
    split
    · rename_i hn
      simp [(digitChar_ne (.inl rfl) hn).symm]
    · have hlast := digitChar_ne (.inl rfl) (Nat.mod_lt n (by omega : 0 < 16))
      have hfront := ih (n / 16) (by omega)
      simp [hfront, hlast.symm]

theorem unquoteFrom_named {e c : Char} (h : namedEscape? e = some c) (rest : List Char) :
    unquoteFrom none ('\\' :: e :: rest) = (unquoteFrom none rest).map (c :: ·) := by
  unfold namedEscape? at h
  split at h <;> cases h <;> rfl

theorem unquoteFrom_raw {c : Char} (hq : c ≠ '"') (he : c ≠ '\\') (rest : List Char) :
    unquoteFrom none (c :: rest) = (unquoteFrom none rest).map (c :: ·) := by
  rw [unquoteFrom.eq_def]
  simp [hq, he]

/-- A character is quoted in one of three ways. -/
theorem quotedChar_cases (raw : Char → Bool) (c : Char) :
    (∃ e, quotedChar raw c = ['\\', e] ∧ namedEscape? e = some c) ∨
    (quotedChar raw c = [c] ∧ c ≠ '"' ∧ c ≠ '\\' ∧ c ≠ '\n') ∨
    quotedChar raw c = '\\' :: 'u' :: '\x7b' :: Nat.toDigits 16 c.toNat ++ ['\x7d'] := by
  unfold quotedChar
  split_ifs with h0 ht hr hn hq he
  · exact .inl ⟨'0', rfl, by rw [h0]; rfl⟩
  · exact .inl ⟨'t', rfl, by rw [ht]; rfl⟩
  · exact .inl ⟨'r', rfl, by rw [hr]; rfl⟩
  · exact .inl ⟨'n', rfl, by rw [hn]; rfl⟩
  · exact .inl ⟨'"', rfl, by rw [hq]; rfl⟩
  · exact .inl ⟨'\\', rfl, by rw [he]; rfl⟩
  · exact .inr (.inl ⟨rfl, hq, he, hn⟩)
  · exact .inr (.inr rfl)

theorem unquoteFrom_quotedChar (raw : Char → Bool) (c : Char) (rest : List Char) :
    unquoteFrom none (quotedChar raw c ++ rest) = (unquoteFrom none rest).map (c :: ·) := by
  rcases quotedChar_cases raw c with ⟨e, hc, he⟩ | ⟨hc, hq, he, -⟩ | hc
  · rw [hc]
    exact unquoteFrom_named he rest
  · rw [hc]
    exact unquoteFrom_raw hq he rest
  · have hcode : unquoteFrom none (quotedChar raw c ++ rest) =
        unquoteFrom (some 0) (Nat.toDigits 16 c.toNat ++ '\x7d' :: rest) := by
      rw [hc, List.append_assoc]
      rfl
    rw [hcode, unquoteFrom_toDigits, unquoteFrom, if_pos rfl, Char.ofNat_toNat]

theorem newline_not_mem_quotedChar (raw : Char → Bool) (c : Char) : '\n' ∉ quotedChar raw c := by
  rcases quotedChar_cases raw c with ⟨e, hc, he⟩ | ⟨hc, -, -, hn⟩ | hc
  · have hne : e ≠ '\n' := by
      rintro rfl
      cases he
    simp [hc, hne.symm]
  · simpa [hc] using hn.symm
  · simpa [hc] using newline_not_mem_toDigits c.toNat

theorem unquoteFrom_quoted (raw : Char → Bool) (cs : List Char) :
    unquoteFrom none (cs.flatMap (quotedChar raw) ++ ['"']) = some cs := by
  induction cs with
  | nil => rfl
  | cons c cs ih =>
    rw [List.flatMap_cons, List.append_assoc, unquoteFrom_quotedChar, ih]
    rfl

@[simp] theorem unquoted?_quoted (raw : Char → Bool) (text : String) :
    unquoted? (quoted raw text).toList = some text := by
  rw [quoted, String.toList_ofList]
  change (unquoteFrom none (text.toList.flatMap (quotedChar raw) ++ ['"'])).map String.ofList = _
  rw [unquoteFrom_quoted, Option.map_some, String.ofList_toList]

theorem newline_not_mem_quoted (raw : Char → Bool) (text : String) :
    '\n' ∉ (quoted raw text).toList := by
  simp [quoted, newline_not_mem_quotedChar]

end DurationFormat.Text
