import DurationFormat.Numeral
import DurationFormat.Text.Blank
import Mathlib.Data.List.DropRight
import Mathlib.Data.List.Forall2

/-!
# Words

What a word can be, said without a way of reading it: text without the blanks around it, a name in
letters of either case, a numeral. The readers do what is said. Case is a matter of ASCII letters
alone, and a numeral is refused only for its value, however many zeros stand in front of it.
-/

namespace DurationFormat

section Runs
variable {α : Type}

/-- A longest run is found again if what stands behind it does not belong to it. -/
theorem span_append {p : α → Bool} {xs ys : List α} (hx : ∀ x ∈ xs, p x = true)
    (hy : ∀ y ∈ ys.head?, p y = false) :
    (xs ++ ys).takeWhile p = xs ∧ (xs ++ ys).dropWhile p = ys := by
  rw [List.takeWhile_append_of_pos hx, List.dropWhile_append_of_pos hx]
  cases ys with
  | nil => simp
  | cons y ys => simp [hy y rfl]

theorem append_inj_of_takeWhile {p : α → Bool} {xs xs' ys ys' : List α}
    (hx : ∀ x ∈ xs, p x = true) (hx' : ∀ x ∈ xs', p x = true)
    (hy : ∀ y ∈ ys.head?, p y = false) (hy' : ∀ y ∈ ys'.head?, p y = false)
    (h : xs ++ ys = xs' ++ ys') : xs = xs' ∧ ys = ys' := by
  obtain ⟨htake, hdrop⟩ := span_append hx hy
  obtain ⟨htake', hdrop'⟩ := span_append hx' hy'
  rw [h, htake'] at htake
  rw [h, hdrop'] at hdrop
  exact ⟨htake.symm, hdrop.symm⟩

theorem head?_dropWhile (p : α → Bool) (xs : List α) :
    ∀ x ∈ (xs.dropWhile p).head?, p x = false := by
  intro x hx
  have h := List.head?_dropWhile_not p xs
  rwa [hx] at h

end Runs

namespace Text

/-- What is left of a text without the blanks at both of its ends. -/
structure Trims (cs word : List Char) : Prop where
  exists_blanks : ∃ front back, cs = front ++ (word ++ back) ∧
    (∀ c ∈ front, isBlank c = true) ∧ ∀ c ∈ back, isBlank c = true
  head : ∀ c ∈ word.head?, isBlank c = false
  last : ∀ c ∈ word.getLast?, isBlank c = false

theorem trimEnd_eq (cs : List Char) : trimEnd cs = cs.rdropWhile isBlank := rfl

theorem trims_trim (cs : List Char) : Trims cs (trim cs) := by
  have hsplit : trim cs ++ (trimStart cs).rtakeWhile isBlank = trimStart cs := by
    rw [trim, trimEnd_eq, List.rdropWhile_append_rtakeWhile]
  refine ⟨⟨cs.takeWhile isBlank, (trimStart cs).rtakeWhile isBlank, ?_, ?_, ?_⟩, ?_, ?_⟩
  · rw [hsplit, trimStart, List.takeWhile_append_dropWhile]
  · exact fun c => List.mem_takeWhile_imp
  · exact fun c => List.mem_rtakeWhile_imp
  · -- a first character that is left stood first before the end was trimmed
    intro c hc
    apply head?_dropWhile isBlank cs
    rw [← trimStart, ← hsplit, List.head?_append, hc]
    rfl
  · intro c hc
    apply head?_dropWhile isBlank (trimStart cs).reverse
    rwa [trim, trimEnd, List.getLast?_reverse] at hc

theorem Trims.eq_trim {cs word : List Char} (h : Trims cs word) : word = trim cs := by
  obtain ⟨front, back, rfl, hfront, hback⟩ := h.exists_blanks
  cases word with
  | nil =>
    have hall : ∀ c ∈ front ++ back, isBlank c = true := by
      intro c hc
      exact (List.mem_append.mp hc).elim (hfront c) (hback c)
    have hnone : trimStart (front ++ back) = [] := List.dropWhile_eq_nil_iff.mpr hall
    rw [List.nil_append, trim, hnone]
    rfl
  | cons d ds =>
    have hhead : ∀ c ∈ (d :: ds ++ back).head?, isBlank c = false := h.head
    have hstart : trimStart (front ++ (d :: ds ++ back)) = d :: ds ++ back :=
      (span_append hfront hhead).2
    have hback' : ∀ c ∈ back.reverse, isBlank c = true := by simpa using hback
    have hlast : ∀ c ∈ (d :: ds).reverse.head?, isBlank c = false := by
      rw [List.head?_reverse]
      exact h.last
    have hend := (span_append hback' hlast).2
    rw [trim, hstart, trimEnd, List.reverse_append, hend, List.reverse_reverse]

theorem trims_iff {cs word : List Char} : Trims cs word ↔ word = trim cs :=
  ⟨Trims.eq_trim, fun h => h ▸ trims_trim cs⟩

/-- Equal but for the case of an ASCII letter. -/
def SameLetter (c d : Char) : Prop :=
  c = d ∨ (c.isUpper = true ∧ d.toNat = c.toNat + 32) ∨
    (d.isUpper = true ∧ c.toNat = d.toNat + 32)

def EqIgnoringCase : List Char → List Char → Prop := List.Forall₂ SameLetter

theorem isUpper_iff {c : Char} : c.isUpper = true ↔ 65 ≤ c.toNat ∧ c.toNat ≤ 90 :=
  decide_eq_true_iff

theorem isLower_iff {c : Char} : c.isLower = true ↔ 97 ≤ c.toNat ∧ c.toNat ≤ 122 :=
  (Bool.and_eq_true_iff ..).trans (and_congr decide_eq_true_iff decide_eq_true_iff)

theorem isDigit_iff {c : Char} : c.isDigit = true ↔ 48 ≤ c.toNat ∧ c.toNat ≤ 57 :=
  (Bool.and_eq_true_iff ..).trans (and_congr decide_eq_true_iff decide_eq_true_iff)

theorem isAlpha_iff {c : Char} : c.isAlpha = true ↔
    (65 ≤ c.toNat ∧ c.toNat ≤ 90) ∨ (97 ≤ c.toNat ∧ c.toNat ≤ 122) :=
  (Bool.or_eq_true_iff ..).trans (or_congr isUpper_iff isLower_iff)

theorem toNat_toLower (c : Char) :
    c.toLower.toNat = if c.isUpper = true then c.toNat + 32 else c.toNat := by
  by_cases h : c.isUpper = true
  · have hle := (isUpper_iff.mp h).2
    have hval : c.toLower.val = c.val + 32 := congrArg Char.val (dif_pos (of_decide_eq_true h))
    have hadd : c.toLower.toNat = (c.toNat + 32) % 4294967296 :=
      (congrArg UInt32.toNat hval).trans (UInt32.toNat_add ..)
    rw [if_pos h, hadd, Nat.mod_eq_of_lt (by omega)]
  · have hsame : c.toLower = c := dif_neg fun hc => h (decide_eq_true hc)
    rw [if_neg h, hsame]

section Lower
variable {c d : Char} {word name : List Char}

theorem toLower_eq_iff (hd : d.isLower = true) : c.toLower = d ↔ SameLetter c d := by
  have hlower := isLower_iff.mp hd
  rw [SameLetter, ← Char.toNat_inj, ← Char.toNat_inj, toNat_toLower]
  simp only [isUpper_iff]
  split <;> omega

theorem map_toLower_eq_iff (h : ∀ d ∈ name, d.isLower = true) :
    word.map Char.toLower = name ↔ EqIgnoringCase word name := by
  induction name generalizing word with
  | nil => cases word <;> simp [EqIgnoringCase]
  | cons d ds ih =>
    cases word with
    | nil => simp [EqIgnoringCase]
    | cons c cs =>
      rw [List.forall_mem_cons] at h
      rw [List.map_cons, List.cons.injEq, toLower_eq_iff h.1, ih h.2]
      exact List.forall₂_cons.symm

theorem SameLetter.isAlpha (h : SameLetter c d) (hd : d.isLower = true) : c.isAlpha = true := by
  have hlower := isLower_iff.mp hd
  rw [isAlpha_iff]
  rcases h with rfl | ⟨hu, -⟩ | ⟨hu, -⟩
  · exact .inr hlower
  · exact .inl (isUpper_iff.mp hu)
  · have hupper := isUpper_iff.mp hu
    omega

theorem EqIgnoringCase.isAlpha (h : EqIgnoringCase word name)
    (hname : ∀ d ∈ name, d.isLower = true) : ∀ c ∈ word, c.isAlpha = true := by
  induction h with
  | nil => simp
  | cons hcd _ ih =>
    rw [List.forall_mem_cons] at hname ⊢
    exact ⟨hcd.isAlpha hname.1, ih hname.2⟩

end Lower

end Text

namespace Numeral

/-- One digit or more, behind a plus sign or none, and their value. -/
inductive Denotes : List Char → Nat → Prop where
  | unsigned {ds : List Char} : ds ≠ [] → (∀ c ∈ ds, c.isDigit = true) →
    Denotes ds (Nat.ofDigitChars 10 ds 0)
  | plus {ds : List Char} : ds ≠ [] → (∀ c ∈ ds, c.isDigit = true) →
    Denotes ('+' :: ds) (Nat.ofDigitChars 10 ds 0)

theorem le_ofDigitChars (ds : List Char) (value : Nat) : value ≤ Nat.ofDigitChars 10 ds value := by
  induction ds generalizing value with
  | nil => exact Nat.le_refl _
  | cons d ds ih =>
    rw [Nat.ofDigitChars_cons]
    refine Nat.le_trans ?_ (ih _)
    omega

section Read
variable {limit value n : Nat} {ds word : List Char}

/-- Only the value counts: what has been read stays within the limit if the whole does. -/
theorem readDigits_eq_ok_iff {excess : ReadError} (hvalue : value ≤ limit) :
    readDigits limit excess value ds = .ok n ↔
      (∀ c ∈ ds, c.isDigit = true) ∧ Nat.ofDigitChars 10 ds value = n ∧ n ≤ limit := by
  induction ds generalizing value with
  | nil =>
    simp only [readDigits, Except.ok.injEq, List.not_mem_nil, false_implies, implies_true, true_and]
    constructor
    · rintro rfl
      exact ⟨rfl, hvalue⟩
    · exact And.left
  | cons d ds ih =>
    rw [readDigits, List.forall_mem_cons, Nat.ofDigitChars_cons, ← digitValue]
    by_cases hd : d.isDigit = true
    · rw [if_pos hd]
      by_cases hstep : 10 * value + digitValue d ≤ limit
      · simp [hstep, ih, hd]
      · have hle := le_ofDigitChars ds (10 * value + digitValue d)
        simp only [hstep, if_false, reduceCtorEq, false_iff]
        omega
    · simp [hd]

theorem Denotes.exists_digit (h : Denotes word n) : ∃ c ∈ word, c.isDigit = true := by
  cases h with
  | unsigned hne hd => exact ⟨_, List.head_mem hne, hd _ (List.head_mem hne)⟩
  | plus hne hd => exact ⟨_, List.mem_cons_of_mem _ (List.head_mem hne), hd _ (List.head_mem hne)⟩

theorem Denotes.digit_or_plus (h : Denotes word n) : ∀ c ∈ word, c.isDigit = true ∨ c = '+' := by
  cases h with
  | unsigned _ hd => exact fun c hc => .inl (hd c hc)
  | plus _ hd => exact List.forall_mem_cons.mpr ⟨.inr rfl, fun c hc => .inl (hd c hc)⟩

theorem readNat_eq_ok_iff : readNat limit word = .ok n ↔ Denotes word n ∧ n ≤ limit := by
  constructor
  · intro h
    unfold readNat at h
    split at h
    · cases h
    · cases h
    · rename_i hne
      obtain ⟨hd, rfl, hn⟩ := (readDigits_eq_ok_iff (Nat.zero_le _)).mp h
      exact ⟨.plus hne hd, hn⟩
    · rename_i hne _ _
      obtain ⟨hd, rfl, hn⟩ := (readDigits_eq_ok_iff (Nat.zero_le _)).mp h
      exact ⟨.unsigned hne hd, hn⟩
  · rintro ⟨h, hn⟩
    cases h with
    | plus hne hd =>
      obtain ⟨d, ds, rfl⟩ := List.exists_cons_of_ne_nil hne
      exact (readDigits_eq_ok_iff (Nat.zero_le _)).mpr ⟨hd, rfl, hn⟩
    | unsigned hne hd =>
      unfold readNat
      split
      · exact absurd rfl hne
      · exact absurd (hd '+' List.mem_cons_self) (by decide)
      · exact absurd (hd '+' List.mem_cons_self) (by decide)
      · exact (readDigits_eq_ok_iff (Nat.zero_le _)).mpr ⟨hd, rfl, hn⟩

theorem Denotes.unique {m : Nat} (h : Denotes word n) (h' : Denotes word m) : n = m := by
  have hn := readNat_eq_ok_iff.mpr ⟨h, Nat.le_max_left n m⟩
  have hm := readNat_eq_ok_iff.mpr ⟨h', Nat.le_max_right n m⟩
  exact Except.ok.inj (hn.symm.trans hm)

end Read

end Numeral

end DurationFormat
