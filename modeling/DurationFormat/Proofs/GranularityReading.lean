import DurationFormat.Granularity.Reading
import DurationFormat.Proofs.Words

/-!
# What is read as a granularity

Each text is one of three things. It is a granularity if its word is a numeral from one to four or
one of the eight names; it is a wrong number of parts if its word is another numeral of a byte; and
all else is unknown, a numeral past a byte among them. A name is letters only and a numeral has a
digit, so it does not matter which of the two is tried first.
-/

namespace DurationFormat.Granularity

/-- The name of a granularity or of its coarsest unit, in letters of either case. -/
def Named (word : List Char) (g : Granularity) : Prop :=
  Text.EqIgnoringCase word g.coarsest.name.toList ∨ Text.EqIgnoringCase word g.name.toList

/-- What the word of a text is to be read as. -/
inductive Reading (text : String) (word : List Char) : Except ReadError Granularity → Prop where
  | count {g : Granularity} : Numeral.Denotes word g.partCount → Reading text word (.ok g)
  | name {g : Granularity} : Named word g → Reading text word (.ok g)
  | noCount {n : Nat} : Numeral.Denotes word n → n ≤ 255 → n < 1 ∨ 4 < n →
    Reading text word (.error (.invalidPartCount n))
  | unknown : (∀ n, Numeral.Denotes word n → 255 < n) → (∀ g, ¬ Named word g) →
    Reading text word (.error (.unknown text))

theorem partCount_mem (g : Granularity) : 1 ≤ g.partCount ∧ g.partCount ≤ 4 := by
  cases g <;> decide

theorem exists_partCount {n : Nat} (h : 1 ≤ n ∧ n ≤ 4) : ∃ g : Granularity, g.partCount = n := by
  obtain ⟨hpos, hle⟩ := h
  match n with
  | 1 => exact ⟨.seconds, rfl⟩
  | 2 => exact ⟨.minutes, rfl⟩
  | 3 => exact ⟨.hours, rfl⟩
  | 4 => exact ⟨.days, rfl⟩

@[simp] theorem readPartCount_partCount (g : Granularity) :
    readPartCount g.partCount = .ok g := by
  cases g <;> rfl

theorem readPartCount_of_out {n : Nat} (h : n < 1 ∨ 4 < n) :
    readPartCount n = .error (.invalidPartCount n) := by
  have hnone : all.find? (·.partCount = n) = none := by
    refine List.find?_eq_none.mpr fun g _ => ?_
    have hg := g.partCount_mem
    rw [decide_eq_true_eq]
    omega
  rw [readPartCount, hnone]

theorem named?_eq_some_iff {name : List Char} {g : Granularity} :
    named? name = some g ↔ name = g.coarsest.name.toList ∨ name = g.name.toList := by
  constructor
  · intro h
    have hg := List.find?_some h
    exact (of_decide_eq_true hg).symm
  · rintro (rfl | rfl) <;> cases g <;> decide

section Letters
variable {word : List Char} {g : Granularity}

theorem isLower_names (g : Granularity) :
    (∀ d ∈ g.coarsest.name.toList, d.isLower = true) ∧ ∀ d ∈ g.name.toList, d.isLower = true := by
  rw [← List.all_eq_true, ← List.all_eq_true]
  cases g <;> decide

theorem named?_toLower_eq_some_iff : named? (word.map Char.toLower) = some g ↔ Named word g := by
  rw [named?_eq_some_iff, Text.map_toLower_eq_iff g.isLower_names.1,
    Text.map_toLower_eq_iff g.isLower_names.2, Named]

theorem Named.isAlpha (h : Named word g) : ∀ c ∈ word, c.isAlpha = true := by
  rcases h with h | h
  · exact h.isAlpha g.isLower_names.1
  · exact h.isAlpha g.isLower_names.2

theorem Named.not_denotes (h : Named word g) (n : Nat) : ¬ Numeral.Denotes word n := by
  intro hn
  obtain ⟨c, hc, hd⟩ := hn.exists_digit
  have halpha := Text.isAlpha_iff.mp (h.isAlpha c hc)
  have hdigit := Text.isDigit_iff.mp hd
  omega

end Letters

theorem read_of_denotes {text : String} {n : Nat}
    (h : Numeral.Denotes (Text.trim text.toList) n) (hn : n ≤ 255) :
    read text = readPartCount n := by
  have hread := Numeral.readNat_eq_ok_iff.mpr ⟨h, hn⟩
  rw [read, hread]

theorem read_of_not_denotes {text : String}
    (h : ∀ n, Numeral.Denotes (Text.trim text.toList) n → 255 < n) :
    read text = match named? ((Text.trim text.toList).map Char.toLower) with
      | some g => .ok g
      | none => .error (.unknown text) := by
  rw [read]
  cases hread : Numeral.readNat 255 (Text.trim text.toList) with
  | error e => rfl
  | ok n =>
    obtain ⟨hd, hn⟩ := Numeral.readNat_eq_ok_iff.mp hread
    exact absurd hn (Nat.not_le_of_lt (h n hd))

section Text
variable {text : String}

theorem reading_read (text : String) : Reading text (Text.trim text.toList) (read text) := by
  by_cases h : ∃ n, Numeral.Denotes (Text.trim text.toList) n ∧ n ≤ 255
  · obtain ⟨n, hd, hn⟩ := h
    rw [read_of_denotes hd hn]
    by_cases hcount : 1 ≤ n ∧ n ≤ 4
    · obtain ⟨g, rfl⟩ := exists_partCount hcount
      rw [readPartCount_partCount]
      exact .count hd
    · have hout : n < 1 ∨ 4 < n := by omega
      rw [readPartCount_of_out hout]
      exact .noCount hd hn hout
  · have hlarge : ∀ n, Numeral.Denotes (Text.trim text.toList) n → 255 < n := fun n hd =>
      Nat.lt_of_not_le fun hn => h ⟨n, hd, hn⟩
    rw [read_of_not_denotes hlarge]
    cases hname : named? ((Text.trim text.toList).map Char.toLower) with
    | some g => exact .name (named?_toLower_eq_some_iff.mp hname)
    | none =>
      refine .unknown hlarge fun g hg => ?_
      rw [named?_toLower_eq_some_iff.mpr hg] at hname
      cases hname

theorem Reading.read_eq {answer : Except ReadError Granularity}
    (h : Reading text (Text.trim text.toList) answer) : read text = answer := by
  cases h with
  | @count g hd =>
    have hg := g.partCount_mem
    rw [read_of_denotes hd (by omega), readPartCount_partCount]
  | name hname =>
    have hnone : ∀ n, Numeral.Denotes (Text.trim text.toList) n → 255 < n :=
      fun n hd => absurd hd (hname.not_denotes n)
    rw [read_of_not_denotes hnone, named?_toLower_eq_some_iff.mpr hname]
  | noCount hd hn hout => rw [read_of_denotes hd hn, readPartCount_of_out hout]
  | unknown hlarge hno =>
    have hnone : named? ((Text.trim text.toList).map Char.toLower) = none := by
      refine Option.eq_none_iff_forall_ne_some.mpr fun g hg => ?_
      exact hno g (named?_toLower_eq_some_iff.mp hg)
    rw [read_of_not_denotes hlarge, hnone]

theorem read_eq_iff {answer : Except ReadError Granularity} :
    read text = answer ↔ Reading text (Text.trim text.toList) answer :=
  ⟨fun h => h ▸ reading_read text, Reading.read_eq⟩

end Text

section Unknown
variable {text : String} {word : List Char}

theorem read_eq_unknown (h : Text.Trims text.toList word)
    (hlarge : ∀ n, Numeral.Denotes word n → 255 < n) (hno : ∀ g, ¬ Named word g) :
    read text = .error (.unknown text) := by
  rw [h.eq_trim] at hlarge hno
  exact read_eq_iff.mpr (.unknown hlarge hno)

theorem Named.ne_nil {g : Granularity} (h : Named word g) : word ≠ [] := by
  rintro rfl
  rcases h with h | h <;> cases g <;> cases h

/-- A minus sign or a character beyond ASCII is no part of a numeral or a name. -/
theorem not_denotes_and_not_named_of_mem {c : Char} (hc : c ∈ word)
    (h : c = '-' ∨ 128 ≤ c.toNat) :
    (∀ n, ¬ Numeral.Denotes word n) ∧ ∀ g, ¬ Named word g := by
  have hrange : c.toNat = 45 ∨ 128 ≤ c.toNat := h.imp_left fun he => congrArg Char.toNat he
  constructor
  · intro n hn
    rcases hn.digit_or_plus c hc with hd | rfl
    · have hdigit := Text.isDigit_iff.mp hd
      omega
    · exact absurd hrange (by decide)
  · intro g hg
    have halpha := Text.isAlpha_iff.mp (hg.isAlpha c hc)
    omega

theorem not_denotes_and_not_named_of_short (h : word = [] ∨ word = ['+']) :
    (∀ n, ¬ Numeral.Denotes word n) ∧ ∀ g, ¬ Named word g := by
  rcases h with rfl | rfl
  · exact ⟨fun n hn => by simpa using hn.exists_digit, fun g hg => hg.ne_nil rfl⟩
  · refine ⟨fun n hn => ?_, fun g hg => ?_⟩
    · obtain ⟨c, hc, hd⟩ := hn.exists_digit
      rw [List.mem_singleton.mp hc] at hd
      cases hd
    · cases hg.isAlpha '+' List.mem_cons_self

theorem not_denotes_and_not_named (h : word = [] ∨ word = ['+'] ∨ word = ['-'] ∨
      word = ['-', '0'] ∨ ∃ c ∈ word, 128 ≤ c.toNat) :
    (∀ n, ¬ Numeral.Denotes word n) ∧ ∀ g, ¬ Named word g := by
  rcases h with h | h | rfl | rfl | ⟨c, hc, hrange⟩
  · exact not_denotes_and_not_named_of_short (.inl h)
  · exact not_denotes_and_not_named_of_short (.inr h)
  · exact not_denotes_and_not_named_of_mem List.mem_cons_self (.inl rfl)
  · exact not_denotes_and_not_named_of_mem List.mem_cons_self (.inl rfl)
  · exact not_denotes_and_not_named_of_mem hc (.inr hrange)

end Unknown

/-- The word of a text, which is all of it but the blanks at its ends, decides what the text is
read as: a granularity if the word counts its parts or names it, a wrong number of parts if it is
another numeral of a byte, and unknown in all other cases. An unknown text is reported as it was
given. -/
theorem read_classifies (text : String) : ∃ word,
    (∀ other, Text.Trims text.toList other ↔ other = word) ∧
    (∀ g, read text = .ok g ↔ Numeral.Denotes word g.partCount ∨ Named word g) ∧
    (∀ n, read text = .error (.invalidPartCount n) ↔
      Numeral.Denotes word n ∧ n ≤ 255 ∧ (n < 1 ∨ 4 < n)) ∧
    (∀ given, read text = .error (.unknown given) ↔
      given = text ∧ (∀ n, Numeral.Denotes word n → 255 < n) ∧ ∀ g, ¬ Named word g) ∧
    ((∃ n, Numeral.Denotes word n ∧ 255 < n) → read text = .error (.unknown text)) ∧
    ((word = [] ∨ word = ['+'] ∨ word = ['-'] ∨ word = ['-', '0'] ∨ ∃ c ∈ word, 128 ≤ c.toNat) →
      read text = .error (.unknown text)) := by
  have htrim := Text.trims_trim text.toList
  refine ⟨Text.trim text.toList, fun other => Text.trims_iff, fun g => ?_, fun n => ?_,
    fun given => ?_, ?_, fun h => ?_⟩
  · rw [read_eq_iff]
    constructor
    · intro h
      cases h with
      | count hd => exact .inl hd
      | name hname => exact .inr hname
    · rintro (hd | hname)
      · exact .count hd
      · exact .name hname
  · rw [read_eq_iff]
    constructor
    · intro h
      cases h with
      | noCount hd hn hout => exact ⟨hd, hn, hout⟩
    · rintro ⟨hd, hn, hout⟩
      exact .noCount hd hn hout
  · rw [read_eq_iff]
    constructor
    · intro h
      cases h with
      | unknown hlarge hno => exact ⟨rfl, hlarge, hno⟩
    · rintro ⟨rfl, hlarge, hno⟩
      exact .unknown hlarge hno
  · rintro ⟨n, hd, hn⟩
    refine read_eq_unknown htrim (fun m hm => ?_) fun g hg => hg.not_denotes n hd
    rwa [hm.unique hd]
  · obtain ⟨hnumeral, hname⟩ := not_denotes_and_not_named h
    exact read_eq_unknown htrim (fun n hd => absurd hd (hnumeral n)) hname

/-- One past a byte is no number of parts, and what is reported keeps its blanks. -/
theorem read_classifies_large :
    Text.Trims " 0256\n".toList "0256".toList ∧
    Numeral.Denotes "0256".toList 256 ∧ 255 < 256 ∧
    read " 0256\n" = .error (.unknown " 0256\n") ∧
    (∃ c ∈ "ſeconds".toList, 128 ≤ c.toNat) ∧
    read "ſeconds" = .error (.unknown "ſeconds") := by
  have htrim : Text.Trims " 0256\n".toList "0256".toList := Text.trims_iff.mpr (by decide)
  have hd : Numeral.Denotes "0256".toList 256 :=
    .unsigned (by decide) (List.all_eq_true.mp (by decide))
  have htrim' : Text.Trims "ſeconds".toList "ſeconds".toList := Text.trims_iff.mpr (by decide)
  have hlong : ∃ c ∈ "ſeconds".toList, 128 ≤ c.toNat := ⟨'ſ', by decide, by decide⟩
  obtain ⟨word, hword, -, -, -, hlarge, -⟩ := read_classifies " 0256\n"
  obtain ⟨word', hword', -, -, -, -, hother⟩ := read_classifies "ſeconds"
  obtain rfl := (hword _).mp htrim
  obtain rfl := (hword' _).mp htrim'
  exact ⟨htrim, hd, by decide, hlarge ⟨256, hd, by decide⟩, hlong,
    hother (.inr (.inr (.inr (.inr hlong))))⟩

end DurationFormat.Granularity
