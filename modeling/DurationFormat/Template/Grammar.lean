import DurationFormat.Template.Scan

/-!
# The grammar of format strings

What a format string means, said as rules rather than as a way of reading: the tokens that a text
may fall into in each mode. `derivation_iff` says that each text has exactly one derivation, the
one that `scan` finds.
-/

namespace DurationFormat

inductive Derivation : Mode → List Char → List Token → Prop where
  | nil (mode : Mode) : Derivation mode [] []
  | dangling (mode : Mode) : Derivation mode ['\\'] [.dangling]
  | quoted {mode : Mode} (c : Char) {rest : List Char} {ts : List Token} :
    Derivation mode rest ts → Derivation mode ('\\' :: c :: rest) (.quoted c :: ts)
  | openRegion {rest : List Char} {ts : List Token} :
    Derivation .inert rest ts → Derivation .active ('[' :: rest) (.openRegion :: ts)
  | closeRegion {rest : List Char} {ts : List Token} :
    Derivation .active rest ts → Derivation .inert (']' :: rest) (.closeRegion :: ts)
  | double (u : TimeUnit) {rest : List Char} {ts : List Token} :
    Derivation .active rest ts →
      Derivation .active (u.letter :: u.letter :: rest) (.placeholder ⟨u, .double⟩ :: ts)
  | single (u : TimeUnit) {rest : List Char} {ts : List Token} :
    rest.head? ≠ some u.letter → Derivation .active rest ts →
      Derivation .active (u.letter :: rest) (.placeholder ⟨u, .single⟩ :: ts)
  | plain {c : Char} {rest : List Char} {ts : List Token} :
    c ≠ '\\' → c ≠ '[' → (∀ u : TimeUnit, c ≠ u.letter) → Derivation .active rest ts →
      Derivation .active (c :: rest) (.plain c :: ts)
  | inert {c : Char} {rest : List Char} {ts : List Token} :
    c ≠ '\\' → c ≠ ']' → Derivation .inert rest ts → Derivation .inert (c :: rest) (.plain c :: ts)

theorem derivation_scan (mode : Mode) : (cs : List Char) → Derivation mode cs (scan mode cs).tokens
  | [] => .nil mode
  | c :: rest => by
    by_cases hq : c = '\\'
    · subst hq
      cases rest with
      | nil => simpa using Derivation.dangling mode
      | cons d rest => simpa using Derivation.quoted d (derivation_scan mode rest)
    cases mode with
    | inert =>
      by_cases hc : c = ']'
      · subst hc
        simpa using Derivation.closeRegion (derivation_scan .active rest)
      · simpa [scan_inert rest hq hc] using Derivation.inert hq hc (derivation_scan .inert rest)
    | active =>
      by_cases hc : c = '['
      · subst hc
        simpa using Derivation.openRegion (derivation_scan .inert rest)
      cases hu : TimeUnit.ofLetter? c with
      | none =>
        simpa [scan_plain rest hq hc hu] using
          Derivation.plain hq hc (TimeUnit.ofLetter?_eq_none_iff.mp hu)
            (derivation_scan .active rest)
      | some u =>
        obtain rfl := TimeUnit.ofLetter?_eq_some_iff.mp hu
        by_cases hn : rest.head? = some u.letter
        · obtain ⟨rest, rfl⟩ := List.head?_eq_some_iff.mp hn
          simpa using Derivation.double u (derivation_scan .active rest)
        · simpa [scan_single u hn] using Derivation.single u hn (derivation_scan .active rest)

theorem Derivation.eq_tokens {mode : Mode} {cs : List Char} {ts : List Token}
    (h : Derivation mode cs ts) : ts = (scan mode cs).tokens := by
  induction h with
  | nil mode => rfl
  | dangling mode => simp
  | quoted c _ ih => simp [← ih]
  | openRegion _ ih => simp [← ih]
  | closeRegion _ ih => simp [← ih]
  | double u _ ih => simp [← ih]
  | single u hn _ ih => simp [scan_single u hn, ← ih]
  | plain hq hc hu _ ih => simp [scan_plain _ hq hc (TimeUnit.ofLetter?_eq_none_iff.mpr hu), ← ih]
  | inert hq hc _ ih => simp [scan_inert _ hq hc, ← ih]

theorem derivation_iff {mode : Mode} {cs : List Char} {ts : List Token} :
    Derivation mode cs ts ↔ ts = (scan mode cs).tokens :=
  ⟨Derivation.eq_tokens, fun h => h ▸ derivation_scan mode cs⟩

end DurationFormat
