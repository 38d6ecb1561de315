import DurationFormat.Elapsed
import DurationFormat.Proofs.MixedRadix
import DurationFormat.Proofs.Granularity

/-!
# Elapsed time past the greatest count

Elapsed time is cut to milliseconds, held at the greatest number of them and then cut to seconds.
The greatest number of milliseconds ends in the middle of a second, so what is held there is the
same second as for any time from its beginning on. So only the whole seconds are shown, up to the
last second that there is, and the two cuts are one.
-/

namespace DurationFormat

theorem format_eq_of_wholeSeconds_eq {millis millis' : Int64}
    (h : wholeSeconds millis = wholeSeconds millis') (text : String) :
    format millis text = format millis' text := by
  have ht := Template.wellFormed_ofString text
  rw [format, format, Template.render_eq_spelled ht, Template.render_eq_spelled ht, h]

namespace Template

/-- A template whose coarsest unit is the second shows the whole seconds as they are. -/
theorem WellFormed.spelled_of_seconds {t : Template} (ht : t.WellFormed)
    (hg : t.granularity = some .seconds) (s : Nat) :
    t.spelled s = String.join (t.segments.map fun
      | .literal text => text
      | .placeholder p => p.spelled s) := by
  obtain ⟨-, hmax⟩ := ht.granularity_eq_some_iff.mp hg
  rw [(ht.countsIn_coarsest hg).spelled_eq]
  congr 1
  refine List.map_congr_left fun segment hsegment => ?_
  cases segment with
  | literal text => rfl
  | placeholder p =>
    have hp : p.unit.granularity ≤ TimeUnit.second.granularity :=
      hmax p (mem_placeholders.mpr hsegment)
    have hle : TimeUnit.second.granularity ≤ p.unit.granularity := by
      cases p.unit <;> decide
    have hshare : TimeUnit.second.share p.unit s = s := by
      rw [TimeUnit.eq_of_granularity_le hp hle, TimeUnit.share_self, TimeUnit.seconds, Nat.div_one]
    exact congrArg p.spelled hshare

end Template

namespace Elapsed

def maxSeconds : Nat := 9223372036854775

/-- The whole seconds that are shown. -/
def shownSeconds (e : Elapsed) : Nat :=
  min (e.seconds.toNat + e.nanoseconds.toNat / 1000000000) maxSeconds

section Millis
variable (e : Elapsed)

theorem toInt_millis : e.millis.toInt = (min e.wholeMillis maxMillis : Nat) :=
  Int64.toInt_ofNat_of_lt (Nat.lt_succ_of_le (Nat.min_le_right _ _))

theorem shownSeconds_mul_le : 1000 * e.shownSeconds ≤ maxMillis := by
  have hle : e.shownSeconds ≤ maxSeconds := Nat.min_le_right _ _
  exact Nat.le_trans (Nat.mul_le_mul_left 1000 hle) (by decide)

/-- Cutting to milliseconds before does not matter, nor does where in its second the greatest
number of milliseconds lies. -/
theorem wholeSeconds_millis : wholeSeconds e.millis = e.shownSeconds := by
  have hle : min e.wholeMillis maxMillis ≤ 9223372036854775807 := Nat.min_le_right _ _
  rw [millis, wholeSeconds_ofNat hle, wholeMillis, shownSeconds, maxMillis, maxSeconds]
  omega

theorem wholeSeconds_shown : wholeSeconds (.ofNat (1000 * e.shownSeconds)) = e.shownSeconds := by
  rw [wholeSeconds_ofNat e.shownSeconds_mul_le, Nat.mul_div_cancel_left _ (by decide)]

end Millis

theorem shownSeconds_mono {e e' : Elapsed}
    (h : e.seconds.toNat * 1000000000 + e.nanoseconds.toNat ≤
      e'.seconds.toNat * 1000000000 + e'.nanoseconds.toNat) :
    e.shownSeconds ≤ e'.shownSeconds := by
  rw [shownSeconds, shownSeconds]
  omega

/-- Elapsed time reads as its whole seconds do, of which there are at most as many as a number of
milliseconds holds; so it is never negative, and what is less than a second does not show. Where
seconds are the coarsest unit their number is shown as it is. In any unit the counts add up to it,
and a longer time never has fewer. -/
theorem format_saturates (e : Elapsed) (text : String) :
    let s := min (e.seconds.toNat + e.nanoseconds.toNat / 1000000000) 9223372036854775
    1000 * s ≤ 9223372036854775807 ∧ (Int64.ofNat (1000 * s)).toInt = 1000 * s ∧
    0 ≤ e.millis.toInt ∧
    e.format text = DurationFormat.format (.ofNat (1000 * s)) text ∧
    (∀ e' : Elapsed, e'.seconds.toNat + e'.nanoseconds.toNat / 1000000000 =
        e.seconds.toNat + e.nanoseconds.toNat / 1000000000 →
      e'.format text = e.format text) ∧
    ((Template.ofString text).granularity = some .seconds →
      e.format text = String.join ((Template.ofString text).segments.map fun
        | .literal text => text
        | .placeholder p => p.spelled s)) ∧
    (∀ g withStrings, (Breakdown.ofMillis e.millis g withStrings).totalSeconds = s) ∧
    ∀ e' : Elapsed, e.seconds.toNat * 1000000000 + e.nanoseconds.toNat ≤
        e'.seconds.toNat * 1000000000 + e'.nanoseconds.toNat →
      s ≤ min (e'.seconds.toNat + e'.nanoseconds.toNat / 1000000000) 9223372036854775 := by
  have hle := e.shownSeconds_mul_le
  have hwhole := e.wholeSeconds_millis
  refine ⟨hle, ?_, ?_, ?_, ?_, ?_, ?_, fun e' => shownSeconds_mono⟩
  · exact Int64.toInt_ofNat_of_lt (Nat.lt_succ_of_le hle)
  · rw [toInt_millis]
    exact Int.natCast_nonneg _
  · exact format_eq_of_wholeSeconds_eq (hwhole.trans e.wholeSeconds_shown.symm) text
  · intro e' he
    have hshown : e'.shownSeconds = e.shownSeconds := by rw [shownSeconds, he, shownSeconds]
    refine format_eq_of_wholeSeconds_eq ?_ text
    rw [hwhole, wholeSeconds_millis, hshown]
  · intro hg
    have ht := Template.wellFormed_ofString text
    rw [format, DurationFormat.format, Template.render_eq_spelled ht, hwhole,
      ht.spelled_of_seconds hg]
    rfl
  · intro g withStrings
    rw [Breakdown.totalSeconds_ofMillis, hwhole]
    rfl

/-- The last second that can be shown, met in the middle and passed by far. -/
theorem format_saturates_last :
    let last : Elapsed := ⟨9223372036854775, 807999999⟩
    let start : Elapsed := ⟨9223372036854774, 1000000000⟩
    let longest : Elapsed := ⟨18446744073709551615, 999999999⟩
    (Template.ofString "ss[s]").granularity = some .seconds ∧
    last.format "ss[s]" = "9223372036854775s" ∧
    longest.format "ss[s]" = "9223372036854775s" ∧
    start.seconds.toNat + start.nanoseconds.toNat / 1000000000 =
      last.seconds.toNat + last.nanoseconds.toNat / 1000000000 ∧
    start.format "ss[s]" = last.format "ss[s]" ∧
    last.seconds.toNat * 1000000000 + last.nanoseconds.toNat ≤
      longest.seconds.toNat * 1000000000 + longest.nanoseconds.toNat := by
  intro last start longest
  have hg : (Template.ofString "ss[s]").granularity = some .seconds := by decide +kernel
  have hsame : start.seconds.toNat + start.nanoseconds.toNat / 1000000000 =
      last.seconds.toNat + last.nanoseconds.toNat / 1000000000 := by decide
  obtain ⟨-, -, -, -, hstart, hlast, -, -⟩ := format_saturates last "ss[s]"
  obtain ⟨-, -, -, -, -, hlongest, -, -⟩ := format_saturates longest "ss[s]"
  exact ⟨hg, (hlast hg).trans (by decide +kernel), (hlongest hg).trans (by decide +kernel), hsame,
    hstart start hsame, by decide⟩

end Elapsed

end DurationFormat
