import DurationFormat.Command.Run
import DurationFormat.Proofs.JsonReading
import DurationFormat.Proofs.Listing
import DurationFormat.Proofs.ReadingBack

/-!
# Reading a breakdown back

The fields of a breakdown and its lines both hold all of its parts. A padded count is a field of
its own right behind the plain one, or stands in parentheses on the same line. Since the parts in
turn tell the granularity, the whole seconds and whether padding was asked for, the two forms tell
breakdowns apart in the same way.
-/

namespace DurationFormat

namespace TimeUnit

def named? (name : String) : Option TimeUnit := all.find? (·.name = name)

@[simp] theorem named?_name (u : TimeUnit) : named? u.name = some u := by cases u <;> rfl

theorem not_mem_name (u : TimeUnit) : ':' ∉ u.name.toList ∧ '\n' ∉ u.name.toList := by
  cases u <;> decide

end TimeUnit

namespace Part

/-- Reads parts from fields in their order. A text is the padded form of the count just before. -/
def ofFields? : List (String × Json) → Option (List Part)
  | [] => some []
  | (key, .int (.ofNat n)) :: (paddedKey, .str text) :: fields =>
    match TimeUnit.named? key with
    | none => none
    | some u =>
      if paddedKey = u.paddedKey then (ofFields? fields).map (⟨u, n, some text⟩ :: ·) else none
  | (key, .int (.ofNat n)) :: fields =>
    match TimeUnit.named? key with
    | none => none
    | some u => (ofFields? fields).map (⟨u, n, none⟩ :: ·)
  | _ => none

theorem ofFields?_padded (u : TimeUnit) (n : Nat) (text : String) (fields : List (String × Json)) :
    ofFields? ((u.name, .int n) :: (u.paddedKey, .str text) :: fields) =
      (ofFields? fields).map (⟨u, n, some text⟩ :: ·) := by
  change ofFields? ((u.name, .int (.ofNat n)) :: _) = _
  rw [ofFields?, TimeUnit.named?_name]
  exact if_pos rfl

theorem ofFields?_plain (u : TimeUnit) (n : Nat) {fields : List (String × Json)}
    (h : ∀ key text rest, fields ≠ (key, .str text) :: rest) :
    ofFields? ((u.name, .int n) :: fields) = (ofFields? fields).map (⟨u, n, none⟩ :: ·) := by
  change ofFields? ((u.name, .int (.ofNat n)) :: fields) = _
  rw [ofFields?, TimeUnit.named?_name]
  exact h

/-- The fields of parts begin with a count. -/
theorem flatMap_fields_ne (ps : List Part) (key text : String) (rest : List (String × Json)) :
    ps.flatMap Part.fields ≠ (key, .str text) :: rest := by
  cases ps with
  | nil => exact List.cons_ne_nil _ _ ∘ Eq.symm
  | cons p ps =>
    intro h
    rw [List.flatMap_cons, fields, List.cons_append, List.cons.injEq] at h
    cases h.1

theorem ofFields?_fields (ps : List Part) : ofFields? (ps.flatMap Part.fields) = some ps := by
  induction ps with
  | nil => rfl
  | cons p ps ih =>
    obtain ⟨u, n, padded⟩ := p
    rw [List.flatMap_cons]
    cases padded with
    | none =>
      have hread := ofFields?_plain u n (flatMap_fields_ne ps)
      rw [ih] at hread
      exact hread
    | some text =>
      have hread := ofFields?_padded u n text (ps.flatMap Part.fields)
      rw [ih] at hread
      exact hread

/-- What stands behind the count on the line of a part. -/
def remark (p : Part) : String :=
  match p.padded with
  | some text => " (" ++ text ++ ")"
  | none => ""

/-- The line of a part without its line feed. -/
def label (p : Part) : String := p.unit.name ++ ": " ++ Numeral.plain p.count ++ p.remark

theorem line_eq (p : Part) : p.line = p.label ++ "\n" := rfl

theorem toList_label (p : Part) :
    p.label.toList =
      p.unit.name.toList ++ ':' :: ' ' :: (Nat.toDigits 10 p.count ++ p.remark.toList) := by
  rw [label, String.toList_append, String.toList_append, String.toList_append,
    Numeral.toList_plain, List.append_assoc, List.append_assoc]
  rfl

def ofRemark? : List Char → Option String
  | ' ' :: '(' :: text => some (String.ofList text.dropLast)
  | _ => none

def ofLabel? (line : List Char) : Option Part :=
  let counted := (line.dropWhile (· ≠ ':')).drop 2
  (TimeUnit.named? (String.ofList (line.takeWhile (· ≠ ':')))).map fun u =>
    ⟨u, Nat.ofDigitChars 10 (counted.takeWhile Char.isDigit) 0,
      ofRemark? (counted.dropWhile Char.isDigit)⟩

theorem ofRemark?_remark (p : Part) : ofRemark? p.remark.toList = p.padded := by
  rw [remark]
  cases p.padded with
  | none => rfl
  | some text =>
    have hl : (" (" ++ text ++ ")").toList = ' ' :: '(' :: (text.toList ++ [')']) := by simp
    rw [hl, ofRemark?, List.dropLast_concat, String.ofList_toList]

theorem isDigit_head?_remark (p : Part) : ∀ c ∈ p.remark.toList.head?, c.isDigit = false := by
  rw [remark]
  cases p.padded with
  | none => simp
  | some text => simp

@[simp] theorem ofLabel?_label (p : Part) : ofLabel? p.label.toList = some p := by
  have hname : ∀ c ∈ p.unit.name.toList, decide (c ≠ ':') = true := fun c hc =>
    decide_eq_true fun he => p.unit.not_mem_name.1 (he ▸ hc)
  have hdigits : ∀ c ∈ Nat.toDigits 10 p.count, c.isDigit = true := fun c hc =>
    Nat.isDigit_of_mem_toDigits (by omega) (by omega) hc
  have hcut : ∀ c ∈ (':' :: ' ' :: (Nat.toDigits 10 p.count ++ p.remark.toList)).head?,
      decide (c ≠ ':') = false := by simp
  obtain ⟨htake, hdrop⟩ := span_append hname hcut
  obtain ⟨htake', hdrop'⟩ := span_append hdigits p.isDigit_head?_remark
  rw [toList_label, ofLabel?, htake, hdrop]
  simp only [List.drop_succ_cons, List.drop_zero]
  rw [htake', hdrop', Nat.ofDigitChars_ten_toDigits, ofRemark?_remark, String.ofList_toList,
    TimeUnit.named?_name, Option.map_some]

end Part

namespace Breakdown

/-- The parts that a text in JSON holds as the fields of one object. -/
def partsOfJson? (text : String) : Option (List Part) :=
  match Json.read text with
  | some (.obj fields) => Part.ofFields? fields
  | _ => none

/-- The parts that a text holds line by line. Each line ends in a line feed. -/
def partsOfListing? (text : String) : Option (List Part) :=
  (text.toList.splitOn '\n').dropLast.mapM Part.ofLabel?

section Forms
variable (b : Breakdown)

theorem partsOfJson?_of_read {text : String} (h : Json.read text = some b.toJson) :
    partsOfJson? text = some b.parts := by
  rw [partsOfJson?, h]
  exact Part.ofFields?_fields b.parts

theorem length_fields : b.fields.length = b.fieldCount := by
  rw [fields, fieldCount]
  induction b.parts with
  | nil => rfl
  | cons p ps ih =>
    obtain ⟨u, n, padded⟩ := p
    rw [List.flatMap_cons, List.length_append, ih]
    cases padded <;> simp [Part.fields] <;> omega

theorem toList_listing : b.listing.toList = (b.parts.map fun p => p.label.toList).flatMap
    (· ++ ['\n']) := by
  rw [listing, String.toList_join, List.flatMap_map, List.flatMap_map]
  congr 1
  funext p
  rw [p.line_eq, String.toList_append]
  rfl

theorem partsOfListing?_listing (h : ∀ p ∈ b.parts, '\n' ∉ p.label.toList) :
    partsOfListing? b.listing = some b.parts := by
  have hlines : ∀ line ∈ b.parts.map fun p => p.label.toList, '\n' ∉ line :=
    List.forall_mem_map.mpr h
  have hread : (Part.ofLabel? ∘ fun p : Part => p.label.toList) = pure := by
    funext p
    rw [Function.comp_apply, Part.ofLabel?_label]
    rfl
  have hsplit := splitOn_lines hlines []
  rw [List.append_nil, List.splitOn_nil] at hsplit
  rw [partsOfListing?, toList_listing, hsplit, List.dropLast_concat, List.mapM_map, hread,
    List.mapM_pure, List.map_id']
  rfl

end Forms

section OfMillis
variable (millis : Int64) (g : Granularity) (withStrings : Bool)

theorem newline_not_mem_label {p : Part} (h : p ∈ (ofMillis millis g withStrings).parts) :
    '\n' ∉ p.label.toList := by
  have hdigits : '\n' ∉ Nat.toDigits 10 p.count := fun hn => by
    have hd := Nat.isDigit_of_mem_toDigits (by omega) (by omega) hn
    cases hd
  have hremark : '\n' ∉ p.remark.toList := by
    rw [Part.remark, mem_parts millis g withStrings h]
    cases withStrings with
    | false => simp
    | true => simp [Numeral.twoDigits, List.leftpad, hdigits]
  rw [Part.toList_label]
  simp [hdigits, hremark, p.unit.not_mem_name.2]

theorem nodup_keys : ((ofMillis millis g withStrings).fields.map Prod.fst).Nodup := by
  have hkeys : (ofMillis millis g withStrings).fields.map Prod.fst =
      g.units.flatMap fun u => if withStrings then [u.name, u.paddedKey] else [u.name] := by
    rw [← map_unit_parts millis g withStrings, fields, List.map_flatMap, List.flatMap_map]
    refine List.flatMap_congr fun p hp => ?_
    rw [Part.fields, mem_parts millis g withStrings hp]
    cases withStrings <;> rfl
  rw [hkeys]
  cases g <;> cases withStrings <;> decide

theorem map_isSome_parts : (ofMillis millis g withStrings).parts.map (·.padded.isSome) =
    List.replicate g.partCount withStrings := by
  refine List.eq_replicate_iff.mpr ⟨?_, ?_⟩
  · rw [List.length_map, ← List.length_map (·.unit), map_unit_parts, Granularity.length_units]
  · refine List.forall_mem_map.mpr fun p hp => ?_
    rw [mem_parts millis g withStrings hp]
    cases withStrings <;> rfl

theorem map_count_parts : (ofMillis millis g withStrings).parts.map (·.count) =
    g.units.map fun u => g.coarsest.share u (wholeSeconds millis) := by
  rw [ofMillis, Granularity.shares_units, List.map_map, List.map_map]
  rfl

end OfMillis

theorem wholeSeconds_eq_of_map_share {g : Granularity} {s s' : Nat}
    (h : (g.units.map fun u => g.coarsest.share u s) = g.units.map fun u => g.coarsest.share u s') :
    s = s' := by
  have hshare := List.map_inj_left.mp h
  have hsecond : TimeUnit.second.granularity ≤ g.coarsest.granularity := by
    cases g <;> decide
  have hdiv := TimeUnit.div_eq_of_share_eq hsecond fun v _ hv =>
    hshare v (Granularity.mem_units.mpr (by rwa [Granularity.granularity_coarsest] at hv))
  simpa [TimeUnit.seconds] using hdiv

/-- The parts tell the granularity by their number, the padding by any one of them, and the
seconds by their counts. -/
theorem parts_ofMillis_inj {millis millis' : Int64} {g g' : Granularity}
    {withStrings withStrings' : Bool} :
    (ofMillis millis g withStrings).parts = (ofMillis millis' g' withStrings').parts ↔
      g = g' ∧ withStrings = withStrings' ∧ wholeSeconds millis = wholeSeconds millis' := by
  constructor
  · intro h
    have hpadded := congrArg (List.map (·.padded.isSome)) h
    rw [map_isSome_parts, map_isSome_parts, List.replicate_inj] at hpadded
    obtain ⟨hcount, hstrings⟩ := hpadded
    obtain rfl := Granularity.partCount_inj.mp hcount
    have hpos : g.partCount ≠ 0 := by cases g <;> decide
    have hcounts := congrArg (List.map (·.count)) h
    rw [map_count_parts, map_count_parts] at hcounts
    exact ⟨rfl, hstrings.resolve_left hpos, wholeSeconds_eq_of_map_share hcounts⟩
  · rintro ⟨rfl, rfl, hs⟩
    rw [ofMillis, ofMillis, hs]

theorem wholeSeconds_eq_iff {millis millis' : Int64} :
    wholeSeconds millis = wholeSeconds millis' ↔
      max 0 (millis.toInt.tdiv 1000) = max 0 (millis'.toInt.tdiv 1000) := by
  rw [wholeSeconds, wholeSeconds]
  omega

theorem listing_ofMillis_inj {millis millis' : Int64} {g g' : Granularity}
    {withStrings withStrings' : Bool} :
    (ofMillis millis g withStrings).listing = (ofMillis millis' g' withStrings').listing ↔
      (ofMillis millis g withStrings).parts = (ofMillis millis' g' withStrings').parts := by
  refine ⟨fun h => ?_, fun h => by rw [listing, listing, h]⟩
  have hb := partsOfListing?_listing _ fun _ => newline_not_mem_label millis g withStrings
  have hb' := partsOfListing?_listing _ fun _ => newline_not_mem_label millis' g' withStrings'
  rw [h, hb'] at hb
  exact (Option.some.inj hb).symm

theorem toJson_inj {b b' : Breakdown} : b.toJson = b'.toJson ↔ b.parts = b'.parts := by
  refine ⟨fun h => ?_, fun h => by rw [toJson, toJson, fields, fields, h]⟩
  have hb := Part.ofFields?_fields b.parts
  have hb' := Part.ofFields?_fields b'.parts
  have hfields : b.fields = b'.fields := Json.obj.inj h
  rw [← fields, hfields] at hb
  rw [← fields, hb] at hb'
  exact Option.some.inj hb'

/-- The fields of a breakdown have different keys, are as many as announced and hold its parts in
their order, as does its text in JSON of either layout, and as do its lines. So two breakdowns
are written alike in JSON exactly if their lines are alike, and exactly if granularity, padding and
whole seconds are the same. -/
theorem ofMillis_readBack :
    (∀ (millis : Int64) (g : Granularity) (withStrings : Bool),
      let b := ofMillis millis g withStrings
      (b.fields.map Prod.fst).Nodup ∧
      b.fields.length = b.fieldCount ∧
      Part.ofFields? b.fields = some b.parts ∧
      partsOfJson? b.serialized = some b.parts ∧
      partsOfJson? (Command.splitOutput b .json) = some b.parts ∧
      partsOfListing? (Command.splitOutput b .text) = some b.parts) ∧
    ∀ (millis millis' : Int64) (g g' : Granularity) (withStrings withStrings' : Bool),
      let b := ofMillis millis g withStrings
      let b' := ofMillis millis' g' withStrings'
      (b.serialized = b'.serialized ↔ b.listing = b'.listing) ∧
      (Command.splitOutput b .json = Command.splitOutput b' .json ↔ b.listing = b'.listing) ∧
      (b.listing = b'.listing ↔ g = g' ∧ withStrings = withStrings' ∧
        max 0 (millis.toInt.tdiv 1000) = max 0 (millis'.toInt.tdiv 1000)) := by
  constructor
  · intro millis g withStrings b
    have hlabels : ∀ p ∈ b.parts, '\n' ∉ p.label.toList :=
      fun _ => newline_not_mem_label millis g withStrings
    exact ⟨nodup_keys millis g withStrings, length_fields b, Part.ofFields?_fields b.parts,
      partsOfJson?_of_read b (Json.read_compact b.toJson),
      partsOfJson?_of_read b (Json.read_pretty_newline b.toJson),
      partsOfListing?_listing b hlabels⟩
  · intro millis millis' g g' withStrings withStrings' b b'
    have hjson : b.toJson = b'.toJson ↔ b.listing = b'.listing :=
      toJson_inj.trans listing_ofMillis_inj.symm
    exact ⟨Json.compact_inj.trans hjson, Json.pretty_newline_inj.trans hjson,
      (listing_ofMillis_inj.trans parts_ofMillis_inj).trans
        (and_congr_right' (and_congr_right' wholeSeconds_eq_iff))⟩

example : partsOfListing? "minute: 61 (61)\nsecond: 5 (05)\n" =
    some [⟨.minute, 61, some "61"⟩, ⟨.second, 5, some "05"⟩] := by rfl

end Breakdown

end DurationFormat
