import Mathlib.Data.List.Induction
import TrackSearch.Proofs.HexNumeral

/-! The spellings of an identifier: its 32 digits, bare or with hyphens, the latter also in braces or behind
the scheme, all of it in letters of either case. Just these are read, each as the identifier that it
spells; the four forms differ in length, so no text has two of them. -/

namespace TrackSearch

namespace Text

theorem toNat_toLower (c : Char) :
    c.toLower.toNat = if 65 ≤ c.toNat ∧ c.toNat ≤ 90 then c.toNat + 32 else c.toNat := by
  have hcapital : (c.val ≥ 'A'.val ∧ c.val ≤ 'Z'.val) ↔ (65 ≤ c.toNat ∧ c.toNat ≤ 90) := Iff.rfl
  unfold Char.toLower
  by_cases h : 65 ≤ c.toNat ∧ c.toNat ≤ 90
  · rw [dif_pos (hcapital.2 h), if_pos h]
    show (c.val + ('a'.val - 'A'.val)).toNat = _
    rw [UInt32.toNat_add]
    show (c.toNat + 32) % _ = _
    omega
  · rw [dif_neg (mt hcapital.1 h), if_neg h]

theorem toLower_eq_iff {c d : Char} (hd : d.toNat < 65 ∨ 90 < d.toNat ∧ d.toNat < 97 ∨ 122 < d.toNat) :
    c.toLower = d ↔ c = d := by
  rw [← Char.toNat_inj, ← Char.toNat_inj, toNat_toLower]
  split <;> omega

theorem toNat_digitChar {d : Nat} (h : d < 16) :
    (Nat.digitChar d).toNat = if d < 10 then 48 + d else 87 + d := by
  decide +revert

theorem hexValue?_eq_some_iff {c : Char} {d : Nat} :
    hexValue? c = some d ↔ d < 16 ∧ c.toLower = Nat.digitChar d := by
  have hle : ∀ a b : Char, a ≤ b ↔ a.toNat ≤ b.toNat := fun _ _ => UInt32.le_iff_toNat_le
  have hcode : d < 16 → (c.toLower = Nat.digitChar d ↔
      (if 65 ≤ c.toNat ∧ c.toNat ≤ 90 then c.toNat + 32 else c.toNat) =
        if d < 10 then 48 + d else 87 + d) := by
    intro hd
    rw [← Char.toNat_inj, toNat_toLower, toNat_digitChar hd]
  rw [and_congr_right hcode]
  simp only [hexValue?, hle, Char.reduceToNat]
  repeat' split
  all_goals simp only [Option.some.injEq, reduceCtorEq, false_iff]
  all_goals omega

theorem readHex_append (value : Nat) (first second : List Char) :
    readHex value (first ++ second) = (readHex value first).bind fun n => readHex n second := by
  induction first generalizing value with
  | nil => rfl
  | cons c cs ih =>
    rw [List.cons_append, readHex, readHex]
    cases hexValue? c with
    | none => rfl
    | some d => exact ih _

theorem readHex_single_eq_some_iff {value n : Nat} {c : Char} :
    readHex value [c] = some n ↔ ∃ d < 16, c.toLower = Nat.digitChar d ∧ n = 16 * value + d := by
  unfold readHex readHex
  cases hc : hexValue? c with
  | none =>
    have hno : ∀ d, ¬ (d < 16 ∧ c.toLower = Nat.digitChar d) := fun d hd => by
      simp [hexValue?_eq_some_iff.2 hd] at hc
    simpa using fun d hd hlower => absurd ⟨hd, hlower⟩ (hno d)
  | some d =>
    obtain ⟨hd, hlower⟩ := hexValue?_eq_some_iff.1 hc
    constructor
    · intro h
      exact ⟨d, hd, hlower, (Option.some.inj h).symm⟩
    · rintro ⟨e, he, hother, rfl⟩
      rw [hexValue?_eq_some_iff.2 ⟨he, hother⟩, Option.some.injEq] at hc
      rw [hc]

theorem readHex_eq_some_iff {cs : List Char} {n : Nat} : readHex 0 cs = some n ↔
    n < 16 ^ cs.length ∧ cs.map Char.toLower = hexDigits cs.length n := by
  induction cs using List.reverseRecOn generalizing n with
  | nil => simp [readHex, hexDigits, eq_comm]
  | append_singleton cs c ih =>
    rw [readHex_append, Option.bind_eq_some_iff, List.map_append, List.length_append, List.length_singleton,
      hexDigits, List.map_singleton, List.append_singleton_inj, Nat.pow_succ]
    simp only [ih, readHex_single_eq_some_iff]
    constructor
    · rintro ⟨value, ⟨hvalue, hdigits⟩, d, hd, hlower, rfl⟩
      have hdiv : (16 * value + d) / 16 = value := by omega
      have hmod : (16 * value + d) % 16 = d := by omega
      rw [hdiv, hmod]
      exact ⟨by omega, hdigits, hlower⟩
    · rintro ⟨hn, hdigits, hlower⟩
      exact ⟨n / 16, ⟨by omega, hdigits⟩, n % 16, by omega, hlower, by omega⟩

theorem splitOn_map {f : Char → Char} {c : Char} (hf : ∀ d, f d = c ↔ d = c) (cs : List Char) :
    (cs.map f).splitOn c = (cs.splitOn c).map (List.map f) := by
  unfold List.splitOn
  induction cs with
  | nil => rfl
  | cons d cs ih =>
    rw [List.map_cons, List.splitOnP_cons_eq_if_modifyHead, List.splitOnP_cons_eq_if_modifyHead, ih]
    by_cases hd : d = c
    · simp [hd, (hf c).2 rfl]
    · have hne : f d ≠ c := mt (hf d).1 hd
      simp only [beq_iff_eq, hd, hne, if_false]
      cases cs.splitOnP (· == c) <;> simp

end Text

namespace TrackId

def spellings (id : TrackId) : List (List Char) :=
  [Text.hexDigits 32 id.bits.toNat, id.chars, Text.enclose '{' '}' id.chars, uuidScheme ++ id.chars]

def IsSpelledBy (id : TrackId) (cs : List Char) : Prop := cs.map Char.toLower ∈ id.spellings

instance (id : TrackId) (cs : List Char) : Decidable (id.IsSpelledBy cs) :=
  inferInstanceAs (Decidable (_ ∈ _))

variable {cs : List Char} {id : TrackId}

theorem ofDigits?_eq_some_iff :
    ofDigits? cs = some id ↔ cs.map Char.toLower = Text.hexDigits 32 id.bits.toNat := by
  unfold ofDigits?
  constructor
  · intro h
    rw [Option.ite_none_right_eq_some] at h
    obtain ⟨hlength, hread⟩ := h
    obtain ⟨n, hn, rfl⟩ := Option.map_eq_some_iff.1 hread
    obtain ⟨hbound, hdigits⟩ := Text.readHex_eq_some_iff.1 hn
    rw [hlength] at hbound hdigits
    have hvalue : (BitVec.ofNat 128 n).toNat = n := BitVec.toNat_ofNat n 128 ▸ Nat.mod_eq_of_lt hbound
    rw [hdigits, hvalue]
  · intro h
    have hlength : cs.length = 32 := by
      rw [← List.length_map (f := Char.toLower), h, Text.length_hexDigits]
    have hread : Text.readHex 0 cs = some id.bits.toNat :=
      Text.readHex_eq_some_iff.2 ⟨hlength ▸ id.bits.isLt, by rw [h, hlength]⟩
    rw [if_pos hlength, hread, Option.map_some, BitVec.ofNat_toNat, BitVec.setWidth_eq]

theorem groups_flatten {parts : List (List Char)} (h : parts.map List.length = [8, 4, 4, 4, 12]) :
    groups parts.flatten = parts := by
  simp only [List.map_eq_cons_iff, List.map_eq_nil_iff] at h
  obtain ⟨a, _, rfl, ha, b, _, rfl, hb, c, _, rfl, hc, d, _, rfl, hd, e, _, rfl, -, rfl⟩ := h
  simp [groups, List.drop_append, List.drop_eq_nil_of_le, ha, hb, hc, hd]

theorem ofHyphenated?_eq_some_iff : ofHyphenated? cs = some id ↔ cs.map Char.toLower = id.chars := by
  have hminus : ∀ c : Char, c.toLower = '-' ↔ c = '-' := fun _ => Text.toLower_eq_iff (by decide)
  have hsplit : (cs.map Char.toLower).splitOn '-' = (cs.splitOn '-').map (List.map Char.toLower) :=
    Text.splitOn_map hminus cs
  have hlengths : ((cs.map Char.toLower).splitOn '-').map List.length =
      (cs.splitOn '-').map List.length := by
    rw [hsplit, List.map_map]
    exact List.map_congr_left fun part _ => List.length_map _
  have hflatten : ((cs.map Char.toLower).splitOn '-').flatten =
      (cs.splitOn '-').flatten.map Char.toLower := by
    rw [hsplit, List.map_flatten]
  simp only [ofHyphenated?, Option.ite_none_right_eq_some, ofDigits?_eq_some_iff]
  rw [← hlengths, ← hflatten]
  constructor
  · rintro ⟨hgroups, hdigits⟩
    rw [chars, hyphenate_eq, ← hdigits, groups_flatten hgroups, List.intercalate_splitOn]
  · intro h
    rw [h, chars, splitOn_hyphenate (minus_notMem_hexDigits 32 _)]
    exact ⟨lengths_groups (Text.length_hexDigits 32 _), flatten_groups _⟩

theorem ofBraced?_eq_some_iff : (Text.between? '{' '}' cs).bind ofHyphenated? = some id ↔
    cs.map Char.toLower = Text.enclose '{' '}' id.chars := by
  have hopen : ∀ c : Char, c.toLower = '{' ↔ c = '{' := fun _ => Text.toLower_eq_iff (by decide)
  have hclose : ∀ c : Char, c.toLower = '}' ↔ c = '}' := fun _ => Text.toLower_eq_iff (by decide)
  simp only [Option.bind_eq_some_iff, Text.between?_eq_some_iff, ofHyphenated?_eq_some_iff]
  constructor
  · rintro ⟨inner, rfl, hinner⟩
    simp [Text.enclose, hinner, (hopen _).2, (hclose _).2]
  · intro h
    simp only [Text.enclose, List.map_eq_cons_iff, List.map_eq_append_iff, List.map_eq_nil_iff] at h
    obtain ⟨c, _, rfl, hc, inner, _, rfl, hinner, d, _, rfl, hd, rfl⟩ := h
    rw [hopen] at hc
    rw [hclose] at hd
    exact ⟨inner, by rw [hc, hd]; rfl, hinner⟩

theorem ofScheme?_eq_some_iff : (afterScheme? cs).bind ofHyphenated? = some id ↔
    cs.map Char.toLower = uuidScheme ++ id.chars := by
  simp only [afterScheme?, Option.bind_eq_some_iff, Option.ite_none_right_eq_some, Option.some.injEq,
    ofHyphenated?_eq_some_iff]
  constructor
  · rintro ⟨rest, ⟨hscheme, rfl⟩, hrest⟩
    rw [← hscheme, ← hrest, ← List.map_append, List.take_append_drop]
  · intro h
    refine ⟨_, ⟨?_, rfl⟩, ?_⟩
    · rw [List.map_take, h, List.take_left]
    · rw [List.map_drop, h, List.drop_left]

theorem length_of_ofDigits? (h : ofDigits? cs = some id) : cs.length = 32 := by
  rw [← List.length_map (f := Char.toLower), ofDigits?_eq_some_iff.1 h, Text.length_hexDigits]

theorem length_of_ofHyphenated? (h : ofHyphenated? cs = some id) : cs.length = 36 := by
  rw [← List.length_map (f := Char.toLower), ofHyphenated?_eq_some_iff.1 h, length_chars]

theorem length_of_ofBraced? (h : (Text.between? '{' '}' cs).bind ofHyphenated? = some id) :
    cs.length = 38 := by
  rw [← List.length_map (f := Char.toLower), ofBraced?_eq_some_iff.1 h]
  simp [Text.enclose, length_chars]

theorem length_of_ofScheme? (h : (afterScheme? cs).bind ofHyphenated? = some id) : cs.length = 45 := by
  have hscheme : uuidScheme.length = 9 := by decide
  rw [← List.length_map (f := Char.toLower), ofScheme?_eq_some_iff.1 h, List.length_append, hscheme,
    length_chars]

theorem orElse_eq_some_iff {first second : Option TrackId}
    (h : ∀ one other, first = some one → second ≠ some other) :
    (first <|> second) = some id ↔ first = some id ∨ second = some id := by
  cases first with
  | none => simp
  | some one => simpa using fun hother => absurd hother (h one id rfl)

theorem ofSpelling?_eq_some_iff : ofSpelling? cs = some id ↔ id.IsSpelledBy cs := by
  -- The forms have different lengths, so that no text is read in two of them.
  have hlast : ∀ other, ((Text.between? '{' '}' cs).bind ofHyphenated? <|>
        (afterScheme? cs).bind ofHyphenated?) = some other ↔
      (Text.between? '{' '}' cs).bind ofHyphenated? = some other ∨
        (afterScheme? cs).bind ofHyphenated? = some other := fun _ =>
    orElse_eq_some_iff fun _ _ hbraced hscheme => by
      have := length_of_ofBraced? hbraced
      have := length_of_ofScheme? hscheme
      omega
  have hhyphens : ∀ other, (ofHyphenated? cs <|> (Text.between? '{' '}' cs).bind ofHyphenated? <|>
        (afterScheme? cs).bind ofHyphenated?) = some other ↔
      ofHyphenated? cs = some other ∨ (Text.between? '{' '}' cs).bind ofHyphenated? = some other ∨
        (afterScheme? cs).bind ofHyphenated? = some other := fun other => by
    rw [← hlast other]
    refine orElse_eq_some_iff fun _ late hhyphenated hlate => ?_
    have := length_of_ofHyphenated? hhyphenated
    have := ((hlast late).1 hlate).imp length_of_ofBraced? length_of_ofScheme?
    omega
  rw [ofSpelling?, orElse_eq_some_iff, hhyphens]
  · simp [ofDigits?_eq_some_iff, ofHyphenated?_eq_some_iff, ofBraced?_eq_some_iff,
      ofScheme?_eq_some_iff, IsSpelledBy, spellings]
  · intro _ late hdigits hlate
    have := length_of_ofDigits? hdigits
    have := ((hhyphens late).1 hlate).imp length_of_ofHyphenated?
      (Or.imp length_of_ofBraced? length_of_ofScheme?)
    omega

theorem IsSpelledBy.unique {other : TrackId} (h : id.IsSpelledBy cs) (hother : other.IsSpelledBy cs) :
    id = other :=
  Option.some.inj ((ofSpelling?_eq_some_iff.2 h).symm.trans (ofSpelling?_eq_some_iff.2 hother))

end TrackId

end TrackSearch
