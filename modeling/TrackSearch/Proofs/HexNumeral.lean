import Mathlib.Algebra.Group.Nat.Defs
import TrackSearch.TrackId

/-! Hexadecimal numerals of a fixed width read back as the number they show, and so do identifiers in
their hyphenated form. -/

namespace TrackSearch

namespace Text

theorem hexValue?_digitChar {d : Nat} (h : d < 16) : hexValue? (Nat.digitChar d) = some d := by
  decide +revert

theorem length_hexDigits (width n : Nat) : (hexDigits width n).length = width := by
  induction width generalizing n with
  | zero => rfl
  | succ width ih => rw [hexDigits, List.length_append, ih, List.length_singleton]

theorem readHex_hexDigits (width n value : Nat) (rest : List Char) :
    readHex value (hexDigits width n ++ rest) =
      readHex (16 ^ width * value + n % 16 ^ width) rest := by
  induction width generalizing n rest with
  | zero => simp [hexDigits, Nat.mod_one]
  | succ width ih =>
    have hdigit : hexValue? (Nat.digitChar (n % 16)) = some (n % 16) :=
      hexValue?_digitChar (Nat.mod_lt n (by decide))
    have hmod : n % 16 ^ (width + 1) = n % 16 + 16 * (n / 16 % 16 ^ width) := by
      rw [Nat.pow_succ, Nat.mul_comm]
      exact Nat.mod_mul
    rw [hexDigits, List.append_assoc, ih, List.singleton_append, readHex, hdigit, hmod]
    dsimp only
    congr 1
    rw [Nat.pow_succ, Nat.mul_add, Nat.mul_comm (16 ^ width) 16, Nat.mul_assoc]
    omega

theorem exists_digit_of_mem_hexDigits {width n : Nat} {c : Char} (h : c ∈ hexDigits width n) :
    ∃ d < 16, c = Nat.digitChar d := by
  induction width generalizing n with
  | zero => simp [hexDigits] at h
  | succ width ih =>
    rcases List.mem_append.1 h with h | h
    · exact ih h
    · exact ⟨n % 16, Nat.mod_lt n (by decide), List.mem_singleton.1 h⟩

theorem hexValue?_of_mem_hexDigits {width n : Nat} {c : Char} (h : c ∈ hexDigits width n) :
    hexValue? c ≠ none := by
  obtain ⟨d, hd, rfl⟩ := exists_digit_of_mem_hexDigits h
  rw [hexValue?_digitChar hd]
  exact Option.some_ne_none d

end Text

namespace TrackId

theorem minus_notMem_hexDigits (width n : Nat) : '-' ∉ Text.hexDigits width n :=
  fun h => Text.hexValue?_of_mem_hexDigits h rfl

theorem ofDigits?_hexDigits (id : TrackId) : ofDigits? (Text.hexDigits 32 id.bits.toNat) = some id := by
  have hread := Text.readHex_hexDigits 32 id.bits.toNat 0 []
  have hbound : id.bits.toNat < 16 ^ 32 := id.bits.isLt
  rw [List.append_nil, Nat.mul_zero, Nat.zero_add, Nat.mod_eq_of_lt hbound] at hread
  rw [ofDigits?, if_pos (Text.length_hexDigits 32 _), hread, Text.readHex, Option.map_some]
  rw [BitVec.ofNat_toNat, BitVec.setWidth_eq]

def groups (cs : List Char) : List (List Char) :=
  [cs.take 8, (cs.drop 8).take 4, (cs.drop 12).take 4, (cs.drop 16).take 4, cs.drop 20]

theorem hyphenate_eq (cs : List Char) : hyphenate cs = List.intercalate ['-'] (groups cs) := by
  simp [hyphenate, groups, List.intercalate_cons_cons, List.intercalate_singleton]

theorem flatten_groups (cs : List Char) : (groups cs).flatten = cs := by
  have hjoin : ∀ n width, (cs.drop n).take width ++ cs.drop (n + width) = cs.drop n := by
    intro n width
    rw [← List.drop_drop]
    exact List.take_append_drop width _
  simp only [groups, List.flatten_cons, List.flatten_nil, List.append_nil]
  rw [hjoin 16 4, hjoin 12 4, hjoin 8 4, List.take_append_drop]

theorem splitOn_hyphenate {cs : List Char} (h : '-' ∉ cs) : (hyphenate cs).splitOn '-' = groups cs := by
  have hparts : ∀ group ∈ groups cs, '-' ∉ group := by
    intro group hgroup hmem
    refine h ?_
    rw [← flatten_groups cs]
    exact List.mem_flatten.2 ⟨group, hgroup, hmem⟩
  rw [hyphenate_eq]
  exact List.splitOn_intercalate '-' hparts (by simp [groups])

theorem lengths_groups {cs : List Char} (h : cs.length = 32) :
    (groups cs).map List.length = [8, 4, 4, 4, 12] := by
  simp [groups, h]

theorem ofHyphenated?_hyphenate {cs : List Char} (hlength : cs.length = 32) (hminus : '-' ∉ cs) :
    ofHyphenated? (hyphenate cs) = ofDigits? cs := by
  simp only [ofHyphenated?, splitOn_hyphenate hminus]
  rw [if_pos (lengths_groups hlength), flatten_groups]

theorem length_chars (id : TrackId) : id.chars.length = 36 := by
  simp [chars, hyphenate, Text.length_hexDigits]

theorem ofSpelling?_chars (id : TrackId) : ofSpelling? id.chars = some id := by
  have hlength : id.chars.length ≠ 32 := by simp [length_chars]
  have hhyphenated : ofHyphenated? id.chars = some id := by
    rw [chars, ofHyphenated?_hyphenate (Text.length_hexDigits 32 _) (minus_notMem_hexDigits 32 _)]
    exact id.ofDigits?_hexDigits
  rw [ofSpelling?, ofDigits?, if_neg hlength, hhyphenated]
  rfl

end TrackId

end TrackSearch
