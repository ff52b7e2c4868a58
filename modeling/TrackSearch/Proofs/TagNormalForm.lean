import TrackSearch.Proofs.TagNames

/-! The normal form of a tag name: its words in small letters with single spaces between them. It depends
on the words alone and not on the blanks that separate them, and has as many words itself. -/

namespace TrackSearch

namespace Text

inductive Spells : List (List Char) → List Char → Prop
  | blank {gap : List Char} (gap_blank : allBlank gap = true) : Spells [] gap
  | word {gap word rest : List Char} {ws : List (List Char)} (gap_blank : allBlank gap = true)
      (isWord : IsWord word) (ends : ∀ c ∈ rest.head?, isBlank c = true) (others : Spells ws rest) :
      Spells (word :: ws) (gap ++ (word ++ rest))

def SingleSpaced (cs : List Char) : Prop :=
  ∀ before c after, cs = before ++ c :: after → isBlank c = true →
    c = ' ' ∧ (∃ d ∈ before.getLast?, isBlank d = false) ∧ ∃ d ∈ after.head?, isBlank d = false

section

variable {gap word cs rest : List Char} {ws : List (List Char)}

theorem words_gap_append (h : allBlank gap = true) (cs : List Char) : words (gap ++ cs) = words cs := by
  induction gap with
  | nil => rfl
  | cons c gap ih =>
    rw [allBlank_cons, Bool.and_eq_true] at h
    rw [List.cons_append, words, wordsFrom, if_pos h.1]
    exact ih h.2

theorem words_append_of_ends (hword : IsWord word) (hend : ∀ c ∈ rest.head?, isBlank c = true) :
    words (word ++ rest) = word :: words rest := by
  rw [words, wordsFrom_append hword.2, List.append_nil]
  cases rest with
  | nil => rw [wordsFrom, endWord_reverse hword]; rfl
  | cons c rest =>
    have hc : isBlank c = true := hend c rfl
    rw [wordsFrom, if_pos hc, endWord_reverse hword, words, wordsFrom, if_pos hc]
    rfl

theorem Spells.gap_append (h : Spells ws cs) (hgap : allBlank gap = true) : Spells ws (gap ++ cs) := by
  have hboth : ∀ {more : List Char}, allBlank more = true → allBlank (gap ++ more) = true := by
    intro more hmore
    rw [allBlank, List.all_append, Bool.and_eq_true]
    exact ⟨hgap, hmore⟩
  cases h with
  | blank hmore => exact .blank (hboth hmore)
  | word hmore isWord ends others =>
    rw [← List.append_assoc]
    exact .word (hboth hmore) isWord ends others

theorem Spells.word_append (hword : IsWord word) (hend : ∀ c ∈ rest.head?, isBlank c = true)
    (h : Spells ws rest) : Spells (word :: ws) (word ++ rest) :=
  Spells.word (rfl : allBlank [] = true) hword hend h

theorem spells_wordsFrom {pending : List Char} (hpending : ∀ c ∈ pending, isBlank c = false)
    (cs : List Char) : Spells (wordsFrom pending cs) (pending.reverse ++ cs) := by
  have hword : pending ≠ [] → IsWord pending.reverse := fun hne =>
    ⟨fun hnil => hne (List.reverse_eq_nil_iff.1 hnil), fun c hc => hpending c (List.mem_reverse.1 hc)⟩
  induction cs generalizing pending with
  | nil =>
    by_cases hne : pending = []
    · subst hne
      exact .blank rfl
    · rw [wordsFrom, ← List.reverse_reverse pending, endWord_reverse (hword hne), List.reverse_reverse]
      exact .word_append (hword hne) (by simp) (.blank rfl)
  | cons c cs ih =>
    rw [wordsFrom]
    cases hc : isBlank c with
    | true =>
      have hgap : allBlank [c] = true := by simp [allBlank, hc]
      have hrest : Spells (wordsFrom [] cs) (c :: cs) := (ih (by simp) (by simp)).gap_append hgap
      by_cases hne : pending = []
      · subst hne
        exact hrest
      · rw [if_pos rfl, ← List.reverse_reverse pending, endWord_reverse (hword hne),
          List.reverse_reverse]
        exact .word_append (hword hne) (by simp [hc]) hrest
    | false =>
      have hmore : ∀ d ∈ c :: pending, isBlank d = false := List.forall_mem_cons.2 ⟨hc, hpending⟩
      have hrest := ih hmore fun _ =>
        ⟨by simp, fun d hd => hmore d (List.mem_reverse.1 hd)⟩
      simpa using hrest

theorem spells_iff_words : Spells ws cs ↔ words cs = ws := by
  constructor
  · intro h
    induction h with
    | blank hgap => exact words_eq_nil_iff.2 hgap
    | word hgap hword hend _ ih => rw [words_gap_append hgap, words_append_of_ends hword hend, ih]
  · rintro rfl
    exact spells_wordsFrom (by simp) cs

theorem split_at_blank {before after : List Char} {c : Char} (hword : ∀ d ∈ word, isBlank d = false)
    (hblank : isBlank c = true) (h : word ++ ' ' :: rest = before ++ c :: after) :
    (before = word ∧ c = ' ' ∧ after = rest) ∨
      ∃ lead, before = word ++ ' ' :: lead ∧ rest = lead ++ c :: after := by
  induction word generalizing before with
  | nil =>
    cases before with
    | nil =>
      obtain ⟨rfl, rfl⟩ := List.cons.inj h
      exact Or.inl ⟨rfl, rfl, rfl⟩
    | cons d lead =>
      obtain ⟨rfl, hrest⟩ := List.cons.inj h
      exact Or.inr ⟨lead, rfl, hrest⟩
  | cons d word ih =>
    obtain ⟨hd, hword⟩ := List.forall_mem_cons.1 hword
    cases before with
    | nil =>
      obtain ⟨rfl, -⟩ := List.cons.inj h
      simp [hblank] at hd
    | cons e before =>
      obtain ⟨rfl, hrest⟩ := List.cons.inj h
      rcases ih hword hrest with ⟨rfl, hc, hafter⟩ | ⟨lead, rfl, hlater⟩
      · exact Or.inl ⟨rfl, hc, hafter⟩
      · exact Or.inr ⟨lead, rfl, hlater⟩

theorem IsWord.exists_getLast? (h : IsWord word) : ∃ d ∈ word.getLast?, isBlank d = false :=
  ⟨word.getLast h.1, List.getLast?_eq_some_getLast h.1, h.2 _ (List.getLast_mem h.1)⟩

theorem SingleSpaced.trim_eq (h : SingleSpaced cs) : trim cs = cs := by
  refine trim_eq_self (fun c hc => ?_) fun c hc => ?_
  · obtain ⟨rest, rfl⟩ := List.head?_eq_some_iff.1 hc
    refine Bool.eq_false_iff.2 fun hblank => ?_
    obtain ⟨-, ⟨d, hd, -⟩, -⟩ := h [] c rest rfl hblank
    simp at hd
  · obtain ⟨front, rfl⟩ := List.getLast?_eq_some_iff.1 hc
    refine Bool.eq_false_iff.2 fun hblank => ?_
    obtain ⟨-, -, d, hd, -⟩ := h front c [] rfl hblank
    simp at hd

end

end Text

namespace TagName

open Text

theorem exists_head?_joinWords {word : List Char} (h : IsWord word) (ws : List (List Char)) :
    ∃ d ∈ (joinWords (word :: ws)).head?, isBlank d = false := by
  obtain ⟨d, rest, rfl⟩ := List.exists_cons_of_ne_nil h.1
  refine ⟨d, ?_, h.2 d List.mem_cons_self⟩
  cases ws with
  | nil => simp [joinWords]
  | cons v ws => simp [joinWords_cons_cons]

theorem singleSpaced_joinWords {ws : List (List Char)} (h : ∀ w ∈ ws, IsWord w) :
    SingleSpaced (joinWords ws) := by
  induction ws with
  | nil => simp [SingleSpaced, joinWords]
  | cons v ws ih =>
    have hv : IsWord v := h v List.mem_cons_self
    have hws : ∀ w ∈ ws, IsWord w := fun w hw => h w (List.mem_cons_of_mem v hw)
    intro before c after hsplit hblank
    cases ws with
    | nil =>
      rw [joinWords, List.intercalate_singleton] at hsplit
      have hc := hv.2 c (by simp [hsplit])
      simp [hblank] at hc
    | cons w ws =>
      rw [joinWords_cons_cons] at hsplit
      rcases split_at_blank hv.2 hblank hsplit with ⟨rfl, rfl, rfl⟩ | ⟨lead, rfl, hlater⟩
      · exact ⟨rfl, hv.exists_getLast?, exists_head?_joinWords (hws w List.mem_cons_self) ws⟩
      · obtain ⟨hspace, ⟨d, hd, hlead⟩, hafter⟩ := ih hws lead c after hlater hblank
        refine ⟨hspace, ⟨d, ?_, hlead⟩, hafter⟩
        obtain ⟨front, rfl⟩ := List.getLast?_eq_some_iff.1 hd
        rw [← List.cons_append, ← List.append_assoc]
        exact List.getLast?_concat

variable {cs other normal : List Char}

theorem normalize?_eq_none_iff : normalize? cs = none ↔ allBlank cs = true := by
  rw [← words_eq_nil_iff]
  by_cases hne : words cs = []
  · simp [normalize?, hne]
  · simp [normalize?_of_words hne, hne]

theorem normalize?_eq_iff : normalize? cs = normalize? other ↔
    (words cs).map lowerEach = (words other).map lowerEach := by
  have hnone : ∀ {ds : List Char}, normalize? ds = none → (words ds).map lowerEach = [] := by
    intro ds hds
    rw [words_eq_nil_iff.2 (normalize?_eq_none_iff.1 hds), List.map_nil]
  constructor
  · intro h
    cases hcs : normalize? cs with
    | none => rw [hnone hcs, hnone (h ▸ hcs)]
    | some normal => rw [← (words_of_normalize? hcs).1, (words_of_normalize? (h ▸ hcs)).1]
  · intro h
    by_cases hnil : words cs = []
    · have hother : words other = [] := by simpa [hnil] using h.symm
      rw [normalize?_eq_none_iff.2 (words_eq_nil_iff.1 hnil),
        normalize?_eq_none_iff.2 (words_eq_nil_iff.1 hother)]
    · have hother : words other ≠ [] := by
        rintro hother
        simp [hother, hnil] at h
      rw [normalize?_of_words hnil, normalize?_of_words hother, h]

/-- Exactly the blank texts have no normal form. A normal form is not empty, is trimmed, has no blanks but
single spaces between its words, of which there are as many as in the text, and is its own normal form. Two
texts have the same just if the words that they are made of agree in small letters. -/
theorem normal_form_canonical (cs : List Char) :
    (normalize? cs = none ↔ allBlank cs = true) ∧
      (∀ normal, normalize? cs = some normal → normal ≠ [] ∧ trim normal = normal ∧
        SingleSpaced normal ∧ (words normal).length = (words cs).length ∧
        normalize? normal = some normal) ∧
      ∀ ws other others, Spells ws cs → Spells others other →
        (normalize? cs = normalize? other ↔ ws.map lowerEach = others.map lowerEach) := by
  refine ⟨normalize?_eq_none_iff, fun normal h => ?_, fun ws other others hcs hother => ?_⟩
  · obtain ⟨hwords, hjoined⟩ := words_of_normalize? h
    have hspaced : SingleSpaced normal := by
      rw [hjoined]
      exact singleSpaced_joinWords fun _ => isWord_of_mem_words
    refine ⟨?_, hspaced.trim_eq, hspaced, by rw [hwords, List.length_map], normalize?_normal h⟩
    rintro rfl
    exact absurd (normalize?_normal h) (by decide)
  · rw [normalize?_eq_iff, spells_iff_words.1 hcs, spells_iff_words.1 hother]

theorem normal_form_canonical_mixed_blanks :
    normalize? "\u00a0ΟΔΟΣ \tİn ".toList = some "οδοσ i\u0307n".toList ∧
      Spells ["ΟΔΟΣ".toList, "İn".toList] "\u00a0ΟΔΟΣ \tİn ".toList ∧
      Spells ["οδοΣ".toList, "i\u0307N".toList] "οδοΣ\u3000i\u0307N".toList ∧
      SingleSpaced "οδοσ i\u0307n".toList ∧
      normalize? "\u00a0ΟΔΟΣ \tİn ".toList = normalize? "οδοΣ\u3000i\u0307N".toList := by
  have hnormal : normalize? "\u00a0ΟΔΟΣ \tİn ".toList = some "οδοσ i\u0307n".toList := by decide
  have hmixed : Spells ["ΟΔΟΣ".toList, "İn".toList] "\u00a0ΟΔΟΣ \tİn ".toList :=
    spells_iff_words.2 (by decide)
  have hwide : Spells ["οδοΣ".toList, "i\u0307N".toList] "οδοΣ\u3000i\u0307N".toList :=
    spells_iff_words.2 (by decide)
  obtain ⟨-, hform, hsame⟩ := normal_form_canonical "\u00a0ΟΔΟΣ \tİn ".toList
  exact ⟨hnormal, hmixed, hwide, (hform _ hnormal).2.2.1, (hsame _ _ _ hmixed hwide).2 (by decide)⟩

end TagName

end TrackSearch
