import TrackSearch.TagName

/-! The words of a text are not empty and hold no blanks, and words put together with single spaces are
found again. -/

namespace TrackSearch

theorem TagName.joinWords_cons_cons (v w : List Char) (ws : List (List Char)) :
    joinWords (v :: w :: ws) = v ++ ' ' :: joinWords (w :: ws) := by
  rw [joinWords, List.intercalate_cons_cons, List.append_assoc]
  rfl

namespace Text

def IsWord (word : List Char) : Prop := word ≠ [] ∧ ∀ c ∈ word, isBlank c = false

theorem isWord_of_mem_endWord {pending word : List Char} (hpending : ∀ c ∈ pending, isBlank c = false)
    (h : word ∈ endWord pending) : IsWord word := by
  unfold endWord at h
  split at h
  · simp at h
  · next hne =>
    obtain rfl := List.mem_singleton.1 h
    refine ⟨fun hnil => hne ?_, fun c hc => hpending c (List.mem_reverse.1 hc)⟩
    rw [List.reverse_eq_nil_iff.1 hnil]
    rfl

theorem isWord_of_mem_wordsFrom {pending cs word : List Char}
    (hpending : ∀ c ∈ pending, isBlank c = false) (h : word ∈ wordsFrom pending cs) : IsWord word := by
  induction cs generalizing pending with
  | nil => exact isWord_of_mem_endWord hpending h
  | cons c cs ih =>
    unfold wordsFrom at h
    split at h
    · rcases List.mem_append.1 h with h | h
      · exact isWord_of_mem_endWord hpending h
      · exact ih (by simp) h
    · next hc =>
      refine ih ?_ h
      rintro d (_ | ⟨_, hd⟩)
      · exact Bool.eq_false_iff.2 hc
      · exact hpending d hd

theorem isWord_of_mem_words {cs word : List Char} (h : word ∈ words cs) : IsWord word :=
  isWord_of_mem_wordsFrom (by simp) h

theorem wordsFrom_append {pending word : List Char} (h : ∀ c ∈ word, isBlank c = false) (cs : List Char) :
    wordsFrom pending (word ++ cs) = wordsFrom (word.reverse ++ pending) cs := by
  induction word generalizing pending with
  | nil => rfl
  | cons c word ih =>
    have hc : ¬ isBlank c = true := by simp [h c List.mem_cons_self]
    rw [List.cons_append, wordsFrom, if_neg hc, ih fun d hd => h d (List.mem_cons_of_mem c hd)]
    simp

theorem endWord_reverse {word : List Char} (h : IsWord word) : endWord word.reverse = [word] := by
  have hne : word.reverse.isEmpty = false := by simpa using h.1
  rw [endWord, hne]
  simp

theorem words_of_isWord {word : List Char} (h : IsWord word) : words word = [word] := by
  rw [words, ← List.append_nil word, wordsFrom_append h.2, List.append_nil, wordsFrom, endWord_reverse h]
  simp

theorem words_cons_space {word : List Char} (h : IsWord word) (cs : List Char) :
    words (word ++ ' ' :: cs) = word :: words cs := by
  rw [words, wordsFrom_append h.2, List.append_nil, wordsFrom, if_pos (by decide), endWord_reverse h]
  rfl

theorem words_joinWords {ws : List (List Char)} (h : ∀ w ∈ ws, IsWord w) :
    words (TagName.joinWords ws) = ws := by
  induction ws with
  | nil => rfl
  | cons w ws ih =>
    have hw : IsWord w := h w List.mem_cons_self
    have hws := ih fun v hv => h v (List.mem_cons_of_mem w hv)
    cases ws with
    | nil =>
      rw [TagName.joinWords, List.intercalate_singleton]
      exact words_of_isWord hw
    | cons v ws =>
      rw [TagName.joinWords_cons_cons, words_cons_space hw, hws]

theorem endWord_eq_nil_iff {pending : List Char} : endWord pending = [] ↔ pending = [] := by
  unfold endWord
  split
  · next h => simpa using h
  · next h => simpa using h

theorem wordsFrom_eq_nil_iff {pending cs : List Char} :
    wordsFrom pending cs = [] ↔ pending = [] ∧ allBlank cs = true := by
  induction cs generalizing pending with
  | nil => simp [wordsFrom, endWord_eq_nil_iff, allBlank]
  | cons c cs ih =>
    have hall : allBlank (c :: cs) = (isBlank c && allBlank cs) := List.all_cons
    rw [wordsFrom, hall]
    cases hc : isBlank c with
    | true => simp [List.append_eq_nil_iff, endWord_eq_nil_iff, ih]
    | false => simp [ih]

theorem words_eq_nil_iff {cs : List Char} : words cs = [] ↔ allBlank cs = true := by
  simp [words, wordsFrom_eq_nil_iff]

theorem trim_eq_self {cs : List Char} (hfirst : ∀ c ∈ cs.head?, isBlank c = false)
    (hlast : ∀ c ∈ cs.getLast?, isBlank c = false) : trim cs = cs := by
  have hkept : ∀ {ds : List Char}, (∀ c ∈ ds.head?, isBlank c = false) → trimLeft ds = ds := by
    intro ds hhead
    cases ds with
    | nil => rfl
    | cons c ds => exact List.dropWhile_cons_of_neg (by simp [hhead c rfl])
  rw [trim, hkept hfirst, trimRight, hkept (by rwa [List.head?_reverse]), List.reverse_reverse]

end Text

end TrackSearch
