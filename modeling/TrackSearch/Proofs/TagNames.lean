import TrackSearch.Proofs.LetterCase
import TrackSearch.Proofs.Words
import TrackSearch.Track

/-! Tag names are their own normal form and their own lowercase. A criterion finds the tag that its name
stands for, unless a final sigma is lowercased otherwise in the name than letter by letter in the tag. -/

namespace TrackSearch

namespace TagName

theorem lowerEach_joinWords (ws : List (List Char)) :
    Text.lowerEach (joinWords ws) = joinWords (ws.map Text.lowerEach) := by
  have hspace : ∀ cs, Text.lowerEach (' ' :: cs) = ' ' :: Text.lowerEach cs := fun _ => rfl
  induction ws with
  | nil => rfl
  | cons v ws ih =>
    cases ws with
    | nil => simp [joinWords]
    | cons w ws =>
      rw [joinWords_cons_cons, Text.lowerEach, List.flatMap_append, ← Text.lowerEach, ← Text.lowerEach]
      rw [hspace, ih]
      exact (joinWords_cons_cons _ _ _).symm

theorem normalize?_of_words {cs : List Char} (h : Text.words cs ≠ []) :
    normalize? cs = some (joinWords ((Text.words cs).map Text.lowerEach)) := by
  unfold normalize?
  split
  · contradiction
  · rfl

theorem normalize?_eq_some {cs normal : List Char} (h : normalize? cs = some normal) :
    ∃ ws, ws ≠ [] ∧ (∀ w ∈ ws, Text.IsWord w) ∧ normal = joinWords (ws.map Text.lowerEach) := by
  have hne : Text.words cs ≠ [] := by
    intro hnil
    simp [normalize?, hnil] at h
  rw [normalize?_of_words hne] at h
  exact ⟨_, hne, fun _ => Text.isWord_of_mem_words, (Option.some.inj h).symm⟩

theorem isWord_lowerEach {word : List Char} (h : Text.IsWord word) : Text.IsWord (Text.lowerEach word) :=
  ⟨Text.lowerEach_ne_nil h.1, fun _ => Text.isBlank_of_mem_lowerEach h.2⟩

theorem words_of_normalize? {cs normal : List Char} (h : normalize? cs = some normal) :
    Text.words normal = (Text.words cs).map Text.lowerEach ∧ normal = joinWords (Text.words normal) := by
  have hne : Text.words cs ≠ [] := by
    intro hnil
    simp [normalize?, hnil] at h
  rw [normalize?_of_words hne] at h
  have hwords : Text.words normal = (Text.words cs).map Text.lowerEach := by
    rw [← Option.some.inj h]
    refine Text.words_joinWords fun w hw => ?_
    obtain ⟨v, hv, rfl⟩ := List.mem_map.1 hw
    exact isWord_lowerEach (Text.isWord_of_mem_words hv)
  exact ⟨hwords, by rw [hwords, Option.some.inj h]⟩

theorem normalize?_normal {cs normal : List Char} (h : normalize? cs = some normal) :
    normalize? normal = some normal := by
  obtain ⟨hwords, hjoined⟩ := words_of_normalize? h
  have hne : Text.words normal ≠ [] := by
    intro hnil
    rw [hwords, List.map_eq_nil_iff] at hnil
    simp [normalize?, hnil] at h
  have hsmall : (Text.words normal).map Text.lowerEach = Text.words normal := by
    simp [hwords, Text.lowerEach_lowerEach]
  rw [normalize?_of_words hne, hsmall, ← hjoined]

theorem isSmall_of_normalize? {cs normal : List Char} (h : normalize? cs = some normal) :
    ∀ c ∈ normal, Text.IsSmall c := by
  obtain ⟨ws, -, -, rfl⟩ := normalize?_eq_some h
  rw [← lowerEach_joinWords]
  exact fun _ => Text.isSmall_of_mem_lowerEach

theorem ofText?_eq_some_iff {text : String} {tag : TagName} :
    ofText? text = some tag ↔ normalize? text.toList = some tag.text.toList := by
  unfold ofText?
  split
  · next cs hcs =>
    obtain ⟨name, hname⟩ := tag
    constructor
    · intro h
      obtain rfl : String.ofList cs = name := congrArg TagName.text (Option.some.inj h)
      rwa [String.toList_ofList]
    · intro h
      obtain rfl : cs = name.toList := Option.some.inj (hcs.symm.trans h)
      simp only [String.ofList_toList]
  · next hnone => simp [hnone]

theorem normalize?_text (tag : TagName) : normalize? tag.text.toList = some tag.text.toList := by
  obtain ⟨cs, hcs⟩ := tag.isNormal
  exact normalize?_normal hcs

theorem ofText?_text (tag : TagName) : ofText? tag.text = some tag :=
  ofText?_eq_some_iff.2 tag.normalize?_text

theorem lower_text (tag : TagName) : Text.lower tag.text.toList = tag.text.toList :=
  Text.lower_of_small (isSmall_of_normalize? tag.normalize?_text)

def IsSpaced (name : String) : Prop :=
  Text.allBlank name.toList = false ∧ joinWords (Text.words name.toList) = name.toList

instance : DecidablePred IsSpaced := fun _ => inferInstanceAs (Decidable (_ ∧ _))

theorem text_of_isSpaced {name : String} {tag : TagName} (hspaced : IsSpaced name)
    (htag : ofText? name = some tag) : tag.text.toList = Text.lowerEach name.toList := by
  have hne : Text.words name.toList ≠ [] := by
    rw [Ne, Text.words_eq_nil_iff, hspaced.1]
    decide
  have hnormal := ofText?_eq_some_iff.1 htag
  rw [normalize?_of_words hne, ← lowerEach_joinWords, hspaced.2] at hnormal
  exact (Option.some.inj hnormal).symm

end TagName

open Query

theorem Track.hasTag_iff {t : Track} {name : String} : t.record.hasTag name = true ↔
    ∃ tag ∈ t.tags, tag.text.toList = Text.lower name.toList := by
  simp only [Record.hasTag, Track.record, List.any_map, List.any_eq_true, Function.comp_apply,
    sameIgnoringCase, beq_iff_eq, TagName.lower_text]
  simp only [eq_comm]

/-- A criterion finds the tag that its name stands for on every track with that tag, exactly if the name
has no final sigma. -/
theorem TagName.found_iff_no_final_sigma {name : String} {tag : TagName}
    (hspaced : IsSpaced name) (htag : ofText? name = some tag) :
    (∀ t : Track, tag ∈ t.tags → (Predicate.tagIncluded name).holds t.record = true ∧
        (Predicate.tagExcluded name).holds t.record = false) ↔
      ¬ Text.HasFinalSigma name.toList := by
  have htext := text_of_isSpaced hspaced htag
  simp only [Predicate.holds, Bool.not_eq_false', and_self, Track.hasTag_iff]
  rw [← Text.lower_eq_lowerEach_iff, ← htext]
  constructor
  · intro h
    obtain ⟨found, hfound, hlower⟩ := h ⟨⟨0⟩, name, none, none, none, false, [tag]⟩ List.mem_cons_self
    rw [← hlower, List.mem_singleton.1 hfound]
  · intro hlower t ht
    exact ⟨tag, ht, hlower.symm⟩

theorem TagName.found_behind_inner_sigma :
    ∃ tag, IsSpaced "ΣΟΛΟ Live" ∧ ofText? "ΣΟΛΟ Live" = some tag ∧ tag.text = "σολο live" ∧
      ¬ Text.HasFinalSigma "ΣΟΛΟ Live".toList ∧
      ∀ t : Track, tag ∈ t.tags → (Predicate.tagIncluded "ΣΟΛΟ Live").holds t.record = true ∧
        (Predicate.tagExcluded "ΣΟΛΟ Live").holds t.record = false := by
  have hspaced : IsSpaced "ΣΟΛΟ Live" := by decide
  have htag : ofText? "ΣΟΛΟ Live" = some ⟨"σολο live", "ΣΟΛΟ Live".toList, by decide⟩ := by decide
  have hsigma : ¬ Text.HasFinalSigma "ΣΟΛΟ Live".toList := Text.lower_eq_lowerEach_iff.1 (by decide)
  exact ⟨_, hspaced, htag, rfl, hsigma, (found_iff_no_final_sigma hspaced htag).2 hsigma⟩

theorem TagName.final_sigma_not_found :
    ¬ ∀ (name : String) (tag : TagName) (t : Track), IsSpaced name → ofText? name = some tag →
      tag ∈ t.tags → (Predicate.tagIncluded name).holds t.record = true ∧
        (Predicate.tagExcluded name).holds t.record = false := by
  intro h
  have htag : ofText? "ΑΣ" = some ⟨"ασ", "ΑΣ".toList, by decide⟩ := by decide
  have hfound := h "ΑΣ" ⟨"ασ", "ΑΣ".toList, by decide⟩
    ⟨⟨0⟩, "ΑΣ", none, none, none, false, [⟨"ασ", "ΑΣ".toList, by decide⟩]⟩ (by decide) htag (by simp)
  revert hfound
  decide

end TrackSearch
