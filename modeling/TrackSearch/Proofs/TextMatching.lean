import TrackSearch.Proofs.LowercaseWithin
import TrackSearch.Query.TextMap

/-! Matching compares texts by their lowercase only, so texts can be exchanged for others with the same
lowercase on either side, such as that lowercase itself. A text is found in every field that it is written
in unless it has an open sigma, which may be lowercased otherwise there than alone. -/

namespace TrackSearch

namespace Query

theorem lowercase_eq_iff {a b : String} :
    lowercase a = lowercase b ↔ Text.lower a.toList = Text.lower b.toList := by
  rw [lowercase, lowercase, String.ofList_inj]

theorem lowercase_lowercase (text : String) : lowercase (lowercase text) = lowercase text := by
  rw [lowercase_eq_iff, lowercase, String.toList_ofList, Text.lower_lower]

section Mapped

variable {f g : String → String}

theorem containsText_map (hf : ∀ t, lowercase (f t) = lowercase t)
    (hg : ∀ t, lowercase (g t) = lowercase t) (needle text : String) :
    containsText (f needle) (g text) = containsText needle text := by
  have hneedle := lowercase_eq_iff.1 (hf needle)
  have htext := lowercase_eq_iff.1 (hg text)
  rw [containsText, hneedle, htext, containsText]

theorem any_containsText_map (hf : ∀ t, lowercase (f t) = lowercase t)
    (hg : ∀ t, lowercase (g t) = lowercase t) (needle : String) (field : Option String) :
    (field.map g).any (containsText (f needle)) = field.any (containsText needle) := by
  cases field with
  | none => rfl
  | some text => exact containsText_map hf hg needle text

theorem hasTag_map (hf : ∀ t, lowercase (f t) = lowercase t)
    (hg : ∀ t, lowercase (g t) = lowercase t) (r : Record) (name : String) :
    (r.mapText g).hasTag (f name) = r.hasTag name := by
  have hsame : ∀ tag, sameIgnoringCase (f name) (g tag) = sameIgnoringCase name tag := fun tag => by
    rw [sameIgnoringCase, lowercase_eq_iff.1 (hf name), lowercase_eq_iff.1 (hg tag), sameIgnoringCase]
  simp only [Record.hasTag, Record.mapText, List.any_map, Function.comp_def, hsame]

theorem Predicate.holds_mapText (hf : ∀ t, lowercase (f t) = lowercase t)
    (hg : ∀ t, lowercase (g t) = lowercase t) (p : Predicate) (r : Record) :
    (p.mapText f).holds (r.mapText g) = p.holds r := by
  have hfield := any_containsText_map hf hg
  have htitle := containsText_map hf hg
  induction p with
  | and left right hleft hright => rw [mapText, holds, hleft, hright, holds]
  | or left right hleft hright => rw [mapText, holds, hleft, hright, holds]
  | titleContains text => exact htitle text r.title
  | artistContains text => exact hfield text r.artist
  | albumContains text => exact hfield text r.album
  | tagIncluded name => exact hasTag_map hf hg r name
  | tagExcluded name => rw [mapText, holds, hasTag_map hf hg, holds]
  | freeText text =>
    simp only [mapText, holds, Record.mapText]
    rw [htitle, hfield, hfield]
  | always => rfl
  | yearEquals year => rfl
  | yearRange min max => rfl
  | explicitIs flag => rfl

end Mapped

/-- Whether a record meets a predicate can be told from the lowercase of the texts on either side. -/
theorem matching_ignores_lowercasing (p : Predicate) (r : Record) :
    (p.mapText lowercase).holds r = p.holds r ∧ p.holds (r.mapText lowercase) = p.holds r ∧
      (p.mapText lowercase).holds (r.mapText lowercase) = p.holds r := by
  have hsame : ∀ t, lowercase (id t) = lowercase t := fun _ => rfl
  have hpredicate := p.holds_mapText lowercase_lowercase hsame r
  have hrecord := p.holds_mapText hsame lowercase_lowercase r
  rw [Record.mapText_id] at hpredicate
  rw [Predicate.mapText_id] at hrecord
  exact ⟨hpredicate, hrecord, p.holds_mapText lowercase_lowercase lowercase_lowercase r⟩

def FoundWhereWritten (text : String) : Prop :=
  ∀ r : Record,
    (text.toList <:+: r.title.toList →
      (Predicate.titleContains text).holds r = true ∧ (Predicate.freeText text).holds r = true) ∧
    (∀ artist ∈ r.artist, text.toList <:+: artist.toList →
      (Predicate.artistContains text).holds r = true ∧ (Predicate.freeText text).holds r = true) ∧
    (∀ album ∈ r.album, text.toList <:+: album.toList →
      (Predicate.albumContains text).holds r = true ∧ (Predicate.freeText text).holds r = true)

theorem containsText_of_infix {needle text : String} (hsigma : ¬ Text.HasOpenSigma needle.toList)
    (h : needle.toList <:+: text.toList) : containsText needle text = true := by
  obtain ⟨before, after, htext⟩ := h
  rw [containsText, Text.occursIn_iff, ← htext, List.append_assoc]
  exact Text.lower_infix_iff.2 hsigma before after

theorem holds_freeText_iff {text : String} {r : Record} : (Predicate.freeText text).holds r = true ↔
    (Predicate.titleContains text).holds r = true ∨ (Predicate.artistContains text).holds r = true ∨
      (Predicate.albumContains text).holds r = true := by
  rw [Predicate.holds_freeText, Predicate.inAnyField, Predicate.holds, Predicate.holds]
  simp only [Bool.or_eq_true, or_assoc]

/-- The texts that are found wherever they are written are those without an open sigma. -/
theorem found_where_written_iff (text : String) :
    FoundWhereWritten text ↔ ¬ Text.HasOpenSigma text.toList := by
  constructor
  · intro h
    rw [← Text.lower_infix_iff]
    intro before after
    let title := String.ofList (before ++ (text.toList ++ after))
    have hwritten : text.toList <:+: title.toList :=
      ⟨before, after, by rw [String.toList_ofList, List.append_assoc]⟩
    have hfound := ((h ⟨title, none, none, none, false, []⟩).1 hwritten).1
    rwa [Predicate.holds, containsText, Text.occursIn_iff, String.toList_ofList] at hfound
  · intro hsigma r
    have hfield : ∀ field : Option String, ∀ value ∈ field, text.toList <:+: value.toList →
        field.any (containsText text) = true := by
      rintro _ value rfl hwritten
      exact containsText_of_infix hsigma hwritten
    refine ⟨fun hwritten => ?_, fun artist hartist hwritten => ?_, fun album halbum hwritten => ?_⟩
    · have hfound : (Predicate.titleContains text).holds r = true := containsText_of_infix hsigma hwritten
      exact ⟨hfound, holds_freeText_iff.2 (.inl hfound)⟩
    · have hfound : (Predicate.artistContains text).holds r = true := hfield r.artist artist hartist hwritten
      exact ⟨hfound, holds_freeText_iff.2 (.inr (.inl hfound))⟩
    · have hfound : (Predicate.albumContains text).holds r = true := hfield r.album album halbum hwritten
      exact ⟨hfound, holds_freeText_iff.2 (.inr (.inr hfound))⟩

theorem final_sigma_not_found_inside : ¬ ∀ text : String, FoundWhereWritten text := by
  intro h
  have hwritten : "ΑΣ".toList <:+: "ΑΣΑ".toList := ⟨[], ['Α'], by decide⟩
  have hfound := ((h "ΑΣ" ⟨"ΑΣΑ", none, none, none, false, []⟩).1 hwritten).1
  revert hfound
  decide

end Query

end TrackSearch
