import Mathlib.Data.List.Nodup
import TrackSearch.Catalog.Opening
import TrackSearch.Proofs.TagNames

/-! What opening a catalog guarantees. The tags are normal as they are read, the title and the year are
checked track by track, and the scan for identifiers makes the search for one of them exact. -/

namespace TrackSearch

theorem TagName.text_ne_empty (tag : TagName) : tag.text ≠ "" := by
  have hnormal := tag.normalize?_text
  intro hempty
  rw [hempty] at hnormal
  revert hnormal
  decide

theorem Track.check_eq_ok_iff {t : Track} : t.check = .ok () ↔
    Text.allBlank t.title.toList = false ∧ ∀ year ∈ t.year, 1 ≤ year.toInt ∧ year.toInt ≤ 9999 := by
  simp only [← isValidYear_iff]
  unfold check
  cases Text.allBlank t.title.toList with
  | true => simp
  | false =>
    cases t.year with
    | none => simp
    | some year => cases h : isValidYear year <;> simp [Option.filter, h]

namespace Catalog

structure Admits (tracks : List Track) : Prop where
  check : ∀ t ∈ tracks, t.check = .ok ()
  distinct : (tracks.map (·.id)).Nodup

variable {tracks : List Track} {catalog : Catalog} {fresh : Nat → TrackId} {content : FileContent}

theorem admits_cons {track : Track} : Admits (track :: tracks) ↔
    track.check = .ok () ∧ Admits tracks ∧ ∀ t ∈ tracks, t.id ≠ track.id := by
  constructor
  · rintro ⟨hcheck, hdistinct⟩
    obtain ⟨htrack, htracks⟩ := List.forall_mem_cons.1 hcheck
    obtain ⟨hid, hids⟩ := List.nodup_cons.1 hdistinct
    exact ⟨htrack, ⟨htracks, hids⟩, fun t ht heq => hid (List.mem_map.2 ⟨t, ht, heq⟩)⟩
  · rintro ⟨htrack, ⟨htracks, hids⟩, hid⟩
    refine ⟨List.forall_mem_cons.2 ⟨htrack, htracks⟩, List.nodup_cons.2 ⟨?_, hids⟩⟩
    intro hmem
    obtain ⟨t, ht, heq⟩ := List.mem_map.1 hmem
    exact hid t ht heq

theorem checkFrom_eq_ok_iff {index : Nat} {seen : List TrackId} : checkFrom index seen tracks = .ok () ↔
    Admits tracks ∧ ∀ t ∈ tracks, t.id ∉ seen := by
  induction tracks generalizing index seen with
  | nil => simpa [checkFrom] using Admits.mk (by simp) (by simp)
  | cons track tracks ih =>
    rw [admits_cons, List.forall_mem_cons, checkFrom]
    cases hcheck : track.check with
    | error cause => simp
    | ok =>
      dsimp only
      split
      · next hseen => simp [hseen]
      · next hseen =>
        rw [ih]
        simp only [List.mem_cons, not_or, hseen, not_false_eq_true, true_and]
        constructor
        · rintro ⟨hadmits, hnew⟩
          exact ⟨⟨hadmits, fun t ht => (hnew t ht).1⟩, fun t ht => (hnew t ht).2⟩
        · rintro ⟨⟨hadmits, hother⟩, hunseen⟩
          exact ⟨hadmits, fun t ht => ⟨hother t ht, hunseen t ht⟩⟩

theorem ofTracks_eq_ok_iff :
    ofTracks tracks = .ok catalog ↔ Admits tracks ∧ catalog.tracks = tracks := by
  have hcheck : checkFrom 0 [] tracks = .ok () ↔ Admits tracks := by simp [checkFrom_eq_ok_iff]
  obtain ⟨kept⟩ := catalog
  rw [← hcheck, ofTracks]
  cases checkFrom 0 [] tracks with
  | error fault => simp [Except.map]
  | ok => simp [Except.map, eq_comm]

theorem ofContent_eq_ok_iff : ofContent fresh content = .ok catalog ↔ ∃ text, content = .text text ∧
    (Json.read? text).bind (fileTracks? fresh) = some catalog.tracks ∧ Admits catalog.tracks := by
  have htext : ∀ text, ofText fresh text = .ok catalog ↔
      (Json.read? text).bind (fileTracks? fresh) = some catalog.tracks ∧ Admits catalog.tracks := by
    intro text
    rw [ofText]
    cases (Json.read? text).bind (fileTracks? fresh) with
    | none => simp
    | some tracks =>
      rw [ofTracks_eq_ok_iff, Option.some.injEq, and_comm, eq_comm]
      exact and_congr_right fun heq => heq ▸ Iff.rfl
  cases content with
  | missing => simp [ofContent]
  | blocked => simp [ofContent]
  | unreadable => simp [ofContent]
  | text text =>
    simp only [FileContent.text.injEq, exists_eq_left', ← htext, ofContent]
    cases ofText fresh text <;> simp [Except.mapError]

theorem get?_eq_some_iff (h : Admits catalog.tracks) {id : TrackId} {t : Track} :
    catalog.get? id = some t ↔ t ∈ catalog.tracks ∧ t.id = id := by
  constructor
  · intro hget
    exact ⟨List.mem_of_find?_eq_some hget, by simpa using List.find?_some hget⟩
  · rintro ⟨ht, rfl⟩
    cases hget : catalog.get? t.id with
    | none => exact absurd (List.find?_eq_none.1 hget t ht) (by simp)
    | some found =>
      have hfound := List.mem_of_find?_eq_some hget
      have hid : found.id = t.id := by simpa using List.find?_some hget
      rw [List.inj_on_of_nodup_map h.distinct hfound ht hid]

/-- Whatever the file and the fresh identifiers: a catalog that opens has acceptable tracks only, with
normal tags, and finds each of them by its own identifier and nothing else. -/
theorem opened_sound (h : ofContent fresh content = .ok catalog) :
    (∀ t ∈ catalog.tracks, Text.allBlank t.title.toList = false ∧
      (∀ year ∈ t.year, 1 ≤ year.toInt ∧ year.toInt ≤ 9999) ∧
      ∀ tag ∈ t.tags, tag.text ≠ "" ∧ TagName.normalize? tag.text.toList = some tag.text.toList) ∧
    (catalog.tracks.map (·.id)).Nodup ∧
    ∀ id t, catalog.get? id = some t ↔ t ∈ catalog.tracks ∧ t.id = id := by
  obtain ⟨-, -, -, hadmits⟩ := ofContent_eq_ok_iff.1 h
  refine ⟨fun t ht => ?_, hadmits.distinct, fun _ _ => get?_eq_some_iff hadmits⟩
  obtain ⟨htitle, hyear⟩ := Track.check_eq_ok_iff.1 (hadmits.check t ht)
  exact ⟨htitle, hyear, fun tag _ => ⟨tag.text_ne_empty, tag.normalize?_text⟩⟩

theorem opened_sound_fresh_identifiers : ∃ catalog, ofContent (fun index => ⟨.ofNat 128 index⟩)
      (.text "\x7b\"tracks\":[\x7b\"title\":\"Day\",\"tags\":[\"LIVE\"]\x7d,\x7b\"title\":\"Eve\"\x7d]\x7d") =
        .ok catalog ∧
      catalog.tracks.map (·.title) = ["Day", "Eve"] ∧
      ∀ id t, catalog.get? id = some t ↔ t ∈ catalog.tracks ∧ t.id = id := by
  let live : TagName := ⟨"live", "LIVE".toList, by decide⟩
  let day : Track := ⟨⟨0⟩, "Day", none, none, none, false, [live]⟩
  let eve : Track := ⟨⟨1⟩, "Eve", none, none, none, false, []⟩
  refine ⟨⟨[day, eve]⟩, ?opens, rfl, (opened_sound ?opens).2.2⟩
  rfl

end Catalog

end TrackSearch
