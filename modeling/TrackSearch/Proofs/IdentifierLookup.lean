import TrackSearch.Proofs.OpenedCatalog
import TrackSearch.Proofs.SpelledIdentifier

/-! Identifiers are compared by what they spell. The text that an entry of a catalog file gives and the text
that a track is asked for by may be different spellings, and two entries may not be the same identifier in
different ones. -/

namespace TrackSearch

namespace TrackId

theorem mem_of_mem_hyphenate {cs : List Char} {c : Char} (h : c ∈ hyphenate cs) : c = '-' ∨ c ∈ cs := by
  rw [← flatten_groups cs]
  simp only [hyphenate, groups, List.mem_append, List.mem_singleton, List.flatten_cons] at h ⊢
  grind

theorem isBlank_of_mem_chars {id : TrackId} {c : Char} (h : c ∈ id.chars) : Text.isBlank c = false := by
  have hdigit : ∀ d < 16, Text.isBlank (Nat.digitChar d) = false := by decide
  rcases mem_of_mem_hyphenate h with rfl | hmem
  · rfl
  · obtain ⟨d, hd, rfl⟩ := Text.exists_digit_of_mem_hexDigits hmem
    exact hdigit d hd

theorem ofText?_render (id : TrackId) : ofText? id.render = some id := by
  have htrim : Text.trim id.chars = id.chars :=
    Text.trim_eq_self (fun _ hc => isBlank_of_mem_chars (List.mem_of_mem_head? hc))
      fun _ hc => isBlank_of_mem_chars (List.mem_of_mem_getLast? hc)
  rw [ofText?, render, String.toList_ofList, htrim, ofSpelling?_chars]

end TrackId

section

variable {α β : Type} {f : α → Option β} {as : List α} {bs : List β} {a : α} {index : Nat}

theorem getElem?_of_mapM (h : as.mapM f = some bs) (ha : as[index]? = some a) :
    ∃ b, f a = some b ∧ bs[index]? = some b := by
  induction as generalizing bs index with
  | nil => simp at ha
  | cons first as ih =>
    rw [List.mapM_cons] at h
    obtain ⟨b, hb, hrest⟩ := Option.bind_eq_some_iff.1 h
    obtain ⟨others, hothers, heq⟩ := Option.bind_eq_some_iff.1 hrest
    obtain rfl := Option.some.inj heq
    cases index with
    | zero =>
      obtain rfl := Option.some.inj ha
      exact ⟨b, hb, rfl⟩
    | succ index =>
      obtain ⟨c, hc, hmore⟩ := ih hothers ha
      exact ⟨c, hc, hmore⟩

end

theorem Track.ofSpelling?_of_ofJson? {fresh : TrackId} {json : Json} {t : Track} {written : String}
    {others : List (Option Json)} (h : ofJson? fresh json = some t)
    (hfields : Json.fields? fieldNames 2 json = some (some (.text written) :: others)) :
    TrackId.ofSpelling? written.toList = some t.id := by
  rw [ofJson?, hfields] at h
  split at h
  · next hlist =>
    obtain ⟨rfl, -⟩ := List.cons.inj (Option.some.inj hlist)
    obtain ⟨id, hid, hrest⟩ := Option.bind_eq_some_iff.1 h
    have hkept : t.id = id := by
      simp only [Option.bind_eq_bind, Option.bind_eq_some_iff] at hrest
      obtain ⟨_, -, _, -, _, -, _, -, _, -, _, -, heq⟩ := hrest
      rw [← Option.some.inj heq]
    rw [hkept]
    exact hid
  · contradiction

namespace Catalog

def GivesId (text : String) (index : Nat) (written : String) : Prop :=
  ∃ json items entry others, Json.read? text = some json ∧
    Json.fields? ["tracks"] 0 json = some [some (.array items)] ∧ items[index]? = some entry ∧
    Json.fields? Track.fieldNames 2 entry = some (some (.text written) :: others)

variable {fresh : Nat → TrackId} {text written : String} {catalog : Catalog} {index : Nat}

theorem exists_track_of_givesId (h : ofContent fresh (.text text) = .ok catalog)
    (hgives : GivesId text index written) :
    ∃ t, catalog.tracks[index]? = some t ∧ t.id.IsSpelledBy written.toList := by
  obtain ⟨_, htext, hread, -⟩ := ofContent_eq_ok_iff.1 h
  cases htext
  obtain ⟨json, items, entry, others, hjson, htracks, hentry, hfields⟩ := hgives
  rw [hjson, Option.bind_some, fileTracks?, htracks] at hread
  have hindexed : items.zipIdx[index]? = some (entry, index) := by
    rw [List.getElem?_zipIdx, hentry, Option.map_some, Nat.zero_add]
  obtain ⟨t, ht, hhere⟩ := getElem?_of_mapM hread hindexed
  exact ⟨t, hhere, TrackId.ofSpelling?_eq_some_iff.1 (Track.ofSpelling?_of_ofJson? ht hfields)⟩

theorem ofText?_bind_get?_iff {t : Track} {asked : String} (h : Admits catalog.tracks)
    (ht : t ∈ catalog.tracks) :
    (TrackId.ofText? asked).bind catalog.get? = some t ↔
      t.id.IsSpelledBy (Text.trim asked.toList) := by
  simp only [Option.bind_eq_some_iff, get?_eq_some_iff h, TrackId.ofText?,
    TrackId.ofSpelling?_eq_some_iff]
  constructor
  · rintro ⟨_, hasked, -, rfl⟩
    exact hasked
  · intro hasked
    exact ⟨t.id, hasked, ht, rfl⟩

theorem eq_of_same_id {first second : Nat} {t u : Track} (h : Admits catalog.tracks)
    (ht : catalog.tracks[first]? = some t) (hu : catalog.tracks[second]? = some u) (hid : t.id = u.id) :
    first = second := by
  have hsame : (catalog.tracks.map (·.id))[first]? = (catalog.tracks.map (·.id))[second]? := by
    rw [List.getElem?_map, List.getElem?_map, ht, hu, Option.map_some, Option.map_some, hid]
  have hlt : first < (catalog.tracks.map (·.id)).length := by
    rw [List.length_map]
    exact (List.getElem?_eq_some_iff.1 ht).1
  exact (List.getElem?_inj hlt h.distinct).1 hsame

/-- A track whose entry gives an identifier is found by a text exactly if the text, without the blanks around
it, spells the same identifier. No file opens that gives one identifier twice, however it is spelled, and
every identifier is read back as it is printed. -/
theorem found_by_any_spelling :
    (∀ fresh text catalog index written, ofContent fresh (.text text) = .ok catalog →
      GivesId text index written → ∃ t, catalog.tracks[index]? = some t ∧ ∀ asked,
        (TrackId.ofText? asked).bind catalog.get? = some t ↔
          ∃ id : TrackId, id.IsSpelledBy written.toList ∧ id.IsSpelledBy (Text.trim asked.toList)) ∧
      (∀ text first second written other, first ≠ second → GivesId text first written →
        GivesId text second other → ∀ id : TrackId, id.IsSpelledBy written.toList →
          id.IsSpelledBy other.toList → ∀ fresh catalog, ofContent fresh (.text text) ≠ .ok catalog) ∧
      ∀ id : TrackId, TrackId.ofText? id.render = some id := by
  refine ⟨?_, ?_, TrackId.ofText?_render⟩
  · intro fresh text catalog index written h hgives
    obtain ⟨-, -, -, hadmits⟩ := ofContent_eq_ok_iff.1 h
    obtain ⟨t, ht, hspelled⟩ := exists_track_of_givesId h hgives
    refine ⟨t, ht, fun asked => ?_⟩
    rw [ofText?_bind_get?_iff hadmits (List.mem_of_getElem? ht)]
    constructor
    · intro hasked
      exact ⟨t.id, hspelled, hasked⟩
    · rintro ⟨id, hwritten, hasked⟩
      exact hspelled.unique hwritten ▸ hasked
  · intro text first second written other hne hfirst hsecond id hwritten hother fresh catalog h
    obtain ⟨-, -, -, hadmits⟩ := ofContent_eq_ok_iff.1 h
    obtain ⟨t, ht, hid⟩ := exists_track_of_givesId h hfirst
    obtain ⟨u, hu, hid'⟩ := exists_track_of_givesId h hsecond
    exact hne (eq_of_same_id hadmits ht hu ((hid.unique hwritten).trans (hother.unique hid')))

theorem found_by_any_spelling_other_letters : ∃ catalog t,
    ofContent (fun _ => ⟨0⟩) (.text ("\x7b\"tracks\":[\x7b\"title\":\"Day\"\x7d,\x7b\"title\":\"Eve\"," ++
        "\"id\":\"Urn:Uuid:6F1C1A62-5d1e-4a7e-9a3c-1f0d4f6b2a01\"\x7d]\x7d")) = .ok catalog ∧
      catalog.tracks[1]? = some t ∧ t.title = "Eve" ∧
      (TrackId.ofText? " \x7b6f1c1a62-5D1E-4a7e-9a3c-1f0d4f6b2a01\x7d\n").bind catalog.get? = some t ∧
      ∀ fresh catalog, ofContent fresh (.text
        ("[[[\"\x7b6f1c1a62-5D1E-4a7e-9a3c-1f0d4f6b2a01\x7d\",\"Day\"]," ++
          "\x7b\"title\":\"Eve\",\"id\":\"6F1C1A625d1e4a7e9a3c1f0d4f6b2a01\"\x7d]]")) ≠ .ok catalog := by
  let id : TrackId := ⟨0x6f1c1a625d1e4a7e9a3c1f0d4f6b2a01⟩
  let day : Track := ⟨⟨0⟩, "Day", none, none, none, false, []⟩
  let eve : Track := ⟨id, "Eve", none, none, none, false, []⟩
  obtain ⟨hfound, hrefused, -⟩ := found_by_any_spelling
  have hopens : ofContent (fun _ => ⟨0⟩) (.text (
      "\x7b\"tracks\":[\x7b\"title\":\"Day\"\x7d,\x7b\"title\":\"Eve\"," ++
      "\"id\":\"Urn:Uuid:6F1C1A62-5d1e-4a7e-9a3c-1f0d4f6b2a01\"\x7d]\x7d")) = .ok ⟨[day, eve]⟩ := by
    rfl
  have hread : Json.read? ("[[[\"\x7b6f1c1a62-5D1E-4a7e-9a3c-1f0d4f6b2a01\x7d\",\"Day\"]," ++
      "\x7b\"title\":\"Eve\",\"id\":\"6F1C1A625d1e4a7e9a3c1f0d4f6b2a01\"\x7d]]") =
      some (.array [.array [.array [.text "\x7b6f1c1a62-5D1E-4a7e-9a3c-1f0d4f6b2a01\x7d", .text "Day"],
        .object [("title", .text "Eve"), ("id", .text "6F1C1A625d1e4a7e9a3c1f0d4f6b2a01")]]]) := by
    rfl
  obtain ⟨t, ht, hasked⟩ := hfound _ _ _ 1 _ hopens ⟨_, _, _, _, rfl, rfl, rfl, rfl⟩
  obtain rfl : eve = t := Option.some.inj ht
  refine ⟨⟨[day, eve]⟩, eve, hopens, rfl, rfl, (hasked _).2 ⟨id, ?_, ?_⟩, ?_⟩
  · exact TrackId.ofSpelling?_eq_some_iff.1 (by decide +kernel)
  · exact TrackId.ofSpelling?_eq_some_iff.1 (by decide +kernel)
  · exact hrefused _ 0 1 _ _ Nat.zero_ne_one ⟨_, _, _, _, hread, rfl, rfl, rfl⟩
      ⟨_, _, _, _, hread, rfl, rfl, rfl⟩
      id (TrackId.ofSpelling?_eq_some_iff.1 (by decide +kernel))
      (TrackId.ofSpelling?_eq_some_iff.1 (by decide +kernel))

end Catalog

end TrackSearch
