import TrackSearch.Catalog.Export
import TrackSearch.Proofs.HexNumeral
import TrackSearch.Proofs.JsonRoundTrip
import TrackSearch.Proofs.OpenedCatalog
import TrackSearch.Proofs.YearText

/-! A catalog that was opened and is written out opens again with the same tracks. A track is written by
one form and read by another, which has defaults and normalizes tags; the two are compared field by
field. -/

namespace TrackSearch

theorem TrackId.ofJson?_render (id : TrackId) : ofJson? (.text id.render) = some id := by
  rw [ofJson?, Json.text?, Option.bind_some, render, String.toList_ofList, ofSpelling?_chars]

theorem TagName.ofJson?_text (tag : TagName) : ofJson? (.text tag.text) = some tag := by
  rw [ofJson?, Json.text?, Option.bind_some, ofText?_text]

namespace Json

theorem nullable?_ofText (s : Option String) : nullable? text? (ofText s) = some s := by
  cases s <;> rfl

theorem nullable?_ofYear (year : Option Int32) : nullable? int32? (ofYear year) = some year := by
  cases year with
  | none => rfl
  | some n => simp [ofYear, nullable?, int32?, Text.int32OfInt?_toInt]

end Json

theorem TagName.mapM_ofJson? (tags : List TagName) :
    ((tags.map (·.text)).map Json.text).mapM TagName.ofJson? = some tags := by
  induction tags with
  | nil => rfl
  | cons tag tags ih =>
    rw [List.map_cons, List.map_cons, List.mapM_cons, TagName.ofJson?_text, ih]
    rfl

theorem TrackEntry.fields?_toJson (e : TrackEntry) : Json.fields? Track.fieldNames 2 e.toJson =
    some [some (.text e.id.render), some (.text e.title), some (Json.ofText e.artist),
      some (Json.ofText e.album), some (Json.ofYear e.year), some (.bool e.explicit),
      some (.array (e.tags.map .text))] := by
  simp [toJson, Json.fields?, Track.fieldNames, Json.member?]

theorem Track.ofJson?_toJson (fresh : TrackId) (t : Track) :
    ofJson? fresh (TrackEntry.ofTrack t).toJson = some t := by
  have htags : (Json.array (t.tags.map (·.text) |>.map .text)).array?.bind (·.mapM TagName.ofJson?) =
      some t.tags := by
    rw [Json.array?, Option.bind_some, TagName.mapM_ofJson?]
  rw [ofJson?, TrackEntry.fields?_toJson]
  simp only [TrackEntry.ofTrack, Json.orElse?, Json.required?, TrackId.ofJson?_render, Json.text?,
    Json.bool?, Json.nullable?_ofText, Json.nullable?_ofYear, htags, bind, Option.bind_some]

namespace Catalog

theorem tracksOfJson?_map (fresh : Nat → TrackId) (tracks : List Track) :
    tracksOfJson? fresh (tracks.map fun t => (TrackEntry.ofTrack t).toJson) = some tracks := by
  rw [tracksOfJson?]
  generalize 0 = index
  induction tracks generalizing index with
  | nil => rfl
  | cons t tracks ih =>
    simp [List.zipIdx_cons, List.mapM_cons, Track.ofJson?_toJson, ih]

theorem fileTracks?_toJson (fresh : Nat → TrackId) (catalog : Catalog) :
    fileTracks? fresh catalog.toJson = some catalog.tracks := by
  simp [fileTracks?, toJson, Json.fields?, Json.member?, Json.orElse?, Json.array?, tracksOfJson?_map]

variable {catalog : Catalog} {fresh : Nat → TrackId} {content : FileContent}

/-- What is written is the catalog itself: it opens as the same catalog from its text as printed, and
from any other text of the same value, whatever identifiers are fresh by then. -/
theorem reopened_eq (h : ofContent fresh content = .ok catalog) (other : Nat → TrackId) :
    ofContent other (.text catalog.render) = .ok catalog ∧
      ∀ text, Json.read? text = some catalog.toJson → ofContent other (.text text) = .ok catalog := by
  obtain ⟨-, -, -, hadmits⟩ := ofContent_eq_ok_iff.1 h
  have hopens : ∀ text, Json.read? text = some catalog.toJson →
      ofContent other (.text text) = .ok catalog := by
    intro text hread
    refine ofContent_eq_ok_iff.2 ⟨text, rfl, ?_, hadmits⟩
    rw [hread, Option.bind_some, fileTracks?_toJson]
  exact ⟨hopens _ catalog.toJson.read?_pretty, hopens⟩

theorem reopened_eq_generated_identifier : ∃ catalog, ofContent (fun _ => ⟨7⟩)
      (.text "\x7b\"tracks\":[\x7b\"title\":\"Intro\",\"year\":1999,\"tags\":[\" Hip  HOP\"]\x7d]\x7d") =
        .ok catalog ∧
      catalog.tracks.map (·.id) = [⟨7⟩] ∧
      ∀ other, ofContent other (.text catalog.render) = .ok catalog := by
  let hipHop : TagName := ⟨"hip hop", "hip hop".toList, by decide⟩
  let intro : Track := ⟨⟨7⟩, "Intro", none, none, some 1999, false, [hipHop]⟩
  refine ⟨⟨[intro]⟩, ?opens, rfl, fun other => (reopened_eq ?opens other).1⟩
  rfl

end Catalog

end TrackSearch
