import Mathlib.Data.String.Basic
import TrackSearch.Catalog
import TrackSearch.Proofs.RoundTrip
import TrackSearch.Proofs.TagNames

/-! The tag listing of a catalog: its names increase, each is in use, and its count is the number of tracks
that a search for the tag finds. -/

namespace TrackSearch

def Track.carries (name : String) (t : Track) : Bool := t.tags.any (·.text == name)

namespace Catalog

def tally (name : String) : List TagCount → Nat
  | [] => 0
  | c :: counts => if c.name = name then c.count else tally name counts

structure IsListing (counts : List TagCount) : Prop where
  increasing : counts.Pairwise fun c d => c.name < d.name
  positive : ∀ c ∈ counts, 0 < c.count

section Listing

variable {counts : List TagCount} {name key : String} {c d : TagCount}

theorem isListing_cons : IsListing (c :: counts) ↔
    (∀ d ∈ counts, c.name < d.name) ∧ 0 < c.count ∧ IsListing counts := by
  constructor
  · rintro ⟨hincreasing, hpositive⟩
    obtain ⟨hc, hcounts⟩ := List.pairwise_cons.1 hincreasing
    exact ⟨hc, hpositive c List.mem_cons_self, hcounts, fun d hd =>
      hpositive d (List.mem_cons_of_mem c hd)⟩
  · rintro ⟨hc, hcount, hincreasing, hpositive⟩
    refine ⟨List.pairwise_cons.2 ⟨hc, hincreasing⟩, ?_⟩
    rintro d (_ | ⟨_, hd⟩)
    · exact hcount
    · exact hpositive d hd

theorem tally_of_lt (h : ∀ d ∈ counts, name < d.name) : tally name counts = 0 := by
  induction counts with
  | nil => rfl
  | cons d counts ih =>
    rw [tally, if_neg (h d List.mem_cons_self).ne']
    exact ih fun e he => h e (List.mem_cons_of_mem d he)

theorem tally_of_mem (hlisting : IsListing counts) (h : c ∈ counts) : tally c.name counts = c.count := by
  induction counts with
  | nil => simp at h
  | cons d counts ih =>
    obtain ⟨hd, -, hcounts⟩ := isListing_cons.1 hlisting
    rcases List.mem_cons.1 h with rfl | h
    · rw [tally, if_pos rfl]
    · rw [tally, if_neg (hd c h).ne, ih hcounts h]

theorem mem_names_iff (hlisting : IsListing counts) :
    name ∈ counts.map (·.name) ↔ 0 < tally name counts := by
  constructor
  · intro h
    obtain ⟨c, hc, rfl⟩ := List.mem_map.1 h
    rw [tally_of_mem hlisting hc]
    exact hlisting.positive c hc
  · intro h
    induction counts with
    | nil => simp [tally] at h
    | cons d counts ih =>
      unfold tally at h
      split at h
      · next hd => exact List.mem_map.2 ⟨d, List.mem_cons_self, hd⟩
      · exact List.mem_cons_of_mem _ (ih (isListing_cons.1 hlisting).2.2 h)

theorem mem_countTag (h : c ∈ countTag name counts) : c.name = name ∨ c ∈ counts := by
  induction counts with
  | nil =>
    obtain rfl := List.mem_singleton.1 h
    exact Or.inl rfl
  | cons d counts ih =>
    unfold countTag at h
    split at h
    · next hname =>
      rcases List.mem_cons.1 h with rfl | h
      · exact Or.inl hname.symm
      · exact Or.inr (List.mem_cons_of_mem d h)
    split at h
    · rcases List.mem_cons.1 h with rfl | h
      · exact Or.inl rfl
      · exact Or.inr h
    · rcases List.mem_cons.1 h with rfl | h
      · exact Or.inr List.mem_cons_self
      · exact (ih h).imp_right (List.mem_cons_of_mem d)

theorem countTag_tally (h : IsListing counts) : IsListing (countTag name counts) ∧
    ∀ key, tally key (countTag name counts) = tally key counts + if name = key then 1 else 0 := by
  induction counts with
  | nil =>
    refine ⟨isListing_cons.2 ⟨by simp, Nat.one_pos, h⟩, fun key => ?_⟩
    simp only [countTag, tally, Nat.zero_add]
  | cons d counts ih =>
    obtain ⟨hd, hcount, hcounts⟩ := isListing_cons.1 h
    unfold countTag
    split
    · next hname =>
      refine ⟨isListing_cons.2 ⟨hd, Nat.succ_pos _, hcounts⟩, fun key => ?_⟩
      simp only [tally, hname]
      split <;> rfl
    split
    · next hlt =>
      have hbefore : ∀ e ∈ d :: counts, name < e.name := by
        rintro e (_ | ⟨_, he⟩)
        · exact hlt
        · exact hlt.trans (hd e he)
      refine ⟨isListing_cons.2 ⟨hbefore, Nat.one_pos, h⟩, fun key => ?_⟩
      by_cases hkey : name = key
      · rw [← hkey, tally, if_pos rfl, tally_of_lt hbefore, if_pos rfl]
      · rw [tally, if_neg hkey, if_neg hkey, Nat.add_zero]
    · next hne hnlt =>
      have hgt : d.name < name := lt_of_le_of_ne (not_lt.1 hnlt) (Ne.symm hne)
      obtain ⟨hlisting, htally⟩ := ih hcounts
      constructor
      · refine isListing_cons.2 ⟨fun e he => ?_, hcount, hlisting⟩
        rcases mem_countTag he with he | he
        · rwa [he]
        · exact hd e he
      · intro key
        rw [tally, tally, htally key]
        split
        · next hkey => rw [← hkey, if_neg hgt.ne', Nat.add_zero]
        · rfl

theorem foldl_tally {α : Type} (step : List TagCount → α → List TagCount) (counted : String → α → Bool)
    (hstep : ∀ counts a, IsListing counts → IsListing (step counts a) ∧
      ∀ key, tally key (step counts a) = tally key counts + if counted key a then 1 else 0)
    (xs : List α) (h : IsListing counts) : IsListing (xs.foldl step counts) ∧
      ∀ key, tally key (xs.foldl step counts) = tally key counts + xs.countP (counted key) := by
  induction xs generalizing counts with
  | nil => exact ⟨h, fun _ => rfl⟩
  | cons a xs ih =>
    obtain ⟨hlisting, htally⟩ := hstep counts a h
    obtain ⟨hrest, hcount⟩ := ih hlisting
    refine ⟨hrest, fun key => ?_⟩
    rw [List.foldl_cons, hcount, htally, List.countP_cons]
    omega

theorem count_eraseDups (names : List String) (key : String) :
    names.eraseDups.count key = if key ∈ names then 1 else 0 := by
  induction hlength : names.length using Nat.strongRecOn generalizing names with
  | ind n ih =>
    cases names with
    | nil => rfl
    | cons name names =>
      have hshort : (names.filter fun other => !other == name).length < n := by
        have := List.length_filter_le (fun other => !other == name) names
        rw [← hlength, List.length_cons]
        omega
      rw [List.eraseDups_cons, List.count_cons, ih _ hshort _ rfl]
      by_cases hkey : key = name
      · simp [hkey]
      · simp [hkey, Ne.symm hkey]

theorem countTrack_tally (t : Track) (h : IsListing counts) : IsListing (countTrack counts t) ∧
    ∀ key, tally key (countTrack counts t) = tally key counts + if t.carries key then 1 else 0 := by
  obtain ⟨hlisting, htally⟩ := foldl_tally (fun counts name => countTag name counts)
    (fun key name => name == key) (fun counts name h => by simpa using countTag_tally h)
    (t.tags.map (·.text)).eraseDups h
  refine ⟨hlisting, fun key => (htally key).trans ?_⟩
  have hcount := count_eraseDups (t.tags.map (·.text)) key
  rw [List.count] at hcount
  rw [hcount]
  simp [Track.carries]

theorem tagCounts_tally (catalog : Catalog) : IsListing catalog.tagCounts ∧
    ∀ name, tally name catalog.tagCounts = catalog.tracks.countP (·.carries name) := by
  have hnone : IsListing [] := ⟨List.Pairwise.nil, by simp⟩
  obtain ⟨hlisting, htally⟩ := foldl_tally countTrack (fun name t => t.carries name)
    (fun _ t => countTrack_tally t) catalog.tracks hnone
  exact ⟨hlisting, fun name => (htally name).trans (Nat.zero_add _)⟩

end Listing

end Catalog

open Query

theorem Query.Predicate.compile_render_flat {p : Predicate} (hcanonical : p.IsCanonical)
    (hflat : p.bracketDepth = 0) (compiler : Compiler) : compiler.compile p.render = .ok p := by
  obtain ⟨r, hr, hp⟩ := p.exists_compile_render
  obtain rfl := hp hcanonical
  obtain ⟨_ | limit⟩ := compiler
  · exact hr
  · have hpeak : peakDepth r.render ≤ limit := by
      have := r.peakDepth_render_le
      omega
    rw [Compiler.compile_of_peakDepth_le hpeak, hr]

theorem Track.hasTag_text (t : Track) (tag : TagName) : t.record.hasTag tag.text = t.carries tag.text := by
  rw [Bool.eq_iff_iff, Track.hasTag_iff, tag.lower_text]
  simp [Track.carries, String.toList_inj]

/-- The listing names the tags in use, by name, each with the number of tracks that carry it; and a search
for one of them finds these tracks, a search without it the others. -/
theorem Catalog.tagCounts_agree_with_search (catalog : Catalog) :
    (catalog.tagCounts.map (·.name)).Pairwise (· < ·) ∧
      (∀ name, name ∈ catalog.tagCounts.map (·.name) ↔
        ∃ t ∈ catalog.tracks, ∃ tag ∈ t.tags, tag.text = name) ∧
      ∀ c ∈ catalog.tagCounts, c.count = (catalog.tracks.filter (·.carries c.name)).length ∧
        ∀ compiler : Compiler, ∃ included excluded,
          compiler.compile (Predicate.tagIncluded c.name).render = .ok included ∧
          compiler.compile (Predicate.tagExcluded c.name).render = .ok excluded ∧
          (catalog.search included none).length = c.count ∧
          catalog.search included none = catalog.tracks.filter (·.carries c.name) ∧
          catalog.search excluded none = catalog.tracks.filter (!·.carries c.name) := by
  obtain ⟨hlisting, htally⟩ := catalog.tagCounts_tally
  have hused : ∀ name, name ∈ catalog.tagCounts.map (·.name) ↔
      ∃ t ∈ catalog.tracks, ∃ tag ∈ t.tags, tag.text = name := by
    intro name
    rw [mem_names_iff hlisting, htally, List.countP_pos_iff]
    simp [Track.carries]
  refine ⟨List.pairwise_map.2 hlisting.increasing, hused, fun c hc => ?_⟩
  have hcount : c.count = (catalog.tracks.filter (·.carries c.name)).length := by
    rw [← tally_of_mem hlisting hc, htally, List.countP_eq_length_filter]
  refine ⟨hcount, fun compiler => ⟨.tagIncluded c.name, .tagExcluded c.name, ?_, ?_, ?_⟩⟩
  · exact Predicate.compile_render_flat (p := .tagIncluded c.name) trivial rfl compiler
  · exact Predicate.compile_render_flat (p := .tagExcluded c.name) trivial rfl compiler
  obtain ⟨t, -, tag, -, htag⟩ := (hused c.name).1 (List.mem_map.2 ⟨c, hc, rfl⟩)
  have hfound : ∀ t : Track, t.record.hasTag c.name = t.carries c.name := by
    intro t
    rw [← htag]
    exact t.hasTag_text tag
  simp only [search, Predicate.holds, hfound]
  exact ⟨hcount.symm, trivial, trivial⟩

end TrackSearch
