import Mathlib.Data.Nat.Find
import TrackSearch.Proofs.OpenedCatalog

/-! The fault that a list of tracks is refused for is the first in it: that of the earliest track which is
unacceptable by itself or has the identifier of a track before it. Up to there the list is a catalog, and
the scan goes on as it would behind that catalog. -/

namespace TrackSearch

inductive Track.Breaks (t : Track) : TrackError → Prop
  | emptyTitle (title : Text.allBlank t.title.toList = true) : Breaks t .emptyTitle
  | invalidYear {year : Int32} (title : Text.allBlank t.title.toList = false) (given : t.year = some year)
      (outside : ¬ (1 ≤ year.toInt ∧ year.toInt ≤ 9999)) : Breaks t (.invalidYear year)

theorem Track.check_eq_error_iff {t : Track} {cause : TrackError} :
    t.check = .error cause ↔ t.Breaks cause := by
  constructor
  · intro h
    unfold check at h
    cases htitle : Text.allBlank t.title.toList with
    | true =>
      rw [htitle, if_pos rfl] at h
      cases h
      exact .emptyTitle htitle
    | false =>
      simp only [htitle, Bool.false_eq_true, if_false] at h
      split at h
      · next year hyear =>
        cases h
        rw [Option.filter_eq_some_iff] at hyear
        refine .invalidYear htitle hyear.1 fun hinside => ?_
        simp [isValidYear_iff.2 hinside] at hyear
      · cases h
  · intro h
    cases h with
    | emptyTitle title => rw [check, title, if_pos rfl]
    | invalidYear title given outside =>
      have hinvalid := mt isValidYear_iff.1 outside
      simp [check, title, given, Option.filter, hinvalid]

theorem Track.check_eq_ok_iff_not_breaks {t : Track} :
    t.check = .ok () ↔ ∀ cause, ¬ t.Breaks cause := by
  simp only [← check_eq_error_iff]
  cases t.check <;> simp

namespace Catalog

inductive FaultAt (tracks : List Track) (index : Nat) : CatalogFault → Prop
  | invalid {t : Track} {cause : TrackError} (here : tracks[index]? = some t) (breaks : t.Breaks cause) :
      FaultAt tracks index (.invalidTrack index cause)
  | duplicate {t : Track} (here : tracks[index]? = some t) (valid : ∀ cause, ¬ t.Breaks cause)
      (taken : ∃ earlier ∈ tracks.take index, earlier.id = t.id) :
      FaultAt tracks index (.duplicateTrack t.id)

variable {tracks before : List Track} {t : Track} {index : Nat} {seen : List TrackId}
  {fault : CatalogFault}

theorem exists_faultAt_iff (h : tracks[index]? = some t) : (∃ fault, FaultAt tracks index fault) ↔
    t.check ≠ .ok () ∨ ∃ earlier ∈ tracks.take index, earlier.id = t.id := by
  rw [Ne, Track.check_eq_ok_iff_not_breaks]
  constructor
  · rintro ⟨_, hfault⟩
    cases hfault with
    | invalid here breaks =>
      obtain rfl := Option.some.inj (h.symm.trans here)
      exact Or.inl fun hvalid => hvalid _ breaks
    | duplicate here _ taken =>
      obtain rfl := Option.some.inj (h.symm.trans here)
      exact Or.inr taken
  · intro hfaulty
    by_cases hvalid : ∀ cause, ¬ t.Breaks cause
    · exact ⟨_, .duplicate h hvalid (hfaulty.resolve_left fun hinvalid => hinvalid hvalid)⟩
    · obtain ⟨cause, hbreaks⟩ := not_forall_not.1 hvalid
      exact ⟨_, .invalid h hbreaks⟩

theorem admits_concat : Admits (before ++ [t]) ↔
    Admits before ∧ t.check = .ok () ∧ ∀ earlier ∈ before, earlier.id ≠ t.id := by
  constructor
  · rintro ⟨hcheck, hdistinct⟩
    rw [List.map_append, List.nodup_append] at hdistinct
    refine ⟨⟨fun u hu => hcheck u (List.mem_append_left _ hu), hdistinct.1⟩, hcheck t (by simp), ?_⟩
    exact fun u hu => hdistinct.2.2 _ (List.mem_map_of_mem hu) _ (by simp)
  · rintro ⟨hbefore, hcheck, hnew⟩
    refine ⟨fun u hu => ?_, ?_⟩
    · rcases List.mem_append.1 hu with hu | hu
      · exact hbefore.check u hu
      · exact List.mem_singleton.1 hu ▸ hcheck
    · rw [List.map_append, List.nodup_append]
      refine ⟨hbefore.distinct, by simp, ?_⟩
      rintro _ hid _ hlast
      obtain ⟨u, hu, rfl⟩ := List.mem_map.1 hid
      obtain rfl : _ = t.id := List.mem_singleton.1 hlast
      exact hnew u hu

theorem admits_take_iff : Admits (tracks.take index) ↔
    ∀ earlier < index, ∀ fault, ¬ FaultAt tracks earlier fault := by
  induction index with
  | zero => simpa using Admits.mk (by simp) (by simp)
  | succ index ih =>
    rw [Nat.forall_lt_succ_right, ← ih, ← not_exists]
    cases hhere : tracks[index]? with
    | none =>
      have hend : tracks.length ≤ index := List.getElem?_eq_none_iff.1 hhere
      rw [List.take_of_length_le (Nat.le_succ_of_le hend), List.take_of_length_le hend]
      refine ⟨fun h => ⟨h, ?_⟩, And.left⟩
      rintro ⟨_, hfault⟩
      cases hfault with
      | invalid here _ => simp [hhere] at here
      | duplicate here _ _ => simp [hhere] at here
    | some t =>
      rw [List.take_add_one, hhere, Option.toList_some, admits_concat, exists_faultAt_iff hhere]
      simp

theorem checkFrom_append (h : checkFrom index seen before = .ok ()) (after : List Track) :
    checkFrom index seen (before ++ after) =
      checkFrom (index + before.length) ((before.map (·.id)).reverse ++ seen) after := by
  induction before generalizing index seen with
  | nil => rfl
  | cons t before ih =>
    rw [checkFrom] at h
    rw [List.cons_append, checkFrom]
    cases hcheck : t.check with
    | error cause => simp [hcheck] at h
    | ok =>
      simp only [hcheck] at h ⊢
      split at h
      · contradiction
      · next hseen =>
        rw [if_neg hseen, ih h]
        simp [Nat.add_comm, Nat.add_left_comm]

theorem ofTracks_of_faultAt (h : FaultAt tracks index fault)
    (hfirst : ∀ earlier < index, ∀ other, ¬ FaultAt tracks earlier other) :
    ofTracks tracks = .error fault := by
  have hbefore : checkFrom 0 [] (tracks.take index) = .ok () :=
    checkFrom_eq_ok_iff.2 ⟨admits_take_iff.2 hfirst, by simp⟩
  have hsplit : ∀ t, tracks[index]? = some t →
      ofTracks tracks = (checkFrom index ((tracks.take index).map (·.id)).reverse
        (t :: tracks.drop (index + 1))).map fun () => ⟨tracks⟩ := by
    intro t ht
    obtain ⟨hlt, rfl⟩ := List.getElem?_eq_some_iff.1 ht
    have happend := checkFrom_append hbefore (tracks.drop index)
    rw [List.take_append_drop, List.length_take_of_le (Nat.le_of_lt hlt), List.append_nil,
      Nat.zero_add, List.drop_eq_getElem_cons hlt] at happend
    rw [ofTracks, happend]
  cases h with
  | invalid here breaks =>
    rw [hsplit _ here, checkFrom, Track.check_eq_error_iff.2 breaks]
    rfl
  | duplicate here valid taken =>
    obtain ⟨earlier, hearlier, hid⟩ := taken
    have hseen := List.mem_reverse.2 (List.mem_map.2 ⟨earlier, hearlier, hid⟩)
    rw [hsplit _ here, checkFrom, Track.check_eq_ok_iff_not_breaks.2 valid]
    dsimp only
    rw [if_pos hseen]
    rfl

/-- A list of tracks is a catalog as it stands if each track is acceptable and their identifiers are
pairwise distinct. Otherwise it is refused for the first track at fault, and a track that is unacceptable
is refused for that even if its identifier is taken. -/
theorem ofTracks_first_fault (tracks : List Track) :
    (∀ catalog, ofTracks tracks = .ok catalog ↔ catalog.tracks = tracks ∧
        (∀ t ∈ tracks, ∀ cause, ¬ t.Breaks cause) ∧ (tracks.map (·.id)).Nodup) ∧
      ∀ fault, ofTracks tracks = .error fault ↔ ∃ index, FaultAt tracks index fault ∧
        ∀ earlier < index, ∀ other, ¬ FaultAt tracks earlier other := by
  constructor
  · intro catalog
    simp only [← Track.check_eq_ok_iff_not_breaks]
    rw [ofTracks_eq_ok_iff, and_comm]
    exact and_congr_right fun _ => ⟨fun h => ⟨h.check, h.distinct⟩, fun h => ⟨h.1, h.2⟩⟩
  · refine fun fault => ⟨fun h => ?_, fun ⟨_, hfault, hfirst⟩ => ofTracks_of_faultAt hfault hfirst⟩
    have hsome : ∃ index other, FaultAt tracks index other := by
      by_contra hnone
      have hadmits : Admits (tracks.take tracks.length) :=
        admits_take_iff.2 fun index _ other hother => hnone ⟨index, other, hother⟩
      rw [List.take_length] at hadmits
      have hok : ofTracks tracks = .ok ⟨tracks⟩ := ofTracks_eq_ok_iff.2 ⟨hadmits, rfl⟩
      simp [hok] at h
    classical
    -- The scan stops at the least position at fault, so it is the one that stopped it here.
    obtain ⟨other, hother⟩ := Nat.find_spec hsome
    have hfirst : ∀ earlier < Nat.find hsome, ∀ other, ¬ FaultAt tracks earlier other :=
      fun earlier hlt other hfault => Nat.find_min hsome hlt ⟨other, hfault⟩
    obtain rfl : other = fault := by
      simpa [ofTracks_of_faultAt hother hfirst] using h
    exact ⟨_, hother, hfirst⟩

end Catalog

end TrackSearch
