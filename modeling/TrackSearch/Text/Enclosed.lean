/-!
Text between an opening character and a closing one.
-/

namespace TrackSearch.Text

def enclose (opening closing : Char) (cs : List Char) : List Char := opening :: (cs ++ [closing])

def between? (opening closing : Char) : List Char → Option (List Char)
  | [] => none
  | c :: cs => if c = opening ∧ cs.getLast? = some closing then some cs.dropLast else none

theorem between?_enclose (opening closing : Char) (cs : List Char) :
    between? opening closing (enclose opening closing cs) = some cs := by
  simp [between?, enclose]

theorem between?_eq_some_iff {opening closing : Char} {cs inner : List Char} :
    between? opening closing cs = some inner ↔ cs = enclose opening closing inner := by
  constructor
  · intro h
    cases cs with
    | nil => simp [between?] at h
    | cons c cs =>
      simp only [between?, Option.ite_none_right_eq_some, Option.some.injEq] at h
      obtain ⟨⟨rfl, hlast⟩, rfl⟩ := h
      obtain ⟨middle, rfl⟩ := List.getLast?_eq_some_iff.1 hlast
      rw [enclose, List.dropLast_concat]
  · rintro rfl
    exact between?_enclose opening closing inner

theorem length_between? {opening closing : Char} {cs inner : List Char}
    (h : between? opening closing cs = some inner) : inner.length + 2 = cs.length := by
  rw [between?_eq_some_iff.1 h]
  simp [enclose]

end TrackSearch.Text
