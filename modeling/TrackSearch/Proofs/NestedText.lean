import TrackSearch.Proofs.ScanRun
import TrackSearch.Query.Brackets
import TrackSearch.Query.Render

/-! Texts that can stand inside a group. Between brackets such a text is kept as it is and brackets that
it opens it closes again, so that it can be put into brackets of its own. -/

namespace TrackSearch.Query

def Ordinary (c : Char) : Prop :=
  c ≠ '\\' ∧ c ≠ '"' ∧ c ≠ '(' ∧ c ≠ ')' ∧ Text.isBlank c = false

instance : DecidablePred Ordinary := fun _ => inferInstanceAs (Decidable (_ ∧ _))

def Plain (cs : List Char) : Prop := ∀ c ∈ cs, Ordinary c

instance : DecidablePred Plain := fun cs => List.decidableBAll Ordinary cs

/-- Inside brackets `cs` is kept whole, with at most `depth` brackets more open at once. -/
def Nested (depth : Nat) (cs : List Char) : Prop :=
  ∀ (limit : Option Nat) (s : Scan), s.depth ≠ 0 → s.escaped = false →
    (∀ n ∈ limit, s.depth + depth ≤ n) →
      s.readAll limit cs = .ok ([], { s with pending := cs.reverse ++ s.pending })

namespace Nested

variable {depth more : Nat} {cs first second : List Char} {c : Char}

theorem mono (h : Nested depth cs) (hle : depth ≤ more) : Nested more cs :=
  fun limit s hdepth hescaped hlimit => h limit s hdepth hescaped fun n hn =>
    Nat.le_trans (Nat.add_le_add_left hle _) (hlimit n hn)

theorem nil : Nested 0 [] := fun _ _ _ _ _ => rfl

theorem append (hfirst : Nested depth first) (hsecond : Nested depth second) :
    Nested depth (first ++ second) := by
  intro limit s hdepth hescaped hlimit
  have hhead := hfirst limit s hdepth hescaped hlimit
  have htail := hsecond limit { s with pending := first.reverse ++ s.pending } hdepth hescaped hlimit
  rw [Scan.readAll_append hhead htail]
  simp only [List.append_nil, List.reverse_append, List.append_assoc]

theorem single (hslash : c ≠ '\\') (hopen : c ≠ '(') (hclose : c ≠ ')') : Nested 0 [c] :=
  fun _ _ hdepth hescaped hlimit =>
    Scan.readAll_single (Scan.read_inside_ordinary hdepth hescaped hslash hopen hclose) hlimit

theorem escaped (c : Char) : Nested 0 ['\\', c] := by
  intro limit s hdepth hescaped hlimit
  have hslash := Scan.read_inside_backslash hdepth hescaped
  have hread := Scan.read_inside_escaped (s := { s with pending := '\\' :: s.pending, escaped := true })
    (c := c) hdepth rfl
  have hpair := Scan.readAll_cons hslash hlimit (Scan.readAll_single hread hlimit)
  simpa [hescaped] using hpair

theorem of_plain (h : Plain cs) : Nested 0 cs := by
  induction cs with
  | nil => exact nil
  | cons c cs ih =>
    obtain ⟨hslash, -, hopen, hclose, -⟩ := h c (List.mem_cons_self ..)
    exact (single hslash hopen hclose).append (ih fun d hd => h d (List.mem_cons_of_mem _ hd))

theorem grouped (h : Nested depth cs) : Nested (depth + 1) (grouped cs) := by
  intro limit s hdepth hescaped hlimit
  have hopened : ∀ n ∈ limit, s.depth + 1 + depth ≤ n := fun n hn => by
    have := hlimit n hn
    omega
  let opened : Scan := { s with pending := '(' :: s.pending, depth := s.depth + 1 }
  have hinside := h limit opened (Nat.succ_ne_zero _) hescaped hopened
  have hclose := Scan.read_inside_close (s := { opened with pending := cs.reverse ++ opened.pending })
    (by show 1 < s.depth + 1; omega) hescaped
  have hbehind := Scan.readAll_append hinside (Scan.readAll_single hclose fun n hn => by
    have := hlimit n hn
    show s.depth + 1 - 1 ≤ n
    omega)
  have hwhole := Scan.readAll_cons (Scan.read_inside_open hdepth hescaped)
    (fun n hn => Nat.le_of_add_right_le (hopened n hn)) hbehind
  simpa [Query.grouped, Text.enclose, opened] using hwhole

end Nested

theorem nested_escape (cs : List Char) : Nested 0 (escape cs) := by
  induction cs with
  | nil => exact Nested.nil
  | cons c cs ih =>
    rw [escape, List.flatMap_cons]
    refine Nested.append ?_ ih
    split
    · exact Nested.escaped c
    · next hspecial =>
      simp only [isSpecial, Bool.or_eq_true, beq_iff_eq, not_or] at hspecial
      exact Nested.single hspecial.1.1.2 hspecial.1.2 hspecial.2

theorem nested_quote (text : String) : Nested 0 (quote text) := by
  have hquote : Nested 0 ['"'] := Nested.single (by decide) (by decide) (by decide)
  exact hquote.append ((nested_escape _).append hquote)

theorem Scan.depth_read_around {s : Scan} {c : Char} {around depth : Nat} (haround : around ≠ 0)
    (hdepth : s.depth = around + depth) (hbelow : ¬(s.escaped = false ∧ c = ')' ∧ depth = 0)) :
    (s.read c).2.depth = around + (if s.escaped then depth else if c = '(' then depth + 1
      else if c = ')' then depth - 1 else depth) := by
  rw [read_of_inside (by omega), depth_readInside, hdepth]
  repeat' split
  all_goals simp_all
  all_goals omega

theorem readAll_of_openAfter? {limit : Option Nat} {s : Scan} {cs : List Char} {around depth after : Nat}
    (h : openAfter? depth s.escaped cs = some after) (haround : around ≠ 0)
    (hdepth : s.depth = around + depth) (hlimit : ∀ n ∈ limit, s.depth + cs.length ≤ n) :
    s.readAll limit cs = .ok ([],
      { s with pending := cs.reverse ++ s.pending, escaped := false, depth := around + after }) := by
  induction cs generalizing s depth with
  | nil =>
    obtain ⟨pending, escaped, inQuotes, open', leads⟩ := s
    cases escaped with
    | true => simp [openAfter?] at h
    | false =>
      obtain rfl : depth = after := by simpa [openAfter?] using h
      subst hdepth
      rfl
  | cons c cs ih =>
    rw [openAfter?_cons] at h
    split at h
    · contradiction
    · next hbelow =>
      have hinside : s.depth ≠ 0 := by omega
      have hnext := Scan.depth_read_around haround hdepth hbelow
      have hmore : (s.read c).2.depth ≤ s.depth + 1 := by
        rw [hnext, hdepth]
        repeat' split
        all_goals omega
      have hbelowLimit : ∀ n ∈ limit, (s.read c).2.depth + cs.length ≤ n := by
        intro n hn
        have := hlimit n hn
        rw [List.length_cons] at this
        omega
      obtain ⟨htoken, hpending, hleads, hquotes⟩ := Scan.read_staying (c := c) hinside (by omega)
      rw [← Scan.escaped_read] at h
      have hrest := ih h hnext hbelowLimit
      have hread : s.read c = (none, (s.read c).2) := Prod.ext htoken rfl
      rw [Scan.readAll_cons hread (fun n hn => Nat.le_of_add_right_le (hbelowLimit n hn)) hrest]
      simp [hpending, hleads, hquotes]

theorem nested_of_balanced {cs : List Char} (h : Balanced cs) : Nested cs.length cs := by
  intro limit s hdepth hescaped hlimit
  have hopen : openAfter? 0 s.escaped cs = some 0 := hescaped ▸ h
  have hread := readAll_of_openAfter? hopen hdepth (Nat.add_zero _).symm hlimit
  rw [hread, Nat.add_zero, ← hescaped]

end TrackSearch.Query
