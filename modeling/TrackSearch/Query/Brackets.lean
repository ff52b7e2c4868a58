/-!
Brackets in a text, where a backslash takes the meaning from the character after it. Balanced texts are
those that can stand between brackets and come back whole.
-/

namespace TrackSearch.Query

/-- How many brackets are open behind a text, where `depth` are open before it and the character before
it may be a backslash. There is no answer if more are closed than are open, or if the text ends in a
backslash that has no character to take. -/
def openAfter? (depth : Nat) (escaped : Bool) : List Char → Option Nat
  | [] => if escaped then none else some depth
  | c :: cs =>
    if escaped then openAfter? depth false cs
    else if c = '\\' then openAfter? depth true cs
    else if c = '(' then openAfter? (depth + 1) false cs
    else if c = ')' then if depth = 0 then none else openAfter? (depth - 1) false cs
    else openAfter? depth false cs

def Balanced (cs : List Char) : Prop := openAfter? 0 false cs = some 0

instance (cs : List Char) : Decidable (Balanced cs) := inferInstanceAs (Decidable (_ = _))

/-- Whether a text ends in a backslash that has no character to take, where the character before it may be
a backslash. -/
def endsInBackslash (escaped : Bool) : List Char → Bool
  | [] => escaped
  | c :: cs => endsInBackslash (!escaped && c == '\\') cs

/-- A text without the backslashes that take the meaning from a character and without the characters that
they take, where the character before the text may be such a backslash. -/
def withoutEscapes (escaped : Bool) : List Char → List Char
  | [] => []
  | c :: cs =>
    if escaped then withoutEscapes false cs
    else if c = '\\' then withoutEscapes true cs
    else c :: withoutEscapes false cs

def openings (cs : List Char) : Nat := (withoutEscapes false cs).count '('

def closings (cs : List Char) : Nat := (withoutEscapes false cs).count ')'

/-- A bracket is open from the start of the text to its end, and none behind it. -/
structure OpenThroughout (cs : List Char) : Prop where
  inside : ∀ part, part <+: cs → part ≠ [] → part ≠ cs → closings part < openings part
  behind : closings cs = openings cs

theorem endsInBackslash_append (escaped : Bool) (first second : List Char) :
    endsInBackslash escaped (first ++ second) =
      endsInBackslash (endsInBackslash escaped first) second := by
  induction first generalizing escaped with
  | nil => rfl
  | cons c cs ih => exact ih _

theorem withoutEscapes_append (escaped : Bool) (first second : List Char) :
    withoutEscapes escaped (first ++ second) =
      withoutEscapes escaped first ++ withoutEscapes (endsInBackslash escaped first) second := by
  induction first generalizing escaped with
  | nil => rfl
  | cons c cs ih =>
    rw [List.cons_append, withoutEscapes, withoutEscapes, endsInBackslash]
    cases escaped with
    | true => exact ih false
    | false => by_cases hslash : c = '\\' <;> simp [hslash, beq_false_of_ne, ih]

theorem openAfter?_cons (depth : Nat) (escaped : Bool) (c : Char) (cs : List Char) :
    openAfter? depth escaped (c :: cs) =
      if escaped = false ∧ c = ')' ∧ depth = 0 then none
      else
        openAfter? (if escaped then depth else if c = '(' then depth + 1
          else if c = ')' then depth - 1 else depth) (!escaped && c == '\\') cs := by
  rw [openAfter?]
  cases escaped with
  | true => simp
  | false =>
    by_cases hslash : c = '\\'
    · simp [hslash]
    · have hbeq : (c == '\\') = false := beq_false_of_ne hslash
      by_cases hopen : c = '('
      · simp [hopen]
      · by_cases hclose : c = ')' <;> simp [hslash, hbeq, hopen, hclose]

theorem openAfter?_append {depth middle : Nat} {escaped : Bool} {first : List Char}
    (second : List Char) (h : openAfter? depth escaped first = some middle) :
    openAfter? depth escaped (first ++ second) = openAfter? middle false second := by
  induction first generalizing depth escaped with
  | nil =>
    cases escaped with
    | true => simp [openAfter?] at h
    | false =>
      simp only [openAfter?, Bool.false_eq_true, if_false, Option.some.injEq] at h
      rw [List.nil_append, h]
  | cons c cs ih =>
    rw [openAfter?_cons] at h
    rw [List.cons_append, openAfter?_cons]
    split at h
    · contradiction
    · next hbelow => rw [if_neg hbelow, ih h]

theorem exists_depth_of_openAfter? {depth after : Nat} {escaped : Bool} {first second : List Char}
    (h : openAfter? depth escaped (first ++ second) = some after) :
    ∃ middle, openAfter? middle (endsInBackslash escaped first) second = some after ∧
      middle + (withoutEscapes escaped first).count ')' =
        depth + (withoutEscapes escaped first).count '(' := by
  induction first generalizing depth escaped with
  | nil => exact ⟨depth, h, rfl⟩
  | cons c cs ih =>
    rw [List.cons_append, openAfter?_cons] at h
    split at h
    · contradiction
    · next hbelow =>
      obtain ⟨middle, hrest, hcount⟩ := ih h
      refine ⟨middle, hrest, ?_⟩
      rw [withoutEscapes]
      cases escaped with
      | true => simpa using hcount
      | false =>
        by_cases hslash : c = '\\'
        · simpa [hslash] using hcount
        · by_cases hopen : c = '('
          · simp [hopen] at hcount ⊢
            omega
          · by_cases hclose : c = ')'
            · simp [hclose] at hcount hbelow ⊢
              omega
            · simpa [hslash, beq_false_of_ne hslash, hopen, hclose] using hcount

theorem endsInBackslash_of_openAfter? {depth after : Nat} {escaped : Bool} {cs : List Char}
    (h : openAfter? depth escaped cs = some after) : endsInBackslash escaped cs = false := by
  induction cs generalizing depth escaped with
  | nil =>
    cases escaped with
    | true => simp [openAfter?] at h
    | false => rfl
  | cons c cs ih =>
    rw [openAfter?_cons] at h
    split at h
    · contradiction
    · exact ih h

theorem Balanced.append {first second : List Char} (hfirst : Balanced first)
    (hsecond : Balanced second) : Balanced (first ++ second) :=
  (openAfter?_append second hfirst).trans hsecond

end TrackSearch.Query
