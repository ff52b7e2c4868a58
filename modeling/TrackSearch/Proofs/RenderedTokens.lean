import TrackSearch.Proofs.NestedText
import TrackSearch.Proofs.YearText

/-! The tokens of a rendered predicate. A rendering is a chain of operands with relations between them:
a leaf is one token, and a group is one token whatever it holds. -/

namespace TrackSearch.Query

namespace Scan

def between (leads : Bool) : Scan := ⟨[], false, false, 0, leads⟩

variable {limit : Option Nat} {leads : Bool}

theorem readAll_plain (pending : List Char) {cs : List Char} (h : Plain cs) :
    readAll limit ⟨pending, false, false, 0, leads⟩ cs =
      .ok ([], ⟨cs.reverse ++ pending, false, false, 0, leads⟩) := by
  induction cs generalizing pending with
  | nil => rfl
  | cons c cs ih =>
    obtain ⟨hslash, hquote, hopen, -, hblank⟩ := h c (List.mem_cons_self ..)
    have hread := read_ordinary (s := ⟨pending, false, false, 0, leads⟩) rfl rfl hslash hquote
      (Or.inr ⟨hopen, hblank⟩)
    have hrest := ih (c :: pending) fun d hd => h d (List.mem_cons_of_mem _ hd)
    simpa using readAll_cons hread (fun n _ => Nat.zero_le n) hrest

theorem readAll_pair (pending : List Char) (quotes : Bool) (c : Char) :
    readAll limit ⟨pending, false, quotes, 0, leads⟩ ['\\', c] =
      .ok ([], ⟨c :: pending, false, quotes, 0, leads⟩) := by
  have hzero : ∀ n ∈ limit, 0 ≤ n := fun n _ => Nat.zero_le n
  have hslash := read_backslash (s := ⟨pending, false, quotes, 0, leads⟩) rfl rfl
  have hread := read_escaped (s := ⟨pending, true, quotes, 0, leads⟩) (c := c) rfl rfl
  exact readAll_cons hslash hzero (readAll_single hread hzero)

theorem readAll_escape (pending cs : List Char) :
    readAll limit ⟨pending, false, true, 0, leads⟩ (escape cs) =
      .ok ([], ⟨cs.reverse ++ pending, false, true, 0, leads⟩) := by
  induction cs generalizing pending with
  | nil => rfl
  | cons c cs ih =>
    have hrest := ih (c :: pending)
    rw [escape, List.flatMap_cons, ← escape, List.reverse_cons, List.append_assoc]
    split
    · exact readAll_append (readAll_pair pending true c) hrest
    · next hspecial =>
      simp only [isSpecial, Bool.or_eq_true, beq_iff_eq, not_or] at hspecial
      have hread := read_ordinary (s := ⟨pending, false, true, 0, leads⟩) rfl rfl hspecial.1.1.2
        hspecial.1.1.1 (Or.inl rfl)
      exact readAll_cons hread (fun n _ => Nat.zero_le n) hrest

end Scan

open Scan

/-- With a blank behind it, `cs` is read as `tokens` and leaves nothing pending. -/
def ReadsAs (limit : Option Nat) (cs : List Char) (tokens : List Token) : Prop :=
  ∀ leads, ∃ leads', (between leads).readAll limit (cs ++ [' ']) = .ok (tokens, between leads')

section ReadsAs

variable {limit : Option Nat} {cs first second : List Char} {tokens more : List Token}

theorem ReadsAs.append (hfirst : ReadsAs limit first tokens) (hsecond : ReadsAs limit second more) :
    ReadsAs limit (first ++ ' ' :: second) (tokens ++ more) := by
  intro leads
  obtain ⟨middle, hmiddle⟩ := hfirst leads
  obtain ⟨last, hlast⟩ := hsecond middle
  have hboth := readAll_append hmiddle hlast
  exact ⟨last, by simpa using hboth⟩

theorem readsAs_nil : ReadsAs limit [] [] :=
  fun leads => ⟨leads, readAll_single (read_blank rfl rfl rfl rfl) fun n _ => Nat.zero_le n⟩

theorem read_blank_between {s : Scan} (h : (s.read ' ').2.pending = []) :
    s.depth = 0 ∧ s.inQuotes = false ∧ s.read ' ' = s.flush := by
  unfold Scan.read readOutside readInside at h ⊢
  repeat' split at h
  all_goals simp_all

theorem ReadsAs.tokenize (h : ReadsAs limit cs tokens) : tokenize limit cs = .ok tokens := by
  obtain ⟨leads, hread⟩ := h false
  obtain ⟨before, middle, more, hbefore, hmore, rfl⟩ := readAll_append_ok hread
  obtain ⟨rest, rfl, -, hrest⟩ := readAll_cons_ok hmore
  obtain ⟨rfl, hlast⟩ := readAll_nil_ok hrest
  obtain ⟨hdepth, hquotes, hflush⟩ := read_blank_between (s := middle) (by rw [← hlast]; rfl)
  have hstart : Scan.start.readAll limit cs = .ok (before, middle) := hbefore
  simp [Query.tokenize, hstart, finish, hquotes, hdepth, hflush, Except.map]

theorem readsAs_word (hne : cs ≠ []) (h : Plain cs) :
    ReadsAs limit cs [⟨.word, String.ofList cs⟩] := by
  intro leads
  have hpending : Text.allBlank (cs.reverse ++ []) = false := by
    obtain ⟨c, hc⟩ := List.exists_mem_of_ne_nil cs hne
    rw [List.append_nil, Text.allBlank, List.all_eq_false]
    exact ⟨c, List.mem_reverse.2 hc, by simp [(h c hc).2.2.2.2]⟩
  have hblank : Scan.read ⟨cs.reverse ++ [], false, false, 0, leads⟩ ' ' =
      (some ⟨.word, String.ofList cs⟩, between leads) := by
    rw [read_blank rfl rfl rfl rfl, flush, hpending]
    simp [Scan.text, between]
  exact ⟨leads, readAll_append (readAll_plain [] h) (readAll_single hblank fun n _ => Nat.zero_le n)⟩

def quotedToken (field : List Char) (text : String) : Token :=
  ⟨.quoted, String.ofList (field ++ Text.enclose '"' '"' text.toList)⟩

theorem readsAs_quoted {field : List Char} (text : String) (h : Plain field) :
    ReadsAs limit (field ++ quote text) [quotedToken field text] := by
  intro leads
  have hzero : ∀ n ∈ limit, 0 ≤ n := fun n _ => Nat.zero_le n
  obtain ⟨leads', hnothing⟩ := @readsAs_nil limit leads
  let quoted := '"' :: (field.reverse ++ [])
  have hclose : Scan.read ⟨text.toList.reverse ++ quoted, false, true, 0, leads⟩ '"' =
      (some (quotedToken field text), between leads) := by
    rw [read_quote_close rfl rfl rfl]
    simp [quotedToken, quoted, Text.enclose, between]
  have hopen := read_quote_open (s := ⟨field.reverse ++ [], false, false, 0, leads⟩) rfl rfl rfl
  have htext := readAll_append (readAll_escape quoted text.toList) (readAll_cons hclose hzero hnothing)
  have hwhole := readAll_append (readAll_plain [] h) (readAll_cons hopen hzero htext)
  exact ⟨leads', by simpa [quote, Text.enclose, between] using hwhole⟩

def groupToken (cs : List Char) : Token := ⟨.group, String.ofList (grouped cs)⟩

theorem contents?_groupToken (cs : List Char) : (groupToken cs).contents? = some cs := by
  simp only [Token.contents?, Token.chars, groupToken, if_true, String.toList_ofList]
  exact Text.between?_enclose ..

theorem readsAs_grouped {depth : Nat} (h : Nested depth cs) (hlimit : ∀ n ∈ limit, depth + 1 ≤ n) :
    ReadsAs limit (grouped cs) [groupToken cs] := by
  intro leads
  have hone : ∀ n ∈ limit, 1 ≤ n := fun n hn => Nat.le_of_add_left_le (hlimit n hn)
  obtain ⟨leads', hnothing⟩ := @readsAs_nil limit true
  have hopen := read_bracket (s := between leads) rfl rfl rfl
  have hinside := h limit ⟨['('], false, false, 1, true⟩ (by simp) rfl fun n hn =>
    Nat.add_comm 1 depth ▸ hlimit n hn
  have hclose : Scan.read ⟨cs.reverse ++ ['('], false, false, 1, true⟩ ')' =
      (some (groupToken cs), between true) := by
    rw [read_outermost_close rfl rfl]
    simp [groupToken, grouped, Text.enclose, between]
  have hwhole := readAll_cons hopen hone
    (readAll_append hinside (readAll_cons hclose (fun n _ => Nat.zero_le n) hnothing))
  exact ⟨leads', by simpa [grouped, Text.enclose] using hwhole⟩

end ReadsAs

theorem ordinary_of_isDigit {c : Char} (h : c.isDigit = true) : Ordinary c := by
  simp only [Char.isDigit, Bool.and_eq_true, decide_eq_true_eq, ge_iff_le] at h
  have hlow : 48 ≤ c.toNat := UInt32.le_iff_toNat_le.1 h.1
  have hhigh : c.toNat ≤ 57 := UInt32.le_iff_toNat_le.1 h.2
  have hne : ∀ d : Char, d.toNat < 48 ∨ 57 < d.toNat → c ≠ d := by
    rintro d hd rfl
    omega
  refine ⟨hne _ (by decide), hne _ (by decide), hne _ (by decide), hne _ (by decide), ?_⟩
  simp [Text.isBlank]
  omega

theorem ordinary_of_mem_showInt32 {year : Int32} {c : Char} (h : c ∈ Text.showInt32 year) :
    Ordinary c := by
  unfold Text.showInt32 Text.showInt at h
  split at h
  · exact ordinary_of_isDigit (Text.isDigit_of_mem_showNat h)
  · rcases List.mem_cons.1 h with rfl | hdigit
    · decide
    · exact ordinary_of_isDigit (Text.isDigit_of_mem_showNat hdigit)

theorem ordinary_of_mem_showBound {bound : Option Int32} {c : Char} (h : c ∈ showBound bound) :
    Ordinary c := by
  cases bound with
  | none => simp [showBound] at h
  | some year => exact ordinary_of_mem_showInt32 h

namespace Predicate

theorem plain_yearEquals (year : Int32) : Plain (yearEquals year).chars := by
  have hfield : Plain "y:".toList := by decide
  intro c hc
  rcases List.mem_append.1 hc with hc | hyear
  · exact hfield c hc
  · exact ordinary_of_mem_showInt32 hyear

theorem plain_yearRange (min max : Option Int32) : Plain (yearRange min max).chars := by
  have hfield : Plain "y:".toList := by decide
  have hdash : Plain "-".toList := by decide
  intro c hc
  simp only [chars, List.mem_append] at hc
  rcases hc with ((hc | hmin) | hc) | hmax
  · exact hfield c hc
  · exact ordinary_of_mem_showBound hmin
  · exact hdash c hc
  · exact ordinary_of_mem_showBound hmax

theorem plain_explicitIs (flag : Bool) : Plain (explicitIs flag).chars := by
  cases flag <;> decide

def operand : Predicate → Token
  | titleContains text => quotedToken "t:".toList text
  | artistContains text => quotedToken "a:".toList text
  | albumContains text => quotedToken "al:".toList text
  | tagIncluded name => quotedToken "+".toList name
  | tagExcluded name => quotedToken "-".toList name
  | freeText text => quotedToken [] text
  | yearEquals year => ⟨.word, (yearEquals year).render⟩
  | yearRange min max => ⟨.word, (yearRange min max).render⟩
  | explicitIs flag => ⟨.word, (explicitIs flag).render⟩
  | p => groupToken p.chars

def bracketDepth : Predicate → Nat
  | and left right | or left right =>
    max (if left.isAlways then 1 else left.bracketDepth)
      (if right.isAlways || right.isCombined then right.bracketDepth + 1 else right.bracketDepth)
  | _ => 0

def tokens : Predicate → List Token
  | always => []
  | and left right =>
    (if left.isAlways then [left.operand] else left.tokens) ++ [⟨.word, "AND"⟩, right.operand]
  | or left right =>
    (if left.isAlways then [left.operand] else left.tokens) ++ [⟨.word, "OR"⟩, right.operand]
  | leaf => [leaf.operand]

def operandDepth (p : Predicate) : Nat :=
  if p.isAlways || p.isCombined then p.bracketDepth + 1 else p.bracketDepth

def leadingDepth (p : Predicate) : Nat := if p.isAlways then 1 else p.bracketDepth

def leadingTokens (p : Predicate) : List Token := if p.isAlways then [p.operand] else p.tokens

theorem bracketDepth_combined (left right : Predicate) :
    (left.and right).bracketDepth = max left.leadingDepth right.operandDepth := rfl

theorem nested_rightSide {p : Predicate} (h : Nested p.bracketDepth p.chars) :
    Nested p.operandDepth (p.rightSide p.chars) := by
  unfold operandDepth rightSide
  split
  · exact h.grouped
  · exact h

theorem nested_leftSide {p : Predicate} (h : Nested p.bracketDepth p.chars) :
    Nested p.leadingDepth (p.leftSide p.chars) := by
  unfold leadingDepth leftSide
  split
  · exact Nested.nil.grouped
  · exact h

theorem nested_combined {left right : Predicate} {relation : List Char} (hrelation : Plain relation)
    (hleft : Nested left.bracketDepth left.chars) (hright : Nested right.bracketDepth right.chars) :
    Nested (left.and right).bracketDepth
      (left.leftSide left.chars ++ (' ' :: relation ++ [' ']) ++ right.rightSide right.chars) := by
  rw [bracketDepth_combined]
  have hblank : Nested 0 [' '] := Nested.single (by decide) (by decide) (by decide)
  have hbetween : Nested 0 (' ' :: relation ++ [' ']) :=
    (hblank.append (Nested.of_plain hrelation)).append hblank
  refine Nested.append (Nested.append ?_ (hbetween.mono (Nat.zero_le _))) ?_
  · exact (nested_leftSide hleft).mono (Nat.le_max_left ..)
  · exact (nested_rightSide hright).mono (Nat.le_max_right ..)

theorem nested_field {field : List Char} (h : Plain field) (text : String) :
    Nested 0 (field ++ quote text) :=
  (Nested.of_plain h).append (nested_quote text)

theorem nested_chars (p : Predicate) : Nested p.bracketDepth p.chars := by
  induction p with
  | always => exact Nested.nil
  | and left right hleft hright => exact nested_combined (by decide : Plain "AND".toList) hleft hright
  | or left right hleft hright => exact nested_combined (by decide : Plain "OR".toList) hleft hright
  | titleContains text => exact nested_field (by decide) text
  | artistContains text => exact nested_field (by decide) text
  | albumContains text => exact nested_field (by decide) text
  | tagIncluded name => exact nested_field (by decide) name
  | tagExcluded name => exact nested_field (by decide) name
  | freeText text => exact nested_quote text
  | explicitIs flag => exact .of_plain (plain_explicitIs flag)
  | yearEquals year => exact .of_plain (plain_yearEquals year)
  | yearRange min max => exact .of_plain (plain_yearRange min max)

variable {limit : Option Nat}

theorem readsAs_operand (p : Predicate) (hlimit : ∀ n ∈ limit, p.operandDepth ≤ n) :
    ReadsAs limit (p.rightSide p.chars) [p.operand] := by
  cases p with
  | always => exact readsAs_grouped Nested.nil hlimit
  | and left right => exact readsAs_grouped (nested_chars _) hlimit
  | or left right => exact readsAs_grouped (nested_chars _) hlimit
  | titleContains text => exact readsAs_quoted text (by decide)
  | artistContains text => exact readsAs_quoted text (by decide)
  | albumContains text => exact readsAs_quoted text (by decide)
  | tagIncluded name => exact readsAs_quoted name (by decide)
  | tagExcluded name => exact readsAs_quoted name (by decide)
  | freeText text => exact readsAs_quoted text (by decide : Plain [])
  | explicitIs flag => exact readsAs_word (List.cons_ne_nil 'e' _) (plain_explicitIs flag)
  | yearEquals year => exact readsAs_word (List.cons_ne_nil 'y' _) (plain_yearEquals year)
  | yearRange min max => exact readsAs_word (List.cons_ne_nil 'y' _) (plain_yearRange min max)

theorem operandDepth_of_leaf {p : Predicate} (h : (p.isAlways || p.isCombined) = false) :
    p.operandDepth = 0 := by
  rw [operandDepth, h]
  cases p <;> simp_all [isCombined, bracketDepth]

theorem readsAs_leaf {p : Predicate} (h : (p.isAlways || p.isCombined) = false) :
    ReadsAs limit p.chars [p.operand] := by
  have hoperand := @readsAs_operand limit p fun n _ => by simp [operandDepth_of_leaf h]
  rwa [rightSide, h] at hoperand

theorem readsAs_leftSide {p : Predicate} (hlimit : ∀ n ∈ limit, p.leadingDepth ≤ n)
    (h : (∀ n ∈ limit, p.bracketDepth ≤ n) → ReadsAs limit p.chars p.tokens) :
    ReadsAs limit (p.leftSide p.chars) p.leadingTokens := by
  unfold leadingDepth at hlimit
  unfold leftSide leadingTokens
  split
  · next halways =>
    obtain rfl := isAlways_iff.1 halways
    exact readsAs_grouped Nested.nil hlimit
  · next halways =>
    rw [if_neg halways] at hlimit
    exact h hlimit

theorem readsAs_combined {left right : Predicate} (relation : List Char) (hne : relation ≠ [])
    (hrelation : Plain relation) (hlimit : ∀ n ∈ limit, (left.and right).bracketDepth ≤ n)
    (hleft : (∀ n ∈ limit, left.bracketDepth ≤ n) → ReadsAs limit left.chars left.tokens) :
    ReadsAs limit (left.leftSide left.chars ++ (' ' :: relation ++ [' ']) ++ right.rightSide right.chars)
      (left.leadingTokens ++ [⟨.word, String.ofList relation⟩, right.operand]) := by
  rw [bracketDepth_combined] at hlimit
  have hbefore := readsAs_leftSide (fun n hn => Nat.le_trans (Nat.le_max_left ..) (hlimit n hn)) hleft
  have hbehind := right.readsAs_operand fun n hn => Nat.le_trans (Nat.le_max_right ..) (hlimit n hn)
  simpa using hbefore.append ((readsAs_word hne hrelation).append hbehind)

theorem readsAs_chars (p : Predicate) (hlimit : ∀ n ∈ limit, p.bracketDepth ≤ n) :
    ReadsAs limit p.chars p.tokens := by
  induction p with
  | always => exact readsAs_nil
  | and left right hleft _ =>
    exact readsAs_combined "AND".toList (by decide) (by decide) hlimit hleft
  | or left right hleft _ =>
    exact readsAs_combined "OR".toList (by decide) (by decide) hlimit hleft
  | _ => exact readsAs_leaf rfl

theorem tokenize_chars (p : Predicate) (hlimit : ∀ n ∈ limit, p.bracketDepth ≤ n) :
    tokenize limit p.chars = .ok p.tokens :=
  (p.readsAs_chars hlimit).tokenize

end Predicate

end TrackSearch.Query
