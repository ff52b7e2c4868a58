import TrackSearch.Proofs.ScanRun
import TrackSearch.Query.Brackets

/-! Texts with blanks between them. If the first can be scanned and its last character is not a backslash
that takes a blank, the second is scanned as if it stood alone, errors included. Blanks around a text are
not noticed at all, since the scan between two tokens is the scan at the start. -/

namespace TrackSearch.Query

namespace Scan

variable {limit : Option Nat} {s middle last : Scan} {first cs : List Char} {tokens : List Token}

theorem escaped_of_readAll (h : s.readAll limit cs = .ok (tokens, last)) :
    last.escaped = endsInBackslash s.escaped cs := by
  induction cs generalizing s tokens with
  | nil => rw [(readAll_nil_ok h).2, endsInBackslash]
  | cons c cs ih =>
    obtain ⟨rest, -, -, hrest⟩ := readAll_cons_ok h
    rw [ih hrest, escaped_read, endsInBackslash]

def tokensFrom (limit : Option Nat) (s : Scan) (cs : List Char) : Except SyntaxError (List Token) :=
  match s.readAll limit cs with
  | .error e => .error e
  | .ok (tokens, last) => last.finish.map (tokens ++ ·.toList)

theorem tokensFrom_append (h : s.readAll limit first = .ok (tokens, middle)) (second : List Char) :
    s.tokensFrom limit (first ++ second) = (middle.tokensFrom limit second).map (tokens ++ ·) := by
  unfold tokensFrom
  rw [readAll_append_eq h]
  cases middle.readAll limit second with
  | error e => rfl
  | ok read =>
    cases hfinish : read.2.finish <;> simp [Except.map, hfinish]

theorem tokensFrom_cons (limit : Option Nat) (s : Scan) (c : Char) (cs : List Char) :
    s.tokensFrom limit (c :: cs) =
      match limit.filter (· < (s.read c).2.depth) with
      | some n => .error (.tooDeep n)
      | none => ((s.read c).2.tokensFrom limit cs).map ((s.read c).1.toList ++ ·) := by
  cases hlimit : limit.filter (· < (s.read c).2.depth) with
  | some n => simp only [tokensFrom, readAll, hlimit]
  | none =>
    have hread : s.readAll limit [c] = .ok ((s.read c).1.toList, (s.read c).2) :=
      readAll_single rfl (filter_eq_none_iff.1 hlimit)
    exact tokensFrom_append hread cs

theorem tokensFrom_nil_ok (h : s.tokensFrom limit [] = .ok tokens) :
    s.depth = 0 ∧ tokens = s.flush.1.toList := by
  unfold tokensFrom readAll finish at h
  repeat' split at h
  all_goals simp_all [Except.map]

theorem tokensFrom_cons_ok {c : Char} (h : s.tokensFrom limit (c :: cs) = .ok tokens) :
    ∃ more, tokens = (s.read c).1.toList ++ more ∧ (s.read c).2.tokensFrom limit cs = .ok more := by
  rw [tokensFrom_cons] at h
  split at h
  · contradiction
  · cases hmore : (s.read c).2.tokensFrom limit cs with
    | error e => simp [hmore, Except.map] at h
    | ok more =>
      simp only [hmore, Except.map, Except.ok.injEq] at h
      exact ⟨more, h.symm, rfl⟩

theorem mode_read_blank {c : Char} (hescaped : s.escaped = false) (hblank : Text.isBlank c = true) :
    (s.read c).2.inQuotes = s.inQuotes ∧ (s.read c).2.depth = s.depth := by
  have hslash : c ≠ '\\' := Text.ne_of_isBlank hblank rfl
  have hquote : c ≠ '"' := Text.ne_of_isBlank hblank rfl
  have hopen : c ≠ '(' := Text.ne_of_isBlank hblank rfl
  have hclose : c ≠ ')' := Text.ne_of_isBlank hblank rfl
  by_cases hdepth : s.depth = 0
  · cases hquotes : s.inQuotes with
    | false =>
      rw [read_blank hdepth hescaped hquotes hblank]
      exact ⟨hquotes, rfl⟩
    | true =>
      rw [read_ordinary hdepth hescaped hslash hquote (Or.inl hquotes)]
      exact ⟨hquotes, rfl⟩
  · rw [read_inside_ordinary hdepth hescaped hslash hopen hclose]
    exact ⟨rfl, rfl⟩

theorem finish_eq_error {other : Scan} {e : SyntaxError} (h : s.finish = .error e)
    (hquotes : other.inQuotes = s.inQuotes) (hdepth : other.depth = s.depth) :
    other.finish = .error e := by
  unfold finish at h ⊢
  rw [hquotes, hdepth]
  split at h
  · next hopen => rw [if_pos hopen, h]
  · next hclosed =>
    split at h
    · next hopen => rw [if_neg hclosed, if_pos hopen, h]
    · contradiction

theorem tokensFrom_blank_error {c : Char} {e : SyntaxError} (h : s.tokensFrom limit cs = .error e)
    (hlimit : ∀ n ∈ limit, s.depth ≤ n) (hend : endsInBackslash s.escaped cs = false)
    (hblank : Text.isBlank c = true) : s.tokensFrom limit (cs ++ [c]) = .error e := by
  induction cs generalizing s with
  | nil =>
    obtain ⟨hquotes, hdepth⟩ := mode_read_blank (s := s) hend hblank
    have hfinish : s.finish = .error e := by
      cases hs : s.finish with
      | error e' => simpa [tokensFrom, readAll, hs, Except.map] using h
      | ok token => simp [tokensFrom, readAll, hs, Except.map] at h
    have hread : s.readAll limit [c] = .ok ((s.read c).1.toList, (s.read c).2) :=
      readAll_single rfl (hdepth ▸ hlimit)
    rw [List.nil_append, tokensFrom, hread]
    simp only [finish_eq_error hfinish hquotes hdepth, Except.map]
  | cons d cs ih =>
    rw [tokensFrom_cons] at h
    rw [List.cons_append, tokensFrom_cons]
    cases hdeep : limit.filter (· < (s.read d).2.depth) with
    | some n => simpa only [hdeep] using h
    | none =>
      simp only [hdeep] at h ⊢
      have hrest : (s.read d).2.tokensFrom limit cs = .error e := by
        cases hcs : (s.read d).2.tokensFrom limit cs with
        | error e' => simpa [hcs, Except.map] using h
        | ok tokens => simp [hcs, Except.map] at h
      have hendRest : endsInBackslash (s.read d).2.escaped cs = false := by
        rw [escaped_read]
        exact hend
      rw [ih hrest (filter_eq_none_iff.1 hdeep) hendRest]
      rfl

theorem read_with_leads (h : s.depth = 0) (leads : Bool) (c : Char) :
    { s with leads := leads }.read c =
      ((s.read c).1, if (s.read c).2.depth = 0 then { (s.read c).2 with leads := leads }
        else (s.read c).2) := by
  rw [read_of_outside h, read_of_outside (s := { s with leads := leads }) h]
  unfold readOutside flush text
  repeat' split
  all_goals simp_all

theorem tokensFrom_with_leads (h : s.depth = 0) (leads : Bool) :
    { s with leads := leads }.tokensFrom limit cs = s.tokensFrom limit cs := by
  induction cs generalizing s with
  | nil => rfl
  | cons c cs ih =>
    rw [tokensFrom_cons, tokensFrom_cons, read_with_leads h]
    by_cases hdepth : (s.read c).2.depth = 0
    · rw [if_pos hdepth, ih hdepth]
    · rw [if_neg hdepth]

end Scan

theorem tokenize_append_blank {limit : Option Nat} {first rest : List Char} {tokens : List Token} {c : Char}
    (h : tokenize limit first = .ok tokens) (hend : endsInBackslash false first = false)
    (hblank : Text.isBlank c = true) :
    tokenize limit (first ++ c :: rest) = (tokenize limit rest).map (tokens ++ ·) := by
  obtain ⟨read, last, hread, hquotes, hdepth, rfl⟩ := tokenize_ok h
  have hescaped : last.escaped = false := (Scan.escaped_of_readAll hread).trans hend
  have hflush : last.read c = last.flush := Scan.read_blank hdepth hescaped hquotes hblank
  have hbetween : last.flush.2 = { Scan.start with leads := last.leads } := by
    simp [Scan.flush, Scan.start, hescaped, hquotes, hdepth]
  have hsingle : last.readAll limit [c] = .ok (last.flush.1.toList, last.flush.2) :=
    Scan.readAll_single hflush fun n _ => by simp [hbetween, Scan.start]
  calc tokenize limit (first ++ c :: rest)
      = (last.tokensFrom limit ([c] ++ rest)).map (read ++ ·) := Scan.tokensFrom_append hread _
    _ = ((last.flush.2.tokensFrom limit rest).map (last.flush.1.toList ++ ·)).map (read ++ ·) := by
        rw [Scan.tokensFrom_append hsingle]
    _ = ((tokenize limit rest).map (last.flush.1.toList ++ ·)).map (read ++ ·) := by
        rw [hbetween, Scan.tokensFrom_with_leads rfl]
        rfl
    _ = (tokenize limit rest).map (read ++ last.flush.1.toList ++ ·) := by
        cases tokenize limit rest <;> simp [Except.map]

section Blanks

variable {limit : Option Nat} {first blanks : List Char} {tokens : List Token}

theorem tokenize_blanks_append (h : Text.allBlank blanks = true) (rest : List Char) :
    tokenize limit (blanks ++ rest) = tokenize limit rest := by
  induction blanks with
  | nil => rfl
  | cons c cs ih =>
    rw [Text.allBlank_cons, Bool.and_eq_true] at h
    have hnothing : tokenize limit [] = .ok [] := rfl
    have hblank : tokenize limit (c :: (cs ++ rest)) = (tokenize limit (cs ++ rest)).map ([] ++ ·) :=
      tokenize_append_blank hnothing rfl h.1
    rw [List.cons_append, hblank, ih h.2]
    cases tokenize limit rest <;> rfl

theorem tokenize_append_blanks_append (h : tokenize limit first = .ok tokens)
    (hend : endsInBackslash false first = false) (hne : blanks ≠ [])
    (hblanks : Text.allBlank blanks = true) (rest : List Char) :
    tokenize limit (first ++ (blanks ++ rest)) = (tokenize limit rest).map (tokens ++ ·) := by
  cases blanks with
  | nil => contradiction
  | cons c cs =>
    rw [Text.allBlank_cons, Bool.and_eq_true] at hblanks
    rw [List.cons_append, tokenize_append_blank h hend hblanks.1, tokenize_blanks_append hblanks.2]

theorem endsInBackslash_blank {c : Char} (hend : endsInBackslash false first = false)
    (hblank : Text.isBlank c = true) : endsInBackslash false (first ++ [c]) = false := by
  rw [endsInBackslash_append, hend]
  exact beq_false_of_ne (Text.ne_of_isBlank hblank rfl)

theorem tokenize_append_blanks (hend : endsInBackslash false first = false)
    (hblanks : Text.allBlank blanks = true) :
    tokenize limit (first ++ blanks) = tokenize limit first := by
  induction blanks generalizing first with
  | nil => rw [List.append_nil]
  | cons c cs ih =>
    rw [Text.allBlank_cons, Bool.and_eq_true] at hblanks
    have hone : tokenize limit (first ++ [c]) = tokenize limit first := by
      cases h : tokenize limit first with
      | error e => exact Scan.tokensFrom_blank_error h (fun n _ => Nat.zero_le n) hend hblanks.1
      | ok tokens =>
        rw [tokenize_append_blank h hend hblanks.1]
        exact congrArg Except.ok (List.append_nil tokens)
    have hrest := ih (endsInBackslash_blank hend hblanks.1) hblanks.2
    rw [List.append_assoc] at hrest
    exact hrest.trans hone

end Blanks

/-- Blanks between two queries separate their tokens and do nothing else, and blanks before or behind a
query do nothing at all. -/
theorem blanks_only_separate (compiler : Compiler) {first blanks : String}
    (hend : endsInBackslash false first.toList = false) (hne : blanks ≠ "")
    (hblanks : Text.allBlank blanks.toList = true) :
    (∀ tokens, compiler.tokenize first = .ok tokens → ∀ rest,
        compiler.tokenize (first ++ blanks ++ rest) = (compiler.tokenize rest).map (tokens ++ ·)) ∧
      (∀ rest, compiler.tokenize (blanks ++ rest) = compiler.tokenize rest) ∧
      compiler.tokenize (first ++ blanks) = compiler.tokenize first := by
  have hnonempty : blanks.toList ≠ [] := fun hnil => hne (String.toList_injective hnil)
  refine ⟨fun tokens h rest => ?_, fun rest => ?_, ?_⟩
  · simp only [Compiler.tokenize, String.toList_append, List.append_assoc]
    exact tokenize_append_blanks_append h hend hnonempty hblanks rest.toList
  · simp only [Compiler.tokenize, String.toList_append]
    exact tokenize_blanks_append hblanks rest.toList
  · simp only [Compiler.tokenize, String.toList_append]
    exact tokenize_append_blanks hend hblanks

theorem blanks_only_separate_before_open_quote :
    endsInBackslash false "\"a b\"(c d)x\\\\".toList = false ∧
      Compiler.unbounded.tokenize "\"a b\"(c d)x\\\\" =
        .ok [⟨.quoted, "\"a b\""⟩, ⟨.group, "(c d)"⟩, ⟨.word, "x\\"⟩] ∧
      Compiler.unbounded.tokenize ("\"a b\"(c d)x\\\\" ++ "\t\u3000" ++ "e\"") = .error .unclosedQuote ∧
      Compiler.unbounded.tokenize ("\"a b\"(c d)x\\\\" ++ "\t\u3000") =
        .ok [⟨.quoted, "\"a b\""⟩, ⟨.group, "(c d)"⟩, ⟨.word, "x\\"⟩] := by
  have hend : endsInBackslash false "\"a b\"(c d)x\\\\".toList = false := by decide
  have htokens : Compiler.unbounded.tokenize "\"a b\"(c d)x\\\\" =
      .ok [⟨.quoted, "\"a b\""⟩, ⟨.group, "(c d)"⟩, ⟨.word, "x\\"⟩] := rfl
  have hrest : Compiler.unbounded.tokenize "e\"" = .error .unclosedQuote := rfl
  have hne : "\t\u3000" ≠ "" := by decide
  obtain ⟨hbetween, -, hbehind⟩ :=
    blanks_only_separate Compiler.unbounded hend hne (by decide)
  refine ⟨hend, htokens, ?_, hbehind.trans htokens⟩
  rw [hbetween _ htokens, hrest, Except.map]

end TrackSearch.Query
