import TrackSearch.Proofs.RoundTrip
import TrackSearch.Query.LiteralText

/-! Backslashes before all characters of a text keep every one of them from the scan. They are gone when the
criterion is read from the token, though, so that quotes at both ends of the text are still taken off. -/

namespace TrackSearch.Query

namespace Scan

variable {limit : Option Nat} {leads : Bool}

theorem readAll_backslashed (pending cs : List Char) :
    readAll limit ⟨pending, false, false, 0, leads⟩ (backslashed cs) =
      .ok ([], ⟨cs.reverse ++ pending, false, false, 0, leads⟩) := by
  induction cs generalizing pending with
  | nil => rfl
  | cons c cs ih =>
    have hwhole := readAll_append (readAll_pair pending false c) (ih (c :: pending))
    simpa [backslashed] using hwhole

end Scan

theorem stripQuotes_eq_self_iff {cs : List Char} :
    stripQuotes cs = cs ↔ ¬ ∃ inner, cs = Text.enclose '"' '"' inner := by
  constructor
  · rintro h ⟨inner, rfl⟩
    rw [stripQuotes_enclose] at h
    have hlength := congrArg List.length h
    simp [Text.enclose] at hlength
    omega
  · intro h
    have hnone : Text.between? '"' '"' cs = none := by
      rw [Option.eq_none_iff_forall_ne_some]
      exact fun inner hinner => h ⟨inner, Text.between?_eq_some_iff.1 hinner⟩
    rw [stripQuotes, hnone]
    rfl

namespace TextField

variable {limit : Option Nat}

def token (field : TextField) (cs : List Char) : Token := ⟨.word, String.ofList (field.sign ++ cs)⟩

theorem plain_sign (field : TextField) : Plain field.sign := by
  cases field <;> decide

theorem tokenize_literal (field : TextField) (cs : List Char) :
    tokenize limit (field.sign ++ backslashed cs) = .ok [field.token cs] := by
  have hsign : Scan.start.readAll limit field.sign =
      .ok ([], ⟨field.sign.reverse ++ [], false, false, 0, false⟩) :=
    Scan.readAll_plain [] field.plain_sign
  have hread := Scan.readAll_append hsign (Scan.readAll_backslashed _ cs)
  have hword : Text.allBlank (cs.reverse ++ field.sign.reverse) = false := by
    rw [Text.allBlank, List.all_append, Bool.and_eq_false_iff]
    exact Or.inr (by cases field <;> decide)
  simp [tokenize, hread, Scan.finish, Scan.flush, hword, Scan.text, Except.map, token]

theorem relation?_token (field : TextField) (cs : List Char) : (field.token cs).relation? = none := by
  cases field <;> exact relation?_eq_none rfl (by decide) (by decide)

theorem predicate?_token (field : TextField) (cs : List Char) :
    (field.token cs).criterion.predicate? = some (field.asksFor (String.ofList (stripQuotes cs))) := by
  rw [Token.criterion, Token.chars, token, String.toList_ofList]
  cases field <;> rfl

theorem asksFor_injective (field : TextField) : Function.Injective field.asksFor := by
  intro first second h
  cases field <;> simpa [asksFor] using h

theorem compile_literal (compiler : Compiler) (field : TextField) (text : String) :
    compiler.compile (field.literal text) =
      .ok (field.asksFor (String.ofList (stripQuotes text.toList))) := by
  have htokens : compiler.tokenize (field.literal text) = .ok [field.token text.toList] := by
    rw [Compiler.tokenize, literal, String.toList_ofList, tokenize_literal]
  have hitem : nextItem? [field.token text.toList] = some (⟨none, field.token text.toList⟩, []) := by
    simp only [nextItem?, relation?_token]
  rw [Compiler.compile_of_ok _ htokens, parse, parseFrom_criterion hitem rfl (field.predicate?_token _),
    parseFrom_end rfl]
  rfl

end TextField

/-- A text with backslashes before all its characters is looked for as it is unless it stands in quotes
itself, and then the text between these quotes is. -/
theorem literal_text_kept_iff_unquoted (compiler : Compiler) (field : TextField) (text : String) :
    (compiler.compile (field.literal text) = .ok (field.asksFor text) ↔
        ¬ ∃ inner, text = "\"" ++ inner ++ "\"") ∧
      compiler.compile (field.literal ("\"" ++ text ++ "\"")) = .ok (field.asksFor text) := by
  have hquoted : ∀ inner : String,
      ("\"" ++ inner ++ "\"").toList = Text.enclose '"' '"' inner.toList := fun inner => by
    simp [Text.enclose]
  constructor
  · rw [field.compile_literal, Except.ok.injEq, field.asksFor_injective.eq_iff]
    have hkept : String.ofList (stripQuotes text.toList) = text ↔
        stripQuotes text.toList = text.toList := by
      rw [← String.toList_inj, String.toList_ofList]
    rw [hkept, stripQuotes_eq_self_iff]
    refine not_congr ⟨?_, ?_⟩
    · rintro ⟨inner, hinner⟩
      refine ⟨String.ofList inner, String.toList_injective ?_⟩
      rw [hquoted, String.toList_ofList, hinner]
    · rintro ⟨inner, rfl⟩
      exact ⟨inner.toList, hquoted inner⟩
  · rw [field.compile_literal, hquoted, stripQuotes_enclose, String.ofList_toList]

theorem literal_text_unquoted :
    ¬ ∀ (compiler : Compiler) (field : TextField) (text : String),
      compiler.compile (field.literal text) = .ok (field.asksFor text) := by
  intro h
  have hkept := h .unbounded .title "\"x\""
  rw [TextField.compile_literal, Except.ok.injEq] at hkept
  revert hkept
  decide

end TrackSearch.Query
