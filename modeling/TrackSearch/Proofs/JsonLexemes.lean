import Mathlib.Data.List.Forall2
import TrackSearch.Json.Lexeme
import TrackSearch.Json.Printer
import TrackSearch.Proofs.HexNumeral
import TrackSearch.Proofs.YearText

/-! The text that a JSON value is written as splits into the lexemes of the value, whatever stands on the
lines behind it. -/

namespace TrackSearch.Json

/-! Numbers and literals are words. -/

theorem showNat_head {n : Nat} (h : 0 < n) : ∃ c cs, Text.showNat n = c :: cs ∧ c ≠ '0' := by
  induction n using Nat.strongRecOn with
  | ind n ih =>
    by_cases hsmall : n < 10
    · have hdigit : ∀ d < 10, 0 < d → Nat.digitChar d ≠ '0' := by decide
      exact ⟨Nat.digitChar n, [], Nat.toDigits_of_lt_base hsmall, hdigit n hsmall h⟩
    · obtain ⟨c, cs, hcs, hc⟩ := ih (n / 10) (by omega) (by omega)
      refine ⟨c, cs ++ [Nat.digitChar (n % 10)], ?_, hc⟩
      have hstep : Text.showNat n = Text.showNat (n / 10) ++ [Nat.digitChar (n % 10)] :=
        Nat.toDigits_of_base_le (by decide) (by omega)
      rw [hstep, hcs]
      rfl

theorem isPlainNatural_showNat (n : Nat) : isPlainNatural (Text.showNat n) = true := by
  rcases Nat.eq_zero_or_pos n with rfl | hpos
  · rfl
  · obtain ⟨c, cs, hcs, hc⟩ := showNat_head hpos
    have hdigits : (c :: cs).all Char.isDigit = true := by
      rw [← hcs, List.all_eq_true]
      exact fun d => Text.isDigit_of_mem_showNat
    rw [hcs]
    unfold isPlainNatural
    split
    · contradiction
    · rfl
    · next heq =>
      obtain ⟨rfl, rfl⟩ := List.cons.inj heq
      simp [hc, hdigits]

theorem readNatural?_showNat (n : Nat) : readNatural? (Text.showNat n) = some n := by
  rw [readNatural?, if_pos (isPlainNatural_showNat n), Text.readDigits_showNat]

theorem readNumber?_showInt (n : Int) : readNumber? (Text.showInt n) = some (.integer n) := by
  cases n with
  | negSucc n =>
    rw [Text.showInt, readNumber?, readNatural?_showNat]
    rfl
  | ofNat n =>
    unfold readNumber? Text.showInt
    split
    · next cs heq =>
      have := Text.isDigit_of_mem_showNat (n := n) (heq ▸ List.mem_cons_self ..)
      simp at this
    · rw [readNatural?_showNat]
      rfl

theorem mem_showInt {n : Int} {c : Char} (h : c ∈ Text.showInt n) : c = '-' ∨ c.isDigit = true := by
  cases n with
  | ofNat n => exact Or.inr (Text.isDigit_of_mem_showNat h)
  | negSucc n => exact (List.mem_cons.1 h).imp_right Text.isDigit_of_mem_showNat

theorem readWord?_showInt (n : Int) : readWord? (Text.showInt n) = some (.integer n) := by
  have hne : ∀ word, (word.any fun c => c != '-' && !c.isDigit) = true → Text.showInt n ≠ word := by
    rintro word hany rfl
    obtain ⟨c, hc, hother⟩ := List.any_eq_true.1 hany
    rcases mem_showInt hc with h | h <;> simp [h] at hother
  rw [readWord?, if_neg (hne _ (by decide)), if_neg (hne _ (by decide)), if_neg (hne _ (by decide)),
    readNumber?_showInt]

theorem all_isWordChar_showInt (n : Int) : (Text.showInt n).all isWordChar = true := by
  refine List.all_eq_true.2 fun c hc => ?_
  rcases mem_showInt hc with rfl | h
  · rfl
  · simp [isWordChar, Char.isAlphanum, h]

/-! One character and one lexeme at a time. -/

section

variable {reading next : Reading} {c : Char} {lexemes : List Lexeme}

theorem lexemesFrom?_step (h : reading.step? c = some (lexemes, next)) (rest : List Char) :
    lexemesFrom? reading (c :: rest) = (lexemesFrom? next rest).map (lexemes ++ ·) := by
  rw [lexemesFrom?, h]

theorem lexemesFrom?_silent (h : reading.step? c = some ([], next)) (rest : List Char) :
    lexemesFrom? reading (c :: rest) = lexemesFrom? next rest := by
  rw [lexemesFrom?_step h]
  exact Option.map_id'

end

def EndsWord (rest : List Char) : Prop := ∀ c ∈ rest.head?, isWordChar c = false

/-- The text is split into these lexemes, and what stands behind it is split on its own. -/
def Spells (cs : List Char) (lexemes : List Lexeme) : Prop :=
  ∀ rest, EndsWord rest →
    lexemesFrom? .between (cs ++ rest) = (lexemesFrom? .between rest).map (lexemes ++ ·)

theorem startLexeme?_wordChar {c : Char} (h : isWordChar c = true) :
    startLexeme? c = some ([], .word [c]) := by
  have hspace : isSpace c = false := by
    rw [Bool.eq_false_iff]
    intro hspace
    simp only [isSpace, Bool.or_eq_true, beq_iff_eq] at hspace
    rcases hspace with ((rfl | rfl) | rfl) | rfl <;> exact absurd h (by decide)
  unfold startLexeme?
  split <;> first | exact absurd h (by decide) | skip
  simp [hspace, h]

namespace Spells

variable {cs ds : List Char} {lexemes more : List Lexeme} {c : Char}

theorem nil : Spells [] [] := by
  intro rest _
  simp

theorem mark (h : startLexeme? c = some (lexemes, .between)) (hcs : Spells cs more) :
    Spells (c :: cs) (lexemes ++ more) := by
  intro rest hrest
  have hstep : Reading.step? c .between = some (lexemes, .between) := h
  rw [List.cons_append, lexemesFrom?_step hstep, hcs rest hrest, Option.map_map]
  simp [Function.comp_def]

theorem space (h : startLexeme? c = some ([], .between)) (hcs : Spells cs lexemes) :
    Spells (c :: cs) lexemes := mark h hcs

theorem append (hcs : Spells cs lexemes) (hc : isWordChar c = false) (hds : Spells (c :: ds) more) :
    Spells (cs ++ c :: ds) (lexemes ++ more) := by
  intro rest hrest
  have hends : EndsWord (c :: ds ++ rest) := by
    rintro d hd
    obtain rfl := Option.some.inj hd
    exact hc
  rw [List.append_assoc, hcs _ hends, hds rest hrest, Option.map_map]
  simp [Function.comp_def]

theorem spaces (hcs : Spells cs lexemes) (n : Nat) : Spells (List.replicate n ' ' ++ cs) lexemes := by
  induction n with
  | zero => exact hcs
  | succ n ih => exact space rfl ih

theorem newLine (hcs : Spells cs lexemes) (level : Nat) : Spells (newLine level ++ cs) lexemes :=
  space rfl (hcs.spaces _)

end Spells

theorem lexemesFrom?_word {value : Json} {read word rest : List Char}
    (hword : ∀ c ∈ word, isWordChar c = true) (hvalue : readWord? (read.reverse ++ word) = some value)
    (hrest : EndsWord rest) : lexemesFrom? (.word read) (word ++ rest) =
      (lexemesFrom? .between rest).map (.scalar value :: ·) := by
  induction word generalizing read with
  | nil =>
    rw [List.append_nil] at hvalue
    have hend : endWord? read = some (.scalar value) := by rw [endWord?, hvalue, Option.map_some]
    cases rest with
    | nil => simp [lexemesFrom?, Reading.finish?, hend]
    | cons c rest =>
      have hc : isWordChar c = false := hrest c rfl
      -- The character behind the word ends it and is read as if nothing had stood before.
      simp only [List.nil_append, lexemesFrom?, Reading.step?, hc, Bool.false_eq_true, if_false, hend]
      cases startLexeme? c with
      | none => rfl
      | some started => simp [Function.comp_def]
  | cons c word ih =>
    have hstep : Reading.step? c (.word read) = some ([], .word (c :: read)) :=
      if_pos (hword c List.mem_cons_self)
    rw [List.cons_append, lexemesFrom?_silent hstep]
    exact ih (fun d hd => hword d (List.mem_cons_of_mem c hd)) (by simpa using hvalue)

theorem spells_word (word : List Char) {value : Json} (hne : word ≠ [])
    (hword : word.all isWordChar = true) (hvalue : readWord? word = some value) :
    Spells word [.scalar value] := by
  obtain ⟨c, cs, rfl⟩ := List.exists_cons_of_ne_nil hne
  obtain ⟨hc, hcs⟩ := List.forall_mem_cons.1 (List.all_eq_true.1 hword)
  intro rest hrest
  have hstart : Reading.step? c .between = some ([], .word [c]) := startLexeme?_wordChar hc
  rw [List.cons_append, lexemesFrom?_silent hstart]
  exact lexemesFrom?_word hcs hvalue hrest

theorem showInt_ne_nil (n : Int) : Text.showInt n ≠ [] := by
  cases n with
  | ofNat n => exact Nat.toDigits_ne_nil
  | negSucc n => exact List.cons_ne_nil _ _

/-! Texts in quotes: each character is read back from its escape. -/

theorem not_surrogate (c : Char) : isHighSurrogate c.toNat = false ∧ isLowSurrogate c.toNat = false := by
  have hvalid : c.toNat < 0xD800 ∨ 0xDFFF < c.toNat ∧ c.toNat < 0x110000 := c.valid
  simp only [isHighSurrogate, isLowSurrogate, Bool.and_eq_false_iff, decide_eq_false_iff_not]
  omega

theorem charsOfCodes?_chars (cs : List Char) : charsOfCodes? (cs.map Char.toNat) = some cs := by
  induction cs with
  | nil => rfl
  | cons c cs ih =>
    obtain ⟨hhigh, hlow⟩ := not_surrogate c
    cases cs with
    | nil => simp [charsOfCodes?, hhigh, hlow]
    | cons d cs =>
      rw [List.map_cons] at ih
      simp only [List.map_cons, charsOfCodes?, hhigh, hlow, Bool.false_eq_true, if_false, ih]
      simp

theorem endText_chars (text : String) :
    endText (text.toList.map Char.toNat).reverse = .text (some text) := by
  rw [endText, List.reverse_reverse, charsOfCodes?_chars, Option.map_some, String.ofList_toList]

section

variable (codes : List Nat) (rest : List Char)

theorem lexemesFrom?_backslash :
    lexemesFrom? (.text codes) ('\\' :: rest) = lexemesFrom? (.escape codes) rest :=
  lexemesFrom?_silent rfl rest

theorem lexemesFrom?_shortEscape {c : Char} {code : Nat} (hc : c ≠ 'u')
    (h : escapedCode? c = some code) : lexemesFrom? (.text codes) ('\\' :: c :: rest) =
      lexemesFrom? (.text (code :: codes)) rest := by
  have hstep : Reading.step? c (.escape codes) = some ([], .text (code :: codes)) := by
    rw [Reading.step?, if_neg hc, h, Option.map_some]
  rw [lexemesFrom?_backslash, lexemesFrom?_silent hstep]

theorem lexemesFrom?_digit {d : Nat} (hd : d < 16) (missing value : Nat) :
    lexemesFrom? (.number codes missing value) (Nat.digitChar d :: rest) =
      lexemesFrom? (if missing = 1 then .text ((16 * value + d) :: codes)
        else .number codes (missing - 1) (16 * value + d)) rest := by
  refine lexemesFrom?_silent ?_ rest
  rw [Reading.step?, Text.hexValue?_digitChar hd, Option.map_some]

theorem lexemesFrom?_numbered {n : Nat} (h : n < 16 ^ 4) :
    lexemesFrom? (.text codes) (['\\', 'u'] ++ Text.hexDigits 4 n ++ rest) =
      lexemesFrom? (.text (n :: codes)) rest := by
  have hmod : ∀ m, m % 16 < 16 := fun m => Nat.mod_lt m (by decide)
  have hstart : Reading.step? 'u' (.escape codes) = some ([], .number codes 4 0) := rfl
  simp only [Text.hexDigits, List.nil_append, List.cons_append]
  rw [lexemesFrom?_backslash, lexemesFrom?_silent hstart]
  rw [lexemesFrom?_digit _ _ (hmod _), if_neg (by decide), lexemesFrom?_digit _ _ (hmod _),
    if_neg (by decide), lexemesFrom?_digit _ _ (hmod _), if_neg (by decide),
    lexemesFrom?_digit _ _ (hmod _), if_pos rfl]
  have hvalue : 16 * (16 * (16 * (16 * 0 + n / 16 / 16 / 16 % 16) + n / 16 / 16 % 16) +
      n / 16 % 16) + n % 16 = n := by omega
  rw [hvalue]

theorem lexemesFrom?_escapeChar (c : Char) :
    lexemesFrom? (.text codes) (escapeChar c ++ rest) = lexemesFrom? (.text (c.toNat :: codes)) rest := by
  have hshort : ∀ d, d ≠ 'u' → escapedCode? d = some c.toNat →
      lexemesFrom? (.text codes) (['\\', d] ++ rest) = lexemesFrom? (.text (c.toNat :: codes)) rest :=
    fun _ hd hcode => lexemesFrom?_shortEscape codes rest hd hcode
  unfold escapeChar
  split
  · next h => exact hshort '"' (by decide) (by rw [h]; rfl)
  split
  · next h => exact hshort '\\' (by decide) (by rw [h]; rfl)
  split
  · next h => exact hshort 'b' (by decide) (by rw [h]; rfl)
  split
  · next h => exact hshort 'f' (by decide) (by rw [h]; rfl)
  split
  · next h => exact hshort 'n' (by decide) (by rw [h]; rfl)
  split
  · next h => exact hshort 'r' (by decide) (by rw [h]; rfl)
  split
  · next h => exact hshort 't' (by decide) (by rw [h]; rfl)
  split
  · next h => exact lexemesFrom?_numbered codes rest (by omega)
  · next hquote hbackslash _ _ _ _ _ hplain =>
    refine lexemesFrom?_silent ?_ rest
    rw [Reading.step?, if_neg hquote, if_neg hbackslash, if_neg hplain]

end

theorem lexemesFrom?_escaped (codes : List Nat) (cs rest : List Char) :
    lexemesFrom? (.text codes) (cs.flatMap escapeChar ++ rest) =
      lexemesFrom? (.text ((cs.map Char.toNat).reverse ++ codes)) rest := by
  induction cs generalizing codes with
  | nil => rfl
  | cons c cs ih =>
    rw [List.flatMap_cons, List.append_assoc, lexemesFrom?_escapeChar, ih]
    simp

theorem spells_quoted (text : String) {cs : List Char} {lexemes : List Lexeme}
    (hcs : Spells cs lexemes) : Spells (quoted text ++ cs) (.text (some text) :: lexemes) := by
  intro rest hrest
  have hopen : Reading.step? '"' .between = some ([], .text []) := rfl
  have hclose : Reading.step? '"' (.text (text.toList.map Char.toNat).reverse) =
      some ([.text (some text)], .between) := by
    rw [Reading.step?, if_pos rfl, endText_chars]
  rw [quoted, Text.enclose]
  simp only [List.cons_append, List.append_assoc, List.nil_append]
  rw [lexemesFrom?_silent hopen, lexemesFrom?_escaped, List.append_nil, lexemesFrom?_step hclose,
    hcs rest hrest, Option.map_map]
  rfl

/-! Values. -/

mutual

def lexemes : Json → List Lexeme
  | .text value => [.text (some value)]
  | .array items => .openArray :: (List.intercalate [.comma] (itemLexemes items) ++ [.closeArray])
  | .object members =>
    .openObject :: (List.intercalate [.comma] (memberLexemes members) ++ [.closeObject])
  | value => [.scalar value]

def itemLexemes : List Json → List (List Lexeme)
  | [] => []
  | item :: items => item.lexemes :: itemLexemes items

def memberLexemes : List (String × Json) → List (List Lexeme)
  | [] => []
  | (key, value) :: members =>
    (.text (some key) :: .colon :: value.lexemes) :: memberLexemes members

end

theorem Spells.body {parts : List (List Char)} {lexemes : List (List Lexeme)} {cs : List Char}
    {more : List Lexeme} (h : List.Forall₂ Spells parts lexemes) (hne : parts ≠ []) (level : Nat)
    (hcs : Spells ('\n' :: cs) more) :
    Spells (List.intercalate [','] (parts.map (Json.newLine level ++ ·)) ++ '\n' :: cs)
      (List.intercalate [.comma] lexemes ++ more) := by
  induction h with
  | nil => contradiction
  | cons hpart hparts ih =>
    cases hparts with
    | nil =>
      simp only [List.map_cons, List.map_nil, List.intercalate_singleton, List.append_assoc]
      exact (hpart.append rfl hcs).newLine level
    | cons hnext hparts =>
      have hcomma : startLexeme? ',' = some ([.comma], .between) := rfl
      have hrest := (ih (List.cons_ne_nil _ _)).mark hcomma
      simp only [List.map_cons, List.intercalate_cons_cons, List.append_assoc] at hrest ⊢
      exact (hpart.append rfl hrest).newLine level

theorem Spells.lines {parts : List (List Char)} {lexemes : List (List Lexeme)} {opening closing : Char}
    {first last : Lexeme} (hopen : startLexeme? opening = some ([first], .between))
    (hclose : startLexeme? closing = some ([last], .between)) (h : List.Forall₂ Spells parts lexemes)
    (level : Nat) : Spells (Json.lines opening closing level parts)
      (first :: (List.intercalate [.comma] lexemes ++ [last])) := by
  have hend : Spells [closing] [last] := Spells.nil.mark hclose
  cases h with
  | nil => exact hend.mark hopen
  | cons hpart hparts =>
    have hbody := Spells.body (List.Forall₂.cons hpart hparts) (List.cons_ne_nil _ _) (level + 1)
      (hend.newLine level)
    rw [Json.lines, Text.enclose, List.append_assoc]
    · exact hbody.mark hopen
    · exact List.cons_ne_nil _ _

mutual

theorem spells_charsAt (level : Nat) : (json : Json) → Spells (charsAt level json) json.lexemes
  | .null => spells_word "null".toList (by decide) (by decide) rfl
  | .bool true => spells_word "true".toList (by decide) (by decide) rfl
  | .bool false => spells_word "false".toList (by decide) (by decide) rfl
  | .integer value =>
    spells_word _ (showInt_ne_nil value) (all_isWordChar_showInt value) (readWord?_showInt value)
  | .text value => by
    have h := spells_quoted value Spells.nil
    rwa [List.append_nil] at h
  | .array items => Spells.lines rfl rfl (spells_itemsAt (level + 1) items) level
  | .object members => Spells.lines rfl rfl (spells_membersAt (level + 1) members) level
  | .unusable => spells_word "0.0".toList (by decide) (by decide) rfl

theorem spells_itemsAt (level : Nat) : (items : List Json) →
    List.Forall₂ Spells (itemsAt level items) (itemLexemes items)
  | [] => .nil
  | item :: items => .cons (spells_charsAt level item) (spells_itemsAt level items)

theorem spells_membersAt (level : Nat) : (members : List (String × Json)) →
    List.Forall₂ Spells (membersAt level members) (memberLexemes members)
  | [] => .nil
  | (key, value) :: members => by
    have hspace : startLexeme? ' ' = some ([], .between) := rfl
    have hcolon : startLexeme? ':' = some ([.colon], .between) := rfl
    have hmember := spells_quoted key (((spells_charsAt level value).space hspace).mark hcolon)
    refine .cons ?_ (spells_membersAt level members)
    rwa [List.append_assoc]

end

theorem lexemes?_pretty (json : Json) : lexemes? json.pretty.toList = some json.lexemes := by
  have h := spells_charsAt 0 json [] (by simp [EndsWord])
  rw [List.append_nil] at h
  rw [lexemes?, pretty, String.toList_ofList, h]
  simp [lexemesFrom?, Reading.finish?]

theorem lexemes?_line (json : Json) : lexemes? (json.pretty ++ "\n").toList = some json.lexemes := by
  have hline : (json.pretty ++ "\n").toList = charsAt 0 json ++ ['\n'] := by
    rw [String.toList_append, pretty, String.toList_ofList]
    rfl
  have hends : EndsWord ['\n'] := by
    intro c hc
    obtain rfl := Option.some.inj hc
    rfl
  rw [lexemes?, hline, spells_charsAt 0 json ['\n'] hends]
  simp [lexemesFrom?, Reading.step?, startLexeme?, isSpace, Reading.finish?]

end TrackSearch.Json
