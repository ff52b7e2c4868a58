import TrackSearch.Json.Reader
import TrackSearch.Proofs.JsonLexemes

/-! A JSON value is read back from the text it is written as: its lexemes build it up again inside any
containers that are open around it. -/

namespace TrackSearch.Json

theorem build?_step {building : Building} {lexeme : Lexeme} (next : Building)
    (h : building.step? lexeme = some next) (rest : List Lexeme) :
    build? building (lexeme :: rest) = build? next rest := by
  rw [build?, h]

def Builds (json : Json) : Prop :=
  ∀ frames rest, build? (.value frames) (json.lexemes ++ rest) = build? (.after frames json) rest

theorem build?_items {items : List Json} (h : ∀ item ∈ items, item.Builds) (hne : items ≠ [])
    (frames : List Frame) (read : List Json) (rest : List Lexeme) :
    build? (.value (.array read :: frames))
        (List.intercalate [.comma] (itemLexemes items) ++ .closeArray :: rest) =
      build? (.after frames (.array (read.reverse ++ items))) rest := by
  induction items generalizing read with
  | nil => contradiction
  | cons item items ih =>
    have hitem := h item List.mem_cons_self (.array read :: frames)
    cases items with
    | nil =>
      simp only [itemLexemes, List.intercalate_singleton]
      rw [hitem, build?_step (.after frames (.array (item :: read).reverse)) rfl]
      simp
    | cons next items =>
      have hitems := ih (fun other hother => h other (List.mem_cons_of_mem item hother))
        (List.cons_ne_nil _ _) (item :: read)
      simp only [itemLexemes, List.intercalate_cons_cons, List.append_assoc, List.cons_append,
        List.nil_append] at hitems ⊢
      rw [hitem, build?_step (.value (.array (item :: read) :: frames)) rfl, hitems]
      simp

theorem build?_array {items : List Json} (h : ∀ item ∈ items, item.Builds) : (array items).Builds := by
  intro frames rest
  have hlexemes : (array items).lexemes ++ rest =
      .openArray :: (List.intercalate [.comma] (itemLexemes items) ++ .closeArray :: rest) := by
    simp [lexemes]
  rw [hlexemes, build?_step (.firstItem frames) rfl]
  cases items with
  | nil => rfl
  | cons item items =>
    have hitems := build?_items h (List.cons_ne_nil _ _) frames [] rest
    rw [List.reverse_nil, List.nil_append] at hitems
    rw [← hitems]
    cases items <;> cases item <;> rfl

def keyed (members : List (String × Json)) : List (Option String × Json) :=
  members.map fun member => (some member.1, member.2)

theorem objectValue_keyed (members : List (String × Json)) :
    objectValue (keyed members) = .object members := by
  have hkeyed : keyed? (keyed members) = some members := by
    induction members with
    | nil => rfl
    | cons member members ih =>
      rw [keyed, List.map_cons, ← keyed, keyed?, ih, Option.map_some]
  rw [objectValue, hkeyed]

theorem build?_members {members : List (String × Json)} (h : ∀ member ∈ members, member.2.Builds)
    (hne : members ≠ []) (frames : List Frame) (read : List (Option String × Json))
    (rest : List Lexeme) :
    build? (.key frames read)
        (List.intercalate [.comma] (memberLexemes members) ++ .closeObject :: rest) =
      build? (.after frames (objectValue (read.reverse ++ keyed members))) rest := by
  induction members generalizing read with
  | nil => contradiction
  | cons member members ih =>
    obtain ⟨key, value⟩ := member
    have hvalue := h (key, value) List.mem_cons_self (.object read (some key) :: frames)
    cases members with
    | nil =>
      simp only [memberLexemes, List.intercalate_singleton, List.cons_append]
      rw [build?_step (.colon frames read (some key)) rfl,
        build?_step (.value (.object read (some key) :: frames)) rfl, hvalue,
        build?_step (.after frames (objectValue ((some key, value) :: read).reverse)) rfl]
      simp [keyed]
    | cons next members =>
      have hmembers := ih (fun other hother => h other (List.mem_cons_of_mem _ hother))
        (List.cons_ne_nil _ _) ((some key, value) :: read)
      obtain ⟨nextKey, nextValue⟩ := next
      simp only [memberLexemes, List.intercalate_cons_cons, List.append_assoc, List.cons_append,
        List.nil_append] at hmembers ⊢
      rw [build?_step (.colon frames read (some key)) rfl,
        build?_step (.value (.object read (some key) :: frames)) rfl, hvalue,
        build?_step (.key frames ((some key, value) :: read)) rfl, hmembers]
      simp [keyed]

theorem build?_object {members : List (String × Json)} (h : ∀ member ∈ members, member.2.Builds) :
    (object members).Builds := by
  intro frames rest
  have hlexemes : (object members).lexemes ++ rest =
      .openObject :: (List.intercalate [.comma] (memberLexemes members) ++ .closeObject :: rest) := by
    simp [lexemes]
  rw [hlexemes, build?_step (.firstKey frames) rfl]
  cases members with
  | nil => rfl
  | cons member members =>
    have hmembers := build?_members h (List.cons_ne_nil _ _) frames [] rest
    rw [List.reverse_nil, List.nil_append, objectValue_keyed] at hmembers
    rw [← hmembers]
    cases members <;> rfl

mutual

theorem builds : (json : Json) → json.Builds
  | .null => fun _ _ => rfl
  | .bool _ => fun _ _ => rfl
  | .integer _ => fun _ _ => rfl
  | .text _ => fun _ _ => rfl
  | .array items => build?_array (builds_items items)
  | .object members => build?_object (builds_members members)
  | .unusable => fun _ _ => rfl

theorem builds_items : (items : List Json) → ∀ item ∈ items, item.Builds
  | [] => by simp
  | item :: items => List.forall_mem_cons.2 ⟨builds item, builds_items items⟩

theorem builds_members : (members : List (String × Json)) → ∀ member ∈ members, member.2.Builds
  | [] => by simp
  | (_, value) :: members => List.forall_mem_cons.2 ⟨builds value, builds_members members⟩

end

theorem read?_of_lexemes {text : String} {json : Json} (h : lexemes? text.toList = some json.lexemes) :
    read? text = some json := by
  have hbuild := json.builds [] []
  rw [List.append_nil] at hbuild
  rw [read?, h, Option.bind_some, hbuild]
  rfl

theorem read?_pretty (json : Json) : read? json.pretty = some json := read?_of_lexemes json.lexemes?_pretty

theorem read?_line (json : Json) : read? (json.pretty ++ "\n") = some json :=
  read?_of_lexemes json.lexemes?_line

end TrackSearch.Json
