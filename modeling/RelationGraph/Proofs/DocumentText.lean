import Mathlib.Data.List.Forall2
import Mathlib.Tactic.SplitIfs
import RelationGraph.Json.Document

set_option autoImplicit false

namespace RelationGraph.Json

namespace Token

/-! ### Strings -/

/-- What a written character is read as: itself, or its unit if it is a control character. -/
inductive Piece.Stands : Piece → Char → Prop
  | char (c : Char) : Stands (.char c) c
  | control {c : Char} (small : c.toNat < 0x20) : Stands (.unit c.toNat) c

/-- A character is written as a backslash and a letter, as a backslash and its unit, or as it is. -/
theorem escape_cases (c : Char) :
    (∃ letter, escape c = ['\\', letter] ∧ letter ≠ 'u' ∧ unescape? letter = some c) ∨
      (escape c = ['\\', 'u', '0', '0', hexDigit (c.toNat / 16), hexDigit c.toNat] ∧
        c.toNat < 0x20) ∨
      (escape c = [c] ∧ c ≠ '"' ∧ c ≠ '\\' ∧ ¬ c.toNat < 0x20) := by
  unfold escape
  split_ifs with quote slash backspace feed line carriage tab small
  · exact Or.inl ⟨'"', rfl, by decide, by rw [quote]; rfl⟩
  · exact Or.inl ⟨'\\', rfl, by decide, by rw [slash]; rfl⟩
  · exact Or.inl ⟨'b', rfl, by decide, by rw [backspace]; rfl⟩
  · exact Or.inl ⟨'f', rfl, by decide, by rw [feed]; rfl⟩
  · exact Or.inl ⟨'n', rfl, by decide, by rw [line]; rfl⟩
  · exact Or.inl ⟨'r', rfl, by decide, by rw [carriage]; rfl⟩
  · exact Or.inl ⟨'t', rfl, by decide, by rw [tab]; rfl⟩
  · exact Or.inr (Or.inl ⟨rfl, small⟩)
  · exact Or.inr (Or.inr ⟨rfl, quote, slash, small⟩)

theorem unitValue?_hexDigit :
    ∀ n < 0x20, unitValue? '0' '0' (hexDigit (n / 16)) (hexDigit n) = some n := by
  decide

theorem readPieces_escape (c : Char) :
    ∃ piece : Piece, piece.Stands c ∧ ∀ rest pieces left,
      readPieces rest = some (pieces, left) →
        readPieces (escape c ++ rest) = some (piece :: pieces, left) := by
  rcases escape_cases c with ⟨letter, written, other, known⟩ | ⟨written, small⟩ |
    ⟨written, quote, slash, large⟩ <;> rw [written]
  · refine ⟨_, .char c, fun rest pieces left read => ?_⟩
    simp [readPieces, other, known, read]
  · refine ⟨_, .control small, fun rest pieces left read => ?_⟩
    simp [readPieces, unitValue?_hexDigit c.toNat small, read]
  · refine ⟨_, .char c, fun rest pieces left read => ?_⟩
    rw [List.singleton_append, readPieces.eq_def]
    simp [quote, slash, large, read]

theorem readPieces_flatMap_escape (text : List Char) :
    ∃ pieces, List.Forall₂ Piece.Stands pieces text ∧
      ∀ rest, readPieces (text.flatMap escape ++ '"' :: rest) = some (pieces, rest) := by
  induction text with
  | nil => exact ⟨[], .nil, fun rest => by simp [readPieces.eq_def]⟩
  | cons c text ih =>
    obtain ⟨pieces, stand, read⟩ := ih
    obtain ⟨piece, stands, readHere⟩ := readPieces_escape c
    refine ⟨piece :: pieces, .cons stands stand, fun rest => ?_⟩
    rw [List.flatMap_cons, List.append_assoc]
    exact readHere _ _ _ (read rest)

theorem not_surrogate_of_lt {n : Nat} (small : n < 0x20) :
    isLeading n = false ∧ isTrailing n = false := by
  simp only [isLeading, isTrailing, Bool.and_eq_false_iff, decide_eq_false_iff_not]
  omega

theorem joinPieces_cons {piece : Piece} {c : Char} (stands : piece.Stands c) (rest : List Piece) :
    joinPieces (piece :: rest) = (joinPieces rest).map (c :: ·) := by
  cases stands with
  | char => rw [joinPieces]
  | control small =>
    obtain ⟨leads, trails⟩ := not_surrogate_of_lt small
    rcases rest with _ | ⟨next | m, rest⟩
    · simp [joinPieces, leads, trails]
    · simp [joinPieces, leads, trails, Function.comp_def]
    · simp [joinPieces, leads, trails]

theorem joinPieces_eq {pieces : List Piece} {text : List Char}
    (stand : List.Forall₂ Piece.Stands pieces text) : joinPieces pieces = some text := by
  induction stand with
  | nil => rfl
  | cons here _ ih =>
    rw [joinPieces_cons here, ih]
    rfl

/-! ### Tokens -/

/-- A token that is no number and denotes something. -/
inductive Textual : Token → Prop
  | openObject : Textual .openObject
  | closeObject : Textual .closeObject
  | openArray : Textual .openArray
  | closeArray : Textual .closeArray
  | colon : Textual .colon
  | comma : Textual .comma
  | null : Textual .null
  | bool (value : Bool) : Textual (.bool value)
  | string (value : String) : Textual (.string value)

/-- A token is written with at least one character, which is no blank, and is read back. -/
theorem Textual.read {token : Token} (textual : token.Textual) (rest : List Char) :
    ∃ c more, token.chars = c :: more ∧ isBlank c = false ∧
      Token.read (token.chars ++ rest) = some (token, rest) := by
  cases textual with
  | string value =>
    obtain ⟨pieces, stand, read⟩ := readPieces_flatMap_escape value.toList
    refine ⟨'"', value.toList.flatMap escape ++ ['"'], rfl, rfl, ?_⟩
    have written : Token.chars (.string value) ++ rest =
        '"' :: (value.toList.flatMap escape ++ '"' :: rest) := by
      simp [Token.chars, quote]
    rw [written, Token.read]
    simp [read, joinPieces_eq stand]
  | bool value =>
    cases value <;> exact ⟨_, _, rfl, rfl, by simp [Token.read, readWord, Token.chars]⟩
  | _ => exact ⟨_, _, rfl, rfl, by simp [Token.read, readWord, Token.chars]⟩

theorem readUpTo_flatMap {tokens : List Token} (textual : ∀ token ∈ tokens, token.Textual)
    {count : Nat} (enough : (tokens.flatMap chars).length ≤ count) :
    readUpTo count (tokens.flatMap chars) = some tokens := by
  induction tokens generalizing count with
  | nil => cases count <;> rfl
  | cons token tokens ih =>
    obtain ⟨here, others⟩ := List.forall_mem_cons.mp textual
    obtain ⟨c, more, written, dark, read⟩ := here.read (tokens.flatMap chars)
    rw [List.flatMap_cons, List.length_append, written, List.length_cons] at enough
    rw [List.flatMap_cons]
    rw [written, List.cons_append] at read ⊢
    obtain ⟨count, rfl⟩ : ∃ fewer, count = fewer + 1 := ⟨count - 1, by omega⟩
    rw [readUpTo, if_neg (by rw [dark]; exact Bool.false_ne_true), read]
    dsimp only
    rw [ih others (by omega)]
    rfl

/-- A text is cut into the tokens that it was written from. -/
theorem readAll_flatMap {tokens : List Token} (textual : ∀ token ∈ tokens, token.Textual) :
    readAll (tokens.flatMap chars) = some tokens :=
  readUpTo_flatMap textual (Nat.le_refl _)

end Token

namespace Document

/-! ### Reading what is written -/

/-- A document without numbers, all of which denotes something. -/
inductive Textual : Document → Prop
  | null : Textual .null
  | bool (value : Bool) : Textual (.bool value)
  | string (value : String) : Textual (.string value)
  | array {items : List Document} (each : ∀ item ∈ items, Textual item) : Textual (.array items)
  | object {members : List (String × Document)} (each : ∀ member ∈ members, Textual member.2) :
      Textual (.object members)

mutual

theorem textual_tokens {document : Document} (textual : document.Textual) :
    ∀ token ∈ document.tokens, token.Textual := by
  cases textual with
  | null => exact List.forall_mem_singleton.mpr .null
  | bool value => exact List.forall_mem_singleton.mpr (.bool value)
  | string value => exact List.forall_mem_singleton.mpr (.string value)
  | @array items each =>
    match items with
    | [] =>
      rw [tokens]
      exact List.forall_mem_cons.mpr ⟨.openArray, List.forall_mem_singleton.mpr .closeArray⟩
    | item :: items =>
      obtain ⟨here, others⟩ := List.forall_mem_cons.mp each
      rw [tokens, List.cons_append, List.forall_mem_cons, List.forall_mem_append]
      exact ⟨.openArray, textual_tokens here, textual_itemTokens others⟩
  | @object members each =>
    match members with
    | [] =>
      rw [tokens]
      exact List.forall_mem_cons.mpr ⟨.openObject, List.forall_mem_singleton.mpr .closeObject⟩
    | (key, value) :: members =>
      obtain ⟨here, others⟩ := List.forall_mem_cons.mp each
      simp only [tokens, List.cons_append, List.forall_mem_cons, List.forall_mem_append]
      exact ⟨.openObject, .string key, .colon, textual_tokens here, textual_memberTokens others⟩

theorem textual_itemTokens {items : List Document} (each : ∀ item ∈ items, item.Textual) :
    ∀ token ∈ itemTokens items, token.Textual := by
  match items with
  | [] => exact List.forall_mem_singleton.mpr .closeArray
  | item :: items =>
    obtain ⟨here, others⟩ := List.forall_mem_cons.mp each
    rw [itemTokens, List.cons_append, List.forall_mem_cons, List.forall_mem_append]
    exact ⟨.comma, textual_tokens here, textual_itemTokens others⟩

theorem textual_memberTokens {members : List (String × Document)}
    (each : ∀ member ∈ members, member.2.Textual) :
    ∀ token ∈ memberTokens members, token.Textual := by
  match members with
  | [] => exact List.forall_mem_singleton.mpr .closeObject
  | (key, value) :: members =>
    obtain ⟨here, others⟩ := List.forall_mem_cons.mp each
    simp only [memberTokens, List.cons_append, List.forall_mem_cons, List.forall_mem_append]
    exact ⟨.comma, .string key, .colon, textual_tokens here, textual_memberTokens others⟩

end

/-- The position at the first item of an array is one at which a value may start. -/
inductive Starts : Position → Prop
  | value : Starts .value
  | firstItem : Starts .firstItem

theorem run_cons (reader : Reader) (token : Token) (rest : List Token) :
    reader.run (token :: rest) = (reader.step token).bind (·.run rest) := by
  rw [Reader.run]
  cases reader.step token <;> rfl

mutual

/-- Where a value may start, the tokens of a document are read as this document. -/
theorem run_tokens (document : Document) (frames : List Frame) {position : Position}
    (starts : Starts position) :
    (Reader.mk frames position).run document.tokens = some ⟨frames, .after document⟩ := by
  match document with
  | .null | .bool value | .number value | .string value | .unreadable text =>
    cases starts <;> rfl
  | .array [] => cases starts <;> rfl
  | .array (item :: items) =>
    have opened : (Reader.mk frames position).step .openArray =
        some ⟨.array [] :: frames, .firstItem⟩ := by cases starts <;> rfl
    rw [tokens, List.cons_append, run_cons, opened, Option.bind_some, run_append,
      run_tokens item _ .firstItem, Option.bind_some, run_itemTokens items]
    rfl
  | .object [] => cases starts <;> rfl
  | .object ((key, value) :: members) =>
    have opened : (Reader.mk frames position).step .openObject = some ⟨frames, .firstKey⟩ := by
      cases starts <;> rfl
    rw [tokens, List.cons_append, run_cons, opened, Option.bind_some]
    change ((Reader.mk (.object [] (.string key) :: frames) .value).run
      (value.tokens ++ memberTokens members)) = _
    rw [run_append, run_tokens value _ .value, Option.bind_some, run_memberTokens members]
    exact congrArg (fun document => some (Reader.mk frames (.after document)))
      (ofReadMembers_string ((key, value) :: members))

theorem run_itemTokens (items : List Document) (item : Document) (done : List Document)
    (frames : List Frame) :
    (Reader.mk (.array done :: frames) (.after item)).run (itemTokens items) =
      some ⟨frames, .after (.array (done.reverse ++ item :: items))⟩ := by
  match items with
  | [] =>
    rw [itemTokens, run_cons]
    simp [Reader.step, Reader.afterValue, Reader.run]
  | next :: items =>
    rw [itemTokens, List.cons_append, run_cons]
    change ((Reader.mk (.array (item :: done) :: frames) .value).run
      (next.tokens ++ itemTokens items)) = _
    rw [run_append, run_tokens next _ .value, Option.bind_some, run_itemTokens items]
    simp

theorem run_memberTokens (members : List (String × Document)) (key : Token) (value : Document)
    (done : List (Token × Document)) (frames : List Frame) :
    (Reader.mk (.object done key :: frames) (.after value)).run (memberTokens members) =
      some ⟨frames, .after (ofReadMembers (done.reverse ++ (key, value) ::
        members.map fun member => (Token.string member.1, member.2)))⟩ := by
  match members with
  | [] =>
    rw [memberTokens, run_cons]
    simp [Reader.step, Reader.afterValue, Reader.run]
  | (name, next) :: members =>
    rw [memberTokens, List.cons_append, run_cons]
    change ((Reader.mk (.object ((key, value) :: done) (.string name) :: frames) .value).run
      (next.tokens ++ memberTokens members)) = _
    rw [run_append, run_tokens next _ .value, Option.bind_some, run_memberTokens members]
    simp

end

theorem ofTokens?_tokens (document : Document) : ofTokens? document.tokens = some document := by
  rw [ofTokens?, run_tokens document [] .value]

theorem ofChars?_chars {document : Document} (textual : document.Textual) :
    ofChars? document.chars = some document := by
  rw [ofChars?, chars, Token.readAll_flatMap (textual_tokens textual), Option.bind_some,
    ofTokens?_tokens]

/-! ### Nesting -/

mutual

/-- How deep the containers of a document are nested. -/
def nesting : Document → Nat
  | .array items => 1 + itemsNesting items
  | .object members => 1 + membersNesting members
  | _ => 0

def itemsNesting : List Document → Nat
  | [] => 0
  | item :: items => max (nesting item) (itemsNesting items)

def membersNesting : List (String × Document) → Nat
  | [] => 0
  | (_, value) :: members => max (nesting value) (membersNesting members)

end

theorem itemsNesting_le {items : List Document} {bound : Nat} :
    itemsNesting items ≤ bound ↔ ∀ item ∈ items, item.nesting ≤ bound := by
  induction items with
  | nil => simp [itemsNesting]
  | cons item items ih => rw [itemsNesting, Nat.max_le, ih, List.forall_mem_cons]

theorem membersNesting_le {members : List (String × Document)} {bound : Nat} :
    membersNesting members ≤ bound ↔ ∀ member ∈ members, member.2.nesting ≤ bound := by
  induction members with
  | nil => simp [membersNesting]
  | cons member members ih => rw [membersNesting, Nat.max_le, ih, List.forall_mem_cons]

mutual

/-- What is read as a value is nested no deeper than the reader goes. -/
theorem nesting_le_of_toJson? (document : Document) {depth : Nat} {value : Json}
    (read : document.toJson? depth = some value) : document.nesting ≤ depth := by
  match document, depth with
  | .null, _ | .bool _, _ | .number _, _ | .string _, _ => exact Nat.zero_le _
  | .unreadable _, _ | .array _, 0 | .object _, 0 => cases read
  | .array items, depth + 1 =>
    obtain ⟨_, inner, _⟩ := Option.map_eq_some_iff.mp read
    rw [nesting, Nat.add_comm]
    exact Nat.succ_le_succ (itemsNesting_le_of_itemsToJson? items inner)
  | .object members, depth + 1 =>
    obtain ⟨_, inner, _⟩ := Option.map_eq_some_iff.mp read
    rw [nesting, Nat.add_comm]
    exact Nat.succ_le_succ (membersNesting_le_of_membersToJson? members inner)

theorem itemsNesting_le_of_itemsToJson? (items : List Document) {depth : Nat} {values : List Json}
    (read : itemsToJson? depth items = some values) : itemsNesting items ≤ depth := by
  match items with
  | [] => exact Nat.zero_le _
  | item :: items =>
    rw [itemsToJson?] at read
    split at read
    · rename_i here others
      exact Nat.max_le.mpr ⟨nesting_le_of_toJson? item here,
        itemsNesting_le_of_itemsToJson? items others⟩
    · cases read

theorem membersNesting_le_of_membersToJson? (members : List (String × Document)) {depth : Nat}
    {values : List (String × Json)} (read : membersToJson? depth members = some values) :
    membersNesting members ≤ depth := by
  match members with
  | [] => exact Nat.zero_le _
  | (key, value) :: members =>
    rw [membersToJson?] at read
    split at read
    · rename_i here others
      exact Nat.max_le.mpr ⟨nesting_le_of_toJson? value here,
        membersNesting_le_of_membersToJson? members others⟩
    · cases read

end

mutual

/-- A document that is nested no deeper than the reader goes is read as a value. -/
theorem exists_toJson? {document : Document} (textual : document.Textual) {depth : Nat}
    (within : document.nesting ≤ depth) : ∃ value, document.toJson? depth = some value := by
  cases textual with
  | null => exact ⟨_, rfl⟩
  | bool value => exact ⟨_, rfl⟩
  | string value => exact ⟨_, rfl⟩
  | @array items each =>
    obtain ⟨depth, rfl⟩ : ∃ less, depth = less + 1 := ⟨depth - 1, by rw [nesting] at within; omega⟩
    rw [nesting, Nat.add_comm] at within
    obtain ⟨values, read⟩ := exists_itemsToJson? each (Nat.le_of_succ_le_succ within)
    exact ⟨_, by rw [toJson?, read]; rfl⟩
  | @object members each =>
    obtain ⟨depth, rfl⟩ : ∃ less, depth = less + 1 := ⟨depth - 1, by rw [nesting] at within; omega⟩
    rw [nesting, Nat.add_comm] at within
    obtain ⟨values, read⟩ := exists_membersToJson? each (Nat.le_of_succ_le_succ within)
    exact ⟨_, by rw [toJson?, read]; rfl⟩

theorem exists_itemsToJson? {items : List Document} (each : ∀ item ∈ items, item.Textual)
    {depth : Nat} (within : itemsNesting items ≤ depth) :
    ∃ values, itemsToJson? depth items = some values := by
  match items with
  | [] => exact ⟨_, rfl⟩
  | item :: items =>
    obtain ⟨here, others⟩ := List.forall_mem_cons.mp each
    obtain ⟨first, rest⟩ := Nat.max_le.mp within
    obtain ⟨value, read⟩ := exists_toJson? here first
    obtain ⟨values, readRest⟩ := exists_itemsToJson? others rest
    exact ⟨_, by rw [itemsToJson?, read, readRest]⟩

theorem exists_membersToJson? {members : List (String × Document)}
    (each : ∀ member ∈ members, member.2.Textual) {depth : Nat}
    (within : membersNesting members ≤ depth) :
    ∃ values, membersToJson? depth members = some values := by
  match members with
  | [] => exact ⟨_, rfl⟩
  | (key, value) :: members =>
    obtain ⟨here, others⟩ := List.forall_mem_cons.mp each
    obtain ⟨first, rest⟩ := Nat.max_le.mp within
    obtain ⟨value, read⟩ := exists_toJson? here first
    obtain ⟨values, readRest⟩ := exists_membersToJson? others rest
    exact ⟨_, by rw [membersToJson?, read, readRest]⟩

end

end Document

end RelationGraph.Json
