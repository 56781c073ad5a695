import RelationGraph.Json.Token

/-!
JSON documents: values as they stand in a text.

Unlike a value, a document keeps the order of members and their repetitions, and it may hold
parts that denote nothing: a literal without a meaning, or an object that has one as a key.
`Document.chars` writes a document without blanks; `Document.ofChars?` reads it back by running a
stack reader over the tokens of the text, one step per token.
-/

set_option autoImplicit false

namespace RelationGraph.Json

inductive Document where
  | null
  | bool (value : Bool)
  | number (value : Number)
  | string (value : String)
  /-- A part that denotes nothing, as it is written: a number or string literal, or an object one of
  whose keys is such a string. -/
  | unreadable (text : List Char)
  | array (items : List Document)
  | object (members : List (String × Document))
deriving Inhabited

namespace Document

/-! ### Writing -/

mutual

def tokens : Document → List Token
  | .null => [.null]
  | .bool value => [.bool value]
  | .number value => [.number value]
  | .string value => [.string value]
  | .unreadable text => [.unreadable text]
  | .array [] => [.openArray, .closeArray]
  | .array (item :: items) => .openArray :: tokens item ++ itemTokens items
  | .object [] => [.openObject, .closeObject]
  | .object ((key, value) :: members) =>
    .openObject :: .string key :: .colon :: tokens value ++ memberTokens members

def itemTokens : List Document → List Token
  | [] => [.closeArray]
  | item :: items => .comma :: tokens item ++ itemTokens items

def memberTokens : List (String × Document) → List Token
  | [] => [.closeObject]
  | (key, value) :: members =>
    .comma :: .string key :: .colon :: tokens value ++ memberTokens members

end

def chars (document : Document) : List Char := document.tokens.flatMap Token.chars

/-! ### Reading -/

def memberChars (member : Token × Document) : List Char :=
  member.1.chars ++ Token.colon.chars ++ member.2.chars

def namedMember? : Token × Document → Option (String × Document)
  | (.string key, value) => some (key, value)
  | _ => none

/-- The document of an object that has been read: it denotes something only if all of its keys do.
-/
def ofReadMembers (members : List (Token × Document)) : Document :=
  match members.mapM namedMember? with
  | some members => .object members
  | none =>
    .unreadable (Token.openObject.chars ++
      Token.comma.chars.intercalate (members.map memberChars) ++ Token.closeObject.chars)

theorem mapM_namedMember? (members : List (String × Document)) :
    (members.map fun member => (Token.string member.1, member.2)).mapM namedMember? =
      some members := by
  induction members with
  | nil => rfl
  | cons member rest ih => simp [List.mapM_cons, namedMember?, ih]

theorem ofReadMembers_string (members : List (String × Document)) :
    ofReadMembers (members.map fun member => (Token.string member.1, member.2)) =
      .object members := by
  simp only [ofReadMembers, mapM_namedMember?]

/-- A container that is still open, with what it holds so far, last first. -/
inductive Frame where
  | array (items : List Document)
  | object (members : List (Token × Document)) (key : Token)

/-- What the reader has just seen, and so what may follow. -/
inductive Position where
  | value
  | firstItem
  | firstKey
  /-- A comma in an object: another key has to follow. -/
  | nextKey (members : List (Token × Document))
  | afterKey (members : List (Token × Document)) (key : Token)
  | after (document : Document)

/-- The state of reading: the open containers, innermost first, and the position in the innermost.
-/
structure Reader where
  frames : List Frame
  position : Position

def Reader.startValue (frames : List Frame) : Token → Option Reader
  | .null => some ⟨frames, .after .null⟩
  | .bool value => some ⟨frames, .after (.bool value)⟩
  | .number value => some ⟨frames, .after (.number value)⟩
  | .string value => some ⟨frames, .after (.string value)⟩
  | .unreadable text => some ⟨frames, .after (.unreadable text)⟩
  | .openArray => some ⟨.array [] :: frames, .firstItem⟩
  | .openObject => some ⟨frames, .firstKey⟩
  | _ => none

def Reader.afterValue (document : Document) : List Frame → Token → Option Reader
  | .array items :: frames, .comma => some ⟨.array (document :: items) :: frames, .value⟩
  | .array items :: frames, .closeArray =>
    some ⟨frames, .after (.array (document :: items).reverse)⟩
  | .object members key :: frames, .comma => some ⟨frames, .nextKey ((key, document) :: members)⟩
  | .object members key :: frames, .closeObject =>
    some ⟨frames, .after (ofReadMembers ((key, document) :: members).reverse)⟩
  | _, _ => none

def Reader.step (reader : Reader) (token : Token) : Option Reader :=
  match reader.position, token with
  | .value, token => Reader.startValue reader.frames token
  | .firstItem, .closeArray =>
    match reader.frames with
    | .array [] :: frames => some ⟨frames, .after (.array [])⟩
    | _ => none
  | .firstItem, token => Reader.startValue reader.frames token
  | .firstKey, .closeObject => some ⟨reader.frames, .after (.object [])⟩
  | .firstKey, token => if token.isText then some ⟨reader.frames, .afterKey [] token⟩ else none
  | .nextKey members, token =>
    if token.isText then some ⟨reader.frames, .afterKey members token⟩ else none
  | .afterKey members key, .colon => some ⟨.object members key :: reader.frames, .value⟩
  | .after document, token => Reader.afterValue document reader.frames token
  | _, _ => none

def Reader.run (reader : Reader) : List Token → Option Reader
  | [] => some reader
  | token :: rest =>
    match reader.step token with
    | some next => next.run rest
    | none => none

def ofTokens? (tokens : List Token) : Option Document :=
  match Reader.run ⟨[], .value⟩ tokens with
  | some ⟨[], .after document⟩ => some document
  | _ => none

def ofChars? (chars : List Char) : Option Document := (Token.readAll chars).bind ofTokens?

theorem run_append (reader : Reader) (first second : List Token) :
    reader.run (first ++ second) = (reader.run first).bind (·.run second) := by
  induction first generalizing reader with
  | nil => rfl
  | cons token rest ih =>
    simp only [List.cons_append, Reader.run]
    cases reader.step token with
    | none => rfl
    | some next => exact ih next

/-! ### Documents and values -/

mutual

/-- The value of a document whose containers are nested at most `depth` deep; of members with one
key the last stays. -/
def toJson? (depth : Nat) : Document → Option Json
  | .null => some .null
  | .bool value => some (.bool value)
  | .number value => some (.number value)
  | .string value => some (.string value)
  | .unreadable _ => none
  | .array items =>
    match depth with
    | 0 => none
    | depth + 1 => (itemsToJson? depth items).map .array
  | .object members =>
    match depth with
    | 0 => none
    | depth + 1 => (membersToJson? depth members).map ofMembers

def itemsToJson? (depth : Nat) : List Document → Option (List Json)
  | [] => some []
  | item :: items =>
    match toJson? depth item, itemsToJson? depth items with
    | some item, some items => some (item :: items)
    | _, _ => none

def membersToJson? (depth : Nat) : List (String × Document) → Option (List (String × Json))
  | [] => some []
  | (key, value) :: members =>
    match toJson? depth value, membersToJson? depth members with
    | some value, some members => some ((key, value) :: members)
    | _, _ => none

end

end Document

mutual

def toDocument : Json → Document
  | .null => .null
  | .bool value => .bool value
  | .number value => .number value
  | .string value => .string value
  | .array items => .array (itemsToDocument items)
  | .object members => .object (membersToDocument members)

def itemsToDocument : List Json → List Document
  | [] => []
  | item :: items => toDocument item :: itemsToDocument items

def membersToDocument : List (String × Json) → List (String × Document)
  | [] => []
  | (key, value) :: members => (key, toDocument value) :: membersToDocument members

end

/-- How deep containers may be nested where a text is read as a value. -/
def depthLimit : Nat := 127

def ofText? (text : String) : Option Json :=
  (Document.ofChars? text.toList).bind (Document.toJson? depthLimit)

def text (value : Json) : String := String.ofList value.toDocument.chars

end RelationGraph.Json
