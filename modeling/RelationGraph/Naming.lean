import RelationGraph.Text.Case

set_option autoImplicit false

namespace RelationGraph

namespace Naming

def endsIn (ending : String) (name : List Char) : Bool := ending.toList.isSuffixOf name

def dropEnd (count : Nat) (name : List Char) : List Char := name.take (name.length - count)

/-- The singular of an English plural, by its ending. -/
def singular (name : List Char) : List Char :=
  if endsIn "ies" name then dropEnd 3 name ++ ['y']
  else if endsIn "ses" name || endsIn "ches" name || endsIn "shes" name || endsIn "xes" name
      || endsIn "zes" name then
    dropEnd 2 name
  else if endsIn "s" name && !endsIn "ss" name && 1 < name.length then dropEnd 1 name
  else name

/-- The parts of a name between underscores. There is always a first one. -/
def parts : List Char → List Char × List (List Char)
  | [] => ([], [])
  | c :: rest =>
    if c = '_' then ([], (parts rest).1 :: (parts rest).2)
    else (c :: (parts rest).1, (parts rest).2)

def capitalized : List Char → List Char
  | [] => []
  | c :: rest => Text.upperChar c ++ rest.flatMap Text.lowerChar

def camelCase (name : List Char) : List Char :=
  Text.lower (parts name).1 ++ (parts name).2.flatMap capitalized

def pascalCase (name : List Char) : List Char := Text.upperFirst (camelCase name)

/-- A pattern with `name` in place of every `{model}`. -/
def fillModel (name : List Char) : List Char → List Char
  | [] => []
  | '\x7b' :: 'm' :: 'o' :: 'd' :: 'e' :: 'l' :: '\x7d' :: rest => name ++ fillModel name rest
  | c :: rest => c :: fillModel name rest

end Naming

/-- How a foreign key column is named after the relation it refers to. -/
inductive ForeignKeyNaming where
  | underscore
  /-- The singular in camel case and `Id`. -/
  | camelCase
  /-- The singular in Pascal case and `ID`. -/
  | pascalCase
  /-- A pattern in which the singular takes the place of `{model}`. -/
  | custom (pattern : String)
deriving DecidableEq, Inhabited

def ForeignKeyNaming.column (convention : ForeignKeyNaming) (relation : String) : String :=
  let singular := Naming.singular relation.toList
  String.ofList <|
    match convention with
    | .underscore => singular ++ ['_', 'i', 'd']
    | .camelCase => Naming.camelCase singular ++ ['I', 'd']
    | .pascalCase => Naming.pascalCase singular ++ ['I', 'D']
    | .custom pattern => Naming.fillModel singular pattern.toList

end RelationGraph
