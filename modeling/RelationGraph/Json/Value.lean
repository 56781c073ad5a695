import RelationGraph.Entries
import RelationGraph.Json.Binary64

set_option autoImplicit false

namespace RelationGraph

inductive Number where
  /-- An integer. Texts yield those of 64 bits, signed or unsigned. -/
  | int (value : Int)
  | float (value : Binary64)
deriving DecidableEq, Inhabited

/-- Equality of values; an integer is never equal to a double. -/
def Number.sameNumber : Number → Number → Bool
  | .int m, .int n => m == n
  | .float x, .float y => x.sameNumber y
  | _, _ => false

def Number.toInt64? : Number → Option Int
  | .int n => if -0x8000000000000000 ≤ n ∧ n < 0x8000000000000000 then some n else none
  | .float _ => none

inductive Json where
  | null
  | bool (value : Bool)
  | number (value : Number)
  | string (value : String)
  | array (items : List Json)
  /-- An object; its members are ordered by key. -/
  | object (members : List (String × Json))
deriving Inhabited

namespace Json

mutual

/-- Equality of values: structural, with numbers compared as numbers. -/
def same : Json → Json → Bool
  | .null, .null => true
  | .bool a, .bool b => a == b
  | .number a, .number b => a.sameNumber b
  | .string a, .string b => a == b
  | .array as, .array bs => sameItems as bs
  | .object as, .object bs => sameMembers as bs
  | _, _ => false

def sameItems : List Json → List Json → Bool
  | [], [] => true
  | a :: as, b :: bs => same a b && sameItems as bs
  | _, _ => false

def sameMembers : List (String × Json) → List (String × Json) → Bool
  | [], [] => true
  | (key, a) :: as, (other, b) :: bs => key == other && same a b && sameMembers as bs
  | _, _ => false

end

instance : BEq Json := ⟨same⟩

def isNull : Json → Bool
  | .null => true
  | _ => false

def ofNat (n : Nat) : Json := .number (.int n)

def ofOption (value : Option Json) : Json := value.getD .null

def toInt64? : Json → Option Int
  | .number n => n.toInt64?
  | _ => none

/-- The member of an object; null where there is none, and for all else. -/
def member (value : Json) (key : String) : Json :=
  match value with
  | .object members => (Entries.get? key members).getD .null
  | _ => .null

def text? : Json → Option String
  | .string text => some text
  | _ => none

def bool? : Json → Option Bool
  | .bool value => some value
  | _ => none

def nat? : Json → Option Nat
  | .number (.int n) => if 0 ≤ n then some n.toNat else none
  | _ => none

def items? : Json → Option (List Json)
  | .array items => some items
  | _ => none

def members? : Json → Option (List (String × Json))
  | .object members => some members
  | _ => none

def memberText? (value : Json) (key : String) : Option String := (value.member key).text?

def memberItems (value : Json) (key : String) : List Json := ((value.member key).items?).getD []

def memberTexts (value : Json) (key : String) : List String :=
  (value.memberItems key).filterMap text?

/-- The members of an object; none for all else. -/
def columns (value : Json) : List (String × Json) := value.members?.getD []

def ofTexts (texts : List String) : Json := .array (texts.map .string)

def ofMaybe {α : Type} (write : α → Json) (value : Option α) : Json := ofOption (value.map write)

/-- The object with the given members; of members with one key the last stays. -/
def ofMembers (members : List (String × Json)) : Json := .object (Entries.ofList members)

end Json

end RelationGraph
