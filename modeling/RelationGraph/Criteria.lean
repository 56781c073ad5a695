import RelationGraph.Tuple
import RelationGraph.Fault

set_option autoImplicit false

namespace RelationGraph

inductive Condition where
  | eq (value : Json)
  | within (values : List Json)

def Condition.holds : Condition → Json → Bool
  | .eq expected, value => expected == value
  | .within values, value => values.any (· == value)

/-- Conditions on columns, all of which have to hold. -/
structure Criteria where
  conditions : List (String × Condition)

namespace Criteria

def all : Criteria := ⟨[]⟩

instance : EmptyCollection Criteria := ⟨all⟩

instance : Inhabited Criteria := ⟨all⟩

def isEmpty (criteria : Criteria) : Bool := criteria.conditions.isEmpty

def whereEq (criteria : Criteria) (column : String) (value : Json) : Criteria :=
  ⟨criteria.conditions ++ [(column, .eq value)]⟩

def whereWithin (criteria : Criteria) (column : String) (values : List Json) : Criteria :=
  ⟨criteria.conditions ++ [(column, .within values)]⟩

def merge (criteria other : Criteria) : Criteria := ⟨criteria.conditions ++ other.conditions⟩

def matchesTuple (criteria : Criteria) (tuple : Tuple) : Bool :=
  criteria.conditions.all fun (column, condition) => condition.holds (tuple.read column)

@[simp] theorem matchesTuple_all (tuple : Tuple) : (∅ : Criteria).matchesTuple tuple = true := rfl

theorem matchesTuple_merge (criteria other : Criteria) (tuple : Tuple) :
    (criteria.merge other).matchesTuple tuple =
      (criteria.matchesTuple tuple && other.matchesTuple tuple) := by
  simp [matchesTuple, merge, List.all_append]

end Criteria

/-- A named restriction of a relation. -/
structure View where
  name : String
  /-- The columns that the arguments are compared with, in their order. -/
  columns : List String
  fixed : Criteria

namespace View

def arity (view : View) : Nat := view.columns.length

/-- The criteria of a view with its arguments: first the fixed conditions, then the columns. -/
def criteriaFor (view : View) (args : List Json) : Except Fault Criteria :=
  if args.length ≠ view.arity then
    .error (.invalidInput (.wrongArity view.name view.arity args.length))
  else
    .ok (view.fixed.merge ⟨(view.columns.zip args).map fun (column, arg) => (column, .eq arg)⟩)

end View

end RelationGraph
