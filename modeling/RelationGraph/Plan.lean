import RelationGraph.JoinKeys
import RelationGraph.Fault

/-!
Plans: what a tree of combined relations looks like.

A plan is plain data, so it can be compared, written and used as a key. Headers only group: the
relations and attributes inside one count as standing in its place. `Plan.walk` visits a plan from
its root, which has to be a relation.
-/

set_option autoImplicit false

namespace RelationGraph

structure RelationName where
  relation : String
  /-- The dataset that holds its tuples. -/
  dataset : String
deriving DecidableEq, Inhabited

structure Link where
  /-- Parent columns, each with the child column it has to equal. -/
  keys : JoinKeys
  /-- How many tuples a parent is given; absent at a root. -/
  cardinality : Option Cardinality
  name : Option String
deriving DecidableEq, Inhabited

def Link.root : Link := ⟨∅, none, none⟩

def Link.isRoot (link : Link) : Bool := link.cardinality.isNone

inductive Plan where
  /-- A relation: the name its tuples are returned under, the relation behind it, its link to the
  parent, and its attributes and children. -/
  | relation (name : String) (base : RelationName) (link : Link) (content : List Plan)
  | header (nodes : List Plan)
  | attribute (name : String)
deriving Inhabited

namespace Plan

/-! ### Equality -/

mutual

def same : Plan → Plan → Bool
  | .relation name base link content, .relation name' base' link' content' =>
    name = name' && base = base' && link = link' && sameAll content content'
  | .header nodes, .header nodes' => sameAll nodes nodes'
  | .attribute name, .attribute name' => name = name'
  | _, _ => false

def sameAll : List Plan → List Plan → Bool
  | [], [] => true
  | plan :: rest, plan' :: rest' => same plan plan' && sameAll rest rest'
  | _, _ => false

end

mutual

theorem same_iff (plan other : Plan) : same plan other = true ↔ plan = other := by
  cases plan <;> cases other <;> simp [same, sameAll_iff, and_assoc]

theorem sameAll_iff (plans others : List Plan) : sameAll plans others = true ↔ plans = others := by
  cases plans <;> cases others <;> simp [sameAll, same_iff, sameAll_iff]

end

instance : DecidableEq Plan := fun plan other => decidable_of_iff _ (same_iff plan other)

/-! ### Contents -/

mutual

def depth : Plan → Nat
  | .relation _ _ _ content => 1 + maxDepth content
  | .header nodes => maxDepth nodes
  | .attribute _ => 0

def maxDepth : List Plan → Nat
  | [] => 0
  | plan :: rest => max (depth plan) (maxDepth rest)

end

mutual

/-- The relations among a plan and what its headers group, not what lies below them. -/
def relationsOf : Plan → List Plan
  | .relation name base link content => [.relation name base link content]
  | .header nodes => relationsIn nodes
  | .attribute _ => []

def relationsIn : List Plan → List Plan
  | [] => []
  | plan :: rest => relationsOf plan ++ relationsIn rest

end

/-- The attributes among plans; those inside headers are not counted. -/
def attributesIn : List Plan → List String
  | [] => []
  | .attribute name :: rest => name :: attributesIn rest
  | _ :: rest => attributesIn rest

def name? : Plan → Option String
  | .relation name _ _ _ => some name
  | .attribute name => some name
  | .header _ => none

/-! ### Walking -/

structure Visitor (m : Type → Type) (β : Type) where
  /-- What a relation yields: its parts, its depth below the root, and the visit of what it holds,
  to be run when and if the visitor wants. -/
  onRelation : (name : String) → (base : RelationName) → (link : Link) → (depth : Nat) →
    (children : m (List β)) → m β
  onAttribute : String → Option β := fun _ => none

section Walk

variable {m : Type → Type} {β : Type} [Monad m]

mutual

def visit (visitor : Visitor m β) (depth : Nat) : Plan → m (List β)
  | .relation name base link content => do
    return [← visitor.onRelation name base link depth (visitAll visitor (depth + 1) content)]
  | .header nodes => visitAll visitor depth nodes
  | .attribute name => return (visitor.onAttribute name).toList

def visitAll (visitor : Visitor m β) (depth : Nat) : List Plan → m (List β)
  | [] => return []
  | plan :: rest => do
    let first ← visit visitor depth plan
    return first ++ (← visitAll visitor depth rest)

end

/-- Visits a plan from its root, which has to be a relation. -/
def walk [MonadExceptOf Fault m] (visitor : Visitor m β) : Plan → m β
  | .relation name base link content =>
    visitor.onRelation name base link 0 (visitAll visitor 1 content)
  | .header _ => throw (.malformedPlan .rootIsHeader)
  | .attribute name => throw (.malformedPlan (.rootIsAttribute name))

end Walk

/-- The outline of a plan: each relation as its name, depth and children, each attribute as its
name. -/
def outline (plan : Plan) : Except Fault String :=
  plan.walk
    { onRelation := fun name _ _ depth children => do
        let inner := ",".intercalate (← children)
        return s!"{name}@{depth}[{inner}]"
      onAttribute := some }

def relationCount (plan : Plan) : Except Fault Nat :=
  plan.walk { onRelation := fun _ _ _ _ children => return 1 + (← children).foldl (· + ·) 0 }

end Plan

end RelationGraph
