import RelationGraph.Proofs.AssociationRoutes

set_option autoImplicit false

namespace RelationGraph

namespace Schema

variable {schema : Schema}

end Schema

namespace RelationTree

/-- How it ends to combine a tree with an association by name: with one node, which is backed by the
target of the association and seen through its view, or for want of a primary key on the one side,
or because of the view. -/
inductive Resolves (catalog : Catalog) (tree : RelationTree) (name : String)
    (association : Association) (target : Relation) : Except Fault RelationTree → Prop
  | node {viewed : RelationTree} {keys : JoinKeys}
      (seen : (ofRelation target).throughAssociation association = .ok viewed)
      (backed : viewed.relation.unrestricted = target) (single : viewed.nodes = [])
      (keyed : association.keys catalog = .ok keys) :
      Resolves catalog tree name association target (.ok { tree with
        nodes := placeNode (viewed.combined name keys association.result) tree.nodes })
  | keyless {viewed : RelationTree}
      (seen : (ofRelation target).throughAssociation association = .ok viewed)
      (keyless : (association.one tree.relation target).schema.keyless = true) :
      Resolves catalog tree name association target (.error association.fault)
  | unknownView {view : String} (declared : association.view = some view)
      (missing : target.schema.views.get? view = none) :
      Resolves catalog tree name association target (.error (.unknownView association.target view))
  | wrongArity {label : String} {view : View} (declared : association.view = some label)
      (found : target.schema.views.get? label = some view) (takes : view.arity ≠ 0) :
      Resolves catalog tree name association target
        (.error (.invalidInput (.wrongArity label view.arity 0)))

variable {catalog : Catalog} {tree : RelationTree} {name : String} {association : Association}
  {target : Relation}

theorem Resolves.known {result : Except Fault RelationTree} {fault : Fault}
    (resolves : Resolves catalog tree name association target result)
    (failed : result = .error fault) :
    fault.isUnknownRelation = false ∧ fault.isUnknownAssociation = false := by
  cases resolves <;> cases failed <;> exact ⟨rfl, rfl⟩

end RelationTree

namespace Catalog

variable {settings : Settings} {gateways : SortedMap String Gateway} {schemas : List Schema}
  {id : Nat} {plugins : Plugins} {catalog : Catalog}

end Catalog

end RelationGraph
