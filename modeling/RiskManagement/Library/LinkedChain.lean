import Mathlib.Data.List.Chain
import Mathlib.Logic.Relation

/-!
# Chains linked by parent hash

A node names its parent by hash and carries a height.  This file collects what
follows from the links alone: a linked list has consecutive heights, later
nodes descend from earlier ones, and in a collection where equal hashes mean
equal nodes a parent is determined by its child.
-/

universe u v

/-- How a node is read: its own hash, its parent's hash and its height. -/
structure NodeView (Node : Type u) (Hash : Type v) where
  hash : Node → Hash
  parentHash : Node → Hash
  height : Node → Nat

namespace NodeView

variable {Node : Type u} {Hash : Type v} (view : NodeView Node Hash)

/-- `child` names `parent` and stands one level above it. -/
def IsParent (parent child : Node) : Prop :=
  view.hash parent = view.parentHash child ∧
    view.height parent + 1 = view.height child

/-- Every node is the parent of the next one. -/
def Linked (nodes : List Node) : Prop :=
  nodes.IsChain view.IsParent

/-- `descendant` is `ancestor` itself or is reached from it along children. -/
def Descends (descendant ancestor : Node) : Prop :=
  Relation.ReflTransGen view.IsParent ancestor descendant

/-- A collection of nodes in which a hash determines its node and a parent
stands exactly one level below its child. -/
structure IsTree (served : Node → Prop) : Prop where
  hash_injective : ∀ left right, served left → served right →
    view.hash left = view.hash right → left = right
  parent_height : ∀ parent child, served parent → served child →
    view.hash parent = view.parentHash child →
      view.height parent + 1 = view.height child

variable {view}

theorem Descends.refl (node : Node) : view.Descends node node :=
  Relation.ReflTransGen.refl

theorem Descends.trans {first second third : Node}
    (upper : view.Descends first second)
    (lower : view.Descends second third) : view.Descends first third :=
  Relation.ReflTransGen.trans lower upper

theorem Descends.height_le {descendant ancestor : Node}
    (descends : view.Descends descendant ancestor) :
    view.height ancestor ≤ view.height descendant := by
  induction descends with
  | refl => exact Nat.le_refl _
  | tail _ link induction =>
      have step := link.2
      omega

theorem IsTree.isParent {served : Node → Prop} (tree : view.IsTree served)
    {parent child : Node} (parentServed : served parent)
    (childServed : served child)
    (named : view.hash parent = view.parentHash child) :
    view.IsParent parent child :=
  ⟨named, tree.parent_height parent child parentServed childServed named⟩

/-- Two parents of one served node are the same node. -/
theorem IsTree.parent_unique {served : Node → Prop} (tree : view.IsTree served)
    {left right child : Node} (leftServed : served left)
    (rightServed : served right)
    (leftNamed : view.hash left = view.parentHash child)
    (rightNamed : view.hash right = view.parentHash child) : left = right :=
  tree.hash_injective left right leftServed rightServed
    (leftNamed.trans rightNamed.symm)

theorem Linked.singleton (node : Node) : view.Linked [node] :=
  List.IsChain.singleton node

theorem linked_cons_cons {parent child : Node} {rest : List Node} :
    view.Linked (parent :: child :: rest) ↔
      view.IsParent parent child ∧ view.Linked (child :: rest) :=
  List.isChain_cons_cons

theorem Linked.cons {parent child : Node} {rest : List Node}
    (linked : view.Linked (child :: rest))
    (link : view.IsParent parent child) :
    view.Linked (parent :: child :: rest) :=
  linked_cons_cons.mpr ⟨link, linked⟩

theorem Linked.suffix {nodes kept : List Node} (linked : view.Linked nodes)
    (isSuffix : kept <:+ nodes) : view.Linked kept :=
  List.IsChain.suffix linked isSuffix

/-- The node at a position stands that many levels above the first one. -/
theorem Linked.height_getElem {head : Node} {rest : List Node}
    (linked : view.Linked (head :: rest)) :
    ∀ (index : Nat) (inside : index < (head :: rest).length),
      view.height (head :: rest)[index] = view.height head + index := by
  induction rest generalizing head with
  | nil =>
      intro index inside
      have first : index = 0 := by simpa using inside
      subst first
      rfl
  | cons next rest induction =>
      obtain ⟨link, restLinked⟩ := linked_cons_cons.mp linked
      intro index inside
      cases index with
      | zero => rfl
      | succ index =>
          have step := link.2
          have later := induction restLinked index (by simpa using inside)
          rw [List.getElem_cons_succ, later]
          omega

theorem Linked.isParent_getElem {nodes : List Node}
    (linked : view.Linked nodes) (index : Nat)
    (inside : index + 1 < nodes.length) :
    view.IsParent nodes[index] nodes[index + 1] :=
  List.isChain_iff_getElem.mp linked index inside

/-- In a linked list every node descends from the first one. -/
theorem Linked.descends_head {head : Node} {rest : List Node}
    (linked : view.Linked (head :: rest)) :
    ∀ node ∈ head :: rest, view.Descends node head := by
  induction rest generalizing head with
  | nil =>
      intro node member
      have same : node = head := by simpa using member
      subst same
      exact Descends.refl node
  | cons next rest induction =>
      obtain ⟨link, restLinked⟩ := linked_cons_cons.mp linked
      intro node member
      rcases List.mem_cons.mp member with same | later
      · subst same
        exact Descends.refl node
      · exact (induction restLinked node later).trans
          (Relation.ReflTransGen.single link)

end NodeView
