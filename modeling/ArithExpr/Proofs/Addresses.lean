import Mathlib.Data.List.FinRange
import ArithExpr.Tree.Node

/-!
# Nodes by their addresses

The same node may stand at several places in a tree. What tells the places apart is the way down to
them: the numbers of the children that it takes. Addresses are ordered as in a dictionary, so a node
comes before all that is beneath it, and what is beneath a child before what is beneath the next.

* `Node.at?` — the node at an address.
* `Node.places` — all nodes in pre-order, each with its address. `Node.mem_places_iff` — every node
  is there with its address, and nothing else; `Node.ascending_places` — the addresses ascend, so
  none is there twice.
* `Node.map_snd_places` — without the addresses these are the nodes of the outline.
-/

namespace ArithExpr

namespace Node

/-- The node that is reached from a node by way of its children with these numbers. -/
def at? (root : Node) : List Nat → Option Node
  | [] => some root
  | i :: address => root.children[i]?.bind fun child => child.at? address

theorem at?_cons {root child : Node} {i : Nat} (h : root.children[i]? = some child)
    (address : List Nat) : root.at? (i :: address) = child.at? address := by
  rw [at?, h, Option.bind_some]

/-! ### Places -/

/-- A node and all nodes beneath it in pre-order, each with its address. -/
def places (n : Node) : List (List Nat × Node) :=
  ([], n) :: (List.finRange n.children.length).flatMap fun i =>
    (n.children.get i).places.map fun place => (i.val :: place.1, place.2)
termination_by n.count
decreasing_by exact count_lt_count (List.get_mem ..)

/-- **Every node is among the places** with its address, and nothing else is. -/
theorem mem_places_iff {root node : Node} {address : List Nat} :
    (address, node) ∈ root.places ↔ root.at? address = some node := by
  -- by induction on what is beneath the node, and by whether the address goes beneath it at all
  induction root using children_induction generalizing address with
  | node root ih =>
    rw [places]
    cases address with
    | nil =>
      simp [at?, eq_comm]
    | cons i address =>
      rw [at?, Option.bind_eq_some_iff]
      simp only [List.mem_cons, Prod.mk.injEq, reduceCtorEq, false_and, false_or, List.mem_flatMap,
        List.mem_finRange, true_and, List.mem_map, List.cons.injEq]
      constructor
      · rintro ⟨j, ⟨address, node⟩, hmem, ⟨rfl, rfl⟩, rfl⟩
        exact ⟨_, List.getElem?_eq_getElem j.isLt, (ih _ (List.get_mem ..)).1 hmem⟩
      · rintro ⟨child, hchild, hat⟩
        obtain ⟨hlt, rfl⟩ := List.getElem?_eq_some_iff.1 hchild
        exact ⟨⟨i, hlt⟩, (address, node), (ih _ (List.get_mem ..)).2 hat, ⟨rfl, rfl⟩, rfl⟩

/-- **The addresses ascend** from place to place. -/
theorem ascending_places (root : Node) :
    root.places.Pairwise fun place place' => place.1 < place'.1 := by
  induction root using children_induction with
  | node root ih =>
    rw [places, List.pairwise_cons, List.pairwise_flatMap]
    refine ⟨?_, ?_, ?_⟩
    · -- the address of the root is empty, and none beneath it is
      intro place hplace
      obtain ⟨i, -, hplace⟩ := List.mem_flatMap.1 hplace
      obtain ⟨place, -, rfl⟩ := List.mem_map.1 hplace
      exact List.nil_lt_cons _ _
    · -- beneath one child, the addresses have their first number in common
      intro i _
      rw [List.pairwise_map]
      exact (ih _ (List.get_mem ..)).imp fun h => List.cons_lt_cons_self.2 h
    · -- beneath different children, the children tell the order
      refine (List.pairwise_lt_finRange _).imp fun {i j} hlt => ?_
      intro place hplace place' hplace'
      obtain ⟨place, -, rfl⟩ := List.mem_map.1 hplace
      obtain ⟨place', -, rfl⟩ := List.mem_map.1 hplace'
      exact List.cons_lt_cons_iff.2 (.inl hlt)

/-- What is gathered from the children by their numbers is gathered from them one by one. -/
theorem flatMap_finRange {α β : Type} (xs : List α) (f : α → List β) :
    ((List.finRange xs.length).flatMap fun i => f (xs.get i)) = xs.flatMap f := by
  rw [← List.flatMap_map, List.map_get_finRange]

/-- Without their addresses, the places are the nodes of the outline. -/
theorem map_snd_places (root : Node) : root.places.map Prod.snd = root.outline.map Prod.snd := by
  induction root using children_induction with
  | node root ih =>
    rw [places, outline_eq, List.map_cons, List.map_cons, List.map_flatMap, List.map_flatMap]
    -- the root is the same, and beneath each child it is the same by induction
    congr 1
    rw [← flatMap_finRange root.children]
    refine List.flatMap_congr fun i _ => ?_
    rw [List.map_map, List.map_map]
    exact ih _ (List.get_mem ..)

end Node

end ArithExpr
