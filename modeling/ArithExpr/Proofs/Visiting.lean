import ArithExpr.Proofs.Addresses
import ArithExpr.Tree.Visitor

/-!
# What a visitor logs

A visitor goes from a node to its children, and from handlers, too, if these go on. What it logs on
the way is what `Visitor.log` gives for the node (`Visitor.visit_eq`). Here it is told from the
places in the tree: it is gathered from those that the visitor gets to and has a handler for
(`Visitor.log_eq_places`), and it gets to a place exactly if no node above is handled, or if
handlers go on (`Visitor.reaches_iff`).

* `Visitor.reaches` — whether the visitor gets to an address.
* `visitor_logs` — every node that is to be logged is logged once, and in pre-order.
-/

namespace ArithExpr

namespace Visitor

/-! ### Where a visitor gets to -/

/-- Says whether a visitor gets from a node to an address. It is stopped by a handler that does not
go on. -/
def reaches (visitor : Visitor) (root : Node) : List Nat → Bool
  | [] => true
  | i :: address =>
    (visitor.descends || !visitor.handles root.cls) &&
      root.children[i]?.any fun child => visitor.reaches child address

variable (visitor : Visitor)

/-- **A visitor gets to a node** exactly if handlers go on or no node above is handled. -/
theorem reaches_iff {root node : Node} {address : List Nat} (h : root.at? address = some node) :
    visitor.reaches root address = true ↔
      visitor.descends = true ∨ ∀ above step below, address = above ++ step :: below →
        ∀ n ∈ root.at? above, visitor.handles n.cls = false := by
  -- the address is followed from the root, and the visitor has to get past the root first
  induction address generalizing root with
  | nil => simp [reaches]
  | cons i address ih =>
    obtain ⟨child, hchild, hat⟩ := Option.bind_eq_some_iff.1 h
    rw [reaches, hchild, Option.any_some, Bool.and_eq_true, ih hat]
    cases hdescends : visitor.descends with
    | true => simp
    -- handlers stop the visitor, so neither the root nor a node further down has one
    | false =>
      simp only [Bool.false_or, Bool.not_eq_true', Bool.false_eq_true, false_or]
      constructor
      · -- a node above is the root itself, or one above in the child
        rintro ⟨hroot, hbeneath⟩ above step below heq n hn
        cases above with
        | nil =>
          obtain rfl : root = n := Option.some.inj hn
          exact hroot
        | cons j above =>
          obtain ⟨rfl, hfurther⟩ := List.cons.inj heq
          rw [Node.at?_cons hchild] at hn
          exact hbeneath above step below hfurther n hn
      · -- the root is above everything that the address leads to
        intro hall
        refine ⟨hall [] i address rfl root rfl, fun above step below heq n hn => ?_⟩
        rw [← Node.at?_cons hchild] at hn
        exact hall (i :: above) step below (congrArg _ heq) n hn

/-- What is logged of the nodes beneath a child, seen from the node above. -/
theorem filter_places_child (root : Node) (i : Fin root.children.length) :
    (((root.children.get i).places.map fun place => (i.val :: place.1, place.2)).filter
        fun place => visitor.reaches root place.1 && visitor.handles place.2.cls).map Prod.snd =
      if visitor.descends || !visitor.handles root.cls then
        ((root.children.get i).places.filter fun place =>
          visitor.reaches (root.children.get i) place.1 && visitor.handles place.2.cls).map Prod.snd
      else [] := by
  -- an address in the child is got to if the root lets the visitor on
  have hreaches : ∀ address, visitor.reaches root (i.val :: address) =
      ((visitor.descends || !visitor.handles root.cls) &&
        visitor.reaches (root.children.get i) address) := by
    intro address
    rw [reaches, List.getElem?_eq_getElem i.isLt, Option.any_some]
    rfl
  rw [List.filter_map, List.map_map]
  cases hopen : visitor.descends || !visitor.handles root.cls <;>
    simp [Function.comp_def, hreaches, hopen]

/-- **What is logged** is what the visitor gets to and has a handler for. -/
theorem log_eq_places (root : Node) :
    visitor.log root = (root.places.filter fun place =>
      visitor.reaches root place.1 && visitor.handles place.2.cls).map Prod.snd := by
  induction root using Node.children_induction with
  | node root ih =>
    -- beneath the root, each child has a log of its own, if the visitor gets there at all
    have hbeneath : ((List.finRange root.children.length).flatMap fun i =>
          (((root.children.get i).places.map fun place => (i.val :: place.1, place.2)).filter
            fun place => visitor.reaches root place.1 && visitor.handles place.2.cls).map
              Prod.snd) =
        if visitor.descends || !visitor.handles root.cls then root.children.flatMap visitor.log
        else [] := by
      simp only [filter_places_child]
      split
      · rw [← Node.flatMap_finRange root.children]
        exact List.flatMap_congr fun i _ => (ih _ (List.get_mem ..)).symm
      · simp
    have hroot : visitor.reaches root [] = true := by rw [reaches]
    rw [log_eq, Node.places, List.filter_cons, List.filter_flatMap, enter, hroot, Bool.true_and]
    cases hhandles : visitor.handles root.cls with
    | true =>
      rw [if_pos rfl, if_pos rfl, List.map_cons, List.map_flatMap, hbeneath, hhandles]
      cases visitor.descends <;> rfl
    | false =>
      rw [if_neg Bool.false_ne_true, if_neg Bool.false_ne_true, List.map_flatMap, hbeneath,
        hhandles, Bool.not_false, Bool.or_true, if_pos rfl]

end Visitor

/-- **Each node that is to be logged is logged once, and in pre-order.** The result of a visit is
that of the handler of the root, if there is one; the class that answers is the case of handlers
that give back the class. If handlers go on, the log is the nodes of the outline that have a
handler. In any case it is the nodes at some addresses that ascend, namely at those of the nodes
with a handler above which, unless handlers go on, no node has one. -/
theorem visitor_logs {α : Type} (visitor : Visitor) (result : Node → α) (root : Node) :
    visitor.visit result root [] =
        (if visitor.handles root.cls then some (result root) else none, visitor.log root) ∧
      visitor.answer root = (visitor.visit Node.cls root []).1 ∧
      (visitor.descends = true →
        visitor.log root = (root.outline.map Prod.snd).filter fun n => visitor.handles n.cls) ∧
      ∃ logged : List (List Nat × Node), visitor.log root = logged.map Prod.snd ∧
        (logged.Pairwise fun place place' => place.1 < place'.1) ∧
        ∀ address node, (address, node) ∈ logged ↔
          root.at? address = some node ∧ visitor.handles node.cls = true ∧
            (visitor.descends = true ∨
              ∀ above step below, address = above ++ step :: below →
                ∀ n ∈ root.at? above, visitor.handles n.cls = false) := by
  refine ⟨?_, visitor.answer_eq_visit root [], ?_, ?_⟩
  · rw [visitor.visit_eq, List.nil_append]
  · intro hdescends
    -- with handlers that go on the visitor gets to all places, and the order is that of the outline
    have hall : ∀ place ∈ root.places, visitor.reaches root place.1 = true := fun place hplace =>
      (visitor.reaches_iff (Node.mem_places_iff.1 hplace)).2 (.inl hdescends)
    rw [visitor.log_eq_places, ← Node.map_snd_places, List.filter_map]
    congr 1
    apply List.filter_congr
    intro place hplace
    rw [hall place hplace]
    rfl
  · refine ⟨root.places.filter fun place =>
      visitor.reaches root place.1 && visitor.handles place.2.cls, visitor.log_eq_places root,
      root.ascending_places.filter _, fun address node => ?_⟩
    -- ascending addresses tell the places apart, so each is logged once
    rw [List.mem_filter, Node.mem_places_iff, Bool.and_eq_true]
    constructor
    · rintro ⟨hat, hreaches, hhandles⟩
      exact ⟨hat, hhandles, (visitor.reaches_iff hat).1 hreaches⟩
    · rintro ⟨hat, hhandles, habove⟩
      exact ⟨hat, (visitor.reaches_iff hat).2 habove, hhandles⟩

end ArithExpr
