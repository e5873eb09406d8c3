import Mathlib.Data.List.DropRight
import ArithExpr.Proofs.Frames
import ArithExpr.Proofs.OuterOperators

/-!
# Folding and unfolding

A chain is folded from lists of operands and operators, which are paired off from their ends, and it
is unfolded into its operands with the operators in front of them. Both ways are taken here. What is
folded from lists of any lengths has the operands and operators that found a partner, and they are
the last of each list. What is folded from the operands and operators of a chain is the chain again.

* `Span.around?` — the span around several others; `Tree.span_foldRight` — a folded chain spans the
  operands that it has.
* `Tree.operands_foldRight`, `Tree.operators_foldRight` — what a folded chain has of the two lists.
* `Tree.same_of_chain_eq` — a chain is determined by what it unfolds to.
* `Checked.fold_eq` — nodes in lists are folded to the same chain.
* `folding_inverse` — the two ways together.
-/

namespace ArithExpr

/-! ### The span around several spans -/

/-- The span from where the first of several spans begins to where the last one ends, if all of them
are known. -/
def Span.around? (spans : List (Option Span)) : Option Span :=
  if none ∈ spans then none else join? spans.head?.join spans.getLast?.join

namespace Span

theorem join?_none (span : Option Span) : join? none span = none :=
  rfl

@[simp] theorem around?_singleton (span : Option Span) : around? [span] = span := by
  cases span <;> rfl

/-- A span in front of others is joined to the one around them. -/
theorem around?_cons (span : Option Span) {spans : List (Option Span)} (h : spans ≠ []) :
    around? (span :: spans) = join? span (around? spans) := by
  obtain ⟨second, more, rfl⟩ := List.exists_cons_of_ne_nil h
  unfold around?
  cases span with
  -- an unknown span makes all of them unknown, wherever it is
  | none => rw [if_pos List.mem_cons_self, join?_none]
  | some first =>
    by_cases hunknown : none ∈ second :: more
    · rw [if_pos (List.mem_cons_of_mem _ hunknown), if_pos hunknown]
      rfl
    · -- the end is that of the last one in either case
      have hcons : none ∉ some first :: second :: more := by simpa using hunknown
      rw [if_neg hcons, if_neg hunknown, List.getLast?_cons_cons]
      obtain ⟨begin, rfl⟩ : ∃ begin, second = some begin :=
        Option.ne_none_iff_exists'.1 fun hnone => hunknown (hnone ▸ List.mem_cons_self)
      cases ((some begin :: more).getLast?).join <;> rfl

end Span

namespace Tree

variable {p : Precedence}

/-! ### What a folded chain has -/

section Cons

variable (operand : Tree p.operand) (op : Operator p) (rest : Tree (.chain p))

theorem operands_ofOperand : (ofOperand operand).operands = [operand] := by
  rw [ofOperand, operands, first, links, List.map_nil]

theorem operators_ofOperand : (ofOperand operand).operators = [] := by
  rw [ofOperand, operators, links, List.map_nil]

theorem operands_cons : (cons operand op rest).operands = operand :: rest.operands := by
  rw [cons, operands, links, first, operands, List.map_cons]

theorem operators_cons : (cons operand op rest).operators = op :: rest.operators := by
  rw [cons, operators, links, operators, List.map_cons]

theorem span_cons : (cons operand op rest).span = Span.join? operand.span rest.span := by
  rw [cons, span]

end Cons

theorem operands_ne_nil (t : Tree (.chain p)) : t.operands ≠ [] :=
  List.cons_ne_nil _ _

theorem length_operands (t : Tree (.chain p)) : t.operands.length = t.operators.length + 1 := by
  rw [operands, operators, List.length_cons, List.length_map, List.length_map]

/-- All operands in order, the first with no operator and each other one with its own. -/
theorem chain_eq_zip (t : Tree (.chain p)) :
    t.chain = (none :: t.operators.map some).zip t.operands := by
  -- the first operand has no operator in front, each further one has that of its link
  rw [chain, operators, operands, List.zip_cons_cons, List.map_map, List.zip_map']
  rfl

/-- **What is put in front of a chain**, link after link, ends up in reverse: its operands, its
operators, and anything else that a link adds one of in front. -/
theorem parts_foldl_cons {β : Type} {parts : Tree (.chain p) → List β}
    {part : Tree p.operand × Operator p → β}
    (h : ∀ link rest, parts (cons link.1 link.2 rest) = part link :: parts rest)
    (links : List (Tree p.operand × Operator p)) (rest : Tree (.chain p)) :
    parts (links.foldl (fun rest (operand, op) => cons operand op rest) rest) =
      (links.map part).reverse ++ parts rest := by
  -- by induction on the links, with the rest as it grows
  induction links generalizing rest with
  | nil => rfl
  | cons link links ih =>
    rw [List.foldl_cons, ih, h, List.map_cons, List.reverse_cons, List.append_assoc,
      List.singleton_append]

/-- A chain that spans its operands still does when a link is put in front of it. -/
theorem span_foldl_cons (links : List (Tree p.operand × Operator p)) {rest : Tree (.chain p)}
    (h : rest.span = Span.around? (rest.operands.map span)) :
    (links.foldl (fun rest (operand, op) => cons operand op rest) rest).span =
      Span.around? ((links.foldl (fun rest (operand, op) => cons operand op rest) rest).operands.map
        span) := by
  induction links generalizing rest with
  | nil => exact h
  | cons link links ih =>
    rw [List.foldl_cons]
    apply ih
    -- the span of what is put in front is joined to that of the rest, which spans its operands
    rw [span_cons, operands_cons, List.map_cons,
      Span.around?_cons _ (by simpa using rest.operands_ne_nil), h]

section FoldRight

variable (before : List (Tree p.operand)) (last : Tree p.operand) (operators : List (Operator p))

theorem operands_foldRight :
    (foldRight before last operators).operands =
      (before ++ [last]).rtake (min before.length operators.length + 1) := by
  calc (foldRight before last operators).operands
    _ = ((before.reverse.zip operators.reverse).map Prod.fst).reverse ++ [last] := by
      rw [foldRight, ofReversed, parts_foldl_cons fun link rest => operands_cons link.1 link.2 rest,
        operands_ofOperand]
    _ = (before.reverse.take (min before.length operators.length)).reverse ++ [last] := by
      -- paired off from their ends, as many are left as the shorter list has
      rw [List.zip_eq_zip_take_min, List.map_fst_zip (by simp), List.length_reverse,
        List.length_reverse]
    _ = (before ++ [last]).rtake (min before.length operators.length + 1) := by
      rw [List.rtake_concat_succ, List.rtake_eq_reverse_take_reverse]

theorem operators_foldRight :
    (foldRight before last operators).operators =
      operators.rtake (min before.length operators.length) := by
  calc (foldRight before last operators).operators
    _ = ((before.reverse.zip operators.reverse).map Prod.snd).reverse := by
      rw [foldRight, ofReversed,
        parts_foldl_cons fun link rest => operators_cons link.1 link.2 rest, operators_ofOperand,
        List.append_nil]
    _ = (operators.reverse.take (min before.length operators.length)).reverse := by
      rw [List.zip_eq_zip_take_min, List.map_snd_zip (by simp), List.length_reverse,
        List.length_reverse]
    _ = operators.rtake (min before.length operators.length) := by
      rw [List.rtake_eq_reverse_take_reverse]

theorem span_foldRight :
    (foldRight before last operators).span =
      Span.around? ((foldRight before last operators).operands.map span) := by
  apply span_foldl_cons
  -- a single operand spans itself
  rw [operands_ofOperand, List.map_singleton, Span.around?_singleton, ofOperand, span]

end FoldRight

/-! ### What determines a chain -/

theorem same_of_links_eq : {t u : Tree (.chain p)} → t.first = u.first → t.links = u.links →
    t.same u = true
  | single .., single .., hfirst, _ => by
    rw [first, first] at hfirst
    simp [same, hfirst, same_refl]
  | link _ op rest _, link _ op' rest' _, hfirst, hlinks => by
    rw [first, first] at hfirst
    rw [links, links, List.cons.injEq, Prod.mk.injEq] at hlinks
    -- link by link: the same operator, and the same operand behind it
    obtain ⟨⟨hop, hnext⟩, hrest⟩ := hlinks
    simp [same, hfirst, hop, same_refl, Operator.same, same_of_links_eq hnext hrest]
  | single .., link .., _, hlinks => by simp [links] at hlinks
  | link .., single .., _, hlinks => by simp [links] at hlinks

/-- **Chains that unfold to the same** are the same. -/
theorem same_of_chain_eq {t u : Tree (.chain p)} (h : t.chain = u.chain) : t.same u = true := by
  rw [chain, chain, List.cons.injEq, Prod.mk.injEq] at h
  obtain ⟨⟨-, hfirst⟩, hlinks⟩ := h
  refine same_of_links_eq hfirst (List.map_injective_iff.2 ?_ hlinks)
  rintro ⟨op, operand⟩ ⟨op', operand'⟩ heq
  simpa using heq

end Tree

/-! ### Nodes in lists -/

/-- **Nodes of the right classes** are folded as trees are, whatever their numbers. -/
theorem Checked.fold_eq {p : Precedence} (before : List (Tree p.operand)) (last : Tree p.operand)
    (operators : List (Operator p)) :
    fold (.tree (.chain p)) ((before ++ [last]).map .tree) (operators.map .operator) =
      .ok (.tree (.foldRight before last operators)) := by
  -- folding begins with the last operand
  have hreverse : ((before ++ [last]).map Node.tree).reverse =
      .tree last :: before.reverse.map .tree := by
    simp
  unfold fold
  rw [hreverse]
  dsimp only
  rw [chainNode_single, ← List.map_reverse, List.zip_map]
  exact foldlM_foldStep _ (Tree.ofOperand last)

/-! ### Both ways -/

/-- **Folding and unfolding are inverse.** From one operand or more and any operators a chain is
folded that has the last operands and the last operators of the two lists, as many operators as can
be paired off, and one operand more. The first of its operands has no operator in front of it, and
the chain spans all of them, if their spans are known. What a chain unfolds to is folded to the
chain again, up to its spans. -/
theorem folding_inverse (p : Precedence) :
    (∀ (operands : List (Tree p.operand)) (operators : List (Operator p)), operands ≠ [] →
      ∃ c : Tree (.chain p),
        Tree.foldOf (operands.map some) (operators.map some) = .ok c ∧
        Checked.fold (.tree (.chain p)) (operands.map .tree) (operators.map .operator) =
          .ok (.tree c) ∧
        let pairs := min (operands.length - 1) operators.length
        c.chain = (none :: (operators.rtake pairs).map some).zip (operands.rtake (pairs + 1)) ∧
        c.span = Span.around? ((operands.rtake (pairs + 1)).map Tree.span)) ∧
    ∀ c : Tree (.chain p), ∃ d : Tree (.chain p),
      Tree.foldOf (c.operands.map some) ((c.chain.filterMap Prod.fst).map some) = .ok d ∧
      d.same c = true := by
  constructor
  · -- from lists to a chain: the last operand is the innermost, the others are paired off
    intro operands operators hne
    obtain ⟨before, last, rfl⟩ : ∃ before last, operands = before ++ [last] :=
      (List.eq_nil_or_concat' operands).resolve_left hne
    have hlength : (before ++ [last]).length - 1 = before.length := by simp
    refine ⟨.foldRight before last operators, Tree.foldOf_some before last operators,
      Checked.fold_eq before last operators, ?_, ?_⟩
    · rw [Tree.chain_eq_zip, Tree.operators_foldRight, Tree.operands_foldRight, hlength]
    · rw [Tree.span_foldRight, Tree.operands_foldRight, hlength]
  · -- from a chain to a chain: it has one operand more than operators
    intro c
    obtain ⟨before, last, hsplit⟩ : ∃ before last, c.operands = before ++ [last] :=
      (List.eq_nil_or_concat' c.operands).resolve_left c.operands_ne_nil
    have hlength : before.length = c.operators.length := by
      have hcount := c.length_operands
      rw [hsplit, List.length_append, List.length_singleton] at hcount
      exact Nat.succ_inj.1 hcount
    refine ⟨.foldRight before last c.operators, ?_, Tree.same_of_chain_eq ?_⟩
    · rw [Tree.filterMap_chain, hsplit]
      exact Tree.foldOf_some before last c.operators
    · -- the numbers match, so nothing is left over
      have hpairs : min before.length c.operators.length = c.operators.length := by
        rw [hlength, Nat.min_self]
      have hoperands : (before ++ [last]).rtake (c.operators.length + 1) = c.operands := by
        rw [← hsplit, ← c.length_operands, List.rtake, Nat.sub_self, List.drop_zero]
      have hoperators : c.operators.rtake c.operators.length = c.operators := by
        rw [List.rtake, Nat.sub_self, List.drop_zero]
      rw [Tree.chain_eq_zip, Tree.operators_foldRight, Tree.operands_foldRight, hpairs, hoperands,
        hoperators, ← Tree.chain_eq_zip]

/-- Three operands and one operator: the first operand is left over, so it does not matter that its
span is not known. -/
theorem folding_inverse_leftOver :
    let one : Term := .number ⟨"1", 1, none, rfl⟩ none
    let two : Term := .number ⟨"2", 2, none, rfl⟩ (some (.point ⟨"input", 1, 3, 2⟩))
    let three : Term := .number ⟨"3", 3, none, rfl⟩ (some (.point ⟨"input", 1, 5, 4⟩))
    let power : Operator .exponentiation := ⟨.pow, "^", none, rfl⟩
    [one, two, three] ≠ [] ∧ ∃ c : Power,
      Tree.foldOf (p := .exponentiation) [some one, some two, some three] [some power] = .ok c ∧
      c.chain = [(none, two), (some power, three)] ∧
      c.span = some ⟨⟨"input", 1, 3, 2⟩, ⟨"input", 1, 5, 4⟩⟩ := by
  intro one two three power
  have hne : [one, two, three] ≠ [] := List.cons_ne_nil _ _
  obtain ⟨c, hfold, -, hchain, hspan⟩ :=
    (folding_inverse .exponentiation).1 [one, two, three] [power] hne
  exact ⟨hne, c, hfold, hchain, hspan⟩

end ArithExpr
