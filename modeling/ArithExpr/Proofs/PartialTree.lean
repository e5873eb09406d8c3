import ArithExpr.Proofs.CompletePart
import ArithExpr.Proofs.Places
import ArithExpr.Proofs.RoundTrip

/-!
# What is kept of an input that is refused

The error that refuses an input comes with a tree: what was read, as far as it is complete. The tree
is made by closing the open productions one after the other (`Stack.unwind`), and nobody looks at
the tokens for that. Seen from the tokens it is this: of the tokens before the refused one, the
longest beginning is kept behind which an operand is complete, and a parenthesis is put behind it
for each group that it leaves open.

* `Stack.unwind_some` — a filled hole is closed with nothing but parentheses.
* `Stack.unwind_none` — of a stack with an empty hole, the complete part of its tokens is kept.
* `Stack.Stuck.salvaged` — so it is for each of the reasons for which an input is refused.
* `Parser.built_of_read_error` — so it is for each routine and every text, and what is written for
  the tree is read again as the same tree.
-/

namespace ArithExpr

open Grammar

theorem Fault.location?_unexpected (expected : Expectation) (found : Token) :
    (unexpected expected found).location? = some found.location := by
  unfold unexpected
  split <;> rfl

/-! ### Unwinding -/

namespace Stack

variable {goal : Level}

theorem Linked.balanced {p : Precedence} {links : List (Tree p.operand × Operator p)}
    {tokens : List Token} (h : Linked links tokens) : Balanced tokens := by
  induction links generalizing tokens with
  | nil =>
    obtain rfl : tokens = [] := by simpa [Linked] using h
    exact fun _ => rfl
  | cons link links ih =>
    -- each operand is a phrase, and the operator behind it opens nothing
    obtain ⟨tree, op⟩ := link
    obtain ⟨before, content, token, rfl, hbefore, hcontent, hk, -⟩ := h
    exact ((ih hbefore).append hcontent.balanced).append (balanced_operator hk)

/-- **A filled hole is closed with parentheses.** The tree is that of the tokens of the stack and of
the tree in the hole, and of a parenthesis for each open group of the stack. -/
theorem unwind_some {hole : Level} {stack : Stack goal hole} {taken content : List Token}
    {filling : Tree hole} (hs : stack.Spells taken) (h : Derives content filling.phrase) :
    ∃ t, stack.unwind (some filling) = some t ∧
      Derives (taken ++ content ++ closers (openGroups taken)) t.phrase := by
  -- by induction on the stack, each production of which takes the filled one as its own
  induction stack generalizing taken content with
  | done =>
    obtain rfl : taken = [] := hs
    refine ⟨filling, rfl, ?_⟩
    rw [List.nil_append, show closers (openGroups []) = [] from rfl, List.append_nil]
    exact h
  | group opening below ih =>
    obtain ⟨before, rfl, hbelow, hopen⟩ := hs
    -- the first of the closing parentheses belongs to this group
    have hgroup : Derives (opening :: content ++ [⟨.rightParen, ")", .start unnamedSource⟩])
        (Tree.group filling none).phrase := .group hopen h rfl
    obtain ⟨t, ht, hderives⟩ := ih hbelow hgroup
    refine ⟨t, ht, ?_⟩
    rw [openGroups_opening hopen, closers, List.replicate_succ, ← closers]
    simpa using hderives
  | operand p links below ih =>
    -- the chain is closed with the tree as its last operand
    obtain ⟨before, linked, rfl, hbelow, hlinked⟩ := hs
    obtain ⟨t, ht, hderives⟩ := ih hbelow (derives_ofReversed hlinked h)
    refine ⟨t, ht, ?_⟩
    rw [hlinked.balanced.openGroups_append]
    simpa using hderives

/-- **Of a stack with an empty hole the complete part is kept.** What is dropped are the latest
tokens of the stack, which only begin something. -/
theorem unwind_none {hole : Level} {stack : Stack goal hole} {taken : List Token}
    (hs : stack.Spells taken) :
    ∃ kept dropped, taken = kept ++ dropped ∧ (∀ token ∈ dropped, token.Opens) ∧
      (kept = [] ∨ ∀ behind : List Token, (∀ next ∈ behind.head?, next.kind ≠ .dot) →
        OperandComplete kept behind) ∧
      Salvaged kept (stack.unwind none) := by
  -- by induction on the stack; what is dropped ends with the innermost production that has an
  -- operand
  induction stack generalizing taken with
  | done =>
    obtain rfl : taken = [] := hs
    exact ⟨[], [], rfl, by simp, .inl rfl, rfl⟩
  | group opening below ih =>
    obtain ⟨before, rfl, hbelow, hopen⟩ := hs
    obtain ⟨kept, dropped, rfl, hdropped, hcomplete, hkept⟩ := ih hbelow
    -- a group without content is dropped with its parenthesis
    refine ⟨kept, dropped ++ [opening], List.append_assoc _ _ _, ?_, hcomplete, hkept⟩
    intro token hmem
    rcases List.mem_append.1 hmem with hmem | hmem
    · exact hdropped token hmem
    · obtain rfl := List.mem_singleton.1 hmem
      exact .inl hopen
  | operand p links below ih =>
    obtain ⟨before, linked, rfl, hbelow, hlinked⟩ := hs
    cases links with
    | nil =>
      -- a chain without an operand stands for no tokens at all
      obtain rfl : linked = [] := by simpa [Linked] using hlinked
      rw [List.append_nil]
      exact ih hbelow
    | cons link links =>
      -- the latest operator has no right operand, and it is all that is dropped
      obtain ⟨last, op⟩ := link
      obtain ⟨earlier, content, token, rfl, hearlier, hcontent, hk, -⟩ := hlinked
      have hchain := derives_ofReversed hearlier hcontent
      obtain ⟨t, ht, hderives⟩ := unwind_some hbelow hchain
      have hcomplete : ∀ behind : List Token, (∀ next ∈ behind.head?, next.kind ≠ .dot) →
          OperandComplete (before ++ (earlier ++ content)) behind :=
        fun behind hbehind => (hchain.operandComplete hbehind).append before
      refine ⟨before ++ (earlier ++ content), [token], by simp, ?_, .inr hcomplete, ?_⟩
      · intro other hmem
        obtain rfl := List.mem_singleton.1 hmem
        exact .inr ⟨op.symbol, hk⟩
      · rw [unwind, ht]
        refine ⟨(hcomplete [] (by simp)).ne_nil, ?_⟩
        rw [hchain.balanced.openGroups_append]
        exact hderives

/-- The same by the tokens alone, behind which there may be the beginning of a number. -/
theorem salvaged_unwind_none {hole : Level} {stack : Stack goal hole} {taken behind : List Token}
    (hs : stack.Spells taken) (hbehind : completePart behind = [])
    (hpoint : ∀ next ∈ behind.head?, next.kind ≠ .dot) :
    Salvaged (completePart (taken ++ behind)) (stack.unwind none) := by
  obtain ⟨kept, dropped, rfl, hdropped, hcomplete, hkept⟩ := unwind_none hs
  -- what is dropped does not begin with a point, so the number before it is complete
  have hnext : ∀ next ∈ (dropped ++ behind).head?, next.kind ≠ .dot := by
    cases dropped with
    | nil => exact hpoint
    | cons token dropped =>
      intro next hnext
      obtain rfl := Option.some.inj hnext
      rcases hdropped token List.mem_cons_self with hk | ⟨symbol, hk⟩ <;> simp [hk]
  rw [List.append_assoc, completePart_append (hcomplete.imp_right fun h => h _ hnext)
    (completePart_opens hdropped hbehind)]
  exact hkept

/-- **Whatever the reason for which an input is refused**, the tokens that were taken are divided by
the place of the fault, and of those before it the complete part is kept. -/
theorem Stuck.salvaged {hole : Level} {stack : Stack goal hole} {next : Token}
    {taken : List Token} {fault : Fault} {filling : Option (Tree hole)}
    (h : stack.Stuck next taken fault filling) :
    ∃ before behind, taken = before ++ behind ∧
      fault.location? = some (behind.headD next).location ∧
      Salvaged (completePart before) (stack.unwind filling) := by
  -- the reason tells how much of what was taken is not in the stack
  cases h with
  | operand spells _ _ =>
    refine ⟨taken, [], (List.append_nil _).symm, Fault.location?_unexpected _ _, ?_⟩
    rw [← List.append_nil taken]
    exact salvaged_unwind_none spells rfl (by simp)
  | term spells _ _ =>
    refine ⟨taken, [], (List.append_nil _).symm, Fault.location?_unexpected _ _, ?_⟩
    rw [← List.append_nil taken]
    exact salvaged_unwind_none spells rfl (by simp)
  | @fraction _ tokens integral point spells integralKind pointKind _ =>
    refine ⟨_, [], (List.append_nil _).symm, Fault.location?_unexpected _ _, ?_⟩
    -- the beginning of the number is not in the stack, and it is not complete
    refine salvaged_unwind_none spells (completePart_point integralKind pointKind) ?_
    intro first hfirst
    obtain rfl := Option.some.inj hfirst
    simp [integralKind]
  | @literal _ tokens literal first _ _ spells _ head _ _ =>
    -- a literal without a value is blamed at its first token, so it comes behind the place
    refine ⟨tokens, literal, rfl, ?_, ?_⟩
    · rw [List.headD_eq_head?_getD, head]
      rfl
    · rw [← List.append_nil tokens]
      exact salvaged_unwind_none spells rfl (by simp)
  | @group stack tokens content opening inner spells kind derives _ =>
    -- the content is complete, and its group is one of those to be closed
    have hcomplete : OperandComplete (tokens ++ opening :: content) [] := by
      rw [← List.singleton_append, ← List.append_assoc]
      exact (derives.operandComplete (by simp)).append _
    refine ⟨_, [], (List.append_nil _).symm, rfl, ?_⟩
    -- closing the open group by hand is what unwinding does with a group in the stack
    have hspells : (Stack.group opening stack).Spells (tokens ++ [opening]) :=
      ⟨tokens, rfl, spells, kind⟩
    obtain ⟨t, ht, hderives⟩ := unwind_some hspells derives
    have hunwind : stack.unwind (some (.group inner none)) = some t := ht
    rw [completePart_of_operandComplete hcomplete, hunwind]
    refine ⟨hcomplete.ne_nil, ?_⟩
    have hopen : openGroups (tokens ++ opening :: content) = openGroups (tokens ++ [opening]) := by
      rw [← List.singleton_append, ← List.append_assoc, derives.balanced.openGroups_append]
    rw [hopen]
    simpa using hderives

end Stack

/-! ### Routines -/

/-- The level of the trees that a routine reads, if it reads trees. -/
def Routine.level? : Routine → Option Level
  | whole => some (.chain .additive)
  | tree level => some level
  | number | operator _ => none

namespace Parser

variable {parser after : Parser} {tokens : List Token} {final : Token}

theorem salvaged_parseTree {level : Level} {error : ParseError (Tree level)}
    (h : parser.Faces tokens final) (hread : parser.parseTree level = (.error error, after)) :
    ∃ before behind, tokens = before ++ behind ∧
      error.fault.location? = some (behind.headD final).location ∧
      Salvaged (completePart before) error.built := by
  obtain ⟨taken, rest, rfl, -, haccounted⟩ := accounts_parseTree level h
  rw [hread] at haccounted
  obtain ⟨hole, stack, filling, hstuck, hbuilt⟩ := haccounted
  obtain ⟨before, behind, rfl, hplace, hsalvaged⟩ := hstuck.salvaged
  -- the token that is met next is the first of those behind the place, unless they were taken
  refine ⟨before, behind ++ rest, List.append_assoc _ _ _, ?_, hbuilt ▸ hsalvaged⟩
  cases behind with
  | nil => exact hplace
  | cons => exact hplace

/-- What is kept when reading a whole input fails. An expression that is read but has something
behind it is kept as it is. -/
theorem salvaged_parse {error : ParseError Expression} (h : parser.Faces tokens final)
    (hread : parser.parse = (.error error, after)) :
    ∃ before behind, tokens = before ++ behind ∧
      error.fault.location? = some (behind.headD final).location ∧
      Salvaged (completePart before) error.built := by
  -- the fault is in the tree, or it is the token behind it
  unfold parse at hread
  split at hread
  · next failure after' htree =>
    obtain rfl := Except.error.inj (Prod.mk.inj hread).1
    exact salvaged_parseTree h htree
  · next t after' htree =>
    obtain ⟨taken, rest, rfl, hfaces, hderives⟩ := accounts_parseTree (.chain .additive) h
    rw [htree] at hfaces hderives
    dsimp only at hread
    rw [hfaces.peek_fst] at hread
    split at hread
    · simp at hread
    · obtain rfl := Except.error.inj (Prod.mk.inj hread).1
      -- a whole expression was taken, and it is complete
      have hderives : Derives taken t.phrase := hderives
      have hcomplete : OperandComplete taken [] := hderives.operandComplete (by simp)
      refine ⟨taken, rest, rfl, Fault.location?_unexpected _ _, ?_⟩
      rw [completePart_of_operandComplete hcomplete]
      refine ⟨hcomplete.ne_nil, ?_⟩
      rw [show openGroups taken = 0 from hderives.balanced 0]
      simpa [closers] using hderives

theorem error_of_asNode {α : Type} {f : α → Node} {read : Except (ParseError α) α × Parser}
    {error : ParseError Node} (h : asNode f read = (.error error, after)) :
    ∃ failure, read = (.error failure, after) ∧ error = failure.map f := by
  obtain ⟨outcome, final⟩ := read
  cases outcome with
  | ok => simp [asNode] at h
  | error failure =>
    obtain ⟨herror, rfl⟩ := Prod.mk.inj h
    exact ⟨failure, rfl, (Except.error.inj herror).symm⟩

theorem salvaged_read {routine : Routine} {level : Level} {error : ParseError Node}
    (hlevel : routine.level? = some level) (h : parser.Faces tokens final)
    (hread : parser.read routine = (.error error, after)) :
    ∃ before behind, ∃ built : Option (Tree level), tokens = before ++ behind ∧
      error.fault.location? = some (behind.headD final).location ∧
      error.built = built.map .tree ∧ Salvaged (completePart before) built := by
  -- of the routines, only these two read trees
  cases routine with
  | whole =>
    obtain rfl := Option.some.inj hlevel
    obtain ⟨failure, hparse, rfl⟩ := error_of_asNode hread
    obtain ⟨before, behind, hsplit, hplace, hsalvaged⟩ := salvaged_parse h hparse
    exact ⟨before, behind, failure.built, hsplit, hplace, rfl, hsalvaged⟩
  | tree =>
    obtain rfl := Option.some.inj hlevel
    obtain ⟨failure, htree, rfl⟩ := error_of_asNode hread
    obtain ⟨before, behind, hsplit, hplace, hsalvaged⟩ := salvaged_parseTree h htree
    exact ⟨before, behind, failure.built, hsplit, hplace, rfl, hsalvaged⟩
  | number => simp [Routine.level?] at hlevel
  | operator => simp [Routine.level?] at hlevel

end Parser

theorem Tree.rereads {level : Level} {routine : Routine} (hlevel : routine.level? = some level)
    {t : Tree level} (ht : t.Conventional) (filename : String) :
    ∃ again after, (Parser.ofString t.toSource filename).read routine = (.ok again, after) ∧
      again.same (.tree t) = true := by
  rw [t.toSource_eq_source]
  cases routine with
  | whole =>
    obtain rfl := Option.some.inj hlevel
    obtain ⟨u, hread, hsame⟩ := t.parse_source ht filename
    -- reading a whole input looks for the end, and reading a tree of its level does not
    refine ⟨.tree u, (Parser.ofString t.source filename).parse.2, ?_, hsame⟩
    rw [parse] at hread
    rw [Parser.read, ← Prod.eta (Parser.parse _), hread, Parser.asNode]
  | tree =>
    obtain rfl := Option.some.inj hlevel
    obtain ⟨u, after, hread, hsame, -⟩ := t.reads_source ht filename
    exact ⟨.tree u, after, by rw [Parser.read, hread, Parser.asNode], hsame⟩
  | number => simp [Routine.level?] at hlevel
  | operator => simp [Routine.level?] at hlevel

namespace Parser

/-- **What is kept of a text that is refused.** Of the tokens before the place of the fault the
complete part is kept. If it is empty, there is no tree. Otherwise there is a tree of the level of
the routine, which is written with the characters of the complete part and a closing parenthesis
for each group that this leaves open; and what is written is read again as the same tree. -/
theorem built_of_read_error {text filename : String} {routine : Routine} {level : Level}
    {error : ParseError Node} {after : Parser} (hlevel : routine.level? = some level)
    (hread : (ofString text filename).read routine = (.error error, after)) :
    ∃ place kept, error.fault.location? = some place ∧
      kept = completePart (tokensBefore text filename place) ∧
      (kept = [] → error.built = none) ∧
      (kept ≠ [] → ∃ node, error.built = some node ∧ node.cls = .tree level ∧
        node.toSource = String.join (kept.map Token.lexeme) ++
          String.ofList (List.replicate (openGroups kept) ')') ∧
        ∃ again after', (ofString node.toSource filename).read routine = (.ok again, after') ∧
          again.same node = true) := by
  have hfaces := faces_ofString text filename
  obtain ⟨before, behind, built, hsplit, hplace, hbuilt, hsalvaged⟩ :=
    salvaged_read hlevel hfaces hread
  refine ⟨_, completePart before, hplace, by rw [tokensBefore_eq hsplit], ?_, ?_⟩
  · -- nothing is complete, so nothing was kept
    intro hnil
    cases built with
    | none => exact hbuilt
    | some t => exact absurd hnil hsalvaged.1
  · -- something is complete, and that is what the tree is written with
    intro hne
    cases built with
    | none => exact absurd hsalvaged hne
    | some t =>
      -- the tokens that are kept are tokens of the text
      have hspelled : ∀ token ∈ completePart before, token.Spelled := by
        obtain ⟨⟨dropped, heq, -⟩, -⟩ := completePart_spec before
        intro token hmem
        refine (hfaces.spec token ?_).2
        rw [hsplit, heq]
        exact List.mem_append_left _ (List.mem_append_left _ hmem)
      obtain ⟨hconventional, hsource⟩ := hsalvaged.toSource_eq hspelled
      exact ⟨.tree t, hbuilt, rfl, hsource, t.rereads hlevel hconventional filename⟩

/-- Of `1+(2*` the operator at the end is dropped, and the group is closed. -/
theorem built_of_read_error_openGroup :
    Routine.level? .whole = some (.chain .additive) ∧
      ∃ error after node, (ofString "1+(2*" "input").read .whole = (.error error, after) ∧
        error.built = some node ∧ node.cls = .tree (.chain .additive) ∧
        node.toSource = "1+(2)" := by
  -- place, complete part and open groups are computed from the tokens, without the tree
  have hplace : (match (ofString "1+(2*" "input").read .whole with
      | (.error error, _) => error.fault.location?
      | (.ok _, _) => none) = some ⟨"input", 1, 6, 5⟩ := by decide +kernel
  have hkept : (completePart (tokensBefore "1+(2*" "input" ⟨"input", 1, 6, 5⟩)).map Token.lexeme =
      ["1", "+", "(", "2"] := by decide +kernel
  have hopen : openGroups (completePart (tokensBefore "1+(2*" "input" ⟨"input", 1, 6, 5⟩)) = 1 := by
    decide +kernel
  rcases hread : (ofString "1+(2*" "input").read .whole with ⟨outcome, after⟩
  rw [hread] at hplace
  cases outcome with
  | ok => simp at hplace
  | error error =>
    obtain ⟨place, kept, hplace', rfl, -, hbuilt⟩ := built_of_read_error rfl hread
    -- the place of the fault was computed above
    obtain rfl := Option.some.inj (hplace'.symm.trans hplace)
    obtain ⟨node, hnode, hcls, hsource, -⟩ := hbuilt (by
      intro hnil
      rw [hnil] at hkept
      simp at hkept)
    refine ⟨rfl, error, after, node, rfl, hnode, hcls, ?_⟩
    rw [hsource, hkept, hopen]
    rfl

end Parser

end ArithExpr
