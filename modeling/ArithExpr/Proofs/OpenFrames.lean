import ArithExpr.Proofs.Checks
import ArithExpr.Proofs.PartialTree
import ArithExpr.Proofs.Reachable

/-!
# The frames that are open

While `Checked` reads a tree, the productions that are open are a list of frames, and nothing in the
type of such a list says how many operands a chain has, or which frame may stand on which. Here it
is proved what the frames look like at the beginning of every round, and where a fault stops the
last one. The reason is that they are always those of a `Stack`, whose type leaves no other choice,
and which stands for the tokens taken.

* `Arranged` — frames come in segments: a group, and above it chains of consecutive classes.
* `Frame.contents`, `Spelled` — what frames hold, in the order in which it was read, and the tokens
  that write it.
* `Stack.inOrder_frames`, `Stack.spelled_frames` — what the type of a stack, and the tokens it
  stands for, say of its frames.
* `Checked.roundAt?` — the frames and the parser with which a round begins.
* `Checked.StandFor.pass_spec`, `Checked.StandFor.roundAt?` — a round keeps the invariant, and so
  do several.
* `Checked.inOrder_roundAt?` — what this says of the frames.
-/

namespace ArithExpr

open Grammar

/-! ### How frames are arranged -/

/-- The classes of the chains that begin a tree of a level, from the outermost to the innermost. -/
def Level.chainClasses : Level → List NodeClass
  | term => []
  | chain .exponentiation => [.tree (.chain .exponentiation)]
  | chain .multiplicative => [.tree (.chain .multiplicative), .tree (.chain .exponentiation)]
  | chain .additive =>
    [.tree (.chain .additive), .tree (.chain .multiplicative), .tree (.chain .exponentiation)]

theorem Level.chainClasses_chain (p : Precedence) :
    (chain p).chainClasses = .tree (.chain p) :: p.operand.chainClasses := by
  cases p <;> rfl

namespace Frame

/-- Says whether a frame is that of a group. -/
def isGroup : Frame → Bool
  | group _ => true
  | chain .. => false

/-- The class of a chain. -/
def cls? : Frame → Option NodeClass
  | chain cls .. => some cls
  | group _ => none

/-- A chain has as many operators as operands: each operand has its operator behind it. -/
def IsPaired : Frame → Prop
  | chain _ _ operands operators => operators.length = operands.length
  | group _ => True

end Frame

/-- The frames are chains of consecutive classes, from the outermost to the innermost, and the first
of them is a chain of the level. -/
def IsRun (level : Level) (frames : List Frame) : Prop :=
  frames.map Frame.cls? <+: level.chainClasses.map some

theorem IsRun.length_le {level : Level} {frames : List Frame} (h : IsRun level frames) :
    frames.length ≤ 3 := by
  -- no level begins with more than three chains
  have hclasses : level.chainClasses.length ≤ 3 := by
    rcases level with _ | _ | _ | _ <;> simp [Level.chainClasses]
  have hle := List.IsPrefix.length_le h
  rw [List.length_map, List.length_map] at hle
  omega

/-- **Frames in segments**, from the outermost to the innermost: first a run of chains that begins
at the level of the whole tree, and then groups, each with a run of chains in it that begins with an
expression. A run is empty only if it is the first one, and the whole tree a term. -/
inductive Arranged (goal : Level) : List Frame → Prop where
  | bottom {run : List Frame} (isRun : IsRun goal run) (nonempty : goal ≠ .term → run ≠ []) :
      Arranged goal run
  | segment {below run : List Frame} (arranged : Arranged goal below) (opening : Token)
      (isRun : IsRun (.chain .additive) run) (nonempty : run ≠ []) :
      Arranged goal (below ++ .group opening :: run)

/-- What a run of chains stands on, by the level that it begins with: nothing, or a group. -/
inductive Footing (goal : Level) : Level → List Frame → Prop where
  | bottom : Footing goal goal []
  | group {below : List Frame} (arranged : Arranged goal below) (opening : Token) :
      Footing goal (.chain .additive) (below ++ [.group opening])

theorem Footing.arranged {goal root : Level} {below run : List Frame} (h : Footing goal root below)
    (isRun : IsRun root run) (nonempty : root ≠ .term → run ≠ []) :
    Arranged goal (below ++ run) := by
  cases h with
  | bottom => exact .bottom isRun nonempty
  | group arranged opening =>
    rw [List.append_assoc, List.singleton_append]
    exact .segment arranged opening isRun (nonempty (by simp))

/-- There are at most four frames for each group, and three more. -/
theorem Arranged.length_le {goal : Level} {frames : List Frame} (h : Arranged goal frames) :
    frames.length ≤ 3 + 4 * frames.countP Frame.isGroup := by
  induction h with
  -- the first run has no group, and each other one adds a group and its own frames
  | bottom isRun =>
    have hle := isRun.length_le
    omega
  | segment _ opening isRun _ ih =>
    have hle := isRun.length_le
    rw [List.length_append, List.length_cons, List.countP_append,
      List.countP_cons_of_pos (show (Frame.group opening).isGroup = true from rfl)]
    omega

/-! ### What frames hold -/

/-- The tokens that a node is written with, wherever they stand. -/
def Node.WrittenWith : Node → List Token → Prop
  | tree t, tokens => Derives tokens t.phrase
  | number a, tokens => Literal tokens a.text
  | operator op, tokens => ∃ token, tokens = [token] ∧
    token.kind = .operator op.symbol ∧ token.lexeme = op.lexeme

/-- One thing that an open production holds. -/
inductive Content where
  | opening (token : Token)
  | node (node : Node)

namespace Frame

/-- What a frame holds, in the order in which it was read: the parenthesis of a group, or the
operands of a chain, each with its operator behind it. -/
def content : Frame → List Content
  | group opening => [.opening opening]
  | chain _ _ operands operators =>
    (operands.zip operators).flatMap fun (operand, op) => [.node operand, .node op]

/-- What frames hold, of which the innermost comes first, in the order in which it was read. -/
def contents (frames : List Frame) : List Content :=
  frames.reverse.flatMap content

theorem contents_cons (frame : Frame) (frames : List Frame) :
    contents (frame :: frames) = contents frames ++ frame.content := by
  simp [contents]

end Frame

/-- **The tokens spell the contents**, each of them with tokens of its own, one behind the other. -/
inductive Spelled : List Content → List Token → Prop where
  | nil : Spelled [] []
  | opening {token : Token} {contents : List Content} {tokens : List Token}
      (kind : token.kind = .leftParen) (behind : Spelled contents tokens) :
      Spelled (.opening token :: contents) (token :: tokens)
  | node {n : Node} {contents : List Content} {part tokens : List Token}
      (written : n.WrittenWith part) (behind : Spelled contents tokens) :
      Spelled (.node n :: contents) (part ++ tokens)

theorem Spelled.append {contents contents' : List Content} {tokens tokens' : List Token}
    (h : Spelled contents tokens) (h' : Spelled contents' tokens') :
    Spelled (contents ++ contents') (tokens ++ tokens') := by
  induction h with
  | nil => exact h'
  | opening kind _ ih => exact .opening kind ih
  | node written _ ih =>
    rw [List.append_assoc]
    exact .node written ih

/-! ### The frames of a stack -/

/-- What the frames of `Checked` have in common, wherever it stops: each chain has as many operators
as operands, they come in segments, and the chains count for their height only as segments do. -/
structure InOrder (goal : Level) (frames : List Frame) : Prop where
  paired : ∀ frame ∈ frames, frame.IsPaired
  arranged : Arranged goal frames.reverse
  height : frames.length ≤ 3 + 4 * frames.countP Frame.isGroup

namespace Stack

variable {goal : Level}

theorem isPaired_frames {hole : Level} (stack : Stack goal hole) :
    ∀ frame ∈ stack.frames, frame.IsPaired := by
  -- by induction on the stack: what a chain has is a list of pairs
  induction stack with
  | done => simp [frames]
  | group opening below ih => simpa [frames, Frame.IsPaired] using ih
  | operand p links below ih =>
    rw [frames, List.forall_mem_cons]
    exact ⟨by simp [Frame.IsPaired], ih⟩

/-- Above the innermost group, or from the bottom if there is none, there are the chains that the
hole is within. -/
theorem exists_footing {hole : Level} (stack : Stack goal hole) :
    ∃ root below run, stack.frames.reverse = below ++ run ∧ Footing goal root below ∧
      run.map Frame.cls? ++ hole.chainClasses.map some = root.chainClasses.map some := by
  -- by induction on the stack, from the outermost production inwards
  induction stack with
  | done => exact ⟨goal, [], [], rfl, .bottom, rfl⟩
  | operand p links stack ih =>
    obtain ⟨root, below, run, hframes, hbelow, hrun⟩ := ih
    refine ⟨root, below, run ++ [.chain (.tree (.chain p)) p (operandNodes links)
      (operatorNodes links)], by simp [frames, hframes], hbelow, ?_⟩
    -- the chain of the hole is one more of the run, and one less that is still to come
    rw [← hrun, Level.chainClasses_chain]
    simp [Frame.cls?]
  | group opening stack ih =>
    -- the group is in the place of a term, so all chains that can be open below it are
    obtain ⟨root, below, run, hframes, hbelow, hrun⟩ := ih
    rw [Level.chainClasses, List.map_nil, List.append_nil] at hrun
    have hnonempty : root ≠ .term → run ≠ [] := by
      rintro hroot rfl
      rcases root with _ | p
      · exact hroot rfl
      · simp [Level.chainClasses_chain] at hrun
    have hisRun : IsRun root run := by
      unfold IsRun
      exact ⟨[], by rw [List.append_nil, hrun]⟩
    have harranged : Arranged goal (below ++ run) := hbelow.arranged hisRun hnonempty
    refine ⟨.chain .additive, stack.frames.reverse ++ [.group opening], [], by simp [frames],
      .group ?_ opening, rfl⟩
    rwa [hframes]

theorem arranged_frames {hole : Level} {stack : Stack goal hole} (hb : stack.Begins) :
    Arranged goal stack.frames.reverse := by
  cases stack with
  | done =>
    obtain rfl : goal = .term := hb
    -- the whole tree is a term, and nothing is open
    exact .bottom List.nil_prefix (by simp)
  | group => exact hb.elim
  | operand p links stack =>
    -- the innermost chain ends a run, which is therefore not empty
    obtain ⟨root, below, run, hframes, hbelow, hrun⟩ := stack.exists_footing
    rw [frames, List.reverse_cons, hframes, List.append_assoc]
    refine hbelow.arranged ?_ (by simp)
    rw [IsRun, ← hrun, Level.chainClasses_chain]
    simp [Frame.cls?]

/-- **The frames of a stack are in order**, if a round can begin with it. -/
theorem inOrder_frames {hole : Level} {stack : Stack goal hole} (hb : stack.Begins) :
    InOrder goal stack.frames where
  paired := stack.isPaired_frames
  arranged := arranged_frames hb
  -- the height follows from the arrangement, from whichever end it is counted
  height := by
    have hle := (arranged_frames hb).length_le
    rwa [List.length_reverse, List.countP_reverse] at hle

/-! ### The tokens of a stack -/

theorem spelled_links {p : Precedence} {links : List (Tree p.operand × Operator p)}
    {tokens : List Token} (h : Linked links tokens) :
    Spelled (Frame.chain (.tree (.chain p)) p (operandNodes links) (operatorNodes links)).content
      tokens := by
  -- by induction on the links, the latest of which comes first
  induction links generalizing tokens with
  | nil =>
    obtain rfl : tokens = [] := h
    exact .nil
  | cons link links ih =>
    obtain ⟨operand, op⟩ := link
    obtain ⟨before, content, token, rfl, hbefore, hcontent, hkind, hlexeme⟩ := h
    have hop : Spelled [.node (.operator op)] ([token] ++ []) :=
      .node ⟨token, rfl, hkind, hlexeme⟩ .nil
    have hlast : Spelled [.node (.tree operand), .node (.operator op)] (content ++ [token]) :=
      .node hcontent hop
    -- the latest operand and its operator are the last of the chain
    rw [operandNodes_cons, operatorNodes_cons, List.append_assoc, Frame.content,
      List.zip_append (by simp), List.flatMap_append]
    exact (ih hbefore).append hlast

/-- **The tokens that a stack stands for spell its frames.** -/
theorem spelled_frames {hole : Level} {stack : Stack goal hole} {tokens : List Token}
    (h : stack.Spells tokens) : Spelled (Frame.contents stack.frames) tokens := by
  induction stack generalizing tokens with
  | done =>
    obtain rfl : tokens = [] := h
    exact .nil
  | group opening below ih =>
    obtain ⟨before, rfl, hbelow, hkind⟩ := h
    rw [frames, Frame.contents_cons]
    exact (ih hbelow).append (.opening hkind .nil)
  | operand p links below ih =>
    obtain ⟨before, linked, rfl, hbelow, hlinked⟩ := h
    rw [frames, Frame.contents_cons]
    exact (ih hbelow).append (spelled_links hlinked)

/-- There is a frame for each group that the tokens leave open. -/
theorem countP_frames {hole : Level} {stack : Stack goal hole} {tokens : List Token}
    (h : stack.Spells tokens) : stack.frames.countP Frame.isGroup = openGroups tokens := by
  induction stack generalizing tokens with
  | done =>
    obtain rfl : tokens = [] := h
    rfl
  | group opening below ih =>
    obtain ⟨before, rfl, hbelow, hkind⟩ := h
    -- the parenthesis opens one group more, and a chain that is linked none
    rw [frames, List.countP_cons_of_pos (show (Frame.group opening).isGroup = true from rfl),
      ih hbelow, openGroups_opening hkind]
  | operand p links below ih =>
    obtain ⟨before, linked, rfl, hbelow, hlinked⟩ := h
    rw [frames, List.countP_cons_of_neg (by simp [Frame.isGroup]), ih hbelow,
      hlinked.balanced.openGroups_append]

/-- A term can be read into any place that there is for one. -/
theorem begins_of_term {hole : Level} (stack : Stack goal hole) (h : hole = .term) :
    stack.Begins := by
  cases stack with
  | done => exact h
  | group => simp at h
  | operand => trivial

namespace Stuck

variable {next : Token} {hole : Level} {stack : Stack goal hole} {tokens : List Token}
  {fault : Fault} {filling : Option (Tree hole)}

/-- A fault stops a round with a stack that a round could begin with. -/
theorem begins (h : stack.Stuck next tokens fault filling) : stack.Begins := by
  cases h with
  | operand _ awaited => exact Checked.begins_of_awaited (by rw [awaited]; rfl)
  | term | fraction | literal | group => exact begins_of_term _ rfl

/-- The frames are those of groups that the tokens leave open. The group that misses its end is not
among the frames any more. -/
theorem countP_frames_le (h : stack.Stuck next tokens fault filling) :
    stack.frames.countP Frame.isGroup ≤ openGroups tokens := by
  cases h with
  | operand spells | term spells => exact (countP_frames spells).le
  | @fraction _ before integral point spells integralKind pointKind =>
    -- a point and the digits in front of it open nothing
    have hbalanced : Balanced [integral, point] := by
      intro depth
      simp [nesting, integralKind, pointKind]
    rw [countP_frames spells, hbalanced.openGroups_append]
  | literal spells written => rw [countP_frames spells, written.balanced.openGroups_append]
  -- the group that misses its end has been popped, but the tokens leave it open
  | @group _ before content opening _ spells kind derives =>
    rw [countP_frames spells, ← List.singleton_append, ← List.append_assoc,
      derives.balanced.openGroups_append, openGroups_opening kind]
    exact Nat.le_succ _

end Stuck

end Stack

/-! ### Rounds -/

namespace Checked

open ArithExpr.Parser

/-- The frames with which the reading of a tree begins. -/
def opening : Level → List Frame
  | .term => []
  | .chain p => [.chain (.tree (.chain p)) p [] []]

theorem parseTree_eq_run (level : Level) (parser : Parser) :
    parseTree level parser = run (opening level) parser := by
  cases level <;> rfl

/-- The frames and the parser with which a round begins, if it comes to this round. The first one
has the number zero. -/
def roundAt? : Nat → List Frame → Parser → Option (List Frame × Parser)
  | 0, frames, parser => some (frames, parser)
  | n + 1, frames, parser =>
    match pass frames parser with
    | .ok (.next frames, after) => roundAt? n frames after
    | .ok (.finished _, _) | .ok (.stuck _ _, _) | .error _ => none

/-- **The invariant.** The frames are those of a stack which stands for the tokens taken, and with
which a round can begin. -/
def StandFor (goal : Level) (taken : List Token) (frames : List Frame) : Prop :=
  ∃ (hole : Level) (stack : Stack goal hole), stack.frames = frames ∧ stack.Begins ∧
    stack.Spells taken

theorem standFor_opening (level : Level) : StandFor level [] (opening level) := by
  cases level with
  | term => exact ⟨_, .done, rfl, rfl, rfl⟩
  | chain p => exact ⟨_, .operand p [] .done, rfl, trivial, [], [], rfl, rfl, Stack.linked_nil⟩

namespace StandFor

variable {goal : Level} {taken tokens : List Token} {frames : List Frame} {parser : Parser}
  {final : Token}

/-- **What a round comes to**, by the frames that it leaves open. A round never goes wrong. If
another one follows, something has been taken, a chain waits for its next operand, and the frames
stand for all tokens taken until then. If a fault stops it, the frames are in order, and the groups
among them are open. -/
theorem pass_spec (hs : StandFor goal taken frames) (h : parser.Faces tokens final) :
    ∃ round after more rest, pass frames parser = .ok (round, after) ∧ tokens = more ++ rest ∧
      after.Faces rest final ∧
      (∀ next, round = .next next → after.remaining < parser.remaining ∧
        StandFor goal (taken ++ more) next ∧
        ∃ cls rule operands operators below, next = .chain cls rule operands operators :: below) ∧
      ∀ stuck error, round = .stuck stuck error → InOrder goal stuck ∧
        stuck.countP Frame.isGroup ≤ openGroups (taken ++ more) := by
  -- the round is that of the stack, whose tokens are accounted for
  obtain ⟨hole, stack, rfl, hbegins, hspells⟩ := hs
  obtain ⟨more, rest, hsplit, hfaces, haccounts⟩ := Stack.accounts_pass hspells h
  refine ⟨_, _, more, rest, pass_frames hbegins h.settled.holdsSpelled, hsplit, hfaces, ?_, ?_⟩
  · -- another round follows
    intro next hnext
    cases hround : (stack.pass parser).1 with
    | finished | stuck => rw [hround] at hnext; cases hnext
    | next stack' =>
      rw [hround] at hnext haccounts
      obtain rfl : stack'.frames = next := Round.next.inj hnext
      have hawaited := isSome_awaited_pass hround
      have hlt := Stack.remaining_pass_lt (show stack.pass parser = (.next stack', _) from
        Prod.ext hround rfl)
      refine ⟨hlt, ⟨_, stack', rfl, begins_of_awaited hawaited, haccounts⟩, ?_⟩
      cases stack' with
      | operand => exact ⟨_, _, _, _, _, rfl⟩
      | done | group => simp [Stack.awaited] at hawaited
  · -- a fault stops the round
    intro stuck error hstuck
    cases hround : (stack.pass parser).1 with
    | finished | next => rw [hround] at hstuck; cases hstuck
    | stuck stack' fault filling =>
      rw [hround] at hstuck haccounts
      obtain ⟨rfl, -⟩ := Round.stuck.inj hstuck
      have haccounts : stack'.Stuck _ _ fault filling := haccounts
      exact ⟨Stack.inOrder_frames haccounts.begins, haccounts.countP_frames_le⟩

/-- **Rounds keep the invariant**, and reading goes on from each of them. A round but the first one
finds a chain that waits for an operand. -/
theorem roundAt? {n : Nat} {frames' : List Frame} {after : Parser}
    (hs : StandFor goal taken frames) (h : parser.Faces tokens final)
    (hround : roundAt? n frames parser = some (frames', after)) :
    ∃ more rest, tokens = more ++ rest ∧ after.Faces rest final ∧
      StandFor goal (taken ++ more) frames' ∧ run frames parser = run frames' after ∧
      (n ≠ 0 → ∃ cls rule operands operators below,
        frames' = .chain cls rule operands operators :: below) := by
  -- by induction on the number of the round; the invariant is what goes from one to the next
  induction n generalizing taken tokens frames parser with
  | zero =>
    obtain ⟨rfl, rfl⟩ := Prod.mk.inj (Option.some.inj hround)
    exact ⟨[], tokens, rfl, h, by rwa [List.append_nil], rfl, by simp⟩
  | succ n ih =>
    obtain ⟨round, middle, more, rest, hpass, rfl, hfaces, hnext, -⟩ := hs.pass_spec h
    rw [Checked.roundAt?, hpass] at hround
    cases round with
    | finished | stuck => simp at hround
    | next next =>
      obtain ⟨hlt, hs', hchain⟩ := hnext next rfl
      obtain ⟨more', rest', rfl, hfaces', hs'', hrun, hchain'⟩ := ih hs' hfaces hround
      -- a round that is followed by another one takes something, so reading goes on
      have hgoesOn : run frames parser = run frames' after := by
        rw [run, hpass, ← hrun]
        exact if_pos hlt
      refine ⟨more ++ more', rest', by simp, hfaces', by simpa using hs'', hgoesOn, fun _ => ?_⟩
      -- a round later than the next one is covered by the induction
      by_cases hn : n = 0
      · subst hn
        obtain ⟨rfl, -⟩ := Prod.mk.inj (Option.some.inj hround)
        exact hchain
      · exact hchain' hn

end StandFor

/-- **The frames that are open.** At the beginning of each round that reading a tree comes to, and
from which it goes on, the frames are in order, the innermost one is a chain, unless it is the first
round and a term is read, and the frames spell the tokens that have been taken since reading began.
So there is one group among them for each group that these tokens leave open. The round comes to
something, and if a fault stops it, the frames that are unwound are in order, too. -/
theorem inOrder_roundAt? {parser : Parser} (h : parser.Reachable) (level : Level) {n : Nat}
    {frames : List Frame} {after : Parser}
    (hround : roundAt? n (opening level) parser = some (frames, after)) :
    parseTree level parser = run frames after ∧ InOrder level frames ∧
    ((∃ cls rule operands operators below, frames = .chain cls rule operands operators :: below) ∨
      frames = [] ∧ level = .term ∧ n = 0) ∧
    (∃ taken, parser.tokensAhead = taken ++ after.tokensAhead ∧
      Spelled (Frame.contents frames) taken ∧
      frames.countP Frame.isGroup = openGroups taken) ∧
    ∃ round final, pass frames after = .ok (round, final) ∧
      ∀ stuck error, round = .stuck stuck error → InOrder level stuck ∧
        ∃ taken, parser.tokensAhead = taken ++ final.tokensAhead ∧
          stuck.countP Frame.isGroup ≤ openGroups taken := by
  obtain ⟨taken, rest, hsplit, hfaces, hs, hrun, hchain⟩ :=
    -- first to the beginning of the round, with the invariant, and then one round further
    (standFor_opening level).roundAt? h.settled.faces hround
  rw [List.nil_append] at hs
  obtain ⟨round, final, more, rest', hpass, rfl, hfaces', -, hstuck⟩ := hs.pass_spec hfaces
  obtain ⟨hole, stack, rfl, hbegins, hspells⟩ := hs
  refine ⟨(parseTree_eq_run level parser).trans hrun, Stack.inOrder_frames hbegins, ?_,
    ⟨taken, ?_, Stack.spelled_frames hspells, Stack.countP_frames hspells⟩,
    round, final, hpass, ?_⟩
  · -- the first round begins with the frame of the level, and with none for a term
    by_cases hn : n = 0
    · subst hn
      obtain ⟨hframes, -⟩ := Prod.mk.inj (Option.some.inj hround)
      cases level with
      | term => exact .inr ⟨hframes.symm, rfl, rfl⟩
      | chain p => exact .inl ⟨_, _, _, _, _, hframes.symm⟩
    · exact .inl (hchain hn)
  · -- what was taken until the round began
    rw [hfaces.tokensAhead]
    exact hsplit
  · -- what was taken until the round was stopped
    intro stuck error hround'
    obtain ⟨hinOrder, hcount⟩ := hstuck stuck error hround'
    refine ⟨hinOrder, taken ++ more, ?_, hcount⟩
    rw [hfaces'.tokensAhead, List.append_assoc]
    exact hsplit

/-- Before the second operand in the group of `2^(3+4`, all chains around the group are open. -/
theorem inOrder_roundAt?_group :
    (Parser.ofString "2^(3+4" "input").Reachable ∧ ∃ frames after,
      roundAt? 3 (opening (.chain .additive)) (.ofString "2^(3+4" "input") =
        some (frames, after) ∧
      frames.map Frame.cls? = [some (.tree (.chain .additive)), none,
        some (.tree (.chain .exponentiation)), some (.tree (.chain .multiplicative)),
        some (.tree (.chain .additive))] ∧
      InOrder (.chain .additive) frames := by
  have hreachable : (Parser.ofString "2^(3+4" "input").Reachable := .start _
  -- the frames are found by running the parser, and then they are arranged as the theorem says
  have hclasses : ((roundAt? 3 (opening (.chain .additive)) (.ofString "2^(3+4" "input")).map
      fun round => round.1.map Frame.cls?) =
        some [some (.tree (.chain .additive)), none, some (.tree (.chain .exponentiation)),
          some (.tree (.chain .multiplicative)), some (.tree (.chain .additive))] := by
    decide +kernel
  obtain ⟨⟨frames, after⟩, hround, hframes⟩ := Option.map_eq_some_iff.1 hclasses
  obtain ⟨-, hinOrder, -⟩ := inOrder_roundAt? hreachable (.chain .additive) hround
  exact ⟨hreachable, frames, after, hround, hframes, hinOrder⟩

end Checked

end ArithExpr
