import ArithExpr.Proofs.Frames
import ArithExpr.Proofs.FullReading

/-!
# Lifted trees

A tree is taken to a level above its own by chains of a single operand, one within another. The
parser does not lift what it reads at a level above: it opens a chain for each level on the way, and
closes it when no operator of the level follows. Both come to the same tree.

A tree is lifted in steps of one level, and what one such step keeps is kept by all of them
(`Tree.lift?_induction`). A chain of a single operand is derived into the tokens of the operand, and
is located at them, exactly if the operand is.

* `Tree.exists_lift?`, `Tree.lift?_eq_none_iff` — which levels a tree can be lifted to.
* `Tree.derives_lift?`, `Tree.located_lift?` — the tokens of a lifted tree.
* `Tree.lift?_lift?` — a tree can be lifted by way of any level between.
* `lifting_agrees` — lifting agrees with reading at the level above.
-/

namespace ArithExpr

open Grammar

namespace Tree

variable {l target : Level} {t : Tree l}

/-! ### Which levels a tree can be lifted to -/

/-- **What one step up keeps**, lifting keeps. -/
theorem lift?_induction {motive : {m : Level} → Tree m → Prop} (self : motive t)
    (up : ∀ {p : Precedence} {operand : Tree p.operand}, motive operand →
      motive (ofOperand operand)) {w : Tree target} (h : t.lift? target = some w) : motive w := by
  -- by induction on the target, downwards: the tree is there, or one level beneath it
  induction target using Level.operand_induction with
  | term =>
    by_cases heq : l = .term
    · subst heq
      rwa [Option.some.inj ((lift?_self t).symm.trans h)] at self
    · rw [lift?_term t heq] at h
      cases h
  | chain p ih =>
    by_cases heq : l = .chain p
    · subst heq
      rwa [Option.some.inj ((lift?_self t).symm.trans h)] at self
    · rw [lift?_chain t heq] at h
      obtain ⟨operand, hoperand, rfl⟩ := Option.map_eq_some_iff.1 h
      exact up (ih hoperand)

/-- **A tree can be lifted** to its own level and to every level above. -/
theorem exists_lift? (t : Tree l) (target : Level) (h : l.height ≤ target.height) :
    ∃ w : Tree target, t.lift? target = some w := by
  induction target using Level.operand_induction with
  | term =>
    -- no level but that of terms is as low as a term
    obtain rfl : l = .term := Level.height_injective (Nat.le_zero.1 h)
    exact ⟨t, lift?_self t⟩
  | chain p ih =>
    by_cases heq : l = .chain p
    · subst heq
      exact ⟨t, lift?_self t⟩
    · -- the tree is of a level beneath the chain, so an operand can be had of it
      have hlt := Nat.lt_of_le_of_ne h (Level.height_injective.ne heq)
      rw [Level.height_operand] at hlt
      obtain ⟨operand, hoperand⟩ := ih (Nat.le_of_lt_succ hlt)
      exact ⟨ofOperand operand, by rw [lift?_chain t heq, hoperand, Option.map_some]⟩

/-- A tree is lifted upwards. -/
theorem height_le_of_lift? {w : Tree target} (h : t.lift? target = some w) :
    l.height ≤ target.height := by
  refine lift?_induction (motive := fun {m} _ => l.height ≤ m.height) (Nat.le_refl _)
    (fun {p _} ih => ?_) h
  rw [Level.height_operand p]
  exact Nat.le_succ_of_le ih

/-- **A tree cannot be lifted** to a level beneath its own, and only there it cannot. -/
theorem lift?_eq_none_iff : t.lift? target = none ↔ target.height < l.height := by
  constructor
  · intro h
    by_contra hle
    obtain ⟨w, hw⟩ := t.exists_lift? target (Nat.le_of_not_lt hle)
    -- what is not beneath the tree can be had of it
    rw [h] at hw
    cases hw
  · intro hlt
    cases h : t.lift? target with
    | none => rfl
    | some w => exact absurd (height_le_of_lift? h) (Nat.not_le_of_lt hlt)

/-! ### What lifting keeps -/

theorem span_ofOperand {p : Precedence} (operand : Tree p.operand) :
    (ofOperand operand).span = operand.span := by
  rw [ofOperand, span]

theorem toSource_ofOperand {p : Precedence} (operand : Tree p.operand) :
    (ofOperand operand).toSource = operand.toSource := by
  rw [toSource_eq_source, toSource_eq_source, ofOperand, source]

theorem derives_ofOperand_iff {p : Precedence} {operand : Tree p.operand} {tokens : List Token} :
    Derives tokens (ofOperand operand).phrase ↔ Derives tokens operand.phrase := by
  rw [ofOperand, phrase]
  constructor
  · intro h
    cases h with
    | single only => exact only
  · exact .single

theorem located_ofOperand_iff {p : Precedence} {operand : Tree p.operand} {tokens : List Token} :
    (ofOperand operand).Located tokens ↔ operand.Located tokens := by
  constructor
  · intro h
    cases h with
    | single only => exact only
  · exact .single

/-- A chain of a single operand is lifted as its operand is. -/
theorem lift?_ofOperand {p : Precedence} (operand : Tree p.operand)
    (h : (Level.chain p).height ≤ target.height) :
    (ofOperand operand).lift? target = operand.lift? target := by
  have hbeneath := Level.height_operand p
  -- on the way down from the target, both come to the level of the chain
  induction target using Level.operand_induction with
  | term => exact absurd h (by rw [hbeneath]; exact Nat.not_succ_le_zero _)
  | chain q ih =>
    -- the operand is strictly beneath the target, so it is lifted by at least one step
    have hne : p.operand ≠ .chain q := fun heq => by rw [heq] at hbeneath; omega
    rw [lift?_chain operand hne]
    by_cases heq : p = q
    · subst heq
      rw [lift?_self, lift?_self, Option.map_some]
    · have hchain : Level.chain p ≠ .chain q := fun hpq => heq (Level.chain.inj hpq)
      have hlt := Nat.lt_of_le_of_ne h (Level.height_injective.ne hchain)
      rw [Level.height_operand q] at hlt
      rw [lift?_chain _ hchain, ih (Nat.le_of_lt_succ hlt)]

variable {w : Tree target} (h : t.lift? target = some w)

include h

/-- **The span** is that of the tree. -/
theorem span_lift? : w.span = t.span :=
  lift?_induction (motive := fun v => v.span = t.span) rfl (fun ih => (span_ofOperand _).trans ih) h

/-- **What is written** for a lifted tree is what is written for the tree. -/
theorem toSource_lift? : w.toSource = t.toSource :=
  lift?_induction (motive := fun v => v.toSource = t.toSource) rfl
    (fun ih => (toSource_ofOperand _).trans ih) h

/-- **The phrase of a lifted tree** is derived into the tokens that the phrase of the tree is. -/
theorem derives_lift? {tokens : List Token} :
    Derives tokens w.phrase ↔ Derives tokens t.phrase :=
  lift?_induction (motive := fun v => Derives tokens v.phrase ↔ Derives tokens t.phrase) .rfl
    (fun ih => derives_ofOperand_iff.trans ih) h

/-- **A lifted tree is located** where the tree is. -/
theorem located_lift? {tokens : List Token} : w.Located tokens ↔ t.Located tokens :=
  lift?_induction (motive := fun v => v.Located tokens ↔ t.Located tokens) .rfl
    (fun ih => located_ofOperand_iff.trans ih) h

/-- **By way of a level between** a tree is lifted as it is at once. -/
theorem lift?_lift? (further : Level) (hle : target.height ≤ further.height) :
    w.lift? further = t.lift? further := by
  -- the level between counts only as one that lifting has come to
  refine lift?_induction (motive := fun {m} v => m.height ≤ further.height →
    v.lift? further = t.lift? further) (fun _ => rfl) (fun {p operand} ih hle => ?_) h hle
  rw [lift?_ofOperand operand hle]
  rw [Level.height_operand] at hle
  exact ih (Nat.le_of_succ_le hle)

end Tree

/-! ### Lifting and reading -/

/-- **Lifting agrees with reading at the level above.** A tree can be lifted to its own level and to
every level above, at once or by way of a level between; its span and what is written for it stay
as they are. What is read from a text to its end at the level of the tree is the tree exactly if
what is read at the level above is the lifted tree, and this holds with spans and without them.
Nothing else can be lifted: not nothing, no number, no operator and no tree of a level above. -/
theorem lifting_agrees :
    (∀ {l target : Level} (t : Tree l), l.height ≤ target.height →
      ∃ w : Tree target, t.lift? target = some w ∧ w.toSource = t.toSource ∧ w.span = t.span ∧
        (∀ further : Level, target.height ≤ further.height →
          w.lift? further = t.lift? further) ∧
        ∀ text filename : String,
          ((∃ u : Tree l, u.ReadFrom text filename ∧ u.same t = true) ↔
            ∃ v : Tree target, v.ReadFrom text filename ∧ v.same w = true) ∧
          (t.ReadFrom text filename ↔ w.ReadFrom text filename)) ∧
    (∀ (node? : Option Node) (target : Level),
      Checked.lift node? (.tree target) = .ok ((node?.bind (·.lift? target)).map .tree) ∧
      (node?.bind (·.lift? target) = none ↔
        node? = none ∨ (∃ a : Number, node? = some (.number a)) ∨
          (∃ (p : Precedence) (op : Operator p), node? = some (.operator op)) ∨
          ∃ (l : Level) (t : Tree l), node? = some (.tree t) ∧ target.height < l.height)) := by
  -- first the trees that can be lifted, then all that cannot
  constructor
  · intro l target t hle
    obtain ⟨w, hw⟩ := t.exists_lift? target hle
    refine ⟨w, hw, Tree.toSource_lift? hw, Tree.span_lift? hw, Tree.lift?_lift? hw,
      fun text filename => ⟨?_, ?_⟩⟩
    · -- without spans: both are derived into the same tokens
      rw [Tree.exists_readFrom_iff, Tree.exists_readFrom_iff, Tree.derives_lift? hw]
    · -- with spans: both are located at the same tokens
      rw [Tree.readFrom_iff_located, Tree.readFrom_iff_located, Tree.located_lift? hw]
  · rintro (_ | node) target
    · -- nothing is lifted to nothing
      exact ⟨rfl, by simp⟩
    · refine ⟨Checked.lift_eq node target, ?_⟩
      cases node with
      -- numbers and operators are of no level
      | number | operator => simp [Node.lift?]
      | @tree l t =>
        have hnone : (Node.tree t).lift? target = none ↔ target.height < l.height :=
          Tree.lift?_eq_none_iff
        rw [Option.bind_some, hnone]
        constructor
        · intro hlt
          exact .inr (.inr (.inr ⟨l, t, rfl, hlt⟩))
        -- of the four reasons, only the last one can be that of a tree
        · rintro (h | ⟨_, h⟩ | ⟨_, _, h⟩ | ⟨_, _, h, hlt⟩)
          · cases h
          · cases h
          · cases h
          · cases h
            exact hlt

/-- A power that is lifted to an expression, and read as one. -/
theorem lifting_agrees_power : ∃ (t : Power) (w : Expression), t.ReadFrom "2^(3)" "input" ∧
    t.lift? (.chain .additive) = some w ∧ w.ReadFrom "2^(3)" "input" := by
  -- the power is found by running the parser
  have hpower : ∃ t : Power, t.ReadFrom "2^(3)" "input" := by decide +kernel
  obtain ⟨t, ht⟩ := hpower
  have hle : (Level.chain .exponentiation).height ≤ (Level.chain .additive).height := by decide
  obtain ⟨w, hw, -, -, -, hread⟩ := lifting_agrees.1 t hle
  exact ⟨t, w, ht, hw, (hread "2^(3)" "input").2.1 ht⟩

end ArithExpr
