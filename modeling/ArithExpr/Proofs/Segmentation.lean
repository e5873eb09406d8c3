import Mathlib.Data.List.Chain
import ArithExpr.Proofs.Layout
import ArithExpr.Proofs.Positions

/-!
# The tokens of a text, described without a lexer

A text is cut into pieces. Characters of a class that stand side by side make one piece, and every
other character is a piece of its own. `Segmentation` says so of a list of tokens, and it says where
each of them is located; nothing in it mentions a lexer. There is only one such list, since a piece
is determined by the characters from where it begins: the classes exclude each other, so the first
character decides which class a run is of, and the run ends with the first character that is of
another kind.

* `Segmentation.cons`, `Segmentation.uncons` — a segmentation is a piece that a scan takes, and a
  segmentation of what is behind it.
* `Segmentation.tokenize_eq` — the lexer takes the pieces of a segmentation one after the other.
* `exists_segmentation` — all characters can be segmented.
* `tokenize_eq_iff_segmentation` — the tokens of a text are its only segmentation, and the end.
-/

namespace ArithExpr

/-! ### Classes and kinds -/

theorem CharClass.kind_inj {cls cls' : CharClass} (h : cls.kind = cls'.kind) : cls = cls' := by
  cases cls <;> cases cls' <;> first | rfl | exact absurd h (by decide)

theorem CharClass.of?_eq_none_iff {c : Char} :
    of? c = none ↔ ∀ cls : CharClass, cls.contains c = false := by
  constructor
  · -- of a class that contains it, the character would be
    intro h cls
    by_contra hcls
    rw [Bool.not_eq_false] at hcls
    rw [of?_contains hcls] at h
    exact absurd h (by simp)
  · intro h
    cases hc : of? c with
    | none => rfl
    | some cls => exact absurd (contains_of_of? hc) (by simp [h cls])

/-- A character that stands alone is of no kind of run. -/
theorem TokenKind.ofChar_ne_kind (c : Char) (cls : CharClass) : ofChar c ≠ cls.kind := by
  intro h
  rcases ofChar_cases c with hk | hk | hk | hk | ⟨s, hk⟩ <;> rw [hk] at h <;>
    cases cls <;> simp [CharClass.kind] at h

/-! ### Segmentations -/

/-- **How the characters `cs` are cut into pieces**, where `front` are the characters of the source
in front of them. -/
structure Segmentation (filename : String) (front cs : List Char) (pieces : List Token) :
    Prop where
  /-- The pieces are the characters, one behind the other. -/
  joined : Token.written pieces = cs
  nonempty : ∀ piece ∈ pieces, piece.lexeme ≠ ""
  /-- No piece reports the end. -/
  inside : ∀ piece ∈ pieces, piece.kind ≠ .eof
  /-- A piece of the kind of a class holds characters of this class only. -/
  uniform : ∀ piece ∈ pieces, ∀ cls : CharClass, piece.kind = cls.kind →
    ∀ c ∈ piece.lexeme.toList, cls.contains c = true
  /-- Neighbours are not of the kind of the same class. -/
  apart : pieces.IsChain fun piece next => ∀ cls : CharClass, piece.kind = cls.kind →
    next.kind ≠ cls.kind
  /-- Every other piece is a character that is of no class, and is of the kind that belongs to the
  character, or illegal if there is none. -/
  alone : ∀ piece ∈ pieces, (∀ cls : CharClass, piece.kind ≠ cls.kind) →
    ∃ c, piece.lexeme = String.singleton c ∧ (∀ cls : CharClass, cls.contains c = false) ∧
      piece.kind = (TokenKind.ofChar? c).getD .illegal
  /-- A piece is located behind all characters in front of it. -/
  placed : Token.Placed filename front pieces

namespace Segmentation

variable {filename : String} {front cs rest : List Char} {piece : Token} {pieces : List Token}

theorem nil (filename : String) (front : List Char) : Segmentation filename front [] [] where
  joined := rfl
  nonempty := by simp
  inside := by simp
  uniform := by simp
  apart := List.isChain_nil
  alone := by simp
  placed := .nil filename front

/-- The first piece is of the kind of a class exactly if the first character is of the class. -/
theorem head_written (h : Segmentation filename front cs pieces) (cls : CharClass) :
    (∃ next ∈ pieces.head?, next.kind = cls.kind) ↔
      ∃ c ∈ cs.head?, cls.contains c = true := by
  cases pieces with
  | nil =>
    obtain rfl : [] = cs := h.joined
    simp
  | cons next pieces =>
    obtain ⟨c, run, hlexeme⟩ : ∃ c run, next.lexeme.toList = c :: run :=
      List.exists_cons_of_ne_nil (by simpa using h.nonempty next List.mem_cons_self)
    have hhead : cs.head? = some c := by
      rw [← h.joined, Token.written_cons, hlexeme]
      rfl
    simp only [List.head?_cons, hhead, Option.mem_some_iff, exists_eq_left']
    constructor
    · intro hkind
      exact h.uniform next List.mem_cons_self cls hkind c (by rw [hlexeme]; simp)
    · -- the piece begins with a character of the class, so it is of the kind of a class
      intro hc
      by_contra hkind
      by_cases hrun : ∃ cls' : CharClass, next.kind = cls'.kind
      · -- the run is of one class, and no other class has the character
        obtain ⟨cls', hcls'⟩ := hrun
        have hc' := h.uniform next List.mem_cons_self cls' hcls' c (by rw [hlexeme]; simp)
        obtain rfl := CharClass.eq_of_contains hc hc'
        exact hkind hcls'
      · -- a character that stands alone is in no class
        obtain ⟨d, hd, hnone, -⟩ := h.alone next List.mem_cons_self (not_exists.1 hrun)
        obtain rfl : d = c := by
          rw [hd, String.toList_singleton] at hlexeme
          exact (List.cons.inj hlexeme).1
        rw [hnone cls] at hc
        exact absurd hc (by simp)

/-- **A piece that a scan takes, in front of a segmentation** of what is behind it. -/
theorem cons {kind : TokenKind} (takes : Takes cs kind rest)
    (h : Segmentation filename (front ++ cs) rest pieces) :
    Segmentation filename front (cs ++ rest)
      (⟨kind, String.ofList cs, .behind filename front⟩ :: pieces) where
  joined := by rw [Token.written_cons, String.toList_ofList, h.joined]
  nonempty := List.forall_mem_cons.2 ⟨by simpa using takes.ne_nil, h.nonempty⟩
  inside := List.forall_mem_cons.2 ⟨takes.kind_ne_eof, h.inside⟩
  uniform := by
    refine List.forall_mem_cons.2 ⟨?_, h.uniform⟩
    intro cls hkind c hc
    rw [String.toList_ofList] at hc
    -- the kind of a run tells its class, and no other kind is that of a class
    cases takes with
    | run isRun =>
      obtain rfl := CharClass.kind_inj hkind
      exact isRun.2 c hc
    | single => exact absurd hkind (TokenKind.ofChar_ne_kind _ cls)
  apart := by
    refine List.isChain_cons.2 ⟨?_, h.apart⟩
    intro next hnext cls hkind hkind'
    -- the next piece begins with a character of the class, where the run has stopped
    obtain ⟨c, hc, hcls⟩ := (h.head_written cls).1 ⟨next, hnext, hkind'⟩
    cases takes with
    | run _ stop =>
      obtain rfl := CharClass.kind_inj hkind
      rw [stop c hc] at hcls
      exact absurd hcls (by simp)
    | single => exact absurd hkind (TokenKind.ofChar_ne_kind _ cls)
  alone := by
    refine List.forall_mem_cons.2 ⟨?_, h.alone⟩
    intro hkind
    cases takes with
    | run => exact absurd rfl (hkind _)
    | @single c _ alone =>
      exact ⟨c, rfl, CharClass.of?_eq_none_iff.1 alone, rfl⟩
  placed := Token.placed_cons.2 ⟨rfl, by rw [String.toList_ofList]; exact h.placed⟩

/-- **The first piece of a segmentation** is one that a scan takes, and the others are a
segmentation of what is behind it. -/
theorem uncons (h : Segmentation filename front cs (piece :: pieces)) :
    ∃ run rest, cs = run ++ rest ∧ Takes run piece.kind rest ∧
      piece = ⟨piece.kind, String.ofList run, .behind filename front⟩ ∧
      Segmentation filename (front ++ run) rest pieces := by
  -- what is said of all pieces is said of the others, and the place moves past the first one
  obtain ⟨hplace, hplaced⟩ := Token.placed_cons.1 h.placed
  have hrest : Segmentation filename (front ++ piece.lexeme.toList) (Token.written pieces)
      pieces :=
    { joined := rfl
      nonempty := fun _ hmem => h.nonempty _ (List.mem_cons_of_mem _ hmem)
      inside := fun _ hmem => h.inside _ (List.mem_cons_of_mem _ hmem)
      uniform := fun _ hmem => h.uniform _ (List.mem_cons_of_mem _ hmem)
      apart := h.apart.tail
      alone := fun _ hmem => h.alone _ (List.mem_cons_of_mem _ hmem)
      placed := hplaced }
  refine ⟨piece.lexeme.toList, Token.written pieces, h.joined.symm, ?_, ?_, hrest⟩
  · by_cases hrun : ∃ cls : CharClass, piece.kind = cls.kind
    · -- a run holds one class, and it is as long as it can be
      obtain ⟨cls, hkind⟩ := hrun
      rw [hkind]
      refine .run ⟨?_, h.uniform piece List.mem_cons_self cls hkind⟩ ?_
      · simpa using h.nonempty piece List.mem_cons_self
      · -- were the next character of the class, the next piece would be of its kind
        intro c hc
        by_contra hcls
        rw [Bool.not_eq_false] at hcls
        obtain ⟨next, hnext, hkind'⟩ := (hrest.head_written cls).2 ⟨c, hc, hcls⟩
        exact (List.isChain_cons.1 h.apart).1 next hnext cls hkind hkind'
    · -- every other piece is one character
      obtain ⟨c, hlexeme, hnone, hkind⟩ :=
        h.alone piece List.mem_cons_self (not_exists.1 hrun)
      rw [hlexeme, String.toList_singleton, hkind]
      exact .single (CharClass.of?_eq_none_iff.2 hnone)
  · rw [String.ofList_toList, ← hplace]

/-- **The lexer takes the pieces** of a segmentation one after the other, and then reports the
end. -/
theorem tokenize_eq (h : Segmentation filename front cs pieces) (last : LastRead) :
    (Lexer.tokenize ⟨cs, .behind filename front, last⟩).1 =
      pieces ++ [⟨.eof, "", .behind filename (front ++ cs)⟩] := by
  induction pieces generalizing front cs last with
  | nil =>
    obtain rfl : [] = cs := h.joined
    rw [Lexer.tokenize_of_eof rfl, List.append_nil]
    rfl
  | cons piece pieces ih =>
    obtain ⟨run, rest, rfl, htakes, hpiece, hrest⟩ := h.uncons
    obtain ⟨last', hscan⟩ := htakes.scan_eq (.behind filename front) last
    rw [Location.advanceOver_behind] at hscan
    have hkind : (Lexer.scan ⟨run ++ rest, .behind filename front, last⟩).1.kind ≠ .eof := by
      rw [hscan]
      exact htakes.kind_ne_eof
    -- the scan takes the first piece, which is no end, and `ih` is for the place behind it
    rw [Lexer.tokenize_of_ne_eof hkind, hscan, ← hpiece, ih hrest last', List.append_assoc]
    rfl

end Segmentation

/-- **All characters can be segmented**, wherever in a source they stand. -/
theorem exists_segmentation (filename : String) (front cs : List Char) :
    ∃ pieces, Segmentation filename front cs pieces := by
  -- the induction is on the characters, of which every piece takes at least one
  induction h : cs.length using Nat.strongRecOn generalizing front cs with
  | ind n ih =>
    by_cases hnil : cs = []
    · exact ⟨[], hnil ▸ .nil filename front⟩
    · obtain ⟨run, rest, kind, rfl, htakes⟩ := exists_takes hnil
      have hpos : 0 < run.length := List.length_pos_iff.2 htakes.ne_nil
      rw [List.length_append] at h
      obtain ⟨pieces, hrest⟩ := ih rest.length (by omega) (front ++ run) rest rfl
      exact ⟨_, .cons htakes hrest⟩

/-- **Tokenizing is segmenting.** The tokens of a text are the pieces of a segmentation of all its
characters, and behind them one token more, which has no characters and reports the end. No other
list of tokens is of this form. -/
theorem tokenize_eq_iff_segmentation (text filename : String) (tokens : List Token) :
    tokenize text filename = tokens ↔
      ∃ pieces, tokens = pieces ++ [⟨.eof, "", .behind filename text.toList⟩] ∧
        Segmentation filename [] text.toList pieces := by
  -- the lexer gives any segmentation at all, so there is only one
  have htokenize : ∀ pieces, Segmentation filename [] text.toList pieces →
      tokenize text filename = pieces ++ [⟨.eof, "", .behind filename text.toList⟩] := by
    intro pieces h
    have heq := h.tokenize_eq .nothing
    rwa [Location.behind_nil, List.nil_append] at heq
  constructor
  · rintro rfl
    obtain ⟨pieces, h⟩ := exists_segmentation filename [] text.toList
    exact ⟨pieces, htokenize pieces h, h⟩
  · rintro ⟨pieces, rfl, h⟩
    exact htokenize pieces h

end ArithExpr
