import ArithExpr.Proofs.DescentOutcome
import ArithExpr.Proofs.Layout

/-!
# Spans and the text

A span says where the first and the last token of a node begin, so the stretch of text that it takes
in reaches to the end of the last token (`Span.stretch?`). In a tree that was read, every node has a
span, the text on it is what is written for the node but for white space, and the stretches of the
children lie in that of their parent one behind the other.

* `Laid.stops` — tokens end before the next one begins.
* `Node.Covers.stretch?_eq` — the stretch of a node, by the tokens that it covers.
* `stretch_of_parse_ok` — what is known of the stretches of all nodes of a tree that was read.
-/

namespace ArithExpr

open Grammar

/-! ### Stretches -/

/-- The offset behind a token. -/
def Token.stop (token : Token) : Int :=
  token.location.offset + token.lexeme.length

/-- A stretch of text, from the first offset up to the second. -/
structure Stretch where
  start : Int
  stop : Int

/-- The stretch that a span takes in: it ends behind the token that is located at the end of the
span. -/
def Span.stretch? (tokens : List Token) (span : Span) : Option Stretch :=
  (tokens.find? fun token => token.location = span.finish).map fun last =>
    ⟨span.start.offset, last.stop⟩

/-- The stretch that a node takes in, if it has a span. -/
def Node.stretch? (tokens : List Token) (n : Node) : Option Stretch :=
  n.span.bind (Span.stretch? tokens)

/-- The text on a stretch, without its white space. -/
def Stretch.text (stretch : Stretch) (source : String) : String :=
  String.ofList (((source.toList.take stretch.stop.toNat).drop stretch.start.toNat).filter
    fun c => !isWhitespace c)

/-! ### Tokens in a text -/

theorem Token.start_le_stop (token : Token) : token.location.offset ≤ token.stop := by
  rw [stop]
  omega

/-- A place belongs to one token. -/
theorem find?_location {tokens : List Token} (h : tokens.Pairwise Token.Precedes) {token : Token}
    (hmem : token ∈ tokens) :
    (tokens.find? fun other => other.location = token.location) = some token := by
  obtain ⟨before, after, rfl⟩ := List.append_of_mem hmem
  obtain ⟨-, -, hbefore⟩ := List.pairwise_append.1 h
  rw [List.find?_eq_some_iff_append]
  refine ⟨by simp, before, after, rfl, ?_⟩
  intro other hother
  have hprecedes : other.Precedes token := hbefore other hother token List.mem_cons_self
  -- another token in front of it begins earlier, so it is located elsewhere
  have hne : other.location ≠ token.location := by
    intro heq
    rw [Token.Precedes, heq] at hprecedes
    omega
  simp [hne]

/-- **Tokens end before the next one begins.** -/
theorem Laid.stops {place : Location} {cs : List Char} {tokens : List Token}
    (h : Laid place cs tokens) :
    (tokens.Pairwise fun token other => token.stop ≤ other.location.offset) ∧
      ∀ token ∈ tokens, place.offset ≤ token.location.offset := by
  induction h with
  | nothing => simp
  -- white space moves the place on, and there is no token in it
  | @space place cs rest tokens _ _ ih =>
    refine ⟨ih.1, fun token hmem => ?_⟩
    have hle := ih.2 token hmem
    rw [Location.offset_advanceOver] at hle
    omega
  | @token place cs rest kind tokens _ _ _ ih =>
    refine ⟨List.pairwise_cons.2 ⟨?_, ih.1⟩, List.forall_mem_cons.2 ⟨Int.le_refl _, ?_⟩⟩
    · -- the tokens behind begin where this one ends, or later
      intro token hmem
      have hle := ih.2 token hmem
      rw [Location.offset_advanceOver] at hle
      simpa [Token.stop] using hle
    · intro token hmem
      have hle := ih.2 token hmem
      rw [Location.offset_advanceOver] at hle
      omega

/-- What the tokens of a part take up of a text begins with the first of them and ends with the
last. -/
theorem stop_le_of_mem {part : List Token}
    (h : part.Pairwise fun token other => token.stop ≤ other.location.offset) {first last : Token}
    (hfirst : part.head? = some first) (hlast : part.getLast? = some last) :
    ∀ token ∈ part, first.location.offset ≤ token.location.offset ∧ token.stop ≤ last.stop := by
  intro token hmem
  constructor
  · -- all others come behind the first token
    obtain ⟨rest, rfl⟩ := List.head?_eq_some_iff.1 hfirst
    rcases List.mem_cons.1 hmem with rfl | hmem
    · exact Int.le_refl _
    · exact Int.le_trans first.start_le_stop (List.rel_of_pairwise_cons h hmem)
  · -- all others come before the last one
    obtain ⟨front, rfl⟩ := List.getLast?_eq_some_iff.1 hlast
    obtain ⟨-, -, hbefore⟩ := List.pairwise_append.1 h
    rcases List.mem_append.1 hmem with hmem | hmem
    · exact Int.le_trans (hbefore token hmem last List.mem_cons_self) last.start_le_stop
    · obtain rfl := List.mem_singleton.1 hmem
      exact Int.le_refl _

/-- **The text on some tokens** of a text that follow one another is that of their characters. -/
theorem text_of_part {text filename : String} {part : List Token}
    (h : part <:+: significantTokens text filename) {first last : Token}
    (hfirst : part.head? = some first) (hlast : part.getLast? = some last) :
    Stretch.text ⟨first.location.offset, last.stop⟩ text =
      String.join (part.map Token.lexeme) := by
  -- the text is cut in front of the first token and behind the last one
  obtain ⟨before, after, hsplit⟩ := h
  obtain ⟨rest, rfl⟩ := List.head?_eq_some_iff.1 hfirst
  have hsplit : significantTokens text filename = before ++ first :: (rest ++ after) := by
    rw [← hsplit, List.append_assoc, List.cons_append]
  obtain ⟨front, behind, htext, -, hplace, hlaid⟩ := (laid_text text filename).split hsplit
  have hpart : first :: (rest ++ after) = first :: rest ++ after := rfl
  obtain ⟨middle, further, rfl, hmiddle, hend⟩ := hlaid.ending hpart hlast
  -- both offsets count characters from the beginning of the text
  have hstart : first.location.offset = front.length := by
    rw [hplace, Location.offset_advanceOver, Location.start, Int.zero_add]
  have hstop : last.stop = (front ++ middle).length := by
    have hoffset := congrArg Location.offset hend
    rw [Location.offset_advanceOver, Location.offset_advanceOver, String.length_toList] at hoffset
    rw [Token.stop, ← hoffset, hstart, List.length_append]
    rfl
  rw [← String.toList_inj, String.toList_join, List.flatMap_map, ← hmiddle.unspaced, Stretch.text,
    String.toList_ofList, hstart, hstop, htext, ← List.append_assoc, Int.toNat_natCast,
    Int.toNat_natCast, List.take_left, List.drop_left]

/-! ### Nodes in a text -/

theorem mem_tokenize {text filename : String} {token : Token}
    (h : token ∈ significantTokens text filename) : token ∈ tokenize text filename :=
  (List.mem_filter.1 h).1

/-- **The span of a node** goes from the first to the last of the tokens that it covers, and the
stretch that it takes in from the beginning of the first to the end of the last. -/
theorem Node.Covers.stretch?_eq {n : Node} {part : List Token} (h : n.Covers part)
    {text filename : String} (hwithin : part <:+: significantTokens text filename) :
    ∃ first last, part.head? = some first ∧ part.getLast? = some last ∧
      n.span = some ⟨first.location, last.location⟩ ∧
      n.stretch? (tokenize text filename) = some ⟨first.location.offset, last.stop⟩ := by
  obtain ⟨first, hfirst⟩ : ∃ first, part.head? = some first :=
    ⟨_, List.head?_eq_some_head h.ne_nil⟩
  obtain ⟨last, hlast⟩ : ∃ last, part.getLast? = some last :=
    ⟨_, List.getLast?_eq_some_getLast h.ne_nil⟩
  have hspan : n.span = some ⟨first.location, last.location⟩ := by
    rw [h.span_eq, Token.spanOf?, hfirst, hlast]
  -- among all tokens of the text, only the last one of the node is located at the end of the span
  have hmem : last ∈ tokenize text filename :=
    mem_tokenize (hwithin.subset (List.mem_of_getLast? hlast))
  have hpairwise : (tokenize text filename).Pairwise Token.Precedes :=
    (Lexer.ofString text filename).ascending_tokenize.1
  refine ⟨first, last, hfirst, hlast, hspan, ?_⟩
  simp only [Node.stretch?, hspan, Option.bind_some, Span.stretch?, find?_location hpairwise hmem,
    Option.map_some]

/-- **The stretches of the children** lie within that of their parent, one behind the other. -/
theorem Node.Covers.stretch?_children {n : Node} {part : List Token} (h : n.Covers part)
    {text filename : String} (hwithin : part <:+: significantTokens text filename)
    {first last : Token} (hfirst : part.head? = some first) (hlast : part.getLast? = some last) :
    (∀ child ∈ n.children, ∃ inner, child.stretch? (tokenize text filename) = some inner ∧
      first.location.offset ≤ inner.start ∧ inner.stop ≤ last.stop) ∧
    n.children.Pairwise fun child other =>
      ∀ inner ∈ child.stretch? (tokenize text filename),
        ∀ inner' ∈ other.stretch? (tokenize text filename), inner.stop ≤ inner'.start := by
  obtain ⟨parts, hchildren, hparts, hflat⟩ := h.children
  have hstops := (laid_text text filename).stops.1.sublist hwithin.sublist
  have hbounds := stop_le_of_mem hstops hfirst hlast
  -- each child covers one of the parts, and so it has a stretch
  have hstretch : ∀ inner ∈ parts, inner.2 <:+: part ∧ ∃ first last, first ∈ inner.2 ∧
      last ∈ inner.2 ∧ inner.1.stretch? (tokenize text filename) =
        some ⟨first.location.offset, last.stop⟩ := by
    intro inner hmem
    have hinner : inner.2 <:+: part :=
      (List.infix_of_mem_flatten (List.mem_map_of_mem hmem)).trans hflat
    obtain ⟨first', last', hfirst', hlast', -, heq⟩ :=
      (hparts inner hmem).stretch?_eq (hinner.trans hwithin)
    exact ⟨hinner, first', last', List.mem_of_head? hfirst', List.mem_of_getLast? hlast', heq⟩
  rw [hchildren]
  constructor
  · intro child hchild
    obtain ⟨inner, hmem, rfl⟩ := List.mem_map.1 hchild
    obtain ⟨hinner, first', last', hfirst', hlast', heq⟩ := hstretch inner hmem
    exact ⟨_, heq, (hbounds first' (hinner.subset hfirst')).1,
      (hbounds last' (hinner.subset hlast')).2⟩
  · have hordered := (List.pairwise_flatten.1 (hstops.sublist hflat.sublist)).2
    rw [List.pairwise_map] at hordered ⊢
    -- parts that follow one another take up stretches that do
    refine hordered.imp_of_mem ?_
    intro inner inner' hmem hmem' hbefore stretch hinner stretch' hinner'
    obtain ⟨-, _, last', -, hlast', heq⟩ := hstretch inner hmem
    obtain ⟨-, first', _, hfirst', -, heq'⟩ := hstretch inner' hmem'
    obtain rfl := Option.some.inj (heq.symm.trans hinner)
    obtain rfl := Option.some.inj (heq'.symm.trans hinner')
    exact hbefore last' hlast' first' hfirst'

variable {text filename : String} {t : Expression} {n : Node}

/-- **Spans point at the text.** Every node of a tree that was read has a span, which begins and
ends at the places of two tokens of the text. Without white space the text from the first of them to
the end of the second is what is written for the node. The stretches of its children lie within its
own, and none of them goes beyond the beginning of a later one. -/
theorem stretch_of_parse_ok (h : parse text filename = .ok t) (hn : (Node.tree t).Beneath n) :
    ∃ first ∈ tokenize text filename, ∃ last ∈ tokenize text filename,
      n.span = some ⟨first.location, last.location⟩ ∧
      first.location.offset ≤ last.location.offset ∧
      n.stretch? (tokenize text filename) = some ⟨first.location.offset, last.stop⟩ ∧
      Stretch.text ⟨first.location.offset, last.stop⟩ text = n.toSource ∧
      (∀ child ∈ n.children, ∃ inner, child.stretch? (tokenize text filename) = some inner ∧
        first.location.offset ≤ inner.start ∧ inner.stop ≤ last.stop) ∧
      n.children.Pairwise fun child other =>
        ∀ inner ∈ child.stretch? (tokenize text filename),
          ∀ inner' ∈ other.stretch? (tokenize text filename), inner.stop ≤ inner'.start := by
  -- every node covers a part of the tokens of the text
  obtain ⟨part, hcovers, hwithin⟩ := (Node.Covers.tree (located_of_parse_ok h)).beneath hn
  obtain ⟨first, last, hfirst, hlast, hspan, hstretch⟩ := hcovers.stretch?_eq hwithin
  obtain ⟨hchildren, hordered⟩ := hcovers.stretch?_children hwithin hfirst hlast
  have hspelled : ∀ token ∈ part, token.Spelled := fun token hmem =>
    ((Parser.faces_ofString text filename).spec token (hwithin.subset hmem)).2
  have hbounds := stop_le_of_mem ((laid_text text filename).stops.1.sublist hwithin.sublist) hfirst
    hlast
  have htext : Stretch.text ⟨first.location.offset, last.stop⟩ text = n.toSource := by
    rw [text_of_part hwithin hfirst hlast, hcovers.toSource_eq hspelled]
  exact ⟨first, mem_tokenize (hwithin.subset (List.mem_of_head? hfirst)), last,
    mem_tokenize (hwithin.subset (List.mem_of_getLast? hlast)), hspan,
    (hbounds last (List.mem_of_getLast? hlast)).1, hstretch, htext, hchildren, hordered⟩

/-- In `1 + (2)` the sign is a node of its own. -/
theorem stretch_of_parse_ok_sign :
    ∃ t n stretch, parse "1 + (2)" "input" = .ok t ∧ (Node.tree t).Beneath n ∧
      n.stretch? (tokenize "1 + (2)" "input") = some stretch ∧ stretch.text "1 + (2)" = "+" := by
  have hread : (match parse "1 + (2)" "input" with
      | .ok t => (Node.tree t).children.map Node.toSource
      | .error _ => []) = ["1", "+", "(2)"] := by decide +kernel
  cases hparse : parse "1 + (2)" "input" with
  | error => simp [hparse] at hread
  | ok t =>
    rw [hparse] at hread
    obtain ⟨n, hmem, hsource⟩ : ∃ n ∈ (Node.tree t).children, n.toSource = "+" := by
      refine List.mem_map.1 ?_
      rw [show (Node.tree t).children.map Node.toSource = _ from hread]
      simp
    have hn : (Node.tree t).Beneath n := Relation.ReflTransGen.single hmem
    obtain ⟨first, -, last, -, -, -, hstretch, htext, -, -⟩ := stretch_of_parse_ok hparse hn
    exact ⟨t, n, _, rfl, hn, hstretch, htext.trans hsource⟩

end ArithExpr
