import ArithExpr.Proofs.DescentOutcome
import ArithExpr.Proofs.Layout
import ArithExpr.Proofs.Lockstep

/-!
# White space

White space may stand between any two tokens, and none of it matters. It is left out when a tree
that was read is written again (`toSource_of_parse_ok`), and what a text comes to is told from the
kinds and the characters of its visible tokens, wherever these stand (`parse_alike`). This goes for
faults, too: what they say is the same, and the tokens that they blame have the same number among
the visible ones.

* `unspaced` — a text without its white space.
* `visibleTokens` — the tokens of a text without white space, the end included.
* `Correspondence.numbered` — tokens correspond if they have the same number in two lists.
* `ParseError.Alike`, `ReadAlike` — the same error, and the same outcome, wherever the tokens stand.
-/

namespace ArithExpr

/-! ### What is written of a text -/

/-- A text without its white space. -/
def unspaced (text : String) : String :=
  String.ofList (text.toList.filter fun c => !isWhitespace c)

/-- **A tree that was read is written as its text**, without the white space. -/
theorem toSource_of_parse_ok {text filename : String} {t : Expression}
    (h : parse text filename = .ok t) : t.toSource = unspaced text := by
  have hcovers : (Node.tree t).Covers (significantTokens text filename) :=
    .tree (located_of_parse_ok h)
  have hspelled : ∀ token ∈ significantTokens text filename, token.Spelled :=
    fun token hmem => ((Parser.faces_ofString text filename).spec token hmem).2
  -- the tree covers the tokens that count, and these are spelled with all of the text but white
  -- space
  calc t.toSource
    _ = String.join ((significantTokens text filename).map Token.lexeme) :=
      hcovers.toSource_eq hspelled
    _ = String.ofList ((significantTokens text filename).flatMap fun token =>
        token.lexeme.toList) := by
      rw [← String.toList_inj, String.toList_join, List.flatMap_map, String.toList_ofList]
    _ = unspaced text := by rw [← (laid_text text filename).unspaced, unspaced]

/-- Digits of two scripts, zeros in front and behind, white space of three kinds around a point,
and parentheses that could be left out. -/
theorem toSource_of_parse_ok_point : ∃ t,
    parse " ((0٣\t.\u00a0\n50)) ^ 2 " "input" = .ok t ∧ t.toSource = "((0٣.50))^2" := by
  have hread : (parse " ((0٣\t.\u00a0\n50)) ^ 2 " "input").toBool = true := by decide +kernel
  cases hparse : parse " ((0٣\t.\u00a0\n50)) ^ 2 " "input" with
  | error => simp [hparse, Except.toBool] at hread
  | ok t =>
    refine ⟨t, rfl, (toSource_of_parse_ok hparse).trans ?_⟩
    decide +kernel

/-! ### Visible tokens -/

/-- The tokens of a text without white space, the end included. -/
def visibleTokens (text filename : String) : List Token :=
  (tokenize text filename).filter fun token => !token.isWhitespace

/-- What is visible is what counts for the grammar, and the end. -/
theorem Lexer.filter_tokenize (lexer : Lexer) :
    (lexer.tokenize.1.filter fun token => !token.isWhitespace) =
      lexer.tokensAhead ++ [lexer.endToken] := by
  -- by induction on what is left; white space is left out on either side
  induction h : lexer.rest.length using Nat.strongRecOn generalizing lexer with
  | ind n ih =>
    by_cases he : lexer.scan.1.kind = .eof
    · obtain ⟨hrest, -, htoken⟩ := scan_of_eof he
      rw [tokenize_of_eof he, tokensAhead_of_rest_nil hrest, htoken]
      rfl
    · have hlt := rest_scan_length_lt he
      have hbehind := ih _ (by omega) lexer.scan.2 rfl
      rw [endToken_scan] at hbehind
      rw [tokenize, dif_neg he, tokensAhead_scan, List.filter_cons, hbehind]
      by_cases hspace : lexer.scan.1.kind = .whitespace
      · simp [Token.isWhitespace, Token.isSignificant, hspace]
      · simp [Token.isWhitespace, Token.isSignificant, hspace, he]

theorem Parser.sees_visibleTokens (text filename : String) :
    (ofString text filename).Sees (visibleTokens text filename) :=
  ⟨_, _, faces_ofLexer _, Lexer.filter_tokenize _⟩

/-- The tokens have the same number in the two lists, and are of one kind with the same
characters. -/
def Token.SameIn (xs ys : List Token) (a b : Token) : Prop :=
  ∃ i : Nat, xs[i]? = some a ∧ ys[i]? = some b ∧ a.spelling = b.spelling

/-- **Tokens that have the same number** in two lists correspond. -/
def Correspondence.numbered (xs ys : List Token) : Correspondence where
  rel := Token.SameIn xs ys
  kind := fun ⟨_, _, _, h⟩ => congrArg Prod.fst h
  lexeme := fun ⟨_, _, _, h⟩ => congrArg Prod.snd h

theorem Token.forall₂_sameIn {xs ys : List Token}
    (h : xs.map Token.spelling = ys.map Token.spelling) : List.Forall₂ (SameIn xs ys) xs ys := by
  have hlength : xs.length = ys.length := by simpa using congrArg List.length h
  -- the number of a token is the same in both lists, since these go side by side
  refine List.forall₂_iff_get.2 ⟨hlength, fun i hx hy => ⟨i, ?_, ?_, ?_⟩⟩
  · exact List.getElem?_eq_getElem hx
  · exact List.getElem?_eq_getElem hy
  · have hi : (xs.map Token.spelling)[i]? = (ys.map Token.spelling)[i]? := by rw [h]
    simpa [hx, hy] using hi

/-! ### Outcomes -/

/-- **The same error in two texts**, whose visible tokens are `xs` and `ys`: it says the same, the
same was built before it, and the tokens that are blamed have the same number. -/
structure ParseError.Alike (xs ys : List Token) (error error' : ParseError Expression) : Prop where
  cls : error.fault.cls = error'.fault.cls
  message : error.fault.message = error'.fault.message
  code : error.fault.code = error'.fault.code
  kind : error.fault.kind = error'.fault.kind
  remedies : error.fault.remedies = error'.fault.remedies
  built : Option.Rel (fun t u => t.same u = true) error.built error'.built
  token : Option.Rel (Token.SameIn xs ys) error.fault.token? error'.fault.token?

/-- **The same outcome for two texts**, whose visible tokens are `xs` and `ys`. -/
inductive ReadAlike (xs ys : List Token) : Except (ParseError Expression) Expression →
    Except (ParseError Expression) Expression → Prop where
  | ok {t u : Expression} (same : t.same u = true) : ReadAlike xs ys (.ok t) (.ok u)
  | error {error error' : ParseError Expression} (alike : error.Alike xs ys error') :
      ReadAlike xs ys (.error error) (.error error')

namespace Fault.Matches

variable {R : Correspondence} {fault fault' : Fault}

theorem cls (h : fault.Matches R fault') : fault.cls = fault'.cls := by
  cases h <;> rfl

theorem code (h : fault.Matches R fault') : fault.code = fault'.code := by
  cases h <;> rfl

theorem kind (h : fault.Matches R fault') : fault.kind = fault'.kind := by
  cases h <;> rfl

/-- A message names tokens by their kinds and their characters. -/
theorem message (h : fault.Matches R fault') : fault.message = fault'.message := by
  -- of all that a fault may carry, places alone may differ, and no message names them
  unfold Fault.message
  cases h with
  | unexpectedToken _ found =>
    dsimp only
    rw [R.kind found, R.lexeme found]
  | missingRightParen _ found =>
    dsimp only
    rw [R.kind found]
  | illegalCharacter _ found =>
    dsimp only
    rw [R.lexeme found]
  | unexpectedEnd | numberConversion => rfl

theorem remedies (h : fault.Matches R fault') : fault.remedies = fault'.remedies := by
  unfold Fault.remedies
  cases h with
  | illegalCharacter _ found =>
    dsimp only
    rw [R.lexeme found]
  | _ => rfl

theorem token? (h : fault.Matches R fault') : Option.Rel R.rel fault.token? fault'.token? := by
  cases h with
  | unexpectedToken _ found | missingRightParen _ found | illegalCharacter _ found =>
    exact .some found
  | unexpectedEnd | numberConversion => exact .none

end Fault.Matches

/-- **White space does not matter.** Two texts that have the same visible tokens, wherever these
stand and whatever white space is between them, come to the same outcome. -/
theorem parse_alike {x y f g : String}
    (h : (visibleTokens x f).map Token.spelling = (visibleTokens y g).map Token.spelling) :
    ReadAlike (visibleTokens x f) (visibleTokens y g) (parse x f) (parse y g) := by
  -- all that the two parsers get to see corresponds, so they are in step to the end
  obtain ⟨a, b, hstart⟩ : Parser.InStep (.numbered (visibleTokens x f) (visibleTokens y g))
      ([] : List Token).length (.ofString x f) (.ofString y g) := by
    have hx := Parser.sees_visibleTokens x f
    have hy := Parser.sees_visibleTokens y g
    rw [← List.append_nil (visibleTokens _ _)] at hx hy
    exact .of_sees hx hy (Token.forall₂_sameIn h) (Parser.sees_visibleTokens x f).ne_nil
  have hmatch := (hstart.parse (Nat.zero_le _)).1
  unfold parse
  generalize (Parser.ofString x f).parse.1 = read at hmatch
  generalize (Parser.ofString y g).parse.1 = read' at hmatch
  cases hmatch with
  | ok same => exact .ok (Tree.same_iff_phrase_eq.2 same)
  -- what two matching faults share are all the parts of likeness
  | error faults same =>
    exact .error ⟨faults.cls, faults.message, faults.code, faults.kind, faults.remedies,
      Tree.rel_same_of_map_phrase same, faults.token?⟩

/-- An operand is missed at a point, with and without white space in front of it; and a group is
read, with white space on either side of the point in it or around its parentheses. -/
theorem parse_alike_point :
    ((visibleTokens "1+ .5" "a").map Token.spelling =
        (visibleTokens "1\n+.\t5" "b").map Token.spelling ∧
      ReadAlike (visibleTokens "1+ .5" "a") (visibleTokens "1\n+.\t5" "b") (parse "1+ .5" "a")
        (parse "1\n+.\t5" "b")) ∧
    (visibleTokens "(1 .5)^2" "a").map Token.spelling =
      (visibleTokens " ( 1.\u00a05\n)^\t2" "b").map Token.spelling ∧
    ∃ t u, parse "(1 .5)^2" "a" = .ok t ∧ parse " ( 1.\u00a05\n)^\t2" "b" = .ok u ∧
      t.same u = true := by
  have h : (visibleTokens "1+ .5" "a").map Token.spelling =
      (visibleTokens "1\n+.\t5" "b").map Token.spelling := by decide +kernel
  have hgroup : (visibleTokens "(1 .5)^2" "a").map Token.spelling =
      (visibleTokens " ( 1.\u00a05\n)^\t2" "b").map Token.spelling := by decide +kernel
  refine ⟨⟨h, parse_alike h⟩, hgroup, ?_⟩
  have hread : (parse "(1 .5)^2" "a").toBool = true := by decide +kernel
  have halike := parse_alike hgroup
  -- the first text is read, and so the second one is, too
  generalize parse "(1 .5)^2" "a" = outcome at hread halike ⊢
  generalize parse " ( 1.\u00a05\n)^\t2" "b" = outcome' at halike ⊢
  cases halike with
  | ok same => exact ⟨_, _, rfl, rfl, same⟩
  | error => simp [Except.toBool] at hread

end ArithExpr
