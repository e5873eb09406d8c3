import ArithExpr.Proofs.Consumption
import ArithExpr.Proofs.Layout
import ArithExpr.Proofs.Lockstep
import ArithExpr.Proofs.Spans

/-!
# The first fault

A text is refused at the first token that the grammar does not admit, and nothing behind that token
has a part in it. So whatever is put there, the same fault is reported and the same is kept of the
tree (`parse_error_of_knownFrom`). That the token is over is told from the character behind it; only
a token that is a single character by its kind needs none (`TokenKind.standsAlone`).

The lexer is the first half of the argument: up to a token the tokens are the same whatever is
behind it (`Laid.upTo`). The parser is the other half: two parsers that see the same tokens do
the same as long as the first of them has the blamed token still ahead.
-/

namespace ArithExpr

/-! ### The tokens up to a place -/

/-- Tokens of the kind are single characters, and no character behind them belongs to them. -/
def TokenKind.standsAlone : TokenKind → Bool
  | operator _ | leftParen | rightParen | dot | illegal => true
  | eof | whitespace | word | digits => false

namespace Takes

variable {cs rest : List Char} {kind : TokenKind}

theorem of_standsAlone (h : Takes cs kind rest) (hk : kind.standsAlone = true)
    (rest' : List Char) : Takes cs kind rest' := by
  cases h with
  -- runs are of other kinds
  | @run cls => cases cls <;> simp [CharClass.kind, TokenKind.standsAlone] at hk
  | single alone => exact .single alone

/-- A token does not depend on what is behind further characters. -/
theorem of_append_replaced {front behind : List Char} (h : Takes cs kind (front ++ behind))
    (hne : front ≠ []) (behind' : List Char) : Takes cs kind (front ++ behind') := by
  cases front with
  | nil => exact absurd rfl hne
  -- what is next decides where the token ends, and it is in front
  | cons c front => exact h.congr fun _ hc => hc

end Takes

/-- The characters from a place on have a token behind some others, and what is behind its own
characters may be replaced: the tokens up to it stay, if the next character is the same or the token
stands alone. -/
def Laid.UpTo (place : Location) (cs : List Char) (before : List Token) (token : Token) : Prop :=
  ∃ front behind, cs = front ++ behind ∧ front ≠ [] ∧ place.offset + front.length = token.stop ∧
    ∀ behind', token.kind.standsAlone = true ∨ behind'.head? = behind.head? →
      ∃ after', Laid place (front ++ behind') (before ++ token :: after')

/-- The same with further characters in front. They are taken as before, since the characters up to
the token stay and are not none. -/
theorem Laid.UpTo.prepend {place : Location} {cs rest : List Char} {kind : TokenKind}
    {before : List Token} {token : Token} (h : UpTo (place.advanceOver cs) rest before token)
    (takes : Takes cs kind rest) (first : List Token)
    (hfirst : ∀ rest' tokens, Takes cs kind rest' → Laid (place.advanceOver cs) rest' tokens →
      Laid place (cs ++ rest') (first ++ tokens)) :
    UpTo place (cs ++ rest) (first ++ before) token := by
  obtain ⟨front, behind, rfl, hne, hstop, hreplaced⟩ := h
  refine ⟨cs ++ front, behind, (List.append_assoc ..).symm, by simp [hne], ?_, ?_⟩
  · rw [Location.offset_advanceOver] at hstop
    rw [← hstop, List.length_append]
    omega
  · intro behind' hbehind
    obtain ⟨after', hlaid⟩ := hreplaced behind' hbehind
    -- the first characters are followed by one that stays, so they are taken as before
    have htakes : Takes cs kind (front ++ behind') := takes.of_append_replaced hne behind'
    refine ⟨after', ?_⟩
    rw [List.append_assoc, List.append_assoc]
    exact hfirst _ _ htakes hlaid

/-- **What is behind a token may be replaced**, and the tokens up to it stay. -/
theorem Laid.upTo {place : Location} {cs : List Char} {tokens before after : List Token}
    {token : Token} (h : Laid place cs tokens) (hsplit : tokens = before ++ token :: after) :
    UpTo place cs before token := by
  -- by induction on the layout, up to the token
  induction h generalizing before with
  | nothing => simp at hsplit
  -- white space in front of the token is not among the tokens
  | space takes _ ih => exact (ih hsplit).prepend takes [] fun _ _ => .space
  | @token place cs rest kind tokens takes visible further ih =>
    cases before with
    | nil =>
      -- the token itself: it is over where it was
      obtain ⟨rfl, rfl⟩ := List.cons.inj hsplit
      refine ⟨cs, rest, rfl, takes.ne_nil, by simp [Token.stop], ?_⟩
      intro behind' hbehind
      have htakes : Takes cs kind behind' := by
        rcases hbehind with halone | hhead
        · exact takes.of_standsAlone halone behind'
        · exact takes.congr (by simp [hhead])
      obtain ⟨after', hlaid⟩ := exists_laid (place.advanceOver cs) behind'
      exact ⟨after', .token htakes visible hlaid⟩
    | cons first before =>
      -- the token is further behind, and the first one stays as it is
      obtain ⟨rfl, hfurther⟩ := List.cons.inj hsplit
      exact (ih hfurther).prepend takes [⟨kind, String.ofList cs, place⟩]
        fun _ _ htakes hlaid => .token htakes visible hlaid

/-! ### Texts that agree -/

/-- Two texts agree on their first `n` characters. -/
def AgreesOn (n : Nat) (x y : String) : Prop :=
  x.toList.take n = y.toList.take n

namespace AgreesOn

variable {n : Nat} {x y : String}

theorem of_succ (h : AgreesOn (n + 1) x y) : AgreesOn n x y := by
  have htake := congrArg (List.take n) h
  rwa [List.take_take, List.take_take, Nat.min_eq_left (Nat.le_succ n)] at htake

/-- Texts that agree on one more character have the same one next. -/
theorem head?_drop (h : AgreesOn (n + 1) x y) :
    (y.toList.drop n).head? = (x.toList.drop n).head? := by
  have hnext : (y.toList.take (n + 1))[n]? = (x.toList.take (n + 1))[n]? := by rw [h]
  rwa [List.getElem?_take_of_succ, List.getElem?_take_of_succ, ← List.head?_drop,
    ← List.head?_drop] at hnext

end AgreesOn

/-- The text `y` agrees with `x` as far as it takes to know the token of `x`: up to the end of the
token if it stands alone, and else one character further, where there has to be one. -/
def Token.KnownFrom (token : Token) (x y : String) : Prop :=
  (token.stop < x.length ∧ AgreesOn (token.stop.toNat + 1) x y) ∨
    (token.kind.standsAlone = true ∧ AgreesOn token.stop.toNat x y)

/-- **Texts that agree up to a token** have the same tokens up to it. -/
theorem significantTokens_of_knownFrom {x y filename : String} {before after : List Token}
    {token : Token} (h : significantTokens x filename = before ++ token :: after)
    (hknown : token.KnownFrom x y) :
    ∃ after', significantTokens y filename = before ++ token :: after' := by
  obtain ⟨front, behind, hx, -, hstop, hreplaced⟩ := (laid_text x filename).upTo h
  -- offsets are counted from zero at the beginning of the text
  have hlength : token.stop.toNat = front.length := by
    rw [← hstop, Location.start, Int.zero_add, Int.toNat_natCast]
  rw [Token.KnownFrom, hlength] at hknown
  have hagree : AgreesOn front.length x y := by
    rcases hknown with ⟨-, hagree⟩ | ⟨-, hagree⟩
    · exact hagree.of_succ
    · exact hagree
  -- the other text begins with the same characters, and something is behind them
  have hy : y.toList = front ++ y.toList.drop front.length := by
    rw [AgreesOn, hx, List.take_left] at hagree
    conv_lhs => rw [← List.take_append_drop front.length y.toList, ← hagree]
  have hbehind : token.kind.standsAlone = true ∨
      (y.toList.drop front.length).head? = behind.head? := by
    rcases hknown with ⟨-, hagree⟩ | ⟨halone, -⟩
    · -- one more character agrees, and that is the first one behind the token
      refine .inr (hagree.head?_drop.trans ?_)
      rw [hx, List.drop_left]
    · -- the token stands alone, whatever is behind it
      exact .inl halone
  obtain ⟨after', hlaid⟩ := hreplaced _ hbehind
  rw [← hy] at hlaid
  have htokens := hlaid.significantTokens_eq
  rw [String.ofList_toList] at htokens
  exact ⟨after', htokens⟩

/-! ### Equal tokens -/

/-- Tokens correspond if they are equal. -/
def Correspondence.equal : Correspondence where
  rel := Eq
  kind := fun h => congrArg Token.kind h
  lexeme := fun h => congrArg Token.lexeme h

/-- Where tokens correspond only if they are equal, so do faults. -/
theorem Fault.Matches.eq {fault fault' : Fault} (h : fault.Matches .equal fault') :
    fault = fault' := by
  cases h with
  | unexpectedToken _ found | unexpectedEnd _ found | illegalCharacter _ found =>
    obtain rfl : _ = _ := found
    rfl
  | missingRightParen opening found =>
    obtain rfl : _ = _ := opening
    obtain rfl : _ = _ := found
    rfl
  | numberConversion _ _ first =>
    obtain rfl : _ = _ := first
    rfl

/-! ### The fault -/

/-- **A token that is blamed is still ahead**, unless it is the end. -/
theorem Parser.Consumes.faces {tokens : List Token} {final token : Token} {fault : Fault}
    {after : Parser} (h : Consumes tokens final (.error fault, after))
    (htoken : fault.token? = some token) (hne : token ≠ final) :
    ∃ taken rest, tokens = taken ++ token :: rest ∧ after.Faces (token :: rest) final := by
  cases h with
  | @blamed taken rest _ _ split blames faces =>
    -- what is carried is the first of the tokens left, or the end if there are none
    have hcarried := blames.carried.symm.trans htoken
    split at hcarried
    · simp at hcarried
    · cases rest with
      | nil => exact absurd (Option.some.inj hcarried).symm hne
      | cons next rest =>
        obtain rfl : next = token := Option.some.inj hcarried
        exact ⟨taken, rest, split, faces⟩
  | literal => simp [Fault.token?] at htoken

theorem Token.KnownFrom.ne_endToken {token : Token} {x y filename : String}
    (h : token.KnownFrom x y) : token ≠ (Lexer.ofString x filename).endToken := by
  -- the end stops where the text does, and it does not stand alone
  rintro rfl
  rcases h with ⟨hlt, -⟩ | ⟨halone, -⟩
  · simp [Token.stop, Lexer.endToken, Lexer.ofString, Lexer.ofChars, Location.offset_advanceOver,
      Location.start, String.length_toList] at hlt
  · simp [Lexer.endToken, TokenKind.standsAlone] at halone

/-- **The first fault does not depend on what follows it.** A text that agrees with one that is
refused, as far as it takes to know the token that is blamed, is refused for the same fault, and the
same is kept of the tree but for spans. -/
theorem parse_error_of_knownFrom {x y filename : String} {error : ParseError Expression}
    {token : Token} (h : parse x filename = .error error)
    (htoken : error.fault.token? = some token) (hknown : token.KnownFrom x y) :
    ∃ error', parse y filename = .error error' ∧ error'.fault = error.fault ∧
      Option.Rel (fun t u => t.same u = true) error.built error'.built := by
  have hx := Parser.faces_ofString x filename
  have hy := Parser.faces_ofString y filename
  -- first, where the parser stops in the first text: in front of the blamed token
  obtain ⟨before, rest, hsplit, hahead⟩ : ∃ before rest,
      significantTokens x filename = before ++ token :: rest ∧
        (Parser.ofString x filename).parse.2.tokensAhead = token :: rest := by
    have hconsumes := Parser.consumes_parse hx
    rw [Parser.read] at hconsumes
    unfold parse at h
    generalize (Parser.ofString x filename).parse = result at h hconsumes ⊢
    obtain ⟨read, after⟩ := result
    obtain rfl : read = .error error := h
    obtain ⟨before, rest, hsplit, hfaces⟩ := hconsumes.faces htoken hknown.ne_endToken
    exact ⟨before, rest, hsplit, hfaces.tokensAhead⟩
  obtain ⟨rest', hsplit'⟩ := significantTokens_of_knownFrom hsplit hknown
  -- the two parsers see the same tokens up to the blamed one, and that is never taken
  have hstart : Parser.InStep .equal (rest ++ [(Lexer.ofString x filename).endToken]).length
      (.ofString x filename) (.ofString y filename) := by
    have hseen := hx.sees
    have hseen' := hy.sees
    rw [hsplit, List.append_assoc, List.cons_append, List.append_cons] at hseen
    rw [hsplit', List.append_assoc, List.cons_append, List.append_cons] at hseen'
    exact .of_sees hseen hseen' (List.forall₂_same.2 fun _ _ => rfl) (by simp)
  obtain ⟨a, b, hstart⟩ := hstart
  have hmatch := (hstart.parse (by rw [hahead]; simp)).1
  unfold parse at h ⊢
  rw [h] at hmatch
  generalize (Parser.ofString y filename).parse.1 = read' at hmatch
  -- a text that is read would match one that is read
  cases hmatch with
  | error faults same => exact ⟨_, rfl, faults.eq.symm, Tree.rel_same_of_map_phrase same⟩

/-- A group is not closed before further digits, and these are over. -/
theorem parse_error_of_knownFrom_digits : ∃ (error error' : ParseError Expression) (token : Token),
    parse "(1 22 )" "input" = .error error ∧ error.fault.token? = some token ∧
      token.KnownFrom "(1 22 )" "(1 22 ٣+" ∧
      parse "(1 22 ٣+" "input" = .error error' ∧ error'.fault = error.fault := by
  have hread : (match parse "(1 22 )" "input" with
      | .ok _ => none
      | .error error => error.fault.token?) =
        some ⟨.digits, "22", ⟨"input", 1, 4, 3⟩⟩ := by decide +kernel
  cases hparse : parse "(1 22 )" "input" with
  | ok => simp [hparse] at hread
  | error error =>
    rw [hparse] at hread
    have hknown : Token.KnownFrom ⟨.digits, "22", ⟨"input", 1, 4, 3⟩⟩ "(1 22 )" "(1 22 ٣+" :=
      .inl ⟨by decide, by unfold AgreesOn; decide⟩
    obtain ⟨error', hparse', hfault, -⟩ := parse_error_of_knownFrom hparse hread hknown
    exact ⟨error, error', _, rfl, hread, hknown, hparse', hfault⟩

end ArithExpr
