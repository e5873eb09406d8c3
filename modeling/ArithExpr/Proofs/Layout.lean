import ArithExpr.Proofs.Places
import ArithExpr.Proofs.Retokenizing

/-!
# How tokens are laid out in a text

A text is its tokens one behind the other, with white space between some of them. `Laid` says so of
characters and tokens, with the place of each token, and with what makes it unique: a run goes as
far as it can. The lexer reads characters just as they are laid out (`Laid.tokensAhead_eq`,
`Lexer.laid`), so what is said about a text and its tokens is an induction on the layout.

* `Laid.split` — in front of a token there is a text of its own, which has the tokens before it.
* `Laid.continued` — a text that is put behind another one may lengthen its last token and changes
  no other one.
* `Laid.separated` — white space keeps texts apart.
* `Laid.unspaced` — without white space a text is the characters of its tokens.
-/

namespace ArithExpr

theorem Location.advanceOver_append (place : Location) (cs ds : List Char) :
    place.advanceOver (cs ++ ds) = (place.advanceOver cs).advanceOver ds :=
  List.foldl_append

/-! ### Layouts -/

/-- The lexer takes these characters as a token of the kind, if those ones are behind them. -/
inductive Takes : List Char → TokenKind → List Char → Prop where
  | run {cls : CharClass} {run rest : List Char} (isRun : cls.IsRun run)
      (stop : ∀ c ∈ rest.head?, cls.contains c = false) : Takes run cls.kind rest
  | single {c : Char} {rest : List Char} (alone : CharClass.of? c = none) :
      Takes [c] (.ofChar c) rest

/-- **How characters from a place on are laid out as tokens.** White space is passed over. -/
inductive Laid : Location → List Char → List Token → Prop where
  | nothing (place : Location) : Laid place [] []
  | space {place : Location} {cs rest : List Char} {tokens : List Token}
      (takes : Takes cs .whitespace rest) (behind : Laid (place.advanceOver cs) rest tokens) :
      Laid place (cs ++ rest) tokens
  | token {place : Location} {cs rest : List Char} {kind : TokenKind} {tokens : List Token}
      (takes : Takes cs kind rest) (visible : kind ≠ .whitespace)
      (behind : Laid (place.advanceOver cs) rest tokens) :
      Laid place (cs ++ rest) (⟨kind, String.ofList cs, place⟩ :: tokens)

namespace Takes

variable {cs rest : List Char} {kind : TokenKind}

/-- Only the next character counts. -/
theorem congr (h : Takes cs kind rest) {rest' : List Char}
    (hhead : ∀ c ∈ rest'.head?, c ∈ rest.head?) : Takes cs kind rest' := by
  cases h with
  | run isRun stop => exact .run isRun fun c hc => stop c (hhead c hc)
  | single alone => exact .single alone

/-- A text may end behind what is taken, or later. -/
theorem of_append {front behind : List Char} (h : Takes cs kind (front ++ behind)) :
    Takes cs kind front :=
  h.congr fun c hc => by rw [List.head?_append, Option.mem_def.1 hc]; rfl

theorem alone (h : Takes cs kind rest) : Takes cs kind [] :=
  h.congr (by simp)

theorem ne_nil (h : Takes cs kind rest) : cs ≠ [] := by
  cases h with
  | run isRun => exact isRun.1
  | single => simp

theorem kind_ne_eof (h : Takes cs kind rest) : kind ≠ .eof := by
  cases h with
  | run => exact CharClass.kind_ne_eof _
  | single => exact TokenKind.ofChar_ne_eof _

/-- What is taken is white space through and through, or holds none. -/
theorem isWhitespace_eq (h : Takes cs kind rest) :
    ∀ c ∈ cs, isWhitespace c = decide (kind = .whitespace) := by
  -- white space is a class, so it is asked whether the class of a character is this one
  intro c hc
  rw [Bool.eq_iff_iff, decide_eq_true_eq, CharClass.isWhitespace_iff]
  cases h with
  | @run cls _ _ isRun =>
    rw [CharClass.of?_contains (isRun.2 c hc)]
    cases cls <;> simp [CharClass.kind]
  | @single d _ alone =>
    -- a character that stands alone is of no class, and its kind is another one
    obtain rfl : c = d := by simpa using hc
    rw [alone]
    rcases TokenKind.ofChar_cases c with hk | hk | hk | hk | ⟨s, hk⟩ <;> simp [hk]

/-- What is taken behind the end of a text may go on behind it. -/
theorem grow (h : Takes cs kind []) (ds : List Char) :
    ∃ more rest, ds = more ++ rest ∧ Takes (cs ++ more) kind rest := by
  cases h with
  | @run cls _ _ isRun =>
    -- what of the text behind is of the class is added to the run
    refine ⟨ds.takeWhile cls.contains, ds.dropWhile cls.contains,
      List.takeWhile_append_dropWhile.symm, .run ⟨by simp [isRun.1], ?_⟩ Lexer.head_dropWhile⟩
    intro c hc
    rcases List.mem_append.1 hc with hc | hc
    · exact isRun.2 c hc
    · exact List.all_eq_true.1 List.all_takeWhile c hc
  | single alone => exact ⟨[], ds, rfl, .single alone⟩

/-- Nothing is lengthened by a text that does not touch what is there. -/
theorem append (h : Takes cs kind rest) {ds : List Char}
    (hapart : ∀ (cls : CharClass), ∀ c ∈ (cs ++ rest).getLast?, cls.contains c = true →
      ∀ d ∈ ds.head?, cls.contains d = false) : Takes cs kind (rest ++ ds) := by
  -- if something is left the text is too far behind, and else the run ends with it
  cases rest with
  | cons c rest => exact h.congr (by simp)
  | nil =>
    cases h with
    | @run cls _ _ isRun =>
      refine .run isRun fun d hd => ?_
      obtain ⟨c, hc⟩ : ∃ c, c ∈ cs.getLast? := ⟨_, List.getLast?_eq_some_getLast isRun.1⟩
      exact hapart cls c (by rwa [List.append_nil]) (isRun.2 c (List.mem_of_getLast? hc)) d hd
    | single alone => exact .single alone

theorem scan_eq (h : Takes cs kind rest) (place : Location) (last : LastRead) :
    ∃ last', Lexer.scan ⟨cs ++ rest, place, last⟩ =
      (⟨kind, String.ofList cs, place⟩, ⟨rest, place.advanceOver cs, last'⟩) := by
  cases h with
  | run isRun stop => exact Lexer.scan_run isRun stop place last
  | single alone => exact ⟨_, Lexer.scan_single alone rest place last⟩

end Takes

/-! ### Tokens of a longer text -/

/-- The token is the other one, or its beginning. -/
structure Token.Grows (token token' : Token) : Prop where
  kind : token'.kind = token.kind
  location : token'.location = token.location
  lexeme : ∃ more, token'.lexeme.toList = token.lexeme.toList ++ more

/-- **Tokens are the first of some others**, but the last of them may have grown. -/
inductive Continued : List Token → List Token → Prop where
  | nothing (more : List Token) : Continued [] more
  | last {token token' : Token} (grows : token.Grows token') (more : List Token) :
      Continued [token] (token' :: more)
  | cons (token : Token) {tokens tokens' : List Token} (behind : Continued tokens tokens') :
      Continued (token :: tokens) (token :: tokens')

/-- A token among the tokens is found again in its place, behind the same tokens. -/
theorem Continued.split {before after tokens' : List Token} {token : Token}
    (h : Continued (before ++ token :: after) tokens') :
    ∃ token' after', tokens' = before ++ token' :: after' ∧ token.Grows token' := by
  -- by induction on the tokens before, which are the same on both sides
  induction before generalizing tokens' with
  | nil =>
    rw [List.nil_append] at h
    cases h with
    | last grows more => exact ⟨_, more, rfl, grows⟩
    -- the token is not the last one, and has not grown
    | @cons _ _ tokens' => exact ⟨token, tokens', rfl, rfl, rfl, [], by simp⟩
  | cons first before ih =>
    rw [List.cons_append] at h
    generalize htail : before ++ token :: after = tail at h
    cases h with
    | last => simp at htail
    | cons _ behind =>
      obtain ⟨token', after', rfl, hgrows⟩ := ih (htail ▸ behind)
      exact ⟨token', after', rfl, hgrows⟩

/-! ### The lexer -/

/-- **Characters are read as they are laid out.** -/
theorem Laid.tokensAhead_eq {place : Location} {cs : List Char} {tokens : List Token}
    (h : Laid place cs tokens) (last : LastRead) :
    Lexer.tokensAhead ⟨cs, place, last⟩ = tokens := by
  -- by induction on the layout, scan by scan
  induction h generalizing last with
  | nothing => exact Lexer.tokensAhead_of_rest_nil rfl
  | space takes _ ih =>
    obtain ⟨last', hscan⟩ := takes.scan_eq _ last
    rw [Lexer.tokensAhead_scan, hscan, if_neg (by simp [Token.isSignificant])]
    exact ih last'
  | token takes visible _ ih =>
    obtain ⟨last', hscan⟩ := takes.scan_eq _ last
    rw [Lexer.tokensAhead_scan, hscan,
      if_pos (Token.isSignificant_iff.2 ⟨visible, takes.kind_ne_eof⟩)]
    exact congrArg _ (ih last')

theorem exists_takes {cs : List Char} (h : cs ≠ []) :
    ∃ front rest kind, cs = front ++ rest ∧ Takes front kind rest := by
  -- what is taken is what a scan of these characters takes
  have hs := (Lexer.ofChars cs unnamedSource).scans
  unfold Lexer.ofChars at hs
  generalize Lexer.scan _ = scanned at hs
  cases hs with
  | finish => exact absurd rfl h
  | @run cls run rest _ _ _ isRun stop => exact ⟨run, rest, cls.kind, rfl, .run isRun stop⟩
  | @single c rest _ _ _ alone => exact ⟨[c], rest, .ofChar c, rfl, .single alone⟩

theorem exists_laid (place : Location) (cs : List Char) : ∃ tokens, Laid place cs tokens := by
  -- by induction on the characters, of which each token takes some
  induction h : cs.length using Nat.strongRecOn generalizing place cs with
  | ind n ih =>
    by_cases hnil : cs = []
    · exact ⟨[], hnil ▸ .nothing place⟩
    · obtain ⟨front, rest, kind, rfl, takes⟩ := exists_takes hnil
      have hpos := List.length_pos_iff.2 takes.ne_nil
      rw [List.length_append] at h
      obtain ⟨tokens, hlaid⟩ := ih rest.length (by omega) (place.advanceOver front) rest rfl
      by_cases hspace : kind = .whitespace
      · exact ⟨tokens, .space (hspace ▸ takes) hlaid⟩
      · exact ⟨_, .token takes hspace hlaid⟩

/-- **Whatever is left of a text is laid out** as the tokens ahead. -/
theorem Lexer.laid (lexer : Lexer) : Laid lexer.location lexer.rest lexer.tokensAhead := by
  obtain ⟨tokens, hlaid⟩ := exists_laid lexer.location lexer.rest
  rwa [← hlaid.tokensAhead_eq lexer.last] at hlaid

namespace Laid

variable {place : Location} {cs : List Char} {tokens : List Token}

theorem eq_nil (h : Laid place [] tokens) : tokens = [] :=
  (h.tokensAhead_eq .nothing).symm.trans (Lexer.tokensAhead_of_rest_nil rfl)

theorem significantTokens_eq {filename : String} (h : Laid (.start filename) cs tokens) :
    significantTokens (String.ofList cs) filename = tokens := by
  rw [← h.tokensAhead_eq .nothing, significantTokens, tokenize, Lexer.ofString, Lexer.ofChars,
    String.toList_ofList, Lexer.tokensAhead]

/-! ### Parts of a text -/

/-- **In front of a token there is a text of its own**, which has the tokens before it, and behind
it there is one that has the others. -/
theorem split (h : Laid place cs tokens) {before after : List Token} {token : Token}
    (hsplit : tokens = before ++ token :: after) :
    ∃ front behind, cs = front ++ behind ∧ Laid place front before ∧
      token.location = place.advanceOver front ∧ Laid token.location behind (token :: after) := by
  -- by induction on the layout; white space in front belongs to the first of the two texts
  induction h generalizing before with
  | nothing => simp at hsplit
  | @space place cs rest tokens takes _ ih =>
    obtain ⟨front, behind, rfl, hfront, hplace, hbehind⟩ := ih hsplit
    refine ⟨cs ++ front, behind, (List.append_assoc ..).symm, .space takes.of_append hfront, ?_,
      hbehind⟩
    rw [hplace, Location.advanceOver_append]
  | @token place cs rest kind tokens takes visible further ih =>
    cases before with
    | nil =>
      obtain ⟨rfl, rfl⟩ := List.cons.inj hsplit
      exact ⟨[], cs ++ rest, rfl, .nothing place, rfl, .token takes visible further⟩
    | cons first before =>
      obtain ⟨rfl, hfurther⟩ := List.cons.inj hsplit
      obtain ⟨front, behind, rfl, hfront, hplace, hbehind⟩ := ih hfurther
      refine ⟨cs ++ front, behind, (List.append_assoc ..).symm,
        .token takes.of_append visible hfront, ?_, hbehind⟩
      rw [hplace, Location.advanceOver_append]

/-- The first few tokens have a text of their own, which ends with the last of them. -/
theorem ending (h : Laid place cs tokens) {part after : List Token} {last : Token}
    (hsplit : tokens = part ++ after) (hlast : part.getLast? = some last) :
    ∃ front behind, cs = front ++ behind ∧ Laid place front part ∧
      place.advanceOver front = last.location.advanceOver last.lexeme.toList := by
  induction h generalizing part with
  | nothing =>
    obtain ⟨rfl, -⟩ := List.append_eq_nil_iff.1 hsplit.symm
    simp at hlast
  | @space place cs rest tokens takes _ ih =>
    obtain ⟨front, behind, rfl, hfront, hend⟩ := ih hsplit hlast
    refine ⟨cs ++ front, behind, (List.append_assoc ..).symm, .space takes.of_append hfront, ?_⟩
    rw [Location.advanceOver_append, hend]
  -- if the last token is this one it ends here, and else it is further behind
  | @token place cs rest kind tokens takes visible further ih =>
    obtain ⟨rfl, -⟩ | ⟨part, rfl, hfurther⟩ := List.append_eq_cons_iff.1 hsplit.symm
    · simp at hlast
    by_cases hnil : part = []
    · subst hnil
      rw [List.getLast?_singleton] at hlast
      obtain rfl := Option.some.inj hlast
      -- alone, the token is laid out with nothing behind it
      have hlaid := Laid.token takes.alone visible (.nothing (place.advanceOver cs))
      rw [List.append_nil] at hlaid
      exact ⟨cs, rest, rfl, hlaid, by rw [String.toList_ofList]⟩
    · rw [List.getLast?_cons_of_ne_nil hnil] at hlast
      obtain ⟨front, behind, rfl, hfront, hend⟩ := ih hfurther hlast
      refine ⟨cs ++ front, behind, (List.append_assoc ..).symm,
        .token takes.of_append visible hfront, ?_⟩
      rw [Location.advanceOver_append, hend]

/-! ### Texts one behind the other -/

/-- **Texts that do not touch are read one after the other.** They touch if the last character of
the first and the first character of the second are of one class. -/
theorem append (h : Laid place cs tokens) {ds : List Char} {more : List Token}
    (hds : Laid (place.advanceOver cs) ds more)
    (hapart : ∀ (cls : CharClass), ∀ c ∈ cs.getLast?, cls.contains c = true →
      ∀ d ∈ ds.head?, cls.contains d = false) : Laid place (cs ++ ds) (tokens ++ more) := by
  -- only the last character of the first text can touch the second text
  induction h with
  | nothing => exact hds
  | @space place cs rest tokens takes _ ih =>
    rw [Location.advanceOver_append] at hds
    rw [List.append_assoc]
    exact .space (takes.append hapart) (ih hds fun cls c hc => hapart cls c (by
      rw [List.getLast?_append, Option.mem_def.1 hc]
      rfl))
  | @token place cs rest kind tokens takes visible _ ih =>
    rw [Location.advanceOver_append] at hds
    rw [List.append_assoc]
    exact .token (takes.append hapart) visible (ih hds fun cls c hc => hapart cls c (by
      rw [List.getLast?_append, Option.mem_def.1 hc]
      rfl))

/-- White space keeps texts apart. -/
theorem separated (h : Laid place cs tokens) {ds : List Char}
    (hds : ∀ c ∈ ds.head?, isWhitespace c = false) :
    ∃ gap place', ∀ more, Laid place' ds more → Laid place (cs ++ gap ++ ds) (tokens ++ more) := by
  by_cases hlast : ∃ c ∈ cs.getLast?, isWhitespace c = true
  · -- there is white space between the two already
    obtain ⟨c, hc, hspace⟩ := hlast
    refine ⟨[], place.advanceOver cs, fun more hmore => ?_⟩
    rw [List.append_nil]
    refine h.append hmore fun cls c' hc' hcls => ?_
    obtain rfl : c = c' := Option.some.inj ((Option.mem_def.1 hc).symm.trans hc')
    have hwhite : CharClass.whitespace.contains c = true := hspace
    obtain rfl := CharClass.eq_of_contains hwhite hcls
    exact hds
  · -- a blank between the two is a run of its own
    refine ⟨[' '], place.advanceOver (cs ++ [' ']), fun more hmore => ?_⟩
    rw [Location.advanceOver_append] at hmore
    rw [List.append_assoc]
    have hrun : CharClass.whitespace.IsRun [' '] :=
      ⟨by simp, List.forall_mem_singleton.2 (by decide)⟩
    refine h.append (.space (.run hrun hds) hmore) ?_
    intro cls c hc hcls d hd
    obtain rfl : ' ' = d := by simpa using hd
    by_contra hspace
    rw [Bool.not_eq_false] at hspace
    obtain rfl := CharClass.eq_of_contains (hrun.2 ' ' List.mem_cons_self) hspace
    exact hlast ⟨c, hc, hcls⟩

/-- **A text that is put behind another one** may lengthen its last token and changes no other. -/
theorem continued (h : Laid place cs tokens) (ds : List Char) :
    ∃ tokens', Laid place (cs ++ ds) tokens' ∧ Continued tokens tokens' := by
  induction h with
  | nothing place =>
    obtain ⟨tokens', hlaid⟩ := exists_laid place ds
    exact ⟨tokens', hlaid, .nothing tokens'⟩
  | @space place cs rest tokens takes behind ih =>
    rw [List.append_assoc]
    cases rest with
    | nil =>
      -- there are no tokens in what is only white space
      obtain rfl := behind.eq_nil
      obtain ⟨tokens', hlaid⟩ := exists_laid place (cs ++ ds)
      exact ⟨tokens', hlaid, .nothing tokens'⟩
    | cons c rest =>
      obtain ⟨tokens', hlaid, hcontinued⟩ := ih
      exact ⟨tokens', .space (takes.congr (by simp)) hlaid, hcontinued⟩
  | @token place cs rest kind tokens takes visible behind ih =>
    cases rest with
    | nil =>
      obtain rfl := behind.eq_nil
      obtain ⟨more, rest, rfl, htakes⟩ := takes.grow ds
      obtain ⟨tokens', hlaid⟩ := exists_laid (place.advanceOver (cs ++ more)) rest
      rw [List.append_nil, ← List.append_assoc]
      have hgrows : Token.Grows ⟨kind, String.ofList cs, place⟩
          ⟨kind, String.ofList (cs ++ more), place⟩ := ⟨rfl, rfl, more, by simp⟩
      exact ⟨_, .token htakes visible hlaid, .last hgrows tokens'⟩
    | cons c rest =>
      obtain ⟨tokens', hlaid, hcontinued⟩ := ih
      rw [List.append_assoc]
      exact ⟨_, .token (takes.congr (by simp)) visible hlaid, .cons _ hcontinued⟩

/-! ### A text without its white space -/

/-- **Without white space a text is the characters of its tokens.** -/
theorem unspaced (h : Laid place cs tokens) :
    cs.filter (fun c => !isWhitespace c) = tokens.flatMap fun token => token.lexeme.toList := by
  induction h with
  | nothing => rfl
  | space takes _ ih =>
    rw [List.filter_append, ih, List.filter_eq_nil_iff.2, List.nil_append]
    intro c hc
    simp [takes.isWhitespace_eq c hc]
  | token takes visible _ ih =>
    rw [List.filter_append, ih, List.filter_eq_self.2, List.flatMap_cons, String.toList_ofList]
    intro c hc
    simp [takes.isWhitespace_eq c hc, visible]

end Laid

/-! ### Texts -/

theorem laid_text (text filename : String) :
    Laid (.start filename) text.toList (significantTokens text filename) :=
  (Lexer.ofString text filename).laid

/-- Of a text that goes on behind another one, the tokens go on behind those of that one. -/
theorem continued_text (text more filename : String) :
    Continued (significantTokens text filename) (significantTokens (text ++ more) filename) := by
  obtain ⟨tokens', hlaid, hcontinued⟩ := (laid_text text filename).continued more.toList
  rw [← String.toList_append] at hlaid
  rwa [← hlaid.significantTokens_eq, String.ofList_toList] at hcontinued

/-- The part of a text in front of a place. -/
def textBefore (text : String) (place : Location) : String :=
  String.ofList (text.toList.take place.offset.toNat)

/-- **The part of a text in front of a place** has the tokens in front of the place. -/
theorem significantTokens_textBefore {text filename : String} {before after : List Token}
    (h : significantTokens text filename = before ++ after) :
    significantTokens
      (textBefore text (after.headD (Lexer.ofString text filename).endToken).location) filename =
        before := by
  have hoffset : ∀ cs : List Char,
      ((Location.start filename).advanceOver cs).offset.toNat = cs.length := by
    intro cs
    rw [Location.offset_advanceOver, Location.start, Int.zero_add, Int.toNat_natCast]
  have hlaid := laid_text text filename
  cases after with
  | nil =>
    -- the end is behind the whole text
    rw [List.append_nil] at h
    rw [List.headD_nil, textBefore, Lexer.endToken, Lexer.ofString, Lexer.ofChars, hoffset,
      List.take_length, String.ofList_toList, h]
  | cons token after =>
    obtain ⟨front, behind, htext, hfront, hplace, -⟩ := hlaid.split h
    rw [List.headD_cons, textBefore, hplace, hoffset, htext, List.take_left]
    exact hfront.significantTokens_eq

end ArithExpr
