import ArithExpr.Proofs.Segmentation

/-!
# Texts one behind the other

Two texts are tokenized apart, and then as one. This gives the same tokens if nothing at the end of
the first text goes on at the beginning of the second: a run that ends the first text would take in
further characters of its class, and with the next token it would be a longer one. Nothing else can
come of the cut. A character that stands alone is a token wherever it stands, and a run that begins
the second text is not lengthened to the front.

The tokens of the second text are located as in the text that it is a part of. Everything in front
of it counts for offsets and lines. It counts for columns only on the first line, and of the
characters in front only those behind the last line feed.

* `Location.shifted` — where a place is when there are characters in front of the text.
  `Location.behind_append` — this is what counting all characters gives.
* `Segmentation.shifted`, `Segmentation.append` — a segmentation is moved along with the characters,
  and two of them are joined.
* `tokenize_append` — the tokens of two texts, one behind the other.
-/

namespace ArithExpr

/-! ### Places in a text that is moved -/

/-- Where a place of a text is when the characters `front` are put in front of the text. -/
def Location.shifted (front : List Char) (place : Location) : Location where
  filename := place.filename
  line := place.line + front.count '\n'
  column :=
    -- only the first line of the text begins behind other characters
    if place.line = 1 then place.column + (front.reverse.takeWhile (· ≠ '\n')).length
    else place.column
  offset := place.offset + front.length

/-- The token, when the characters `front` are put in front of its text. -/
def Token.shifted (front : List Char) (token : Token) : Token :=
  ⟨token.kind, token.lexeme, token.location.shifted front⟩

/-- All characters are behind the last line feed if there is none, and otherwise not all of them. -/
theorem length_takeWhile_reverse_iff (cs : List Char) :
    (cs.reverse.takeWhile (· ≠ '\n')).length = cs.reverse.length ↔ cs.count '\n' = 0 := by
  rw [List.count_eq_zero]
  constructor
  · -- a line feed among the characters would be among those behind the last one
    intro hlength hmem
    have heq := (List.takeWhile_prefix _).eq_of_length hlength
    have hne := List.takeWhile_eq_self_iff.1 heq '\n' (List.mem_reverse.2 hmem)
    exact absurd rfl (of_decide_eq_true hne)
  · -- with none, every character is behind the last one
    intro hnone
    rw [List.takeWhile_eq_self_iff.2]
    intro c hc
    rw [decide_eq_true_iff]
    rintro rfl
    exact hnone (List.mem_reverse.1 hc)

/-- **What is behind the last line feed** of some characters and further ones is counted from the
last line feed of the further ones, or, if they hold none, from that of the others. -/
theorem length_takeWhile_reverse_append (front cs : List Char) :
    ((front ++ cs).reverse.takeWhile (· ≠ '\n')).length =
      (cs.reverse.takeWhile (· ≠ '\n')).length +
        if cs.count '\n' = 0 then (front.reverse.takeWhile (· ≠ '\n')).length else 0 := by
  rw [List.reverse_append, List.takeWhile_append]
  split
  · next hall =>
    -- the further characters are all on one line, which begins among those in front
    rw [if_pos ((length_takeWhile_reverse_iff cs).1 hall), hall, List.length_append]
  · next hstop =>
    -- the line begins among the further characters, and those in front are not counted
    rw [if_neg (mt (length_takeWhile_reverse_iff cs).2 hstop), Nat.add_zero]

/-- **The place behind the characters of a text**, with others in front of the text, is their place
in the text shifted. -/
theorem Location.behind_append (filename : String) (front cs : List Char) :
    behind filename (front ++ cs) = (behind filename cs).shifted front := by
  -- the line of a place is the first exactly if no line feed is before it
  have hfirst : (behind filename cs).line = 1 ↔ cs.count '\n' = 0 := by
    change 1 + (cs.count '\n' : Int) = 1 ↔ _
    omega
  unfold shifted
  simp only [hfirst]
  simp only [behind, length_takeWhile_reverse_append, List.count_append, List.length_append]
  -- line, column and offset; the column counts further back only on the first line
  congr 1
  · omega
  · split <;> omega
  · omega

/-! ### Segmentations side by side -/

namespace Segmentation

variable {filename : String} {front cs ds : List Char} {pieces pieces' : List Token}

/-- A segmentation is one with further characters in front, too, if its pieces are shifted. -/
theorem shifted (h : Segmentation filename front cs pieces) (further : List Char) :
    Segmentation filename (further ++ front) cs (pieces.map (Token.shifted further)) := by
  -- by induction on the pieces, with what is in front growing by each of them
  induction pieces generalizing front cs with
  | nil =>
    obtain rfl : [] = cs := h.joined
    exact .nil filename _
  | cons piece pieces ih =>
    obtain ⟨run, rest, rfl, htakes, hpiece, hrest⟩ := h.uncons
    have hbehind := ih hrest
    rw [← List.append_assoc] at hbehind
    -- a piece is located behind all that is in front of it, the further characters included
    have hplace : piece.shifted further =
        ⟨piece.kind, String.ofList run, .behind filename (further ++ front)⟩ := by
      rw [hpiece, Location.behind_append]
      rfl
    rw [List.map_cons, hplace]
    exact .cons htakes hbehind

/-- **Two segmentations are joined** if nothing goes on from the one to the other. -/
theorem append (h : Segmentation filename front cs pieces)
    (h' : Segmentation filename (front ++ cs) ds pieces')
    (hapart : ∀ (cls : CharClass), ∀ c ∈ cs.getLast?, cls.contains c = true →
      ∀ d ∈ ds.head?, cls.contains d = false) :
    Segmentation filename front (cs ++ ds) (pieces ++ pieces') := by
  induction pieces generalizing front cs with
  | nil =>
    obtain rfl : [] = cs := h.joined
    rwa [List.append_nil] at h'
  | cons piece pieces ih =>
    obtain ⟨run, rest, rfl, htakes, hpiece, hrest⟩ := h.uncons
    rw [← List.append_assoc] at h'
    -- what ends the other pieces ends all of them
    have hbehind := ih hrest h' fun cls c hc =>
      hapart cls c (List.mem_getLast?_append_of_mem_getLast? hc)
    rw [List.append_assoc, List.cons_append, hpiece]
    exact .cons (htakes.append hapart) hbehind

/-- The tokens of a text are the pieces of a segmentation, and the end. -/
theorem tokenize_text {text : String} (h : Segmentation filename [] text.toList pieces) :
    tokenize text filename = pieces ++ [⟨.eof, "", .behind filename text.toList⟩] :=
  h.tokenize_eq .nothing

end Segmentation

/-- **The tokens of two texts, one behind the other**, are those of the first without the end, and
those of the second, shifted. The last character of the first text and the first character of the
second must not be of one class. -/
theorem tokenize_append {first second : String}
    (hapart : ∀ c ∈ first.toList.getLast?, ∀ d ∈ second.toList.head?,
      ∀ cls : CharClass, ¬ (cls.contains c = true ∧ cls.contains d = true))
    (filename : String) :
    ∃ tokens, tokenize first filename =
        tokens ++ [⟨.eof, "", .behind filename first.toList⟩] ∧
      tokenize (first ++ second) filename =
        tokens ++ (tokenize second filename).map (Token.shifted first.toList) := by
  -- the lexer is not asked: both texts have a segmentation, and these are moved and joined
  obtain ⟨pieces, h⟩ := exists_segmentation filename [] first.toList
  obtain ⟨pieces', h'⟩ := exists_segmentation filename [] second.toList
  have hjoined : Segmentation filename [] (first ++ second).toList
      (pieces ++ pieces'.map (Token.shifted first.toList)) := by
    rw [String.toList_append]
    apply h.append
    · have hmoved := h'.shifted first.toList
      rwa [List.append_nil] at hmoved
    · intro cls c hc hcls d hd
      rw [← Bool.not_eq_true]
      exact fun hcls' => hapart c hc d hd cls ⟨hcls, hcls'⟩
  -- the end of the second text is that of both
  have hend : Token.shifted first.toList ⟨.eof, "", .behind filename second.toList⟩ =
      ⟨.eof, "", .behind filename (first ++ second).toList⟩ := by
    rw [String.toList_append, Location.behind_append]
    rfl
  refine ⟨pieces, h.tokenize_text, ?_⟩
  rw [hjoined.tokenize_text, h'.tokenize_text, List.map_append, List.map_singleton, hend,
    List.append_assoc]

/-- Behind a line feed in the first text, and with one in the second. -/
theorem tokenize_append_lines :
    (∀ c ∈ "2\n 3".toList.getLast?, ∀ d ∈ "+\n4".toList.head?,
      ∀ cls : CharClass, ¬ (cls.contains c = true ∧ cls.contains d = true)) ∧
    ∃ tokens, tokenize "2\n 3" "input" = tokens ++ [⟨.eof, "", ⟨"input", 2, 3, 4⟩⟩] ∧
      tokenize ("2\n 3" ++ "+\n4") "input" = tokens ++
        [⟨.operator .plus, "+", ⟨"input", 2, 3, 4⟩⟩, ⟨.whitespace, "\n", ⟨"input", 2, 4, 5⟩⟩,
          ⟨.digits, "4", ⟨"input", 3, 1, 6⟩⟩, ⟨.eof, "", ⟨"input", 3, 2, 7⟩⟩] := by
  have hapart : ∀ c ∈ "2\n 3".toList.getLast?, ∀ d ∈ "+\n4".toList.head?,
      ∀ cls : CharClass, ¬ (cls.contains c = true ∧ cls.contains d = true) := by
    intro c hc d hd cls
    obtain rfl : '3' = c := Option.some.inj hc
    obtain rfl : '+' = d := Option.some.inj hd
    cases cls <;> decide
  have hshifted : (tokenize "+\n4" "input").map (Token.shifted "2\n 3".toList) =
      [⟨.operator .plus, "+", ⟨"input", 2, 3, 4⟩⟩, ⟨.whitespace, "\n", ⟨"input", 2, 4, 5⟩⟩,
        ⟨.digits, "4", ⟨"input", 3, 1, 6⟩⟩, ⟨.eof, "", ⟨"input", 3, 2, 7⟩⟩] := by
    decide +kernel
  obtain ⟨tokens, hfirst, hboth⟩ := tokenize_append hapart "input"
  exact ⟨hapart, tokens, hfirst, hboth.trans (congrArg _ hshifted)⟩

end ArithExpr
