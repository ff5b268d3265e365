import GridSketch.Proofs.Token.Spelling

/-!
# A script taken apart

A script is blanks and lexemes, one after the other. Nothing else is in it, nothing of it is lost,
and every token stands at the place of its lexeme, counted in lines and columns from the beginning
of the script.

* `Position.after` is the place after a text; `Position.advanceAll_after` says that the lexer counts
  that way.
* `Layout` is a text taken apart, `Layout.Reads` that it is taken apart as the lexer does it.
* `tokenize_lossless`: a script is taken apart, up to the place where it is refused if it is.
-/

namespace GridSketch

/-! ## Places -/

/-- The place after a text: the number of the line it ends in and, in that line, of the column after
    the last character. -/
def Position.after (before : List Char) : Position :=
  ⟨1 + before.count '\n', 1 + (before.reverse.takeWhile (· != '\n')).length⟩

namespace Position

theorem advance_after (before : List Char) (c : Char) :
    (after before).advance c = after (before ++ [c]) := by
  by_cases hc : c = '\n'
  · subst hc
    simp [after, advance, Int.add_assoc]
  · have hline : (before ++ [c]).count '\n' = before.count '\n' := by
      simp [hc]
    simp only [after, advance, hc, if_false, hline, List.reverse_append, List.reverse_singleton,
      List.singleton_append, List.takeWhile_cons, bne_iff_ne, ne_eq, not_false_eq_true, if_true,
      List.length_cons, Int.natCast_succ, Int.add_assoc]

theorem advanceAll_after (before cs : List Char) :
    (after before).advanceAll cs = after (before ++ cs) := by
  induction cs generalizing before with
  | nil => simp
  | cons c cs ih =>
    rw [advanceAll_cons, advance_after, ih, List.append_assoc, List.singleton_append]

end Position

/-! ## Layouts -/

/-- A token and the blanks after it. -/
structure Piece where
  token : Token
  gap : List Char

/-- The text of a piece. -/
def Piece.text (p : Piece) : List Char := p.token.lexeme ++ p.gap

/-- A text taken apart: the blanks it begins with, and its tokens with the blanks after them. -/
structure Layout where
  margin : List Char
  pieces : List Piece

namespace Layout

/-- The text put together again. -/
def text (l : Layout) : List Char := l.margin ++ l.pieces.flatMap (·.text)

/-- The tokens of a text. -/
def tokens (l : Layout) : List Token := l.pieces.map (·.token)

/-- Between the texts `before` and `rest`, a text is read as it is taken apart: blanks stand before,
    between and after its tokens, every token stands where its position says, and it is the first
    that begins there. -/
structure Reads (before : List Char) (l : Layout) (rest : List Char) : Prop where
  margin : ∀ c ∈ l.margin, Text.isBlank c = true
  gap : ∀ p ∈ l.pieces, ∀ c ∈ p.gap, Text.isBlank c = true
  place : ∀ front p back, l.pieces = front ++ p :: back →
    p.token.position = .after (before ++ l.margin ++ front.flatMap (·.text))
  first : ∀ front p back, l.pieces = front ++ p :: back →
    firstLexeme? (p.text ++ (back.flatMap (·.text) ++ rest)) =
      some (p.token.kind, p.token.lexeme.length)

namespace Reads

variable {before rest w : List Char} {l : Layout}

theorem empty (before rest : List Char) : Reads before ⟨[], []⟩ rest := by
  constructor <;> simp

theorem blanks (hw : ∀ c ∈ w, Text.isBlank c = true) (h : Reads (before ++ w) l rest) :
    Reads before ⟨w ++ l.margin, l.pieces⟩ rest where
  margin c hc := (List.mem_append.1 hc).elim (hw c) (h.margin c)
  gap := h.gap
  place front p back hp := by rw [h.place front p back hp, List.append_assoc, List.append_assoc,
    List.append_assoc, List.append_assoc]
  first := h.first

theorem lexeme {t : Token} (ht : t.position = .after before)
    (hfirst : firstLexeme? (t.lexeme ++ (l.text ++ rest)) = some (t.kind, t.lexeme.length))
    (h : Reads (before ++ t.lexeme) l rest) :
    Reads before ⟨[], ⟨t, l.margin⟩ :: l.pieces⟩ rest where
  margin := by simp
  gap p hp := by
    rcases List.mem_cons.1 hp with rfl | hp
    · exact h.margin
    · exact h.gap p hp
  place front p back hp := by
    cases front with
    | nil =>
      obtain ⟨rfl, rfl⟩ := List.cons.inj hp
      simpa using ht
    | cons q front =>
      obtain ⟨rfl, hpieces⟩ := List.cons.inj hp
      rw [h.place front p back hpieces]
      simp [Piece.text]
  first front p back hp := by
    cases front with
    | nil =>
      obtain ⟨rfl, rfl⟩ := List.cons.inj hp
      simpa [Piece.text, Layout.text] using hfirst
    | cons q front =>
      obtain ⟨rfl, hpieces⟩ := List.cons.inj hp
      exact h.first front p back hpieces

end Reads

end Layout

/-! ## Taking a text apart -/

namespace Lexer

/-- What comes of reading a text that stands after `before`. A text that can be read is blanks and
    the lexemes of its tokens. One that cannot is that up to a character where no token begins, and
    it is refused there. -/
def TakesApart (before cs : List Char) : Except Diagnostic (List Token) → Prop
  | .ok ts => ∃ l : Layout, l.Reads before [] ∧ l.tokens = ts ∧ cs = l.text
  | .error d => ∃ (l : Layout) (c : Char) (rest : List Char), l.Reads before (c :: rest) ∧
      cs = l.text ++ c :: rest ∧ Text.isBlank c = false ∧ firstLexeme? (c :: rest) = none ∧
      d = .atPosition (.after (before ++ l.text)) (.noToken (snippet (c :: rest)))

namespace TakesApart

variable {before cs w : List Char} {result : Except Diagnostic (List Token)}

theorem blanks (hw : ∀ c ∈ w, Text.isBlank c = true) (h : TakesApart (before ++ w) cs result) :
    TakesApart before (w ++ cs) result := by
  cases result with
  | ok ts =>
    obtain ⟨l, hreads, rfl, rfl⟩ := h
    exact ⟨⟨w ++ l.margin, l.pieces⟩, hreads.blanks hw, rfl, by simp [Layout.text]⟩
  | error d =>
    obtain ⟨l, c, rest, hreads, rfl, hc, hnone, rfl⟩ := h
    exact ⟨⟨w ++ l.margin, l.pieces⟩, c, rest, hreads.blanks hw, by simp [Layout.text], hc, hnone,
      by simp [Layout.text]⟩

theorem lexeme {t : Token} (ht : t.position = .after before)
    (hfirst : firstLexeme? (t.lexeme ++ cs) = some (t.kind, t.lexeme.length))
    (h : TakesApart (before ++ t.lexeme) cs result) :
    TakesApart before (t.lexeme ++ cs) (result.map (t :: ·)) := by
  cases result with
  | ok ts =>
    obtain ⟨l, hreads, rfl, rfl⟩ := h
    exact ⟨⟨[], ⟨t, l.margin⟩ :: l.pieces⟩, hreads.lexeme ht (by simpa using hfirst), rfl,
      by simp [Layout.text, Piece.text]⟩
  | error d =>
    obtain ⟨l, c, rest, hreads, rfl, hc, hnone, rfl⟩ := h
    exact ⟨⟨[], ⟨t, l.margin⟩ :: l.pieces⟩, c, rest, hreads.lexeme ht hfirst,
      by simp [Layout.text, Piece.text], hc, hnone, by simp [Layout.text, Piece.text]⟩

end TakesApart

/-- **Every text is taken apart,** from wherever it stands. -/
theorem tokens_layout (before cs : List Char) :
    TakesApart before cs (tokens (.after before) cs) := by
  generalize hp : Position.after before = p
  induction p, cs using text_induction generalizing before with
  | nil p =>
    rw [tokens_nil]
    exact ⟨⟨[], []⟩, .empty before [], rfl, rfl⟩
  | blanks p w cs hw ih =>
    rw [tokens_blanks hw]
    exact (ih (before ++ w) (by rw [← hp, Position.advanceAll_after])).blanks hw
  | refused p c cs hc hnone =>
    simp only [tokens_visible hc, readFrom, hnone, List.cons_ne_nil, if_false]
    exact ⟨⟨[], []⟩, c, cs, .empty before _, rfl, hc, hnone, by simp [Layout.text, hp]⟩
  | lexeme p cs kind n hfirst ih =>
    have hle := TokenKind.lexemeLength?_le (lexemeLength?_of_first hfirst)
    let t : Token := ⟨kind, String.ofList (kind.textOf (cs.take n)), p⟩
    have ht : t.lexeme = cs.take n := lexeme_taken hfirst p
    have hcs : t.lexeme ++ cs.drop n = cs := by rw [ht, List.take_append_drop]
    have hlength : t.lexeme.length = n := by rw [ht, List.length_take_of_le hle]
    have hrest := ih (before ++ t.lexeme) (by rw [ht, ← hp, Position.advanceAll_after])
    have happart := hrest.lexeme (t := t) hp.symm (by rw [hcs, hlength]; exact hfirst)
    rw [tokens_lexeme hfirst]
    rwa [hcs] at happart

theorem takesApart (source : String) : TakesApart [] source.toList (tokenize source) :=
  tokens_layout [] source.toList

theorem snippet_line {line below : List Char} (hline : '\n' ∉ line)
    (hbelow : ∀ c ∈ below.head?, c = '\n') :
    snippet (line ++ below) =
      if line.length ≤ 20 then String.ofList line else String.ofList (line.take 20) ++ "..." := by
  have hall : ∀ c ∈ line, (c != '\n') = true := fun c hc => bne_iff_ne.2 fun heq => hline (heq ▸ hc)
  have hstop : below.takeWhile (· != '\n') = [] := by
    cases below with
    | nil => rfl
    | cons c below => simp [hbelow c rfl]
  have hrest : (line ++ below).takeWhile (· != '\n') = line := by
    rw [List.takeWhile_append_of_pos hall, hstop, List.append_nil]
  simp only [snippet, hrest, snippetWidth]

end Lexer

theorem firstLexeme?_eq_none {cs : List Char} (h : firstLexeme? cs = none) (kind : TokenKind) :
    kind.lexemeLength? cs = none :=
  Option.map_eq_none_iff.1 (List.findSome?_eq_none_iff.1 h kind kind.mem_all)

/-- **Reading a script loses nothing, and its places are those of the script.** A script that can be
    read is runs of blanks and, between them, the lexemes of its tokens, each at the place that the
    token says. A script that cannot is that up to a character, no blank, where no kind of token has
    a lexeme. It is refused at the place of that character, and what is shown is the rest of the
    line, cut to 20 characters and followed by three dots if it is longer. -/
theorem tokenize_lossless (source : String) :
    match tokenize source with
    | .ok ts => ∃ l : Layout, l.Reads [] [] ∧ l.tokens = ts ∧ source.toList = l.text
    | .error d => ∃ (l : Layout) (c : Char) (line below : List Char),
        l.Reads [] (c :: line ++ below) ∧ source.toList = l.text ++ (c :: line ++ below) ∧
        Text.isBlank c = false ∧
        (∀ kind : TokenKind, kind.lexemeLength? (c :: line ++ below) = none) ∧
        '\n' ∉ line ∧ (∀ b ∈ below.head?, b = '\n') ∧
        d = .atPosition (.after l.text) (.noToken
          (if (c :: line).length ≤ 20 then String.ofList (c :: line)
            else String.ofList ((c :: line).take 20) ++ "...")) := by
  have happart : Lexer.TakesApart [] source.toList (tokenize source) :=
    Lexer.tokens_layout [] source.toList
  cases hresult : tokenize source with
  | ok ts =>
    rw [hresult] at happart
    exact happart
  | error d =>
    rw [hresult] at happart
    obtain ⟨l, c, rest, hreads, hsource, hc, hnone, rfl⟩ := happart
    have hsplit := List.takeWhile_append_dropWhile (p := (· != '\n')) (l := rest)
    have hline : '\n' ∉ rest.takeWhile (· != '\n') := fun hmem =>
      absurd (Number.all_takeWhile _ hmem) (by decide)
    have hbelow : ∀ b ∈ (rest.dropWhile (· != '\n')).head?, b = '\n' := by
      intro b hb
      have := List.head?_dropWhile_not (· != '\n') rest
      rw [Option.mem_def.1 hb] at this
      simpa using this
    have hbreak : c ≠ '\n' := by
      rintro rfl
      exact absurd hc (by decide)
    generalize rest.takeWhile (· != '\n') = line at *
    generalize rest.dropWhile (· != '\n') = below at *
    subst hsplit
    refine ⟨l, c, line, below, hreads, hsource, hc, firstLexeme?_eq_none hnone, hline, hbelow, ?_⟩
    rw [← Lexer.snippet_line (by simp [hline, hbreak.symm]) hbelow]
    rfl

end GridSketch
