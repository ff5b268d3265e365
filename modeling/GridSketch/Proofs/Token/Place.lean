import GridSketch.Proofs.Token.Seam

/-!
# Places in a longer text

A text that is read behind another one yields the same tokens, at places that are moved: its first
line goes on with the last line of the other text, and its other lines are so many lines further
down.

* `Position.behind p` moves the places of a text to where it begins at `p`.
* `tokenize_append`: a script put together with blanks has the tokens of its two parts.
-/

namespace GridSketch

/-- A place in a text, counted from where the text before it begins. -/
def Position.behind (p q : Position) : Position :=
  if q.line = 1 then ⟨p.line, p.col + q.col - 1⟩ else ⟨p.line + q.line - 1, q.col⟩

/-- A token, moved. -/
def Token.behind (p : Position) (t : Token) : Token :=
  { t with position := p.behind t.position }

/-- A diagnostic, moved. -/
def Diagnostic.behind (p : Position) (d : Diagnostic) : Diagnostic :=
  match d.line, d.col with
  | some line, some col => .atPosition (p.behind ⟨line, col⟩) d.cause
  | _, _ => d

@[simp] theorem Token.behind_kind (p : Position) (t : Token) : (t.behind p).kind = t.kind := rfl

@[simp] theorem Token.behind_text (p : Position) (t : Token) : (t.behind p).text = t.text := rfl

@[simp] theorem Diagnostic.behind_cause (p : Position) (d : Diagnostic) :
    (d.behind p).cause = d.cause := by
  unfold behind
  split <;> rfl

namespace Position

theorem behind_first (p : Position) : p.behind {} = p := by
  simp [behind]

theorem behind_right (p q : Position) :
    p.behind ⟨q.line, q.col + 1⟩ = ⟨(p.behind q).line, (p.behind q).col + 1⟩ := by
  unfold behind
  split <;> simp
  omega

theorem advance_behind (p : Position) {q : Position} (hq : 1 ≤ q.line) (c : Char) :
    (p.behind q).advance c = p.behind (q.advance c) := by
  by_cases hc : c = '\n'
  · have hnext : q.line + 1 ≠ 1 := by omega
    simp only [advance, hc, if_true, behind, hnext, if_false]
    split <;> simp <;> omega
  · simp only [advance, hc, if_false]
    exact (behind_right p q).symm

theorem one_le_advance {q : Position} (hq : 1 ≤ q.line) (c : Char) : 1 ≤ (q.advance c).line := by
  unfold advance
  split <;> simp <;> omega

theorem one_le_advanceAll {q : Position} (hq : 1 ≤ q.line) (cs : List Char) :
    1 ≤ (q.advanceAll cs).line := by
  induction cs generalizing q with
  | nil => exact hq
  | cons c cs ih => exact ih (one_le_advance hq c)

theorem advanceAll_behind (p : Position) {q : Position} (hq : 1 ≤ q.line) (cs : List Char) :
    (p.behind q).advanceAll cs = p.behind (q.advanceAll cs) := by
  induction cs generalizing q with
  | nil => rfl
  | cons c cs ih =>
    rw [advanceAll_cons, advance_behind p hq, ih (one_le_advance hq c), advanceAll_cons]

end Position

/-- What reading yields, moved. -/
def Lexer.resultBehind (p : Position) (r : Except Diagnostic (List Token)) :
    Except Diagnostic (List Token) :=
  (r.map (·.map (·.behind p))).mapError (·.behind p)

/-- **A text that begins at `p`** has the tokens of the text itself, moved. -/
theorem Lexer.tokens_behind (p : Position) {q : Position} (hq : 1 ≤ q.line) (cs : List Char) :
    tokens (p.behind q) cs = resultBehind p (tokens q cs) := by
  induction q, cs using text_induction with
  | nil q =>
    rw [tokens_nil, tokens_nil]
    rfl
  | blanks q w cs hw ih =>
    rw [tokens_blanks hw, tokens_blanks hw, Position.advanceAll_behind p hq,
      ih (Position.one_le_advanceAll hq w)]
  | refused q c cs hc hnone =>
    simp only [tokens_visible hc, readFrom, hnone, List.cons_ne_nil, if_false]
    rfl
  | lexeme q cs kind n hfirst ih =>
    rw [tokens_lexeme hfirst, tokens_lexeme hfirst, Position.advanceAll_behind p hq,
      ih (Position.one_le_advanceAll hq _)]
    cases tokens (q.advanceAll (cs.take n)) (cs.drop n) <;> rfl

/-- **A script put together with blanks** has the tokens of its first part and, moved, those of its
    second part. -/
theorem tokenize_append {first blanks second : String} {ts : List Token}
    (h : tokenize first = .ok ts) (hblanks : ∀ c ∈ blanks.toList, Text.isBlank c = true)
    (hne : blanks.toList ≠ []) :
    tokenize (first ++ blanks ++ second) =
      (Lexer.resultBehind (({} : Position).advanceAll (first ++ blanks).toList)
        (tokenize second)).map (ts ++ ·) := by
  have hbegin : ({} : Position).advanceAll (first ++ blanks).toList =
      (({} : Position).advanceAll (first ++ blanks).toList).behind {} := by
    rw [Position.behind_first]
  rw [tokenize, String.toList_append, String.toList_append, List.append_assoc,
    Lexer.tokens_append h hblanks hne, ← String.toList_append, hbegin,
    Lexer.tokens_behind _ (Int.le_refl 1), ← tokenize, ← hbegin]

theorem tokenize_spaced {first second : String} {ts us : List Token}
    (hfirst : tokenize first = .ok ts) (hsecond : tokenize second = .ok us) :
    ∃ p, tokenize (first ++ " " ++ second) = .ok (ts ++ us.map (·.behind p)) := by
  refine ⟨({} : Position).advanceAll (first ++ " ").toList, ?_⟩
  have hspace : ∀ c ∈ " ".toList, Text.isBlank c = true := by
    intro c hc
    obtain rfl : c = ' ' := by simpa using hc
    decide
  rw [tokenize_append hfirst hspace (by decide), hsecond]
  rfl

theorem tokenize_single {source : String} {kind : TokenKind}
    (h : firstLexeme? source.toList = some (kind, source.toList.length)) :
    tokenize source = .ok [⟨kind, String.ofList (kind.textOf source.toList), {}⟩] := by
  rw [tokenize, Lexer.tokens_lexeme h, List.drop_length, List.take_length, Lexer.tokens_nil]
  rfl

end GridSketch
