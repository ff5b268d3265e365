import GridSketch.Proofs.Token.Seam

/-!
# How tokens are spelled

A token of a script has a text that suits its kind: a number has that of a number literal, a string
one without quotes, a name that of a name, and every other kind its one spelling. Its lexeme is that
text, in quotes if it is a string.

* `TokenKind.Spells` says which texts suit a kind.
* `Lexer.tokens_spells`: so every token of a script has a text that suits its kind.
-/

namespace GridSketch

/-- The lexeme of a text: a string stands in quotes. -/
def TokenKind.lexeme (kind : TokenKind) (text : List Char) : List Char :=
  if kind = .string then '"' :: (text ++ ['"']) else text

/-- The text of a token as it stands in a script. -/
def Token.lexeme (t : Token) : List Char := t.kind.lexeme t.text.toList

/-- The texts that suit a kind. -/
def TokenKind.Spells : TokenKind → List Char → Prop
  | .number, text => Number.Literal text
  | .string, text => '"' ∉ text
  | .identifier, text => nameLength? text = some text.length
  | .keyword k, text => text = k.word.toList
  | .operator o, text => text = o.symbol.toList
  | .question, text => text = ['?']
  | .colon, text => text = [':']
  | .assign, text => text = ['=']
  | .leftParen, text => text = ['(']
  | .rightParen, text => text = [')']
  | .comma, text => text = [',']

/-- A token is spelled as its kind is. -/
def Token.Spelled (t : Token) : Prop := t.kind.Spells t.text.toList

theorem textOf_lexeme (kind : TokenKind) (text : List Char) :
    kind.textOf (kind.lexeme text) = text := by
  by_cases hk : kind = .string <;> simp [TokenKind.textOf, TokenKind.lexeme, hk]

/-! ## What the lexer takes -/

theorem stringLength?_eq_some {cs : List Char} {n : Nat} (h : stringLength? cs = some n) :
    ∃ text, '"' ∉ text ∧ cs.take n = '"' :: (text ++ ['"']) := by
  unfold stringLength? at h
  split at h
  · next cs =>
    split at h
    · next hquote =>
      obtain ⟨text, back, rfl, htext⟩ :=
        List.eq_append_cons_of_mem (by simpa using hquote : '"' ∈ cs)
      have hall : (text ++ '"' :: back).takeWhile (· != '"') = text :=
        takeWhile_exact (fun c hc => bne_iff_ne.2 fun heq => htext (heq ▸ hc)) (by simp)
      rw [hall] at h
      cases h
      refine ⟨text, htext, ?_⟩
      rw [List.take_succ_cons, List.append_cons, List.take_left' (by simp)]
    · cases h
  · cases h

theorem take_spellingLength? {spelling cs : List Char} {n : Nat}
    (h : spellingLength? spelling cs = some n) : cs.take n = spelling := by
  unfold spellingLength? at h
  split at h
  · next hfront =>
    cases h
    exact (List.prefix_iff_eq_take.1 (List.isPrefixOf_iff_prefix.1 hfront)).symm
  · cases h

theorem take_wordLength? {word cs : List Char} {n : Nat} (h : wordLength? word cs = some n) :
    cs.take n = word := by
  unfold wordLength? at h
  split at h
  · next hword =>
    cases h
    have hfront := (Bool.and_eq_true_iff.1 hword).1
    exact (List.prefix_iff_eq_take.1 (List.isPrefixOf_iff_prefix.1 hfront)).symm
  · cases h

theorem take_nameLength? {cs : List Char} {n : Nat} (h : nameLength? cs = some n) :
    nameLength? (cs.take n) = some (cs.take n).length := by
  unfold nameLength? at h
  split at h
  · next c cs =>
    split at h
    · next hc =>
      cases h
      have hrest : (cs.takeWhile isNameChar).takeWhile isNameChar = cs.takeWhile isNameChar :=
        List.takeWhile_eq_self_iff.2 fun d hd => Number.all_takeWhile d hd
      rw [List.take_succ_cons, Number.take_length_takeWhile]
      simp [nameLength?, hc, hrest]
    · cases h
  · cases h

variable {kind : TokenKind} {cs : List Char} {n : Nat}

theorem lexeme_textOf (h : kind.lexemeLength? cs = some n) :
    kind.lexeme (kind.textOf (cs.take n)) = cs.take n := by
  by_cases hk : kind = .string
  · subst hk
    obtain ⟨text, -, htake⟩ := stringLength?_eq_some h
    simp [htake, TokenKind.lexeme, TokenKind.textOf]
  · simp [TokenKind.lexeme, TokenKind.textOf, hk]

theorem lexeme_taken (h : firstLexeme? cs = some (kind, n)) (p : Position) :
    Token.lexeme ⟨kind, String.ofList (kind.textOf (cs.take n)), p⟩ = cs.take n := by
  rw [Token.lexeme, String.toList_ofList, lexeme_textOf (lexemeLength?_of_first h)]

theorem spells_textOf (h : kind.lexemeLength? cs = some n) :
    kind.Spells (kind.textOf (cs.take n)) := by
  cases kind with
  | number => exact Number.literal_take h
  | string =>
    obtain ⟨text, htext, htake⟩ := stringLength?_eq_some h
    simpa [htake, TokenKind.textOf, TokenKind.Spells] using htext
  | identifier => exact take_nameLength? h
  | keyword k => exact take_wordLength? h
  | _ => exact take_spellingLength? h

/-- **Every token of a script** has a text that suits its kind. -/
theorem Lexer.tokens_spells {p : Position} {ts : List Token} (h : tokens p cs = .ok ts) :
    ∀ t ∈ ts, t.Spelled := by
  induction p, cs using text_induction generalizing ts with
  | nil p =>
    rw [tokens_nil] at h
    cases h
    simp
  | blanks p w cs hw ih =>
    rw [tokens_blanks hw] at h
    exact ih h
  | refused p c cs hc hnone => simp [tokens_visible hc, readFrom, hnone] at h
  | lexeme p cs kind n hfirst ih =>
    obtain ⟨us, hmore, rfl⟩ := tokens_lexeme_ok hfirst h
    refine List.forall_mem_cons.2 ⟨?_, ih hmore⟩
    rw [Token.Spelled, String.toList_ofList]
    exact spells_textOf (lexemeLength?_of_first hfirst)

end GridSketch
