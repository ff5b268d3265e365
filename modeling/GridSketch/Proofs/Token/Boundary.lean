import GridSketch.Proofs.Expression.Neighbours
import GridSketch.Proofs.Token.Name
import GridSketch.Proofs.Token.Spelling

/-!
# Where a lexeme ends

The lexer takes a lexeme to where it cannot go on. So the lexeme of a token is taken as it stands if
the text after it does not begin with a character that would go on with it.

* `TokenKind.Bounded`: a text that does not go on with the lexemes of a kind.
* `firstLexeme?_number`, `firstLexeme?_string`, `firstLexeme?_name`, `firstLexeme?_symbol`: what is
  taken, kind by kind.
* `bounded_blank`, `bounded_link`: blanks end every lexeme of an expression, and so does the next
  lexeme, unless a minus sign comes before a digit.
-/

namespace GridSketch

open Expression

theorem firstLexeme?_string {text : List Char} (htext : '"' ∉ text) (rest : List Char) :
    firstLexeme? ('"' :: (text ++ '"' :: rest)) = some (.string, text.length + 2) := by
  have hall : (text ++ '"' :: rest).takeWhile (· != '"') = text :=
    takeWhile_exact (fun c hc => bne_iff_ne.2 fun heq => htext (heq ▸ hc)) (by simp)
  simp [firstLexeme?_eq, stringLength?, hall]

/-! ## Numbers -/

theorem unsignedLength?_literal {cs rest : List Char} (h : Number.Unsigned cs)
    (hrest : ∀ c ∈ rest.head?, Text.isDecimalDigit c = false ∧ c ≠ '.') :
    unsignedLength? (cs ++ rest) = some cs.length := by
  cases h with
  | whole hne hds =>
    have hfraction : fractionLength rest = 0 := by
      cases rest with
      | nil => rfl
      | cons c rest => simp [fractionLength, (hrest c rfl).2]
    simp [unsignedLength?, takeWhile_exact hds fun c hc => (hrest c hc).1, hne, hfraction]
  | @fraction ds fs hne hds hnef hfs =>
    have hpoint : ∀ c ∈ ('.' :: (fs ++ rest)).head?, Text.isDecimalDigit c = false := by
      intro c hc
      obtain rfl : '.' = c := by simpa using hc
      decide
    have hwhole : (ds ++ '.' :: (fs ++ rest)).takeWhile Text.isDecimalDigit = ds :=
      takeWhile_exact hds hpoint
    have hfraction : (fs ++ rest).takeWhile Text.isDecimalDigit = fs :=
      takeWhile_exact hfs fun c hc => (hrest c hc).1
    simp [unsignedLength?, hwhole, hne, fractionLength, hfraction, hnef]

theorem firstLexeme?_number {cs rest : List Char} (h : Number.Literal cs)
    (hrest : ∀ c ∈ rest.head?, Text.isDecimalDigit c = false ∧ c ≠ '.') :
    firstLexeme? (cs ++ rest) = some (.number, cs.length) := by
  have hlength : stringLength? (cs ++ rest) = none ∧
      numberLength? (cs ++ rest) = some cs.length := by
    rcases h with hu | ⟨ds, rfl, hu⟩
    · obtain ⟨c, tail, rfl, hc⟩ := hu.first
      have hquote : c ≠ '"' := Text.ne_of_decimalDigit hc (by decide) (by decide)
      have hminus : c ≠ '-' := Text.ne_of_decimalDigit hc (by decide) (by decide)
      refine ⟨by simp [stringLength?, hquote], ?_⟩
      rw [← unsignedLength?_literal hu hrest]
      simp [numberLength?, hminus]
    · refine ⟨rfl, ?_⟩
      simp [numberLength?, unsignedLength?_literal hu hrest]
  rw [firstLexeme?, TokenKind.all]
  simp [TokenKind.lexemeLength?, hlength]

/-! ## Operators and parentheses -/

theorem unsignedLength?_none {cs : List Char} (h : ∀ c ∈ cs.head?, Text.isDecimalDigit c = false) :
    unsignedLength? cs = none := by
  cases cs with
  | nil => rfl
  | cons c cs => simp [unsignedLength?, h c rfl]

theorem numberLength?_none {c : Char} (hminus : c ≠ '-') (hdigit : Text.isDecimalDigit c = false)
    (cs : List Char) : numberLength? (c :: cs) = none := by
  have h : unsignedLength? (c :: cs) = none := unsignedLength?_none (by simpa using hdigit)
  simpa [numberLength?, hminus] using h

theorem wordLength?_none {c : Char} (hname : isNameStart c = false) (cs : List Char) (k : Keyword) :
    wordLength? k.word.toList (c :: cs) = none := by
  unfold wordLength?
  split
  · next hword =>
    obtain ⟨d, w, hw, hd⟩ : ∃ d w, k.word.toList = d :: w ∧ isNameStart d = true := by
      cases k <;> exact ⟨_, _, rfl, by decide⟩
    have hprefix := List.isPrefixOf_iff_prefix.1 (Bool.and_eq_true_iff.1 hword).1
    rw [hw, List.cons_prefix_cons] at hprefix
    rw [← hprefix.1, hd] at hname
    cases hname
  · rfl

/-- The kinds with one spelling that is no word, in the order in which the lexer tries them. -/
def TokenKind.symbols : List TokenKind := TokenKind.all.drop 10

theorem firstLexeme?_symbol {c : Char} {cs : List Char} (hquote : c ≠ '"')
    (hname : isNameStart c = false) (hnumber : numberLength? (c :: cs) = none) :
    firstLexeme? (c :: cs) =
      TokenKind.symbols.findSome? fun kind => (kind.lexemeLength? (c :: cs)).map (kind, ·) := by
  have hstring : stringLength? (c :: cs) = none := by simp [stringLength?, hquote]
  have hidentifier : nameLength? (c :: cs) = none := by simp [nameLength?, hname]
  have hall : TokenKind.all =
      [.string, .number] ++ Keyword.all.map .keyword ++ [.identifier] ++ TokenKind.symbols := rfl
  rw [firstLexeme?, hall]
  simp [TokenKind.lexemeLength?, hstring, hnumber, hidentifier, wordLength?_none hname, Keyword.all]

theorem firstLexeme?_sign {c : Char} (hc : c ∈ ['+', '*', '/', '=', '!', '<', '>', '(', ')'])
    (cs : List Char) :
    firstLexeme? (c :: cs) =
      TokenKind.symbols.findSome? fun kind => (kind.lexemeLength? (c :: cs)).map (kind, ·) := by
  have hsigns : ∀ c ∈ ['+', '*', '/', '=', '!', '<', '>', '(', ')'],
      c ≠ '"' ∧ isNameStart c = false ∧ c ≠ '-' ∧ Text.isDecimalDigit c = false :=
    List.forall_iff_forall_mem.1 (by decide)
  obtain ⟨hquote, hname, hminus, hdigit⟩ := hsigns c hc
  exact firstLexeme?_symbol hquote hname (numberLength?_none hminus hdigit cs)

theorem firstLexeme?_operator {o : Operator} {rest : List Char}
    (hrest : ∀ c ∈ rest.head?, c ≠ '=' ∧ (o = .minus → Text.isDecimalDigit c = false)) :
    firstLexeme? (o.symbol.toList ++ rest) = some (.operator o, o.symbol.toList.length) := by
  -- the operators of one sign are tried after those of two, which end in a sign of equality
  have hequal : ∀ c, spellingLength? [c, '='] (c :: rest) = none := by
    intro c
    cases rest with
    | nil => simp [spellingLength?]
    | cons d rest => simp [spellingLength?, (hrest d rfl).1.symm]
  cases o with
  | minus =>
    have hnumber : numberLength? ('-' :: rest) = none := by
      rw [numberLength?, unsignedLength?_none fun c hc => (hrest c hc).2 rfl]
      rfl
    exact (firstLexeme?_symbol (by decide) (by decide) hnumber).trans rfl
  | plus | star | slash | eq | ne | le | ge =>
    exact (firstLexeme?_sign (by decide) _).trans rfl
  | lt =>
    refine (firstLexeme?_sign (by decide) _).trans (List.findSome?_eq_some_iff.2
      ⟨[.operator .eq, .operator .ne, .operator .le, .operator .ge], _, _, rfl, rfl, ?_⟩)
    simpa using ⟨rfl, rfl, hequal '<', rfl⟩
  | gt =>
    refine (firstLexeme?_sign (by decide) _).trans (List.findSome?_eq_some_iff.2
      ⟨[.operator .eq, .operator .ne, .operator .le, .operator .ge, .operator .lt], _, _, rfl, rfl,
        ?_⟩)
    simpa using ⟨rfl, rfl, rfl, hequal '>', rfl⟩

theorem firstLexeme?_leftParen (rest : List Char) :
    firstLexeme? ('(' :: rest) = some (.leftParen, 1) :=
  (firstLexeme?_sign (by decide) rest).trans rfl

theorem firstLexeme?_rightParen (rest : List Char) :
    firstLexeme? (')' :: rest) = some (.rightParen, 1) :=
  (firstLexeme?_sign (by decide) rest).trans rfl

/-! ## Tokens of an expression -/

/-- The text after a lexeme of a kind does not go on with it. -/
def TokenKind.Bounded (kind : TokenKind) (rest : List Char) : Prop :=
  ∀ c ∈ rest.head?,
    match kind with
    | .number => Text.isDecimalDigit c = false ∧ c ≠ '.'
    | .identifier => isNameChar c = false
    | .operator o => c ≠ '=' ∧ (o = .minus → Text.isDecimalDigit c = false)
    | _ => True

/-- A token of an expression as a script has it: an operand, an operator or a parenthesis, spelled
    as its kind is. A name is no keyword. -/
structure Token.Fit (t : Token) : Prop where
  spelled : t.Spelled
  role : t.closes = true ∨ t.opens = true
  unreserved : t.kind = .identifier → ∀ k : Keyword, t.text.toList ≠ k.word.toList

/-- **The lexeme of a token of an expression** is taken where the text after it does not go on with
    it. -/
theorem firstLexeme?_lexeme {t : Token} {rest : List Char} (h : t.Fit)
    (hrest : t.kind.Bounded rest) :
    firstLexeme? (t.lexeme ++ rest) = some (t.kind, t.lexeme.length) := by
  obtain ⟨hspelled, hrole, hunreserved⟩ := h
  obtain ⟨kind, text, p⟩ := t
  simp only [Token.Spelled, TokenKind.Spells, Token.lexeme] at *
  cases kind with
  | number => exact firstLexeme?_number hspelled hrest
  | string =>
    have hfirst := firstLexeme?_string hspelled rest
    simpa [TokenKind.lexeme] using hfirst
  | identifier => exact firstLexeme?_name hspelled (hunreserved rfl) hrest
  | operator o =>
    rw [hspelled]
    exact firstLexeme?_operator hrest
  | leftParen =>
    rw [hspelled]
    exact firstLexeme?_leftParen rest
  | rightParen =>
    rw [hspelled]
    exact firstLexeme?_rightParen rest
  | _ => simp [Token.closes, Token.opens, TokenKind.isOperand] at hrole

/-! ## The characters between two lexemes -/

/-- The characters that may stand after a literal or a word and do not go on with it: blanks, and
    those that the operators and a closed parenthesis begin with. -/
def endsWord (c : Char) : Bool :=
  Text.isBlank c || ['+', '-', '*', '/', '=', '!', '<', '>', ')'].contains c

theorem endsWord_apart {c : Char} (h : endsWord c = true) :
    Text.isDecimalDigit c = false ∧ c ≠ '.' ∧ isNameChar c = false ∧ Text.isWord c = false := by
  rcases Bool.or_eq_true_iff.1 h with hb | hc
  · have hline : c ≠ '_' := Text.ne_of_isBlank hb (by decide)
    exact ⟨Text.not_decimalDigit_of_isBlank hb, Text.ne_of_isBlank hb (by decide),
      by simp [isNameChar, Text.not_isAlphanum_of_isBlank hb, hline], Text.not_isWord_of_isBlank hb⟩
  · have hsigns : ∀ c ∈ ['+', '-', '*', '/', '=', '!', '<', '>', ')'],
        Text.isDecimalDigit c = false ∧ c ≠ '.' ∧ isNameChar c = false ∧ Text.isWord c = false :=
      List.forall_iff_forall_mem.1 (by decide +kernel)
    exact hsigns c (by simpa using hc)

/-- The lexeme of a token begins with a character that suits the role of the token. -/
structure Heads (u : Token) (c : Char) : Prop where
  goesOn : u.goesOn = true → endsWord c = true
  begins : u.begins = true → c ≠ '='
  digit : Text.isDecimalDigit c = true → u.kind = .number ∧ u.signSplit? = none

theorem signSplit?_eq_none {u : Token} {c : Char} {cs : List Char} (htext : u.text.toList = c :: cs)
    (hc : c ≠ '-') : u.signSplit? = none := by
  unfold Token.signSplit?
  split
  · next heq =>
    rw [htext] at heq
    exact absurd (List.cons.inj heq).1 hc
  · rfl

theorem lexeme_eq_text {u : Token} (hk : u.kind ≠ .string) : u.lexeme = u.text.toList :=
  if_neg hk

theorem number_heads {u : Token} (hk : u.kind = .number) (h : Number.Literal u.text.toList) :
    ∃ c cs, u.text.toList = c :: cs ∧ Heads u c := by
  rcases h with hu | ⟨ds, hds, -⟩
  · obtain ⟨c, cs, hcs, hc⟩ := hu.first
    have hminus : c ≠ '-' := Text.ne_of_decimalDigit hc (by decide) (by decide)
    have hequal : c ≠ '=' := Text.ne_of_decimalDigit hc (by decide) (by decide)
    have hsplit := signSplit?_eq_none hcs hminus
    refine ⟨c, cs, hcs, ⟨fun h => ?_, fun _ => hequal, fun _ => ⟨hk, hsplit⟩⟩⟩
    simp [Token.goesOn, Token.extends, hk, hsplit] at h
  · exact ⟨'-', ds, hds, ⟨fun _ => by decide, fun _ => by decide, fun h => absurd h (by decide)⟩⟩

theorem lexeme_heads {u : Token} (hspelled : u.Spelled) (hrole : u.closes = true ∨ u.opens = true) :
    ∃ c cs, u.lexeme = c :: cs ∧ Heads u c := by
  rw [Token.Spelled] at hspelled
  cases hk : u.kind with
  | number =>
    rw [hk] at hspelled
    rw [lexeme_eq_text (by simp [hk])]
    exact number_heads hk hspelled
  | string =>
    have hlexeme : u.lexeme = '"' :: (u.text.toList ++ ['"']) := if_pos hk
    refine ⟨_, _, hlexeme, ⟨fun h => ?_, fun _ => by decide, fun h => absurd h (by decide)⟩⟩
    simp [Token.goesOn, Token.extends, Token.signSplit?, hk] at h
  | identifier =>
    rw [hk] at hspelled
    rw [lexeme_eq_text (by simp [hk])]
    obtain ⟨c, cs, hcs, hc, -⟩ := nameLength?_length hspelled
    have hrange := nameStart_range hc
    refine ⟨c, cs, hcs, ⟨fun h => ?_, fun _ => ?_, fun h => ?_⟩⟩
    · simp [Token.goesOn, Token.extends, Token.signSplit?, hk] at h
    · rintro rfl
      exact absurd hrange (by decide)
    · have := Text.decimalDigit_cases h
      omega
  | operator o =>
    rw [hk] at hspelled
    rw [lexeme_eq_text (by simp [hk])]
    obtain ⟨c, cs, hcs, hc⟩ : ∃ c cs, o.symbol.toList = c :: cs ∧ endsWord c = true := by
      cases o <;> exact ⟨_, _, rfl, by decide⟩
    refine ⟨c, cs, hspelled.trans hcs, ⟨fun _ => hc, fun h => ?_, fun h => ?_⟩⟩
    · simp [Token.begins, TokenKind.isOperand, hk] at h
    · rw [(endsWord_apart hc).1] at h
      cases h
  | leftParen =>
    rw [hk] at hspelled
    rw [lexeme_eq_text (by simp [hk])]
    refine ⟨_, _, hspelled, ⟨fun h => ?_, fun _ => by decide, fun h => absurd h (by decide)⟩⟩
    simp [Token.goesOn, Token.extends, Token.signSplit?, hk] at h
  | rightParen =>
    rw [hk] at hspelled
    rw [lexeme_eq_text (by simp [hk])]
    exact ⟨_, _, hspelled, ⟨fun _ => by decide, fun _ => by decide, fun h => absurd h (by decide)⟩⟩
  | _ => simp [Token.closes, Token.opens, TokenKind.isOperand, hk] at hrole

theorem bounded_blank {c : Char} (hc : Text.isBlank c = true) (kind : TokenKind) (cs : List Char) :
    kind.Bounded (c :: cs) := by
  obtain ⟨hdigit, hpoint, hname, -⟩ := endsWord_apart (c := c) (by rw [endsWord, hc, Bool.true_or])
  have hequal : c ≠ '=' := Text.ne_of_isBlank hc (by decide)
  intro d hd
  obtain rfl : c = d := by simpa using hd
  cases kind <;> simp [hdigit, hpoint, hname, hequal]

/-- **Neighbours in an expression** need no blank between them, but for a minus sign and a digit. -/
theorem bounded_link {t u : Token} {c : Char} (hlink : Link t u) (hc : Heads u c)
    (hminus : t.kind = .operator .minus → Text.isDecimalDigit c = false) (cs : List Char) :
    t.kind.Bounded (c :: cs) := by
  intro d hd
  obtain rfl : c = d := by simpa using hd
  cases hk : t.kind with
  | number | identifier =>
    have hgoes : u.goesOn = true := by
      simpa [Link, Token.closes, Token.opens, TokenKind.isOperand, hk] using hlink
    obtain ⟨hdigit, hpoint, hname, -⟩ := endsWord_apart (hc.goesOn hgoes)
    simp [hdigit, hpoint, hname]
  | operator o =>
    have hbegins : u.begins = true := by
      simpa [Link, Token.closes, Token.opens, TokenKind.isOperand, hk] using hlink
    refine ⟨hc.begins hbegins, fun ho => hminus ?_⟩
    rw [hk, ho]
  | _ => trivial

end GridSketch
