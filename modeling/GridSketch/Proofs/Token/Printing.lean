import GridSketch.Proofs.Token.Boundary
import GridSketch.Proofs.Token.Place

/-!
# Tokens printed and read back

Tokens can be printed: their lexemes stand one after the other with blanks between them. When the
text is read, a lexeme is taken as if it stood alone, for no lexeme goes on with a blank. So the
same tokens come back, unless one of them is a name that is spelled as a keyword.

* `Content` is a token without its place; `Content.Proper` says which ones a script can have.
* `print` is the text of some contents; `Content.settle` what becomes of a content in it.
* `tokens_print`: what comes back from a printed text; `tokenize_print`: it is what was printed.
-/

namespace GridSketch

/-- What a token is, wherever it stands: its kind and its text. -/
structure Content where
  kind : TokenKind
  text : String
  deriving DecidableEq, Repr

/-- A token without its place. -/
def Token.content (t : Token) : Content := ⟨t.kind, t.text⟩

namespace Content

/-- The token with a content at a place. -/
def placed (p : Position) (c : Content) : Token := ⟨c.kind, c.text, p⟩

/-- The content as it stands in a script. -/
def lexeme (c : Content) : List Char := c.kind.lexeme c.text.toList

/-- The text of a content suits its kind. -/
def Spelled (c : Content) : Prop := c.kind.Spells c.text.toList

/-- A content that a token of a script can have on its own: its text suits its kind, and a name is
    no keyword. -/
structure Proper (c : Content) : Prop where
  spelled : c.Spelled
  unreserved : c.kind = .identifier → Keyword.ofWord? c.text = none

/-- What a content counts as where it stands alone: a name that is spelled as a keyword is that
    keyword. -/
def settle (c : Content) : Content :=
  match c.kind, Keyword.ofWord? c.text with
  | .identifier, some k => ⟨.keyword k, c.text⟩
  | _, _ => c

@[simp] theorem settle_text (c : Content) : c.settle.text = c.text := by
  unfold settle
  split <;> rfl

theorem settle_of_kind {c : Content} (h : c.kind ≠ .identifier) : c.settle = c := by
  unfold settle
  split
  · contradiction
  · rfl

theorem settle_of_unreserved {c : Content} (h : Keyword.ofWord? c.text = none) : c.settle = c := by
  unfold settle
  rw [h]
  split
  · contradiction
  · rfl

theorem Proper.settle {c : Content} (h : c.Proper) : c.settle = c := by
  by_cases hk : c.kind = .identifier
  · exact settle_of_unreserved (h.unreserved hk)
  · exact settle_of_kind hk

theorem settle_of_reserved {c : Content} {k : Keyword} (hk : c.kind = .identifier)
    (hword : Keyword.ofWord? c.text = some k) : c.settle = ⟨.keyword k, c.text⟩ := by
  simp only [settle, hk, hword]

/-! ## A lexeme that stands alone -/

theorem first_keyword (k : Keyword) :
    firstLexeme? k.word.toList = some (.keyword k, k.word.toList.length) := by
  cases k <;> decide

theorem first_name {text : String} (hname : nameLength? text.toList = some text.toList.length)
    (hword : Keyword.ofWord? text = none) :
    firstLexeme? text.toList = some (.identifier, text.toList.length) := by
  have hfirst : firstLexeme? (text.toList ++ []) = some (.identifier, text.toList.length) :=
    firstLexeme?_name hname (Keyword.ne_word_of_ofWord? hword) (by simp)
  rwa [List.append_nil] at hfirst

theorem first {c : Content} (h : c.Spelled) :
    firstLexeme? c.lexeme = some (c.settle.kind, c.lexeme.length) := by
  obtain ⟨kind, text⟩ := c
  simp only [Spelled, TokenKind.Spells] at h
  cases kind with
  | identifier =>
    cases hword : Keyword.ofWord? text with
    | none =>
      rw [settle_of_unreserved hword]
      exact first_name h hword
    | some k =>
      rw [settle_of_reserved rfl hword, ← Keyword.word_of_ofWord? hword]
      exact first_keyword k
  | number =>
    have hfirst : firstLexeme? (text.toList ++ []) = some (.number, text.toList.length) :=
      firstLexeme?_number h (by simp)
    rwa [List.append_nil] at hfirst
  | string =>
    have hfirst := firstLexeme?_string h []
    simpa [lexeme, TokenKind.lexeme, settle_of_kind] using hfirst
  | keyword k =>
    obtain rfl : text = k.word := String.toList_inj.1 h
    exact first_keyword k
  | operator o =>
    obtain rfl : text = o.symbol := String.toList_inj.1 h
    have hfirst : firstLexeme? (o.symbol.toList ++ []) = some (.operator o, _) :=
      firstLexeme?_operator (by simp)
    rwa [List.append_nil] at hfirst
  | question | colon | assign | leftParen | rightParen | comma =>
    rw [settle_of_kind (by simp)]
    change firstLexeme? text.toList = some (_, text.toList.length)
    rw [h]
    rfl

theorem textOf_settle (c : Content) : c.settle.kind.textOf c.lexeme = c.text.toList := by
  have hsame : c.settle.kind.textOf c.lexeme = c.kind.textOf c.lexeme := by
    by_cases hk : c.kind = .identifier
    · unfold settle
      split <;> simp [TokenKind.textOf, hk]
    · rw [settle_of_kind hk]
  rw [hsame, lexeme, textOf_lexeme]

theorem tokens_lexeme {c : Content} (h : c.Spelled) (p : Position) :
    Lexer.tokens p c.lexeme = .ok [c.settle.placed p] := by
  rw [Lexer.tokens_lexeme (first h), List.drop_length, List.take_length, Lexer.tokens_nil,
    textOf_settle, String.ofList_toList, placed, settle_text]
  rfl

end Content

/-! ## Lexemes with blanks between them -/

/-- The text of some contents: their lexemes in this order, with `gap i` after the lexeme `i`
    unless it is the last. -/
def print (gap : Nat → List Char) : List Content → List Char
  | [] => []
  | [c] => c.lexeme
  | c :: d :: cs => c.lexeme ++ (gap 0 ++ print (fun i => gap (i + 1)) (d :: cs))

/-- Blanks that separate: there is at least one. -/
def Separates (w : List Char) : Prop := w ≠ [] ∧ ∀ b ∈ w, Text.isBlank b = true

/-- **What comes back from a printed text** is what was printed, but for names that are spelled as
    keywords. -/
theorem tokens_print {gap : Nat → List Char} {cs : List Content}
    (hgap : ∀ i, i + 1 < cs.length → Separates (gap i)) (hcs : ∀ c ∈ cs, c.Spelled) (p : Position) :
    ∃ ts, Lexer.tokens p (print gap cs) = .ok ts ∧ ts.map Token.content = cs.map Content.settle := by
  induction gap, cs using print.induct generalizing p with
  | case1 gap => exact ⟨[], Lexer.tokens_nil p, rfl⟩
  | case2 gap c => exact ⟨_, c.tokens_lexeme (hcs c (by simp)) p, rfl⟩
  | case3 gap c d cs ih =>
    obtain ⟨hc, hrest⟩ := List.forall_mem_cons.1 hcs
    obtain ⟨hne, hblank⟩ := hgap 0 (by simp)
    have hgaps : ∀ i, i + 1 < (d :: cs).length → Separates (gap (i + 1)) := fun i hi =>
      hgap (i + 1) (Nat.succ_lt_succ hi)
    obtain ⟨ts, hts, hcontents⟩ := ih hgaps hrest (p.advanceAll (c.lexeme ++ gap 0))
    refine ⟨c.settle.placed p :: ts, ?_, by rw [List.map_cons, hcontents]; rfl⟩
    rw [print, Lexer.tokens_append (c.tokens_lexeme hc p) hblank hne, hts]
    rfl

/-- **Reading undoes printing.** The text of some proper contents, with blanks between them, is read
    as tokens with these contents, in this order, whatever the blanks are. -/
theorem tokenize_print {gap : Nat → List Char} {cs : List Content}
    (hgap : ∀ i, i + 1 < cs.length → Separates (gap i)) (hcs : ∀ c ∈ cs, c.Proper) :
    ∃ ts, tokenize (String.ofList (print gap cs)) = .ok ts ∧ ts.map Token.content = cs := by
  obtain ⟨ts, hts, hcontents⟩ := tokens_print hgap (fun c hc => (hcs c hc).spelled) {}
  refine ⟨ts, by rwa [tokenize, String.toList_ofList], ?_⟩
  rw [hcontents, List.map_congr_left fun c hc => (hcs c hc).settle, List.map_id']

/-- Tokens that a missing or a misplaced blank would make others of. -/
theorem tokenize_print_neighbours :
    let gap : Nat → List Char := fun i => if i % 2 = 0 then ['\u2003', '\n'] else [' ']
    let cs : List Content :=
      [⟨.keyword .circle, "circle"⟩, ⟨.number, "٣"⟩, ⟨.operator .minus, "-"⟩, ⟨.number, "-3.5"⟩,
        ⟨.identifier, "circles"⟩, ⟨.operator .lt, "<"⟩, ⟨.assign, "="⟩, ⟨.string, "let x\n= 1"⟩]
    (∀ i, i + 1 < cs.length → Separates (gap i)) ∧ (∀ c ∈ cs, c.Proper) ∧
      ∃ ts, tokenize (String.ofList (print gap cs)) = .ok ts ∧ ts.map Token.content = cs := by
  intro gap cs
  have hgap : ∀ i, i + 1 < cs.length → Separates (gap i) := by
    intro i _
    by_cases hi : i % 2 = 0
    · rw [show gap i = ['\u2003', '\n'] from if_pos hi]
      exact ⟨by decide, List.all_eq_true.1 (by decide)⟩
    · rw [show gap i = [' '] from if_neg hi]
      exact ⟨by decide, List.all_eq_true.1 (by decide)⟩
  have hcs : ∀ c ∈ cs, c.Proper := by
    have hthree : Number.Literal ['٣'] :=
      .inl (.whole (by decide) (List.all_eq_true.1 (by decide)))
    have hsigned : Number.Literal ['-', '3', '.', '5'] :=
      .inr ⟨_, rfl, @Number.Unsigned.fraction ['3'] ['5'] (by decide)
        (List.all_eq_true.1 (by decide)) (by decide) (List.all_eq_true.1 (by decide))⟩
    have htext : '"' ∉ "let x\n= 1".toList := by decide
    simp only [cs, List.forall_mem_cons]
    exact ⟨⟨rfl, nofun⟩, ⟨hthree, nofun⟩, ⟨rfl, nofun⟩, ⟨hsigned, nofun⟩,
      ⟨rfl, fun _ => by decide⟩, ⟨rfl, nofun⟩, ⟨rfl, nofun⟩, ⟨htext, nofun⟩, nofun⟩
  exact ⟨hgap, hcs, tokenize_print hgap hcs⟩

end GridSketch
