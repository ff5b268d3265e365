import GridSketch.Proofs.Expression.Fusion
import GridSketch.Proofs.Token.Boundary

/-!
# Expressions with other blanks in them

The blanks between the tokens of an expression may be other ones, or none. Then the lexer takes the
same tokens, but for a minus sign and a number after it: without a blank between them they are one
number with a sign.

* `Respaced`: two texts with the same lexemes and other blanks.
* `Respaced.tokens`: what the lexer takes from an expression with other blanks.
-/

namespace GridSketch

open Expression

/-- Both texts are made of the lexemes of the given tokens, with blanks before, between and after
    them. The blanks are not the same, and there need not be any. -/
inductive Respaced : List Token → List Char → List Char → Prop
  | last {w w' : List Char} : (∀ c ∈ w, Text.isBlank c = true) → (∀ c ∈ w', Text.isBlank c = true) →
      Respaced [] w w'
  | token {t ts w w' cs ds} : (∀ c ∈ w, Text.isBlank c = true) →
      (∀ c ∈ w', Text.isBlank c = true) → Respaced ts cs ds →
      Respaced (t :: ts) (w ++ (t.lexeme ++ cs)) (w' ++ (t.lexeme ++ ds))

/-! ## The tokens of an expression -/

namespace Lexer

variable {p : Position} {cs : List Char} {ts : List Token}

theorem head_of_tokens (h : tokens p cs = .ok ts) :
    ∀ c ∈ cs.head?, Text.isBlank c = true ∨ ∃ u ∈ ts.head?, ∃ more, u.lexeme = c :: more := by
  cases cs with
  | nil => simp
  | cons c cs =>
    intro d hd
    obtain rfl : c = d := by simpa using hd
    refine or_iff_not_imp_left.2 fun hblank => ?_
    rw [Bool.not_eq_true] at hblank
    cases hfirst : firstLexeme? (c :: cs) with
    | none => simp [tokens_visible hblank, readFrom, hfirst] at h
    | some first =>
      obtain ⟨kind, n⟩ := first
      obtain ⟨m, rfl⟩ := Nat.exists_eq_succ_of_ne_zero (Nat.ne_of_gt (firstLexeme?_pos hfirst))
      obtain ⟨us, -, rfl⟩ := tokens_lexeme_ok hfirst h
      refine ⟨_, rfl, cs.take m, ?_⟩
      rw [lexeme_taken hfirst, List.take_succ_cons]

theorem atWordEnd_of_tokens (h : tokens p cs = .ok ts) (hgoes : ∀ t ∈ ts.head?, t.goesOn = true)
    (hrole : ∀ t ∈ ts, t.closes = true ∨ t.opens = true) : Text.atWordEnd cs = true := by
  cases cs with
  | nil => rfl
  | cons c cs =>
    have hends : endsWord c = true := by
      rcases head_of_tokens h c rfl with hblank | ⟨t, ht, more, hlexeme⟩
      · rw [endsWord, hblank, Bool.true_or]
      · have hmem : t ∈ ts := List.mem_of_mem_head? ht
        obtain ⟨d, ds, hds, hheads⟩ := lexeme_heads (tokens_spells h t hmem) (hrole t hmem)
        obtain rfl : c = d := (List.cons.inj (hlexeme.symm.trans hds)).1
        exact hheads.goesOn (hgoes t ht)
    simp [Text.atWordEnd, (endsWord_apart hends).2.2.2]

theorem wordLength?_of_take {word : List Char} {n : Nat} (htake : cs.take n = word)
    (hle : n ≤ cs.length) (hend : Text.atWordEnd (cs.drop n) = true) :
    wordLength? word cs = some n := by
  have hprefix : word.isPrefixOf cs = true :=
    List.isPrefixOf_iff_prefix.2 (htake ▸ List.take_prefix n cs)
  have hlength : word.length = n := by rw [← htake, List.length_take_of_le hle]
  rw [wordLength?, hprefix, hlength, hend]
  rfl

theorem firstLexeme?_keyword {k : Keyword} {m n : Nat} (h : wordLength? k.word.toList cs = some m) :
    firstLexeme? cs ≠ some (.identifier, n) := by
  have hall : TokenKind.all =
      ([.string, .number] ++ Keyword.all.map .keyword) ++ .identifier :: TokenKind.symbols := rfl
  intro hfirst
  rw [firstLexeme?, hall, List.findSome?_append, Option.or_eq_some_iff] at hfirst
  rcases hfirst with hfront | ⟨hnone, -⟩
  · obtain ⟨kind, hmem, hkind⟩ := List.exists_of_findSome?_eq_some hfront
    obtain ⟨l, -, hl⟩ := Option.map_eq_some_iff.1 hkind
    obtain rfl : kind = .identifier := (Prod.mk.inj hl).1
    exact absurd hmem (by decide)
  · have hk := List.findSome?_eq_none_iff.1 hnone (.keyword k)
      (List.mem_append_right _ (List.mem_map_of_mem k.mem_all))
    rw [TokenKind.lexemeLength?, h] at hk
    cases hk

/-- A name of an expression is no keyword: a word ends where the next token begins. -/
theorem tokens_unreserved (h : tokens p cs = .ok ts) (hlink : ts.IsChain Link)
    (hrole : ∀ t ∈ ts, t.closes = true ∨ t.opens = true) :
    ∀ t ∈ ts, t.kind = .identifier → ∀ k : Keyword, t.text.toList ≠ k.word.toList := by
  induction p, cs using text_induction generalizing ts with
  | nil p =>
    rw [tokens_nil] at h
    cases h
    simp
  | blanks p w cs hw ih =>
    rw [tokens_blanks hw] at h
    exact ih h hlink hrole
  | refused p c cs hc hnone => simp [tokens_visible hc, readFrom, hnone] at h
  | lexeme p cs kind n hfirst ih =>
    obtain ⟨us, hmore, rfl⟩ := tokens_lexeme_ok hfirst h
    obtain ⟨hnext, htail⟩ := List.isChain_cons.1 hlink
    obtain ⟨-, hroles⟩ := List.forall_mem_cons.1 hrole
    refine List.forall_mem_cons.2 ⟨fun hk k hword => ?_, ih hmore htail hroles⟩
    obtain rfl : kind = .identifier := hk
    have htake : cs.take n = k.word.toList := by
      rw [← hword, String.toList_ofList]
      rfl
    have hgoes : ∀ u ∈ us.head?, u.goesOn = true := by
      intro u hu
      have hlink := hnext u hu
      simp only [Link, Token.opens, Bool.false_eq_true, false_and, or_false] at hlink
      exact hlink.2
    have hend := atWordEnd_of_tokens hmore hgoes hroles
    have hle := TokenKind.lexemeLength?_le (lexemeLength?_of_first hfirst)
    exact firstLexeme?_keyword (wordLength?_of_take htake hle hend) hfirst

/-- **The tokens of an expression** that is a text are taken from any text with their lexemes. -/
theorem tokens_fit {n : Nat} {e : Tree} (h : tokens p cs = .ok ts) (hforms : Forms n ts e) :
    ∀ t ∈ ts, t.Fit := fun t ht =>
  ⟨tokens_spells h t ht, hforms.role t ht, tokens_unreserved h hforms.linked hforms.role t ht⟩

end Lexer

/-! ## Other blanks -/

theorem Respaced.blanks {ts : List Token} {w cs ds : List Char} (h : Respaced ts cs ds)
    (hw : ∀ c ∈ w, Text.isBlank c = true) : Respaced ts (w ++ cs) ds := by
  cases h with
  | last hcs hds => exact .last (List.forall_mem_append.2 ⟨hw, hcs⟩) hds
  | token hv hv' h =>
    rw [← List.append_assoc]
    exact .token (List.forall_mem_append.2 ⟨hw, hv⟩) hv' h

theorem Lexer.tokens_unspaced {p : Position} {cs : List Char} {ts : List Token}
    (h : tokens p cs = .ok ts) : Respaced ts cs (ts.flatMap (·.lexeme)) := by
  induction p, cs using text_induction generalizing ts with
  | nil p =>
    rw [tokens_nil] at h
    cases h
    exact .last (by simp) (by simp)
  | blanks p w cs hw ih =>
    rw [tokens_blanks hw] at h
    exact (ih h).blanks hw
  | refused p c cs hc hnone => simp [tokens_visible hc, readFrom, hnone] at h
  | lexeme p cs kind n hfirst ih =>
    obtain ⟨us, hmore, rfl⟩ := tokens_lexeme_ok hfirst h
    let t : Token := ⟨kind, String.ofList (kind.textOf (cs.take n)), p⟩
    have hcs : [] ++ (t.lexeme ++ cs.drop n) = cs := by
      rw [List.nil_append, lexeme_taken hfirst, List.take_append_drop]
    have hrest : Respaced (t :: us) ([] ++ (t.lexeme ++ cs.drop n))
        ([] ++ (t.lexeme ++ us.flatMap (·.lexeme))) := .token (by simp) (by simp) (ih hmore)
    rwa [hcs] at hrest

theorem Respaced.head {ts : List Token} {cs ds : List Char} (h : Respaced ts cs ds)
    (hfit : ∀ t ∈ ts, t.Fit) : ∀ c ∈ ds.head?, Text.isBlank c = true ∨
      ∃ u us cs', ts = u :: us ∧ Heads u c ∧ ∃ ds', ds = u.lexeme ++ ds' ∧ Respaced us cs' ds' := by
  intro c hc
  cases h with
  | @last w w' hw hw' => exact Or.inl (hw' c (List.mem_of_mem_head? hc))
  | @token t ts w w' cs ds hw hw' h =>
    cases w' with
    | cons b w' =>
      obtain rfl : b = c := by simpa using hc
      exact Or.inl (hw' b (by simp))
    | nil =>
      have ht := hfit t (by simp)
      obtain ⟨d, more, hlexeme, hheads⟩ := lexeme_heads ht.spelled ht.role
      obtain rfl : d = c := by simpa [hlexeme] using hc
      exact Or.inr ⟨t, ts, cs, rfl, hheads, ds, rfl, h⟩

theorem Lexer.tokens_token {t : Token} {rest : List Char}
    (h : firstLexeme? (t.lexeme ++ rest) = some (t.kind, t.lexeme.length)) (p : Position) :
    ∃ u, t.Alike u ∧
      tokens p (t.lexeme ++ rest) = (tokens (p.advanceAll t.lexeme) rest).map (u :: ·) := by
  refine ⟨⟨t.kind, t.text, p⟩, ⟨rfl, rfl⟩, ?_⟩
  rw [tokens_lexeme h, List.take_left, List.drop_left, Token.lexeme, textOf_lexeme,
    String.ofList_toList]

/-- The text after a token does not go on with its lexeme, unless the token is a minus sign before a
    digit. -/
theorem Respaced.bounded {t : Token} {ts : List Token} {cs ds : List Char} (h : Respaced ts cs ds)
    (hfit : ∀ u ∈ ts, u.Fit) (hlink : ∀ u ∈ ts.head?, Link t u)
    (hminus : t.kind = .operator .minus → ∀ c ∈ ds.head?, Text.isDecimalDigit c = false) :
    t.kind.Bounded ds := by
  cases ds with
  | nil =>
    intro c hc
    cases hc
  | cons c ds =>
    rcases h.head hfit c rfl with hblank | ⟨u, us, cs', rfl, hheads, -⟩
    · exact bounded_blank hblank t.kind ds
    · exact bounded_link (hlink u rfl) hheads (fun hk => hminus hk c rfl) ds

theorem Token.Fit.unsigned {t : Token} (h : t.Fit) (hk : t.kind = .number)
    (hsplit : t.signSplit? = none) : Number.Unsigned t.text.toList := by
  have hspelled := h.spelled
  rw [Token.Spelled, hk] at hspelled
  rcases hspelled with hu | ⟨ds, hds, -⟩
  · exact hu
  · simp [Token.signSplit?, hk, hds] at hsplit

theorem Lexer.tokens_joined {minus number : Token} {rest : List Char} (hm : minus.Fit)
    (hminus : minus.kind = .operator .minus) (hn : number.Fit) (hnumber : number.kind = .number)
    (hsplit : number.signSplit? = none) (hrest : TokenKind.number.Bounded rest) (p : Position) :
    ∃ u minus' number', u.signSplit? = some (minus', number') ∧ minus.Alike minus' ∧
      number.Alike number' ∧
      tokens p (minus.lexeme ++ (number.lexeme ++ rest)) =
        (tokens (p.advanceAll (minus.lexeme ++ number.lexeme)) rest).map (u :: ·) := by
  have hsign : minus.text = "-" := by
    have hspelled := hm.spelled
    rw [Token.Spelled, hminus] at hspelled
    exact String.toList_inj.1 hspelled
  let joined : Token := ⟨.number, String.ofList ('-' :: number.text.toList), {}⟩
  have hlexeme : minus.lexeme ++ number.lexeme = joined.lexeme := by
    rw [lexeme_eq_text (by simp [hminus]), lexeme_eq_text (by simp [hnumber]),
      lexeme_eq_text (by simp [joined]), hsign]
    simp [joined]
  have hfit : joined.Fit :=
    ⟨by
      rw [Token.Spelled, String.toList_ofList]
      exact Or.inr ⟨_, rfl, hn.unsigned hnumber hsplit⟩,
      Or.inl rfl, fun h => by cases h⟩
  obtain ⟨u, ⟨hkind, htext⟩, htokens⟩ := tokens_token (firstLexeme?_lexeme hfit hrest) p
  have hsplit' : u.signSplit? = some (⟨.operator .minus, "-", u.position⟩,
      ⟨.number, number.text, ⟨u.position.line, u.position.col + 1⟩⟩) := by
    simp [Token.signSplit?, hkind, htext, joined]
  refine ⟨u, _, _, hsplit', ⟨hminus.symm, hsign.symm⟩, ⟨hnumber.symm, rfl⟩, ?_⟩
  rw [← List.append_assoc, hlexeme, htokens]

/-- **The tokens of an expression with other blanks** are the same, but for minus signs that have
    become part of the number after them. -/
theorem Respaced.tokens {ts : List Token} {cs ds : List Char} (h : Respaced ts cs ds)
    (hfit : ∀ t ∈ ts, t.Fit) (hlink : ts.IsChain Link) (p : Position) :
    ∃ us, Lexer.tokens p ds = .ok us ∧ Fuses ts us := by
  -- a minus sign takes the number after it along, so the induction is on the number of tokens
  induction hn : ts.length using Nat.strongRecOn generalizing ts cs ds p with
  | ind n ih =>
    cases h with
    | last _ hblanks =>
      refine ⟨[], ?_, .nil⟩
      rw [← List.append_nil ds, Lexer.tokens_blanks hblanks, Lexer.tokens_nil]
    | @token t ts w w' cs ds hw hw' h =>
      rw [Lexer.tokens_blanks hw']
      obtain ⟨ht, hts⟩ := List.forall_mem_cons.1 hfit
      obtain ⟨hnext, htail⟩ := List.isChain_cons.1 hlink
      by_cases hminus : t.kind = .operator .minus → ∀ c ∈ ds.head?, Text.isDecimalDigit c = false
      · have hfirst := firstLexeme?_lexeme ht (h.bounded hts hnext hminus)
        obtain ⟨u, hu, htokens⟩ := Lexer.tokens_token hfirst (p.advanceAll w')
        obtain ⟨us, hus, hfuses⟩ := ih ts.length (by simp [← hn]) h hts htail _ rfl
        exact ⟨u :: us, htokens.trans (congrArg (Except.map (u :: ·)) hus), .alike hu hfuses⟩
      · obtain ⟨hk, c, hc, hdigit⟩ :
            t.kind = .operator .minus ∧ ∃ c ∈ ds.head?, Text.isDecimalDigit c = true := by
          simpa using hminus
        rcases h.head hts c hc with hblank | ⟨v, vs, cs', rfl, hheads, ds', rfl, h'⟩
        · rw [Text.not_decimalDigit_of_isBlank hblank] at hdigit
          cases hdigit
        · obtain ⟨hnumber, hsplit⟩ := hheads.digit hdigit
          obtain ⟨hv, hvs⟩ := List.forall_mem_cons.1 hts
          obtain ⟨hnext', htail'⟩ := List.isChain_cons.1 htail
          have hbounded : TokenKind.number.Bounded ds' :=
            hnumber ▸ h'.bounded hvs hnext' (by simp [hnumber])
          obtain ⟨u, minus', number', hparts, hminus', hnumber', htokens⟩ :=
            Lexer.tokens_joined ht hk hv hnumber hsplit hbounded (p.advanceAll w')
          have hshorter : vs.length < n := by
            rw [← hn, List.length_cons, List.length_cons]
            omega
          obtain ⟨us, hus, hfuses⟩ := ih vs.length hshorter h' hvs htail' _ rfl
          exact ⟨u :: us, htokens.trans (congrArg (Except.map (u :: ·)) hus),
            .fused hparts hminus' hnumber' hfuses⟩

end GridSketch
