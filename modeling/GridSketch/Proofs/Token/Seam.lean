import GridSketch.Proofs.Number.Literal
import GridSketch.Token.Lexer

/-!
# Texts put together with blanks

A blank ends every lexeme but a string literal that is still open. So a text that can be read is
read the same when a blank and more text follow.

* `Lexer.tokens_append`: reading a text, blanks and another text is reading one after the other.
-/

namespace GridSketch

namespace Text

/-! ## What a blank is not -/

theorem isBlank_cases {c : Char} (h : isBlank c = true) :
    c.toNat ≤ 0x20 ∨ 0x85 ≤ c.toNat := by
  obtain ⟨range, hr, hlow, hhigh⟩ := inRanges_iff.1 h
  have hranges : ∀ r ∈ blankRanges, r.2 ≤ 0x20 ∨ 0x85 ≤ r.1 := by decide
  have := hranges range hr
  omega

theorem not_decimalDigit_of_isBlank {c : Char} (h : isBlank c = true) :
    isDecimalDigit c = false := by
  rw [← Bool.not_eq_true]
  intro hd
  rw [not_isBlank_of_decimalDigit hd] at h
  cases h

theorem ne_of_isBlank {c d : Char} (h : isBlank c = true) (hd : 0x20 < d.toNat ∧ d.toNat < 0x85) :
    c ≠ d := by
  rintro rfl
  have := isBlank_cases h
  omega

theorem alphanum_range {c : Char} (h : c.isAlphanum = true) : 0x30 ≤ c.toNat ∧ c.toNat ≤ 0x7a := by
  change ((decide (65 ≤ c.val ∧ c.val ≤ 90) || (decide (97 ≤ c.val) && decide (c.val ≤ 122))) ||
    (decide (48 ≤ c.val) && decide (c.val ≤ 57))) = true at h
  simp only [Bool.or_eq_true, Bool.and_eq_true, decide_eq_true_eq, UInt32.le_iff_toNat_le] at h
  change ((65 ≤ c.toNat ∧ c.toNat ≤ 90) ∨ (97 ≤ c.toNat ∧ c.toNat ≤ 122)) ∨
    (48 ≤ c.toNat ∧ c.toNat ≤ 57) at h
  omega

theorem not_isAlphanum_of_isBlank {c : Char} (h : isBlank c = true) : c.isAlphanum = false := by
  rw [← Bool.not_eq_true]
  intro ha
  have := isBlank_cases h
  have := alphanum_range ha
  omega

theorem not_isWord_of_isBlank {c : Char} (h : isBlank c = true) : isWord c = false := by
  have hrange : inRanges wordRanges c = false := by
    rw [← Bool.not_eq_true]
    intro hw
    obtain ⟨b, hb, hbl, hbh⟩ := inRanges_iff.1 h
    obtain ⟨w, hw, hwl, hwh⟩ := inRanges_iff.1 hw
    have hapart : ∀ b ∈ blankRanges, ∀ w ∈ wordRanges, b.2 < w.1 ∨ w.2 < b.1 := by decide +kernel
    have := hapart b hb w hw
    omega
  have hline : c ≠ '_' := ne_of_isBlank h (by decide)
  simp [isWord, hrange, hline, not_isAlphanum_of_isBlank h]

end Text

/-! ## Lexemes before a blank -/

/-- Characters between the blanks of ASCII and those beyond it. -/
def isVisible (c : Char) : Bool := 0x20 < c.toNat && c.toNat < 0x85

theorem ne_of_isVisible {b c : Char} (hb : Text.isBlank b = true) (hc : isVisible c = true) :
    b ≠ c :=
  Text.ne_of_isBlank hb (by simpa [isVisible] using hc)

section
variable {cs ds : List Char} {b : Char}

theorem takeWhile_append_stop {p : Char → Bool} (hp : p b = false) :
    (cs ++ b :: ds).takeWhile p = cs.takeWhile p := by
  induction cs with
  | nil => simp [hp]
  | cons c cs ih => cases hc : p c <;> simp [hc, ih]

variable (hb : Text.isBlank b = true)
include hb

theorem isPrefixOf_append_blank {spelling : List Char} (hs : spelling.all isVisible = true) :
    spelling.isPrefixOf (cs ++ b :: ds) = spelling.isPrefixOf cs := by
  induction spelling generalizing cs with
  | nil => rfl
  | cons c spelling ih =>
    obtain ⟨hc, hs⟩ := Bool.and_eq_true_iff.1 (List.all_cons ▸ hs)
    cases cs with
    | nil =>
      have hne : c ≠ b := (ne_of_isVisible hb hc).symm
      simp [List.isPrefixOf, hne]
    | cons d cs => simp [List.isPrefixOf, ih hs]

theorem spellingLength?_append_blank {spelling : List Char} (hs : spelling.all isVisible = true) :
    spellingLength? spelling (cs ++ b :: ds) = spellingLength? spelling cs := by
  rw [spellingLength?, isPrefixOf_append_blank hb hs, spellingLength?]

theorem wordLength?_append_blank {word : List Char} (hw : word.all isVisible = true) :
    wordLength? word (cs ++ b :: ds) = wordLength? word cs := by
  simp only [wordLength?, isPrefixOf_append_blank hb hw]
  cases hfront : word.isPrefixOf cs with
  | false => rfl
  | true =>
    obtain ⟨tail, rfl⟩ := List.isPrefixOf_iff_prefix.1 hfront
    rw [List.append_assoc, List.drop_left, List.drop_left]
    cases tail with
    | nil => simp [Text.atWordEnd, Text.not_isWord_of_isBlank hb]
    | cons c tail => rfl

theorem fractionLength_append_blank : fractionLength (cs ++ b :: ds) = fractionLength cs := by
  have hstop := Text.not_decimalDigit_of_isBlank hb
  cases cs with
  | nil =>
    have hpoint : b ≠ '.' := Text.ne_of_isBlank hb (by decide)
    simp [fractionLength, hpoint]
  | cons c cs =>
    by_cases hc : c = '.'
    · subst hc
      simp only [List.cons_append, fractionLength, takeWhile_append_stop hstop]
    · simp [fractionLength, hc]

theorem unsignedLength?_append_blank :
    unsignedLength? (cs ++ b :: ds) = unsignedLength? cs := by
  have hle := (List.takeWhile_prefix Text.isDecimalDigit (l := cs)).length_le
  simp only [unsignedLength?, takeWhile_append_stop (Text.not_decimalDigit_of_isBlank hb),
    List.drop_append_of_le_length hle, fractionLength_append_blank hb]

theorem numberLength?_append_blank : numberLength? (cs ++ b :: ds) = numberLength? cs := by
  cases cs with
  | nil =>
    have hminus : b ≠ '-' := Text.ne_of_isBlank hb (by decide)
    have h : unsignedLength? ([] ++ b :: ds) = _ := unsignedLength?_append_blank hb
    simpa [numberLength?, hminus] using h
  | cons c cs =>
    by_cases hc : c = '-'
    · subst hc
      simp only [List.cons_append, numberLength?, unsignedLength?_append_blank hb]
    · have h : unsignedLength? ((c :: cs) ++ b :: ds) = _ := unsignedLength?_append_blank hb
      simpa [numberLength?, hc] using h

theorem nameLength?_append_blank : nameLength? (cs ++ b :: ds) = nameLength? cs := by
  have hline : b ≠ '_' := Text.ne_of_isBlank hb (by decide)
  have halpha := Text.not_isAlphanum_of_isBlank hb
  have hstop : isNameChar b = false := by simp [isNameChar, hline, halpha]
  cases cs with
  | nil =>
    have hletter : b.isAlpha = false := (Bool.or_eq_false_iff.1 halpha).1
    have hstart : isNameStart b = false := by simp [isNameStart, hline, hletter]
    simp [nameLength?, hstart]
  | cons c cs => simp only [List.cons_append, nameLength?, takeWhile_append_stop hstop]

theorem TokenKind.lexemeLength?_append_blank {kind : TokenKind} (hkind : kind ≠ .string) :
    kind.lexemeLength? (cs ++ b :: ds) = kind.lexemeLength? cs := by
  cases kind with
  | string => exact absurd rfl hkind
  | number => exact numberLength?_append_blank hb
  | identifier => exact nameLength?_append_blank hb
  | keyword k => exact wordLength?_append_blank hb (by cases k <;> decide)
  | operator o => exact spellingLength?_append_blank hb (by cases o <;> decide)
  | _ => exact spellingLength?_append_blank hb (by decide)

end

theorem takeWhile_exact {p : Char → Bool} {cs rest : List Char} (hcs : ∀ c ∈ cs, p c = true)
    (hrest : ∀ c ∈ rest.head?, p c = false) : (cs ++ rest).takeWhile p = cs := by
  have hstop : rest.takeWhile p = [] := by
    cases rest with
    | nil => rfl
    | cons c rest => simp [hrest c rfl]
  rw [List.takeWhile_append_of_pos hcs, hstop, List.append_nil]

theorem takeWhile_append_of_mem {p : Char → Bool} {cs : List Char} {c : Char} (hc : c ∈ cs)
    (hp : p c = false) (ds : List Char) : (cs ++ ds).takeWhile p = cs.takeWhile p := by
  obtain ⟨front, back, rfl⟩ := List.append_of_mem hc
  rw [List.append_assoc, List.cons_append, takeWhile_append_stop hp, takeWhile_append_stop hp]

theorem stringLength?_append {cs : List Char} {n : Nat} (h : stringLength? cs = some n)
    (ds : List Char) : stringLength? (cs ++ ds) = some n := by
  unfold stringLength? at h ⊢
  split at h
  · next cs =>
    split at h
    · next hquote =>
      have hmem : '"' ∈ cs := by simpa using hquote
      rw [← h, List.cons_append]
      simp [takeWhile_append_of_mem hmem, hmem]
    · cases h
  · cases h

theorem TokenKind.lexemeLength?_quote {kind : TokenKind} (hkind : kind ≠ .string) (cs : List Char) :
    kind.lexemeLength? ('"' :: cs) = none := by
  cases kind with
  | string => exact absurd rfl hkind
  | keyword k => cases k <;> rfl
  | operator o => cases o <;> rfl
  | _ => rfl

/-- The kinds but that of string literals, in the order in which the lexer tries them. -/
def TokenKind.unquoted : List TokenKind := TokenKind.all.tail

theorem TokenKind.ne_string_of_unquoted : ∀ kind ∈ TokenKind.unquoted, kind ≠ .string := by
  decide

theorem findSome?_congr {α β : Type} {f g : α → Option β} {l : List α}
    (h : ∀ a ∈ l, f a = g a) : l.findSome? f = l.findSome? g := by
  induction l with
  | nil => rfl
  | cons a l ih =>
    rw [List.findSome?_cons, List.findSome?_cons, h a (by simp), ih fun b hb => h b (by simp [hb])]

theorem firstLexeme?_eq (cs : List Char) :
    firstLexeme? cs =
      ((stringLength? cs).map (TokenKind.string, ·)).or
        (TokenKind.unquoted.findSome? fun kind => (kind.lexemeLength? cs).map (kind, ·)) := by
  have hall : TokenKind.all = .string :: TokenKind.unquoted := rfl
  simp only [firstLexeme?, hall, List.findSome?_cons, TokenKind.lexemeLength?]
  cases stringLength? cs <;> rfl

/-- **The first lexeme of a text** stays the first with a blank after the text. -/
theorem firstLexeme?_append_blank {cs : List Char} {b : Char} {kind : TokenKind} {n : Nat}
    (h : firstLexeme? cs = some (kind, n)) (hb : Text.isBlank b = true) (ds : List Char) :
    firstLexeme? (cs ++ b :: ds) = some (kind, n) := by
  have hothers : (TokenKind.unquoted.findSome? fun kind =>
      (kind.lexemeLength? (cs ++ b :: ds)).map (kind, ·)) =
        TokenKind.unquoted.findSome? fun kind => (kind.lexemeLength? cs).map (kind, ·) := by
    refine findSome?_congr fun kind hk => ?_
    rw [TokenKind.lexemeLength?_append_blank hb (TokenKind.ne_string_of_unquoted kind hk)]
  rw [firstLexeme?_eq] at h ⊢
  rw [hothers]
  cases hs : stringLength? cs with
  | some m => rwa [stringLength?_append hs, ← hs]
  | none =>
    have hmore : stringLength? (cs ++ b :: ds) = none := by
      cases cs with
      | nil =>
        have hquote : b ≠ '"' := Text.ne_of_isBlank hb (by decide)
        simp [stringLength?, hquote]
      | cons c cs =>
        by_cases hc : c = '"'
        · subst hc
          have hnone : (TokenKind.unquoted.findSome? fun kind =>
              (kind.lexemeLength? ('"' :: cs)).map (kind, ·)) = none := by
            refine List.findSome?_eq_none_iff.2 fun kind hk => ?_
            rw [TokenKind.lexemeLength?_quote (TokenKind.ne_string_of_unquoted kind hk)]
            rfl
          rw [hs, hnone] at h
          cases h
        · simp [stringLength?, hc]
    rwa [hmore, ← hs]

/-! ## No lexeme is longer than its text -/

theorem spellingLength?_le {spelling cs : List Char} {n : Nat}
    (h : spellingLength? spelling cs = some n) : n ≤ cs.length := by
  unfold spellingLength? at h
  split at h
  · next hfront =>
    cases h
    exact (List.isPrefixOf_iff_prefix.1 hfront).length_le
  · cases h

theorem wordLength?_le {word cs : List Char} {n : Nat} (h : wordLength? word cs = some n) :
    n ≤ cs.length := by
  unfold wordLength? at h
  split at h
  · next hword =>
    cases h
    exact (List.isPrefixOf_iff_prefix.1 (Bool.and_eq_true_iff.1 hword).1).length_le
  · cases h

theorem fractionLength_le (cs : List Char) : fractionLength cs ≤ cs.length := by
  unfold fractionLength
  split
  · next cs =>
    have := (List.takeWhile_prefix Text.isDecimalDigit (l := cs)).length_le
    simp only [List.length_cons]
    split <;> omega
  · exact Nat.zero_le _

theorem unsignedLength?_le {cs : List Char} {n : Nat} (h : unsignedLength? cs = some n) :
    n ≤ cs.length := by
  have hdigits := (List.takeWhile_prefix Text.isDecimalDigit (l := cs)).length_le
  have hfraction := fractionLength_le (cs.drop (cs.takeWhile Text.isDecimalDigit).length)
  rw [List.length_drop] at hfraction
  simp only [unsignedLength?] at h
  split at h
  · cases h
  · cases h
    omega

theorem numberLength?_le {cs : List Char} {n : Nat} (h : numberLength? cs = some n) :
    n ≤ cs.length := by
  unfold numberLength? at h
  split at h
  · obtain ⟨m, hm, rfl⟩ := Option.map_eq_some_iff.1 h
    exact Nat.succ_le_succ (unsignedLength?_le hm)
  · exact unsignedLength?_le h

theorem nameLength?_le {cs : List Char} {n : Nat} (h : nameLength? cs = some n) :
    n ≤ cs.length := by
  unfold nameLength? at h
  split at h
  · next c cs =>
    split at h
    · cases h
      exact Nat.succ_le_succ (List.takeWhile_prefix isNameChar).length_le
    · cases h
  · cases h

theorem stringLength?_le {cs : List Char} {n : Nat} (h : stringLength? cs = some n) :
    n ≤ cs.length := by
  unfold stringLength? at h
  split at h
  · next cs =>
    split at h
    · next hquote =>
      obtain ⟨front, back, rfl⟩ := List.append_of_mem (by simpa using hquote : '"' ∈ cs)
      have hlen := (List.takeWhile_prefix (· != '"') (l := front)).length_le
      rw [takeWhile_append_stop (by decide)] at h
      cases h
      simp only [List.length_cons, List.length_append]
      omega
    · cases h
  · cases h

theorem TokenKind.lexemeLength?_le {kind : TokenKind} {cs : List Char} {n : Nat}
    (h : kind.lexemeLength? cs = some n) : n ≤ cs.length := by
  cases kind with
  | string => exact stringLength?_le h
  | number => exact numberLength?_le h
  | identifier => exact nameLength?_le h
  | keyword k => exact wordLength?_le h
  | _ => exact spellingLength?_le h

theorem lexemeLength?_of_first {cs : List Char} {kind : TokenKind} {n : Nat}
    (h : firstLexeme? cs = some (kind, n)) : kind.lexemeLength? cs = some n := by
  obtain ⟨k, -, hk⟩ := List.exists_of_findSome?_eq_some h
  obtain ⟨m, hm, heq⟩ := Option.map_eq_some_iff.1 hk
  obtain ⟨rfl, rfl⟩ := Prod.mk.inj heq
  exact hm

/-! ## Texts before blanks -/

theorem firstLexeme?_nil : firstLexeme? [] = none := by
  decide

theorem firstLexeme?_blank {b : Char} (hb : Text.isBlank b = true) (ds : List Char) :
    firstLexeme? (b :: ds) = none := by
  refine List.findSome?_eq_none_iff.2 fun kind _ => ?_
  have hquote : b ≠ '"' := Text.ne_of_isBlank hb (by decide)
  have hnone : kind.lexemeLength? (b :: ds) = none := by
    by_cases hkind : kind = .string
    · subst hkind
      simp [TokenKind.lexemeLength?, stringLength?, hquote]
    · have h : kind.lexemeLength? ([] ++ b :: ds) = _ :=
        TokenKind.lexemeLength?_append_blank hb hkind
      rw [List.nil_append] at h
      rw [h]
      cases kind with
      | keyword k => cases k <;> rfl
      | operator o => cases o <;> rfl
      | _ => rfl
  rw [hnone]
  rfl

namespace Lexer

variable {p : Position} {cs w : List Char}

/-- What is read from a text that does not begin with a blank. -/
def readFrom (p : Position) (cs : List Char) : Except Diagnostic (List Token) :=
  if cs = [] then .ok []
  else
    match firstLexeme? cs with
    | none => .error (.atPosition p (.noToken (snippet cs)))
    | some (kind, n) =>
      (tokens (p.advanceAll (cs.take n)) (cs.drop n)).map
        (⟨kind, String.ofList (kind.textOf (cs.take n)), p⟩ :: ·)

theorem tokens_eq (p : Position) (cs : List Char) :
    tokens p cs =
      readFrom (p.advanceAll (cs.takeWhile Text.isBlank)) (cs.dropWhile Text.isBlank) := by
  rw [tokens, readFrom]
  dsimp only
  split
  · rfl
  · split
    · next h => rw [h]
    · next h => rw [h]

@[simp] theorem tokens_nil (p : Position) : tokens p [] = .ok [] := by
  rw [tokens_eq]
  rfl

theorem tokens_blanks (hw : ∀ c ∈ w, Text.isBlank c = true) (cs : List Char) :
    tokens p (w ++ cs) = tokens (p.advanceAll w) cs := by
  rw [tokens_eq, tokens_eq, List.takeWhile_append_of_pos hw, List.dropWhile_append_of_pos hw,
    Position.advanceAll_append]

theorem tokens_visible {c : Char} (hc : Text.isBlank c = false) (cs : List Char) :
    tokens p (c :: cs) = readFrom p (c :: cs) := by
  rw [tokens_eq]
  simp [hc]

theorem tokens_lexeme {kind : TokenKind} {n : Nat} (h : firstLexeme? cs = some (kind, n)) :
    tokens p cs =
      (tokens (p.advanceAll (cs.take n)) (cs.drop n)).map
        (⟨kind, String.ofList (kind.textOf (cs.take n)), p⟩ :: ·) := by
  cases cs with
  | nil => simp [firstLexeme?_nil] at h
  | cons c cs =>
    have hc : Text.isBlank c = false := by
      rw [← Bool.not_eq_true]
      intro hb
      simp [firstLexeme?_blank hb] at h
    rw [tokens_visible hc, readFrom, if_neg (List.cons_ne_nil c cs), h]

theorem tokens_lexeme_ok {ts : List Token} {kind : TokenKind} {n : Nat}
    (hfirst : firstLexeme? cs = some (kind, n)) (h : tokens p cs = .ok ts) :
    ∃ us, tokens (p.advanceAll (cs.take n)) (cs.drop n) = .ok us ∧
      ts = ⟨kind, String.ofList (kind.textOf (cs.take n)), p⟩ :: us := by
  rw [tokens_lexeme hfirst] at h
  cases hmore : tokens (p.advanceAll (cs.take n)) (cs.drop n) with
  | error d =>
    rw [hmore] at h
    cases h
  | ok us =>
    rw [hmore] at h
    cases h
    exact ⟨us, rfl, rfl⟩

/-- Induction along a text. A text is empty, or begins with blanks, or is refused where it begins,
    or begins with a lexeme. -/
theorem text_induction {motive : Position → List Char → Prop}
    (nil : ∀ p, motive p [])
    (blanks : ∀ p w cs, (∀ c ∈ w, Text.isBlank c = true) → motive (p.advanceAll w) cs →
      motive p (w ++ cs))
    (refused : ∀ p c cs, Text.isBlank c = false → firstLexeme? (c :: cs) = none →
      motive p (c :: cs))
    (lexeme : ∀ p cs kind n, firstLexeme? cs = some (kind, n) →
      motive (p.advanceAll (cs.take n)) (cs.drop n) → motive p cs)
    (p : Position) (cs : List Char) : motive p cs := by
  induction hlen : cs.length using Nat.strong_induction_on generalizing p cs with
  | _ len ih =>
    subst hlen
    have hle := (List.dropWhile_suffix (l := cs) Text.isBlank).length_le
    rw [← List.takeWhile_append_dropWhile (p := Text.isBlank) (l := cs)]
    refine blanks p _ _ (List.all_eq_true.1 List.all_takeWhile) ?_
    cases hrest : cs.dropWhile Text.isBlank with
    | nil => exact nil _
    | cons c rest =>
      have hc : Text.isBlank c = false := by
        have := List.head?_dropWhile_not Text.isBlank cs
        simpa [hrest] using this
      cases hfirst : firstLexeme? (c :: rest) with
      | none => exact refused _ c rest hc hfirst
      | some first =>
        obtain ⟨kind, n⟩ := first
        have hpos := firstLexeme?_pos hfirst
        refine lexeme _ _ kind n hfirst (ih _ ?_ _ _ rfl)
        rw [hrest] at hle
        simp only [List.length_drop, List.length_cons] at hle ⊢
        omega

theorem tokens_error {d : Diagnostic} (h : tokens p cs = .error d) :
    d.cause.kind = .lexical ∧ d.line ≠ none := by
  induction p, cs using text_induction with
  | nil p =>
    rw [tokens_nil] at h
    cases h
  | blanks p v cs hv ih => exact ih (by rwa [tokens_blanks hv] at h)
  | refused p c cs hc hnone =>
    simp only [tokens_visible hc, readFrom, hnone, List.cons_ne_nil, if_false] at h
    cases h
    exact ⟨rfl, by simp [Diagnostic.atPosition]⟩
  | lexeme p cs kind n hfirst ih =>
    rw [tokens_lexeme hfirst] at h
    cases hmore : tokens (p.advanceAll (cs.take n)) (cs.drop n) with
    | ok us =>
      rw [hmore] at h
      cases h
    | error d' =>
      rw [hmore] at h
      cases h
      exact ih hmore

/-- **A text, blanks and another text are read one after the other.** -/
theorem tokens_append {ts : List Token} (h : tokens p cs = .ok ts)
    (hw : ∀ c ∈ w, Text.isBlank c = true) (hne : w ≠ []) (ds : List Char) :
    tokens p (cs ++ (w ++ ds)) = (tokens (p.advanceAll (cs ++ w)) ds).map (ts ++ ·) := by
  induction p, cs using text_induction generalizing ts with
  | nil p =>
    rw [tokens_nil] at h
    cases h
    rw [List.nil_append, tokens_blanks hw, List.nil_append]
    cases tokens (p.advanceAll w) ds <;> rfl
  | blanks p v cs hv ih =>
    rw [tokens_blanks hv] at h
    rw [List.append_assoc, tokens_blanks hv, ih h, ← Position.advanceAll_append, List.append_assoc]
  | refused p c cs hc hnone => simp [tokens_visible hc, readFrom, hnone] at h
  | lexeme p cs kind n hfirst ih =>
    obtain ⟨us, hmore, rfl⟩ := tokens_lexeme_ok hfirst h
    have hle := TokenKind.lexemeLength?_le (lexemeLength?_of_first hfirst)
    obtain ⟨b, w, rfl⟩ := List.exists_cons_of_ne_nil hne
    have hseam := firstLexeme?_append_blank hfirst (hw b (by simp)) (w ++ ds)
    rw [List.cons_append, tokens_lexeme hseam, List.take_append_of_le_length hle,
      List.drop_append_of_le_length hle, ← List.cons_append, ih hmore,
      ← Position.advanceAll_append, ← List.append_assoc, List.take_append_drop]
    cases tokens (p.advanceAll (cs ++ b :: w)) ds <;> rfl

end Lexer

end GridSketch
