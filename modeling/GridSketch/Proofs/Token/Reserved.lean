import GridSketch.Proofs.Token.Longest
import GridSketch.Proofs.Token.Printing
import GridSketch.Proofs.Token.Respacing

/-!
# Names that are spelled as keywords

A keyword is read where a word ends, and words are made of the letters and digits of every script. A
name ends where the letters and digits of ASCII do. So the spelling of a keyword is read as a name
where a word goes on that the name does not go on with. Such a character begins no token, unless it
is a digit.

* `Token.Reserved` is a name that is spelled as a keyword.
* `firstLexeme?_reserved`, `Layout.Reads.reserved_iff`: where the spelling of a keyword is read as
  one.
-/

namespace GridSketch

namespace Text

/-- A decimal digit that is none of ASCII. -/
def isForeignDigit (c : Char) : Bool := isDecimalDigit c && 0x80 ≤ c.toNat

theorem isWord_of_foreignDigit {c : Char} (h : isForeignDigit c = true) : isWord c = true := by
  obtain ⟨hdigit, hrange⟩ := Bool.and_eq_true_iff.1 h
  obtain ⟨start, hstart, hlow, hhigh⟩ := decimalDigit_mem_run hdigit
  have hfar : 0x80 ≤ c.toNat := of_decide_eq_true hrange
  -- each run of ten digits lies within one range of word characters
  have hruns : (digitZeros.all fun start => start == 0x30 ||
      wordRanges.any fun range => range.1.ble start && (start + 9).ble range.2) = true := by
    decide +kernel
  have hrun := List.all_eq_true.1 hruns start hstart
  simp only [Bool.or_eq_true, beq_iff_eq, List.any_eq_true, Bool.and_eq_true, Nat.ble_eq] at hrun
  obtain ⟨range, hmem, hbelow, habove⟩ := hrun.resolve_left (by omega)
  have hin : inRanges wordRanges c = true := inRanges_iff.2 ⟨range, hmem, by omega, by omega⟩
  simp [isWord, hin, hfar]

end Text

theorem not_isNameChar_of_foreignDigit {c : Char} (h : Text.isForeignDigit c = true) :
    isNameChar c = false := by
  have hfar : 0x80 ≤ c.toNat := of_decide_eq_true (Bool.and_eq_true_iff.1 h).2
  rw [← Bool.not_eq_true]
  intro hname
  rcases Bool.or_eq_true_iff.1 hname with hname | hname
  · have := Text.alphanum_range hname
    omega
  · obtain rfl : c = '_' := beq_iff_eq.1 hname
    exact absurd hfar (by decide)

/-- **Of the characters that lexemes begin with,** only a digit outside ASCII goes on with a word
    and not with a name. -/
theorem Begins.foreignDigit {c : Char} (h : Begins c) (hword : Text.isWord c = true)
    (hname : isNameChar c = false) : Text.isForeignDigit c = true := by
  obtain ⟨halphanum, hline⟩ := Bool.or_eq_false_iff.1 hname
  rcases h with hdigit | halpha | hsign
  · rcases Text.decimalDigit_cases hdigit with hascii | hfar
    · have hd : c.isDigit = true := by
        change (decide (48 ≤ c.val) && decide (c.val ≤ 57)) = true
        simp only [Bool.and_eq_true, decide_eq_true_eq, UInt32.le_iff_toNat_le]
        exact hascii
      rw [Char.isAlphanum, hd, Bool.or_true] at halphanum
      cases halphanum
    · exact Bool.and_eq_true_iff.2 ⟨hdigit, decide_eq_true (by omega)⟩
  · rw [Char.isAlphanum, halpha] at halphanum
    cases halphanum
  · have hsigns : ∀ c ∈ openingSigns, Text.isWord c = false ∨ isNameChar c = true :=
      List.forall_iff_forall_mem.1 (by decide +kernel)
    rcases hsigns c hsign with hnone | hsome
    · rw [hword] at hnone
      cases hnone
    · rw [hname] at hsome
      cases hsome

/-! ## Where a keyword is read as a name -/

theorem not_isNameChar_of_length {cs rest : List Char} (hall : ∀ c ∈ cs, isNameChar c = true)
    (h : nameLength? (cs ++ rest) = some cs.length) : ∀ c ∈ rest.head?, isNameChar c = false := by
  intro c hc
  obtain ⟨rest, rfl⟩ := List.head?_eq_some_iff.1 hc
  rw [← Bool.not_eq_true]
  intro hname
  cases cs with
  | nil => exact absurd (nameLength?_pos h) (Nat.lt_irrefl 0)
  | cons first tail =>
    have htail : ∀ d ∈ tail, isNameChar d = true := fun d hd => hall d (by simp [hd])
    rw [List.cons_append, nameLength?] at h
    split at h
    · have hlength := Option.some.inj h
      rw [List.takeWhile_append_of_pos htail, List.takeWhile_cons_of_pos hname] at hlength
      simp at hlength
    · cases h

theorem Keyword.nameLength?_word (k : Keyword) :
    nameLength? k.word.toList = some k.word.toList.length := by
  cases k <;> decide

theorem firstLexeme?_reserved {k : Keyword} {rest : List Char} :
    firstLexeme? (k.word.toList ++ rest) = some (.identifier, k.word.toList.length) ↔
      ∃ c ∈ rest.head?, Text.isWord c = true ∧ isNameChar c = false := by
  constructor
  · intro h
    have hgoes : Text.atWordEnd rest = false := by
      rw [← Bool.not_eq_true]
      intro hend
      have hread : wordLength? k.word.toList (k.word.toList ++ rest) = some k.word.toList.length :=
        Lexer.wordLength?_of_take List.take_left (by simp) (by rwa [List.drop_left])
      exact Lexer.firstLexeme?_keyword hread h
    have hname : nameLength? (k.word.toList ++ rest) = some k.word.toList.length :=
      lexemeLength?_of_first h
    cases rest with
    | nil => cases hgoes
    | cons c rest =>
      have hends := not_isNameChar_of_length k.word_nameChars hname
      exact ⟨c, rfl, by simpa [Text.atWordEnd] using hgoes, hends c rfl⟩
  · rintro ⟨c, hc, hword, hends⟩
    obtain ⟨rest, rfl⟩ := List.head?_eq_some_iff.1 hc
    have hrest : ∀ d ∈ (c :: rest).head?, isNameChar d = false := by
      rintro d ⟨⟩
      exact hends
    refine firstLexeme?_identifier k.nameLength?_word (fun other => ?_) hrest
    by_cases heq : other = k
    · subst heq
      rw [wordLength?, List.drop_left, Text.atWordEnd, hword, Bool.not_true, Bool.and_false]
      rfl
    · refine wordLength?_name hrest k.word_nameChars fun hwords => heq ?_
      have hsame := Keyword.ofWord?_word other
      rw [← String.toList_inj.1 hwords, Keyword.ofWord?_word] at hsame
      exact (Option.some.inj hsame).symm

/-! ## Reserved names in a script -/

/-- A name that is spelled as a keyword. -/
def Token.Reserved (t : Token) : Prop := t.kind = .identifier ∧ ∃ k : Keyword, t.text = k.word

namespace Layout.Reads

variable {before : List Char} {l : Layout} {front back : List Piece} {p : Piece}
  (h : l.Reads before []) (hp : l.pieces = front ++ p :: back)
include h hp

theorem next {c : Char} (hc : c ∈ (p.gap ++ back.flatMap (·.text)).head?)
    (hblank : Text.isBlank c = false) :
    ∃ q more, back = q :: more ∧ q.token.kind.initial c = true := by
  have hgap : p.gap = [] := by
    cases hgap : p.gap with
    | nil => rfl
    | cons b gap =>
      obtain rfl : b = c := by simpa [hgap] using hc
      rw [h.gap p (by simp [hp]) b (by simp [hgap])] at hblank
      cases hblank
  rw [hgap, List.nil_append] at hc
  cases back with
  | nil => cases hc
  | cons q more =>
    have hfirst := h.first (front ++ [p]) q more (by simp [hp])
    obtain ⟨d, tail, htext, hd⟩ := TokenKind.initial_of_lexeme (lexemeLength?_of_first hfirst)
    rw [List.append_nil, ← List.flatMap_cons] at htext
    obtain rfl : d = c := by simpa [htext] using hc
    exact ⟨q, more, rfl, hd⟩

/-- **Which names are reserved:** a token is a name that is spelled as a keyword if its lexeme is
    that of a keyword and a digit outside ASCII directly follows it. -/
theorem reserved_iff : p.token.Reserved ↔
    (∃ k : Keyword, p.token.lexeme = k.word.toList) ∧
      ∃ c ∈ (p.gap ++ back.flatMap (·.text)).head?, Text.isForeignDigit c = true := by
  have hfirst := h.first front p back hp
  rw [List.append_nil, Piece.text, List.append_assoc] at hfirst
  constructor
  · rintro ⟨hkind, k, htext⟩
    have hlexeme : p.token.lexeme = k.word.toList := by
      rw [lexeme_eq_text (by simp [hkind]), htext]
    rw [hlexeme, hkind, firstLexeme?_reserved] at hfirst
    obtain ⟨c, hc, hword, hends⟩ := hfirst
    have hblank : Text.isBlank c = false := by
      rw [← Bool.not_eq_true]
      intro hblank
      rw [Text.not_isWord_of_isBlank hblank] at hword
      cases hword
    obtain ⟨q, -, -, hinitial⟩ := h.next hp hc hblank
    exact ⟨⟨k, hlexeme⟩, c, hc, (begins_iff.2 ⟨_, hinitial⟩).foreignDigit hword hends⟩
  · rintro ⟨⟨k, hlexeme⟩, c, hc, hdigit⟩
    have hname : firstLexeme? (k.word.toList ++ (p.gap ++ back.flatMap (·.text))) =
        some (.identifier, k.word.toList.length) :=
      firstLexeme?_reserved.2
        ⟨c, hc, Text.isWord_of_foreignDigit hdigit, not_isNameChar_of_foreignDigit hdigit⟩
    rw [hlexeme, hname] at hfirst
    have hkind : TokenKind.identifier = p.token.kind := (Prod.mk.inj (Option.some.inj hfirst)).1
    refine ⟨hkind.symm, k, String.toList_inj.1 ?_⟩
    rw [← hlexeme, lexeme_eq_text (by simp [← hkind])]

theorem after_reserved (hreserved : p.token.Reserved) :
    ∃ q more, back = q :: more ∧ q.token.kind = .number := by
  obtain ⟨-, c, hc, hforeign⟩ := (h.reserved_iff hp).1 hreserved
  have hdigit := (Bool.and_eq_true_iff.1 hforeign).1
  obtain ⟨q, more, hback, hinitial⟩ := h.next hp hc (Text.not_isBlank_of_decimalDigit hdigit)
  refine ⟨q, more, hback, ?_⟩
  rcases q.token.kind.family with hkind | hkind | hword | hsymbol
  · rw [hkind] at hinitial
    obtain rfl : c = '"' := beq_iff_eq.1 hinitial
    exact absurd hforeign (by decide)
  · exact hkind
  · rw [hword.initial] at hinitial
    have hnone := isNameChar_of_isNameStart hinitial
    rw [not_isNameChar_of_foreignDigit hforeign] at hnone
    cases hnone
  · have hnone := (TokenKind.initial_symbol hsymbol hinitial).2.1
    rw [hdigit] at hnone
    cases hnone

end Layout.Reads

section
variable {source : String} {ts : List Token} (h : tokenize source = .ok ts)
include h

theorem tokenize_layout :
    ∃ l : Layout, l.Reads [] [] ∧ l.tokens = ts ∧ source.toList = l.text := by
  have happart := Lexer.takesApart source
  rwa [h] at happart

theorem reserved_next {name next : Token} (hnext : [name, next] <:+: ts)
    (hreserved : name.Reserved) : next.kind = .number := by
  obtain ⟨l, hreads, rfl, -⟩ := tokenize_layout h
  obtain ⟨front, back, htokens⟩ := hnext
  rw [List.append_assoc] at htokens
  obtain ⟨pieces, others, hpieces, -, hothers⟩ := List.map_eq_append_iff.1 htokens.symm
  obtain ⟨p, rest, rfl, rfl, hrest⟩ := List.map_eq_cons_iff.1 hothers
  obtain ⟨q, more, rfl, hkind⟩ := hreads.after_reserved hpieces hreserved
  rw [← (List.cons.inj hrest).1]
  exact hkind

end

/-! ## Scripts printed with blanks between their tokens -/

theorem settle_content_iff {t : Token} : t.content.settle = t.content ↔ ¬ t.Reserved := by
  constructor
  · rintro h ⟨hkind, k, htext⟩
    have hword : Keyword.ofWord? t.text = some k := by rw [htext, Keyword.ofWord?_word]
    rw [Content.settle_of_reserved (c := t.content) hkind hword] at h
    have hkeyword : TokenKind.keyword k = t.kind := congrArg Content.kind h
    rw [hkind] at hkeyword
    cases hkeyword
  · intro h
    by_cases hkind : t.kind = .identifier
    · refine Content.settle_of_unreserved ?_
      rw [Option.eq_none_iff_forall_ne_some]
      intro k hword
      exact h ⟨hkind, k, (Keyword.word_of_ofWord? hword).symm⟩
    · exact Content.settle_of_kind hkind

/-- The tokens of a script, printed with blanks between them, are read back, but for reserved names,
    which are read as keywords. -/
theorem tokenize_reprint {source : String} {ts : List Token} {gap : Nat → List Char}
    (h : tokenize source = .ok ts) (hgap : ∀ i, Separates (gap i)) :
    ∃ us, tokenize (String.ofList (print gap (ts.map Token.content))) = .ok us ∧
      us.map Token.content = ts.map fun t => t.content.settle := by
  have hspelled : ∀ c ∈ ts.map Token.content, c.Spelled := by
    intro c hc
    obtain ⟨t, ht, rfl⟩ := List.mem_map.1 hc
    exact Lexer.tokens_spells h t ht
  obtain ⟨us, hus, hcontents⟩ := tokens_print (fun i _ => hgap i) hspelled {}
  refine ⟨us, by rwa [tokenize, String.toList_ofList], ?_⟩
  rw [hcontents, List.map_map]
  rfl

end GridSketch
