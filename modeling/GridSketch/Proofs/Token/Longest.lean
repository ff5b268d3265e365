import GridSketch.Proofs.Token.Boundary
import GridSketch.Proofs.Token.Layout

/-!
# The longest lexeme

Several kinds of token may have a lexeme at one place: a number and the minus sign that it begins
with, a keyword and a name, an operator of two characters and the sign that it begins with. The
lexer takes the first kind that it tries, and it tries them in an order that makes this the longest.

* `TokenKind.family`: a kind is that of strings, that of numbers, one of words, or has one spelling.
  `TokenKind.initial` are the characters that its lexemes may begin with.
* `TokenKind.Outruns` compares two kinds, `TokenKind.all_outrun` all of them in the order in which
  they are tried, and `firstLexeme?_longest` says what follows for the one that is taken.
* `BeginsNone`: where no kind has a lexeme; `lexemeLength?_eq_none_iff` says that there are no other
  such places.
* `Lexer.Visits`: where the lexer looks for a lexeme; `Lexer.tokens_error_iff`: a text is refused if
  it looks where there is none.
-/

namespace GridSketch

namespace TokenKind

/-! ## The beginning of a lexeme -/

/-- The spelling of a kind that has one and is no word. -/
def spelling : TokenKind → List Char
  | operator o => o.symbol.toList
  | question => ['?']
  | colon => [':']
  | assign => ['=']
  | leftParen => ['(']
  | rightParen => [')']
  | comma => [',']
  | _ => []

/-- The kinds of words. -/
def IsWord (kind : TokenKind) : Prop := kind = identifier ∨ ∃ k, kind = keyword k

theorem family (kind : TokenKind) :
    kind = string ∨ kind = number ∨ kind.IsWord ∨ kind ∈ symbols := by
  cases kind with
  | string => exact .inl rfl
  | number => exact .inr (.inl rfl)
  | identifier => exact .inr (.inr (.inl (.inl rfl)))
  | keyword k => exact .inr (.inr (.inl (.inr ⟨k, rfl⟩)))
  | operator o => exact .inr (.inr (.inr (by cases o <;> decide)))
  | _ => exact .inr (.inr (.inr (by decide)))

/-- The characters that a lexeme of a kind may begin with. -/
def initial : TokenKind → Char → Bool
  | string, c => c == '"'
  | number, c => Text.isDecimalDigit c || c == '-'
  | identifier, c | keyword _, c => isNameStart c
  | kind, c => kind.spelling.head? == some c

theorem IsWord.initial {kind : TokenKind} (h : kind.IsWord) (c : Char) :
    kind.initial c = isNameStart c := by
  rcases h with rfl | ⟨k, rfl⟩ <;> rfl

theorem symbol_rule {kind : TokenKind} (h : kind ∈ symbols) :
    kind.spelling ≠ [] ∧ (∀ c, kind.initial c = (kind.spelling.head? == some c)) ∧
      ∀ cs, kind.lexemeLength? cs = spellingLength? kind.spelling cs := by
  cases kind with
  | number | string | identifier => exact absurd h (by decide)
  | keyword k => cases k <;> exact absurd h (by decide)
  | operator o => exact ⟨by cases o <;> decide, fun _ => rfl, fun _ => rfl⟩
  | _ => exact ⟨by decide, fun _ => rfl, fun _ => rfl⟩

theorem symbol_length {kind : TokenKind} (h : kind ∈ symbols) {cs : List Char} {n : Nat}
    (hn : kind.lexemeLength? cs = some n) : kind.spelling <+: cs ∧ n = kind.spelling.length := by
  rw [(symbol_rule h).2.2, spellingLength?] at hn
  split at hn
  · next hfront => exact ⟨List.isPrefixOf_iff_prefix.1 hfront, (Option.some.inj hn).symm⟩
  · cases hn

theorem lexemeLength?_none {kind : TokenKind} {c : Char} (h : kind.initial c = false)
    (cs : List Char) : kind.lexemeLength? (c :: cs) = none := by
  rcases kind.family with rfl | rfl | hword | hsymbol
  · have hquote : c ≠ '"' := beq_eq_false_iff_ne.1 h
    simp [lexemeLength?, stringLength?, hquote]
  · obtain ⟨hdigit, hminus⟩ := Bool.or_eq_false_iff.1 h
    exact numberLength?_none (beq_eq_false_iff_ne.1 hminus) hdigit cs
  · rw [hword.initial] at h
    rcases hword with rfl | ⟨k, rfl⟩
    · simp [lexemeLength?, nameLength?, h]
    · exact wordLength?_none h cs k
  · obtain ⟨hne, hinitial, hlength⟩ := symbol_rule hsymbol
    obtain ⟨d, tail, hspelling⟩ := List.exists_cons_of_ne_nil hne
    have hd : d ≠ c := by simpa [hinitial, hspelling] using h
    simp [hlength, hspelling, spellingLength?, hd]

theorem initial_of_lexeme {kind : TokenKind} {cs : List Char} {n : Nat}
    (h : kind.lexemeLength? cs = some n) : ∃ c rest, cs = c :: rest ∧ kind.initial c = true := by
  cases cs with
  | nil =>
    have hpos := lexemeLength?_pos h
    have hle := lexemeLength?_le h
    rw [List.length_nil] at hle
    omega
  | cons c rest =>
    refine ⟨c, rest, rfl, Bool.of_not_eq_false fun hc => ?_⟩
    rw [lexemeLength?_none hc] at h
    cases h

/-! ## Two lexemes at one place -/

/-- Where two kinds have a lexeme, that of the first is at least as long. -/
def Outruns (a b : TokenKind) : Prop :=
  ∀ cs n m, a.lexemeLength? cs = some n → b.lexemeLength? cs = some m → m ≤ n

theorem initial_symbol {kind : TokenKind} {c : Char} (h : kind ∈ symbols)
    (hc : kind.initial c = true) :
    isNameStart c = false ∧ Text.isDecimalDigit c = false ∧
      (c = '-' → kind.spelling.length = 1) := by
  have hall : ∀ kind ∈ symbols, (kind.spelling.head?.all fun c => !isNameStart c &&
      !Text.isDecimalDigit c && (c != '-' || kind.spelling.length == 1)) = true := by
    decide
  rw [(symbol_rule h).2.1] at hc
  have hsign := hall kind h
  rw [beq_iff_eq.1 hc, Option.all_some] at hsign
  simpa [and_assoc, or_iff_not_imp_left] using hsign

/-- A keyword is as long as the name that stands there, because it ends where a word does. -/
theorem IsWord.length {kind : TokenKind} (h : kind.IsWord) {cs : List Char} {n : Nat}
    (hlength : kind.lexemeLength? cs = some n) : nameLength? cs = some n := by
  rcases h with rfl | ⟨k, rfl⟩
  · exact hlength
  change wordLength? k.word.toList cs = some n at hlength
  unfold wordLength? at hlength
  split at hlength
  · next hword =>
    obtain ⟨hfront, hend⟩ := Bool.and_eq_true_iff.1 hword
    obtain ⟨rest, rfl⟩ := List.isPrefixOf_iff_prefix.1 hfront
    rw [List.drop_left] at hend
    obtain ⟨c, tail, hcs, hc⟩ : ∃ c tail, k.word.toList = c :: tail ∧ isNameStart c = true := by
      cases k <;> exact ⟨_, _, rfl, by decide⟩
    have hall := k.word_nameChars
    rw [hcs] at hall hlength ⊢
    cases hlength
    refine nameLength?_append hc (fun d hd => hall d (by simp [hd])) fun d hd => ?_
    obtain ⟨more, rfl⟩ := List.head?_eq_some_iff.1 hd
    rw [← Bool.not_eq_true]
    intro hname
    simp [Text.atWordEnd, isWord_of_isNameChar hname] at hend
  · cases hlength

theorem string_outruns {b : TokenKind} (hb : b ≠ string) : Outruns string b := by
  intro cs n m hn hm
  obtain ⟨c, rest, rfl, hc⟩ := initial_of_lexeme hn
  obtain rfl : c = '"' := beq_iff_eq.1 hc
  rw [lexemeLength?_quote hb] at hm
  cases hm

theorem number_outruns_word {b : TokenKind} (hb : b.IsWord) : Outruns number b := by
  intro cs n m hn hm
  obtain ⟨c, rest, rfl, hc⟩ := initial_of_lexeme hm
  rw [hb.initial] at hc
  have hnone : number.lexemeLength? (c :: rest) = none := (literal_name hc rest).2
  rw [hnone] at hn
  cases hn

theorem number_outruns_symbol {b : TokenKind} (hb : b ∈ symbols) : Outruns number b := by
  intro cs n m hn hm
  have hpos := lexemeLength?_pos hn
  obtain ⟨c, rest, rfl, hc⟩ := initial_of_lexeme hm
  obtain ⟨-, hdigit, hminus⟩ := initial_symbol hb hc
  obtain ⟨_, _, heq, hinitial⟩ := initial_of_lexeme hn
  cases heq
  rw [initial, hdigit, Bool.false_or] at hinitial
  rw [(symbol_length hb hm).2, hminus (beq_iff_eq.1 hinitial)]
  exact hpos

theorem word_outruns_word {a b : TokenKind} (ha : a.IsWord) (hb : b.IsWord) : Outruns a b := by
  intro cs n m hn hm
  have hlengths := (ha.length hn).symm.trans (hb.length hm)
  exact Nat.le_of_eq (Option.some.inj hlengths).symm

theorem word_outruns_symbol {a b : TokenKind} (ha : a.IsWord) (hb : b ∈ symbols) :
    Outruns a b := by
  intro cs n m hn hm
  obtain ⟨c, rest, rfl, hc⟩ := initial_of_lexeme hm
  have hstart := (initial_symbol hb hc).1
  rw [← ha.initial] at hstart
  rw [lexemeLength?_none hstart] at hn
  cases hn

theorem symbols_outrun : symbols.Pairwise Outruns := by
  have hspellings : symbols.Pairwise fun a b =>
      a.spelling <+: b.spelling → b.spelling.length ≤ a.spelling.length := by
    decide
  refine hspellings.imp_of_mem fun {a b} ha hb hle cs n m hn hm => ?_
  obtain ⟨hfrontA, rfl⟩ := symbol_length ha hn
  obtain ⟨hfrontB, rfl⟩ := symbol_length hb hm
  rcases Nat.le_total a.spelling.length b.spelling.length with h | h
  · exact hle (List.prefix_of_prefix_length_le hfrontA hfrontB h)
  · exact h

/-- **The table is in order:** of two kinds that have a lexeme at one place, the one that is tried
    before the other has the longer one, or an equal one. -/
theorem all_outrun : all.Pairwise Outruns := by
  let words := Keyword.all.map keyword ++ [identifier]
  have hwords : ∀ kind ∈ words, kind.IsWord := by
    intro kind hkind
    rcases List.mem_append.1 hkind with hkind | hkind
    · obtain ⟨k, -, rfl⟩ := List.mem_map.1 hkind
      exact .inr ⟨k, rfl⟩
    · exact .inl (List.mem_singleton.1 hkind)
  have hothers : ∀ kind ∈ number :: (words ++ symbols), kind ≠ string := by decide
  have hall : all = string :: number :: (words ++ symbols) := rfl
  rw [hall]
  refine .cons (fun b hb => string_outruns (hothers b hb)) (.cons (fun b hb => ?_)
    (List.pairwise_append.2 ⟨?_, symbols_outrun, fun a ha b hb =>
      word_outruns_symbol (hwords a ha) hb⟩))
  · rcases List.mem_append.1 hb with hb | hb
    · exact number_outruns_word (hwords b hb)
    · exact number_outruns_symbol hb
  · exact List.pairwise_of_forall_mem_list fun a ha b hb =>
      word_outruns_word (hwords a ha) (hwords b hb)

end TokenKind

theorem findSome?_pairwise {α β : Type} {R : α → α → Prop} {f : α → Option β} {l : List α} {b : β}
    (h : l.Pairwise R) (hfound : l.findSome? f = some b) :
    ∃ a ∈ l, f a = some b ∧ ∀ x ∈ l, f x ≠ none → x = a ∨ R a x := by
  obtain ⟨front, a, back, rfl, ha, hfront⟩ := List.findSome?_eq_some_iff.1 hfound
  refine ⟨a, by simp, ha, fun x hx hsome => ?_⟩
  obtain ⟨-, hback, -⟩ := List.pairwise_append.1 h
  rcases List.mem_append.1 hx with hx | hx
  · exact absurd (hfront x hx) hsome
  · exact (List.mem_cons.1 hx).imp_right (List.rel_of_pairwise_cons hback)

/-- **The first lexeme is a longest one.** -/
theorem firstLexeme?_longest {cs : List Char} {kind other : TokenKind} {n m : Nat}
    (h : firstLexeme? cs = some (kind, n)) (hother : other.lexemeLength? cs = some m) : m ≤ n := by
  obtain ⟨first, -, hfirst, houtruns⟩ := findSome?_pairwise TokenKind.all_outrun h
  obtain ⟨_, hlength, heq⟩ := Option.map_eq_some_iff.1 hfirst
  obtain ⟨rfl, rfl⟩ := Prod.mk.inj heq
  rcases houtruns other other.mem_all (by simp [hother]) with rfl | houtruns
  · rw [hlength] at hother
    exact Nat.le_of_eq (Option.some.inj hother).symm
  · exact houtruns cs _ _ hlength hother

/-- The number `-1.5` is longer than the minus sign. -/
example : firstLexeme? ['-', '1', '.', '5', '<', '2'] = some (.number, 4) := by decide

/-! ## Where no lexeme begins -/

/-- The characters other than digits and letters that lexemes begin with. -/
def openingSigns : List Char :=
  ['_', '"', '!', '=', '<', '>', '+', '-', '*', '/', '?', ':', '(', ')', ',']

/-- The characters that lexemes begin with. -/
def Begins (c : Char) : Prop :=
  Text.isDecimalDigit c = true ∨ c.isAlpha = true ∨ c ∈ openingSigns

/-- No lexeme begins at a character that some text follows: at a quote without a second one, at an
    exclamation mark without a sign of equality, and at a character that none begins with. -/
def BeginsNone (c : Char) (cs : List Char) : Prop :=
  (c = '"' ∧ '"' ∉ cs) ∨ (c = '!' ∧ cs.head? ≠ some '=') ∨ ¬ Begins c

theorem isNameStart_iff {c : Char} : isNameStart c = true ↔ c.isAlpha = true ∨ c = '_' := by
  simp [isNameStart]

theorem begins_iff {c : Char} : Begins c ↔ ∃ kind : TokenKind, kind.initial c = true := by
  have hname : isNameStart c = true → ∃ kind : TokenKind, kind.initial c = true :=
    fun hc => ⟨.identifier, hc⟩
  constructor
  · rintro (hc | hc | hc)
    · exact ⟨.number, by simp [TokenKind.initial, hc]⟩
    · exact hname (isNameStart_iff.2 (.inl hc))
    · have hall : ∀ c ∈ openingSigns, ∃ kind ∈ TokenKind.all, kind.initial c = true :=
        List.forall_iff_forall_mem.1 (by decide)
      obtain ⟨kind, -, hkind⟩ := hall c hc
      exact ⟨kind, hkind⟩
  · rintro ⟨kind, hc⟩
    rcases kind.family with rfl | rfl | hword | hsymbol
    · obtain rfl : c = '"' := beq_iff_eq.1 hc
      exact .inr (.inr (by decide))
    · rcases Bool.or_eq_true_iff.1 hc with hc | hc
      · exact .inl hc
      · obtain rfl : c = '-' := beq_iff_eq.1 hc
        exact .inr (.inr (by decide))
    · rw [hword.initial] at hc
      rcases isNameStart_iff.1 hc with hc | rfl
      · exact .inr (.inl hc)
      · exact .inr (.inr (by decide))
    · have hsigns : ∀ kind ∈ TokenKind.symbols,
          kind.spelling.head?.all openingSigns.contains = true := by
        decide
      have hsign := hsigns kind hsymbol
      rw [(TokenKind.symbol_rule hsymbol).2.1] at hc
      rw [beq_iff_eq.1 hc, Option.all_some] at hsign
      exact .inr (.inr (List.contains_iff_mem.1 hsign))

/-- A lexeme begins at every character that lexemes begin with, but for two of them. -/
theorem Begins.lexeme {c : Char} (h : Begins c) (hquote : c ≠ '"') (hmark : c ≠ '!')
    (cs : List Char) : ∃ kind n, TokenKind.lexemeLength? kind (c :: cs) = some n := by
  have hname : isNameStart c = true → ∃ kind n, TokenKind.lexemeLength? kind (c :: cs) = some n :=
    fun hc => ⟨.identifier, _, if_pos hc⟩
  rcases h with hc | hc | hc
  · have hminus : c ≠ '-' := Text.ne_of_decimalDigit hc (by decide) (by decide)
    have hdigits : unsignedLength? (c :: cs) ≠ none := by simp [unsignedLength?, hc]
    obtain ⟨n, hn⟩ := Option.ne_none_iff_exists'.1 hdigits
    exact ⟨.number, n, by simp [TokenKind.lexemeLength?, numberLength?, hminus, hn]⟩
  · exact hname (isNameStart_iff.2 (.inl hc))
  · have hsigns : ∀ c ∈ openingSigns,
        c = '"' ∨ c = '!' ∨ c = '_' ∨ ∃ kind ∈ TokenKind.symbols, kind.spelling = [c] :=
      List.forall_iff_forall_mem.1 (by decide)
    rcases hsigns c hc with hc | hc | hc | ⟨kind, hkind, hspelling⟩
    · exact absurd hc hquote
    · exact absurd hc hmark
    · exact hname (isNameStart_iff.2 (.inr hc))
    · refine ⟨kind, 1, ?_⟩
      rw [(TokenKind.symbol_rule hkind).2.2, hspelling]
      simp [spellingLength?]

theorem lexemeLength?_eq_none_iff {c : Char} {cs : List Char} :
    (∀ kind : TokenKind, kind.lexemeLength? (c :: cs) = none) ↔ BeginsNone c cs := by
  constructor
  · intro h
    by_cases hquote : c = '"'
    · subst hquote
      refine .inl ⟨rfl, fun hmem => ?_⟩
      simpa [TokenKind.lexemeLength?, stringLength?, hmem] using h .string
    by_cases hmark : c = '!'
    · subst hmark
      refine .inr (.inl ⟨rfl, fun hequal => ?_⟩)
      obtain ⟨rest, rfl⟩ := List.head?_eq_some_iff.1 hequal
      cases h (.operator .ne)
    · refine .inr (.inr fun hbegins => ?_)
      obtain ⟨kind, n, hlexeme⟩ := hbegins.lexeme hquote hmark cs
      rw [h kind] at hlexeme
      cases hlexeme
  · rintro (⟨rfl, hopen⟩ | ⟨rfl, hapart⟩ | hnone) kind
    · by_cases hkind : kind = .string
      · subst hkind
        simp [TokenKind.lexemeLength?, stringLength?, hopen]
      · exact TokenKind.lexemeLength?_quote hkind cs
    · by_cases hkind : kind = .operator .ne
      · subst hkind
        cases cs with
        | nil => rfl
        | cons d cs =>
          have hd : '=' ≠ d := fun heq => hapart (heq ▸ rfl)
          simp [TokenKind.lexemeLength?, spellingLength?, Operator.symbol, hd]
      · have hothers : ∀ kind ∈ TokenKind.all, kind ≠ .operator .ne → kind.initial '!' = false := by
          decide
        exact TokenKind.lexemeLength?_none (hothers kind kind.mem_all hkind) cs
    · refine TokenKind.lexemeLength?_none ?_ cs
      rw [← Bool.not_eq_true]
      exact fun hc => hnone (begins_iff.2 ⟨kind, hc⟩)

/-! ## Where the lexer looks -/

namespace Lexer

/-- Reading a text, the lexer comes to `rest` after `count` tokens. It first goes over blanks. -/
inductive Visits : List Char → Nat → List Char → Prop
  | here (cs : List Char) : Visits cs 0 (cs.dropWhile Text.isBlank)
  | onward {cs rest : List Char} {kind : TokenKind} {n count : Nat} :
      firstLexeme? (cs.dropWhile Text.isBlank) = some (kind, n) →
      Visits ((cs.dropWhile Text.isBlank).drop n) count rest → Visits cs (count + 1) rest

namespace Visits

variable {cs rest w : List Char} {count : Nat}

theorem length_le (h : Visits cs count rest) : count + rest.length ≤ cs.length := by
  induction h with
  | here cs => simpa using (List.dropWhile_suffix (l := cs) Text.isBlank).length_le
  | @onward cs rest kind n count hfirst _ ih =>
    have hpos := firstLexeme?_pos hfirst
    have hle := TokenKind.lexemeLength?_le (lexemeLength?_of_first hfirst)
    have hblank := (List.dropWhile_suffix (l := cs) Text.isBlank).length_le
    rw [List.length_drop] at ih
    omega

theorem visible (h : Visits cs count rest) : ∀ c ∈ rest.head?, Text.isBlank c = false := by
  induction h with
  | here cs =>
    intro c hc
    have hnot := List.head?_dropWhile_not Text.isBlank cs
    rw [Option.mem_def.1 hc] at hnot
    simpa using hnot
  | onward _ _ ih => exact ih

theorem blanks_iff (hw : ∀ c ∈ w, Text.isBlank c = true) :
    Visits (w ++ cs) count rest ↔ Visits cs count rest := by
  have hdrop : (w ++ cs).dropWhile Text.isBlank = cs.dropWhile Text.isBlank :=
    List.dropWhile_append_of_pos hw
  constructor
  · intro h
    cases h with
    | here => rw [hdrop]; exact .here cs
    | onward hfirst h => rw [hdrop] at hfirst h; exact .onward hfirst h
  · intro h
    cases h with
    | here => rw [← hdrop]; exact .here _
    | onward hfirst h => rw [← hdrop] at hfirst h; exact .onward hfirst h

theorem of_lexeme {kind : TokenKind} {n : Nat} (hfirst : firstLexeme? cs = some (kind, n)) :
    Visits cs count rest ↔
      (count = 0 ∧ rest = cs) ∨ ∃ k, count = k + 1 ∧ Visits (cs.drop n) k rest := by
  have hdrop : cs.dropWhile Text.isBlank = cs := by
    cases cs with
    | nil => rfl
    | cons c cs =>
      refine List.dropWhile_cons_of_neg fun hb => ?_
      simp [firstLexeme?_blank hb] at hfirst
  have hhere : Visits cs 0 (cs.dropWhile Text.isBlank) := .here cs
  constructor
  · intro h
    cases h with
    | here => exact .inl ⟨rfl, hdrop⟩
    | onward hnext h =>
      rw [hdrop] at hnext h
      cases hfirst.symm.trans hnext
      exact .inr ⟨_, rfl, h⟩
  · rintro (⟨rfl, rfl⟩ | ⟨k, rfl, h⟩)
    · rwa [hdrop] at hhere
    · exact .onward (by rwa [hdrop]) (by rwa [hdrop])

theorem of_refused {c : Char} (hc : Text.isBlank c = false)
    (hnone : firstLexeme? (c :: cs) = none) :
    Visits (c :: cs) count rest ↔ count = 0 ∧ rest = c :: cs := by
  have hdrop : (c :: cs).dropWhile Text.isBlank = c :: cs :=
    List.dropWhile_cons_of_neg (by simp [hc])
  have hhere : Visits (c :: cs) 0 ((c :: cs).dropWhile Text.isBlank) := .here _
  constructor
  · intro h
    cases h with
    | here => exact ⟨rfl, hdrop⟩
    | onward hnext h =>
      rw [hdrop, hnone] at hnext
      cases hnext
  · rintro ⟨rfl, rfl⟩
    rwa [hdrop] at hhere

end Visits

/-- **A text is read** if and only if the lexer comes to its end, after as many tokens as it has. -/
theorem tokens_ok_iff (p : Position) (cs : List Char) (count : Nat) :
    (∃ ts, tokens p cs = .ok ts ∧ ts.length = count) ↔ Visits cs count [] := by
  induction p, cs using text_induction generalizing count with
  | nil p =>
    rw [tokens_nil]
    constructor
    · rintro ⟨ts, hts, rfl⟩
      cases hts
      exact .here []
    · intro h
      obtain rfl : count = 0 := by simpa using h.length_le
      exact ⟨[], rfl, rfl⟩
  | blanks p w cs hw ih => rw [tokens_blanks hw, ih, Visits.blanks_iff hw]
  | refused p c cs hc hnone =>
    rw [Visits.of_refused hc hnone]
    simp [tokens_visible hc, readFrom, hnone]
  | lexeme p cs kind n hfirst ih =>
    have hne : cs ≠ [] := by
      rintro rfl
      simp [firstLexeme?_nil] at hfirst
    rw [Visits.of_lexeme hfirst]
    constructor
    · rintro ⟨ts, hts, rfl⟩
      obtain ⟨us, hus, rfl⟩ := tokens_lexeme_ok hfirst hts
      exact .inr ⟨us.length, rfl, (ih _).1 ⟨us, hus, rfl⟩⟩
    · rintro (⟨-, hnil⟩ | ⟨k, rfl, h⟩)
      · exact absurd hnil.symm hne
      · obtain ⟨us, hus, rfl⟩ := (ih k).2 h
        rw [tokens_lexeme hfirst, hus]
        exact ⟨_, rfl, rfl⟩

/-- **A text is refused** if and only if the lexer looks where no kind has a lexeme. -/
theorem tokens_error_iff (p : Position) (cs : List Char) :
    (∃ d, tokens p cs = .error d) ↔
      ∃ count c rest, Visits cs count (c :: rest) ∧ firstLexeme? (c :: rest) = none := by
  induction p, cs using text_induction with
  | nil p =>
    rw [tokens_nil]
    constructor
    · rintro ⟨d, hd⟩
      cases hd
    · rintro ⟨count, c, rest, h, -⟩
      have hle := h.length_le
      simp at hle
  | blanks p w cs hw ih => simp only [tokens_blanks hw, ih, Visits.blanks_iff hw]
  | refused p c cs hc hnone =>
    constructor
    · exact fun _ => ⟨0, c, cs, (Visits.of_refused hc hnone).2 ⟨rfl, rfl⟩, hnone⟩
    · intro _
      simp [tokens_visible hc, readFrom, hnone]
  | lexeme p cs kind n hfirst ih =>
    have hrest : (∃ d, tokens p cs = .error d) ↔
        ∃ d, tokens (p.advanceAll (cs.take n)) (cs.drop n) = .error d := by
      rw [tokens_lexeme hfirst]
      cases tokens (p.advanceAll (cs.take n)) (cs.drop n) <;> simp [Except.map]
    rw [hrest, ih]
    constructor
    · rintro ⟨count, c, rest, h, hnone⟩
      exact ⟨count + 1, c, rest, (Visits.of_lexeme hfirst).2 (.inr ⟨count, rfl, h⟩), hnone⟩
    · rintro ⟨count, c, rest, h, hnone⟩
      rcases (Visits.of_lexeme hfirst).1 h with ⟨-, rfl⟩ | ⟨k, -, h⟩
      · rw [hnone] at hfirst
        cases hfirst
      · exact ⟨k, c, rest, h, hnone⟩

end Lexer

/-- **The lexer takes a longest lexeme and refuses exactly what begins none.** Where a lexeme is
    taken it has at least one character, and no kind has a longer one there. No kind has a lexeme at
    an open quote, at an exclamation mark without a sign of equality and at a character that none
    begins with, and nowhere else. A script is read if the lexer comes to its end and refused if it
    comes to such a place, which it does after no more tokens than there are characters before. -/
theorem tokenize_longest :
    (∀ (c : Char) (cs : List Char) (kind : TokenKind) (n : Nat),
      firstLexeme? (c :: cs) = some (kind, n) →
        1 ≤ n ∧ kind.lexemeLength? (c :: cs) = some n ∧
          ∀ (other : TokenKind) (m : Nat), other.lexemeLength? (c :: cs) = some m → m ≤ n) ∧
    (∀ (c : Char) (cs : List Char),
      (firstLexeme? (c :: cs) = none ↔ ∀ kind : TokenKind, kind.lexemeLength? (c :: cs) = none) ∧
        ((∀ kind : TokenKind, kind.lexemeLength? (c :: cs) = none) ↔ BeginsNone c cs)) ∧
    ∀ source : String,
      (∀ count, (∃ ts, tokenize source = .ok ts ∧ ts.length = count) ↔
        Lexer.Visits source.toList count []) ∧
      ((∃ d, tokenize source = .error d) ↔
        ∃ count c rest, Lexer.Visits source.toList count (c :: rest) ∧ BeginsNone c rest) ∧
      ∀ count rest, Lexer.Visits source.toList count rest →
        count + rest.length ≤ source.length := by
  have hfirst : ∀ (c : Char) (cs : List Char),
      firstLexeme? (c :: cs) = none ↔ ∀ kind : TokenKind, kind.lexemeLength? (c :: cs) = none :=
    fun c cs => ⟨fun h => firstLexeme?_eq_none h, fun h =>
      List.findSome?_eq_none_iff.2 fun kind _ => by rw [h kind]; rfl⟩
  refine ⟨fun c cs kind n h => ⟨firstLexeme?_pos h, lexemeLength?_of_first h,
    fun other m => firstLexeme?_longest h⟩, fun c cs => ⟨hfirst c cs, lexemeLength?_eq_none_iff⟩,
    fun source => ⟨Lexer.tokens_ok_iff {} source.toList, ?_, fun count rest h => ?_⟩⟩
  · have herror := Lexer.tokens_error_iff {} source.toList
    simp only [hfirst, lexemeLength?_eq_none_iff] at herror
    exact herror
  · rw [← String.length_toList]
    exact h.length_le

end GridSketch
