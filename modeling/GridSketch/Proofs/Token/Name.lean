import GridSketch.Proofs.Token.Place

/-!
# Names

A name is made of letters, digits and underscores of ASCII, does not begin with a digit and is no
keyword. A keyword is only read where a word ends, so a name may begin with one.

* `tokenize_name`: a name is read as one identifier.
-/

namespace GridSketch

/-- A text that is a name. -/
def IsName (x : String) : Prop :=
  nameLength? x.toList = some x.toList.length ∧ Keyword.ofWord? x = none

theorem nameStart_range {c : Char} (h : isNameStart c = true) :
    0x41 ≤ c.toNat ∧ c.toNat ≤ 0x7a := by
  rcases Bool.or_eq_true_iff.1 h with h | h
  · change (decide (65 ≤ c.val ∧ c.val ≤ 90) || (decide (97 ≤ c.val) && decide (c.val ≤ 122))) =
      true at h
    simp only [Bool.or_eq_true, Bool.and_eq_true, decide_eq_true_eq, UInt32.le_iff_toNat_le] at h
    change (65 ≤ c.toNat ∧ c.toNat ≤ 90) ∨ (97 ≤ c.toNat ∧ c.toNat ≤ 122) at h
    omega
  · obtain rfl : c = '_' := by simpa using h
    decide

theorem isNameChar_of_isNameStart {c : Char} (h : isNameStart c = true) : isNameChar c = true := by
  rcases Bool.or_eq_true_iff.1 h with h | h
  · exact Bool.or_eq_true_iff.2 (Or.inl (Bool.or_eq_true_iff.2 (Or.inl h)))
  · exact Bool.or_eq_true_iff.2 (Or.inr h)

theorem nameLength?_length {cs : List Char} (h : nameLength? cs = some cs.length) :
    ∃ c rest, cs = c :: rest ∧ isNameStart c = true ∧ ∀ d ∈ cs, isNameChar d = true := by
  unfold nameLength? at h
  split at h
  · next c rest =>
    split at h
    · next hc =>
      have hlen : (rest.takeWhile isNameChar).length = rest.length :=
        Nat.succ.inj (Option.some.inj h)
      have hall : rest.takeWhile isNameChar = rest :=
        (List.takeWhile_prefix isNameChar).eq_of_length hlen
      refine ⟨c, rest, rfl, hc, fun d hd => ?_⟩
      rcases List.mem_cons.1 hd with rfl | hd
      · exact isNameChar_of_isNameStart hc
      · exact List.takeWhile_eq_self_iff.1 hall d hd
    · cases h
  · cases h

theorem isWord_of_isNameChar {c : Char} (h : isNameChar c = true) : Text.isWord c = true := by
  simp only [isNameChar, Bool.or_eq_true] at h
  rcases h with h | h <;> simp [Text.isWord, h]

theorem Keyword.ne_word_of_ofWord? {word : String} (h : ofWord? word = none) (k : Keyword) :
    word.toList ≠ k.word.toList := by
  intro heq
  rw [String.toList_inj.1 heq, ofWord?_word] at h
  cases h

theorem Keyword.word_nameChars (k : Keyword) : ∀ c ∈ k.word.toList, isNameChar c = true :=
  List.all_eq_true.1 (by cases k <;> decide)

section
variable {cs rest : List Char} (hrest : ∀ c ∈ rest.head?, isNameChar c = false)
include hrest

theorem wordLength?_name (hcs : ∀ c ∈ cs, isNameChar c = true) {k : Keyword}
    (hk : cs ≠ k.word.toList) : wordLength? k.word.toList (cs ++ rest) = none := by
  unfold wordLength?
  split
  · next hword =>
    obtain ⟨hfront, hend⟩ := Bool.and_eq_true_iff.1 hword
    have hprefix := List.isPrefixOf_iff_prefix.1 hfront
    rcases List.prefix_or_prefix_of_prefix hprefix (List.prefix_append cs rest) with
      ⟨tail, htail⟩ | ⟨tail, htail⟩
    · -- the name is longer: a word goes on after the keyword
      rw [← htail, List.append_assoc, List.drop_left] at hend
      cases tail with
      | nil => exact absurd (by simpa using htail.symm) hk
      | cons c tail =>
        have hc := isWord_of_isNameChar (hcs c (by simp [← htail]))
        simp [Text.atWordEnd, hc] at hend
    · -- the name is shorter: the text after it would go on with the keyword
      cases tail with
      | nil => exact absurd (by simpa using htail) hk
      | cons c tail =>
        rw [← htail, List.prefix_append_right_inj] at hprefix
        obtain ⟨more, rfl⟩ := hprefix
        have hc := k.word_nameChars c (by simp [← htail])
        rw [hrest c rfl] at hc
        cases hc
  · rfl

end

theorem literal_name {c : Char} (hc : isNameStart c = true) (cs : List Char) :
    stringLength? (c :: cs) = none ∧ numberLength? (c :: cs) = none := by
  have hrange := nameStart_range hc
  have hdigit : Text.isDecimalDigit c = false := by
    rw [← Bool.not_eq_true]
    intro hd
    have := Text.decimalDigit_cases hd
    omega
  have hquote : c ≠ '"' := by
    rintro rfl
    exact absurd hrange (by decide)
  have hminus : c ≠ '-' := by
    rintro rfl
    exact absurd hrange (by decide)
  constructor
  · simp [stringLength?, hquote]
  · simp [numberLength?, unsignedLength?, hminus, hdigit]

theorem nameLength?_append {c : Char} {tail rest : List Char} (hc : isNameStart c = true)
    (hall : ∀ d ∈ tail, isNameChar d = true) (hrest : ∀ d ∈ rest.head?, isNameChar d = false) :
    nameLength? (c :: tail ++ rest) = some (c :: tail).length := by
  simp [nameLength?, hc, takeWhile_exact hall hrest]

theorem firstLexeme?_identifier {cs rest : List Char} (hname : nameLength? cs = some cs.length)
    (hkeyword : ∀ k : Keyword, wordLength? k.word.toList (cs ++ rest) = none)
    (hrest : ∀ c ∈ rest.head?, isNameChar c = false) :
    firstLexeme? (cs ++ rest) = some (.identifier, cs.length) := by
  obtain ⟨c, tail, rfl, hc, hall⟩ := nameLength?_length hname
  have hbefore : ∀ kind ∈ [.string, .number] ++ Keyword.all.map TokenKind.keyword,
      kind.lexemeLength? (c :: tail ++ rest) = none := by
    intro kind hkind
    rcases List.mem_append.1 hkind with hkind | hkind
    · simp only [List.mem_cons, List.not_mem_nil, or_false] at hkind
      rcases hkind with rfl | rfl
      · exact (literal_name hc _).1
      · exact (literal_name hc _).2
    · obtain ⟨k, -, rfl⟩ := List.mem_map.1 hkind
      exact hkeyword k
  have hlength : nameLength? (c :: tail ++ rest) = some (c :: tail).length :=
    nameLength?_append hc (fun d hd => hall d (by simp [hd])) hrest
  refine List.findSome?_eq_some_iff.2 ⟨[.string, .number] ++ Keyword.all.map .keyword,
    .identifier, _, rfl, ?_, fun kind hkind => ?_⟩
  · rw [TokenKind.lexemeLength?, hlength]
    rfl
  · rw [hbefore kind hkind]
    rfl

/-- **A name that is no keyword** is taken where the text after it does not go on with it. -/
theorem firstLexeme?_name {cs rest : List Char} (hname : nameLength? cs = some cs.length)
    (hkeyword : ∀ k : Keyword, cs ≠ k.word.toList)
    (hrest : ∀ c ∈ rest.head?, isNameChar c = false) :
    firstLexeme? (cs ++ rest) = some (.identifier, cs.length) := by
  obtain ⟨_, _, -, -, hall⟩ := nameLength?_length hname
  exact firstLexeme?_identifier hname (fun k => wordLength?_name hrest hall (hkeyword k)) hrest

theorem tokenize_name {x : String} (h : IsName x) : tokenize x = .ok [⟨.identifier, x, {}⟩] := by
  obtain ⟨hlength, hkeyword⟩ := h
  have hfirst : firstLexeme? (x.toList ++ []) = some (.identifier, x.toList.length) :=
    firstLexeme?_name hlength (Keyword.ne_word_of_ofWord? hkeyword) (by simp)
  rw [List.append_nil] at hfirst
  rw [tokenize_single hfirst]
  simp [TokenKind.textOf]

end GridSketch
