import GridSketch.Number.Numeral
import GridSketch.Token.Lexeme
import Mathlib.Data.List.TakeDrop
import Mathlib.Data.List.TakeWhile

/-!
# Number literals

A number literal is an optional minus sign, digits and an optional fraction. What the lexer takes
for a number is one that the arithmetic can read.

* `ofText?_literal`: every number literal has a value.
-/

namespace GridSketch

namespace Text

/-! ## Where the decimal digits lie -/

theorem decimalDigit_mem_run {c : Char} (h : isDecimalDigit c = true) :
    ∃ start ∈ digitZeros, start ≤ c.toNat ∧ c.toNat ≤ start + 9 := by
  obtain ⟨n, hn⟩ := Option.isSome_iff_exists.1 h
  obtain ⟨start, hz, -⟩ := Option.map_eq_some_iff.1 hn
  exact ⟨start, List.mem_of_find?_eq_some hz, by simpa using List.find?_some hz⟩

/-- The decimal digits of ASCII come first, and the next script begins far above them. -/
theorem decimalDigit_cases {c : Char} (h : isDecimalDigit c = true) :
    (0x30 ≤ c.toNat ∧ c.toNat ≤ 0x39) ∨ 0x660 ≤ c.toNat := by
  obtain ⟨start, hz, hlow, hhigh⟩ := decimalDigit_mem_run h
  have hstarts : ∀ z ∈ digitZeros, z = 0x30 ∨ 0x660 ≤ z := by decide
  have := hstarts start hz
  omega

theorem ne_of_decimalDigit {c d : Char} (h : isDecimalDigit c = true)
    (hd : d.toNat < 0x30 ∨ 0x39 < d.toNat) (hascii : d.toNat < 0x80) : c ≠ d := by
  rintro rfl
  have := decimalDigit_cases h
  omega

theorem not_isBlank_of_decimalDigit {c : Char} (h : isDecimalDigit c = true) :
    isBlank c = false := by
  obtain ⟨start, hz, hlow, hhigh⟩ := decimalDigit_mem_run h
  have hapart : ∀ range ∈ blankRanges, ∀ z ∈ digitZeros, range.2 < z ∨ z + 9 < range.1 := by
    decide
  rw [← Bool.not_eq_true]
  intro hb
  obtain ⟨range, hr, hbl, hbh⟩ := inRanges_iff.1 hb
  have := hapart range hr start hz
  omega

end Text

namespace Number

open Numeral

/-! ## Texts without margins and underscores -/

theorem trimMargins_eq_self {cs : List Char} (h : ∀ c ∈ cs, isMargin c = false) :
    trimMargins cs = cs := by
  have hdrop : ∀ ds : List Char, (∀ c ∈ ds, isMargin c = false) → ds.dropWhile isMargin = ds := by
    intro ds hds
    cases ds with
    | nil => rfl
    | cons d ds => simp [hds d (by simp)]
  rw [trimMargins, hdrop cs h, hdrop cs.reverse fun c hc => h c (List.mem_reverse.1 hc),
    List.reverse_reverse]

theorem dropUnderscores_eq_some {cs : List Char} (h : '_' ∉ cs) (afterDigit : Bool) :
    dropUnderscores afterDigit cs = some cs := by
  induction cs generalizing afterDigit with
  | nil => simp [dropUnderscores]
  | cons c cs ih =>
    have hc : c ≠ '_' := fun heq => h (by simp [heq])
    rw [dropUnderscores.eq_3 _ _ _ (by rintro _ _ rfl; exact absurd rfl hc), if_neg hc,
      ih fun hm => h (List.mem_cons_of_mem _ hm)]
    rfl

/-! ## Literals -/

/-- Digits with an optional fraction. -/
inductive Unsigned : List Char → Prop
  | whole {ds} : ds ≠ [] → (∀ c ∈ ds, Text.isDecimalDigit c = true) → Unsigned ds
  | fraction {ds fs} : ds ≠ [] → (∀ c ∈ ds, Text.isDecimalDigit c = true) →
      fs ≠ [] → (∀ c ∈ fs, Text.isDecimalDigit c = true) → Unsigned (ds ++ '.' :: fs)

theorem Unsigned.first {cs : List Char} (h : Unsigned cs) :
    ∃ c rest, cs = c :: rest ∧ Text.isDecimalDigit c = true := by
  cases h with
  | whole hne hds =>
    obtain ⟨c, rest, rfl⟩ := List.exists_cons_of_ne_nil hne
    exact ⟨c, rest, rfl, hds c (by simp)⟩
  | fraction hne hds =>
    obtain ⟨c, rest, rfl⟩ := List.exists_cons_of_ne_nil hne
    exact ⟨c, _, rfl, hds c (by simp)⟩

theorem Unsigned.chars {cs : List Char} (h : Unsigned cs) :
    ∀ c ∈ cs, Text.isDecimalDigit c = true ∨ c = '.' := by
  intro c hc
  cases h with
  | whole _ hds => exact Or.inl (hds c hc)
  | fraction _ hds _ hfs =>
    simp only [List.mem_append, List.mem_cons] at hc
    rcases hc with hc | rfl | hc
    · exact Or.inl (hds c hc)
    · exact Or.inr rfl
    · exact Or.inl (hfs c hc)

theorem take_length_takeWhile {α : Type} (p : α → Bool) (l : List α) :
    l.take (l.takeWhile p).length = l.takeWhile p :=
  (List.prefix_iff_eq_take.1 (List.takeWhile_prefix p)).symm

theorem drop_length_takeWhile (p : Char → Bool) (cs : List Char) :
    cs.drop (cs.takeWhile p).length = cs.dropWhile p := by
  induction cs with
  | nil => rfl
  | cons c cs ih => by_cases h : p c <;> simp [h, ih]

theorem all_takeWhile {p : Char → Bool} {cs : List Char} : ∀ c ∈ cs.takeWhile p, p c = true :=
  List.all_eq_true.1 List.all_takeWhile

theorem take_fractionLength (cs : List Char) :
    cs.take (fractionLength cs) = [] ∨
      ∃ fs, cs.take (fractionLength cs) = '.' :: fs ∧ fs ≠ [] ∧
        ∀ c ∈ fs, Text.isDecimalDigit c = true := by
  unfold fractionLength
  split
  · next cs =>
    dsimp only
    split
    · exact Or.inl rfl
    · next hpos =>
      have hne : cs.takeWhile Text.isDecimalDigit ≠ [] := fun heq => hpos (by rw [heq]; rfl)
      refine Or.inr ⟨cs.takeWhile Text.isDecimalDigit, ?_, hne, all_takeWhile⟩
      rw [List.take_succ_cons, take_length_takeWhile]
  · exact Or.inl rfl

theorem unsigned_take {cs : List Char} {n : Nat} (h : unsignedLength? cs = some n) :
    Unsigned (cs.take n) := by
  simp only [unsignedLength?, drop_length_takeWhile] at h
  split at h
  · cases h
  · next hpos =>
    have hne : cs.takeWhile Text.isDecimalDigit ≠ [] := fun heq => hpos (by rw [heq]; rfl)
    cases h
    rw [List.take_add, take_length_takeWhile, drop_length_takeWhile]
    rcases take_fractionLength (cs.dropWhile Text.isDecimalDigit) with heq | ⟨fs, heq, hnef, hfs⟩
    · rw [heq, List.append_nil]
      exact .whole hne all_takeWhile
    · rw [heq]
      exact .fraction hne all_takeWhile hnef hfs

/-- A number literal is an unsigned one after an optional minus sign. -/
def Literal (cs : List Char) : Prop := Unsigned cs ∨ ∃ ds, cs = '-' :: ds ∧ Unsigned ds

theorem literal_signed (negative : Bool) {cs : List Char} (h : Unsigned cs) :
    Literal (if negative then '-' :: cs else cs) := by
  cases negative with
  | false => exact Or.inl h
  | true => exact Or.inr ⟨cs, rfl, h⟩

theorem Literal.ne_nil {cs : List Char} (h : Literal cs) : cs ≠ [] := by
  rcases h with hu | ⟨ds, rfl, -⟩
  · obtain ⟨c, rest, rfl, -⟩ := hu.first
    exact List.cons_ne_nil c rest
  · exact List.cons_ne_nil '-' ds

theorem Literal.chars {cs : List Char} (h : Literal cs) :
    ∀ c ∈ cs, Text.isDecimalDigit c = true ∨ c = '.' ∨ c = '-' := by
  intro c hc
  rcases h with hu | ⟨ds, rfl, hu⟩
  · exact (hu.chars c hc).imp_right .inl
  · rcases List.mem_cons.1 hc with rfl | hc
    · exact Or.inr (Or.inr rfl)
    · exact (hu.chars c hc).imp_right .inl

theorem literal_take {cs : List Char} {n : Nat} (h : numberLength? cs = some n) :
    Literal (cs.take n) := by
  unfold numberLength? at h
  split at h
  · next ds =>
    obtain ⟨m, hm, rfl⟩ := Option.map_eq_some_iff.1 h
    exact Or.inr ⟨ds.take m, rfl, unsigned_take hm⟩
  · exact Or.inl (unsigned_take h)

/-! ## Reading literals -/

theorem isMargin_of_literal {c : Char} (h : Text.isDecimalDigit c = true ∨ c = '.' ∨ c = '-') :
    isMargin c = false := by
  rcases h with h | rfl | rfl
  · simp [isMargin, Text.not_isBlank_of_decimalDigit h]
  · decide
  · decide

theorem ne_underscore_of_literal {c : Char}
    (h : Text.isDecimalDigit c = true ∨ c = '.' ∨ c = '-') : c ≠ '_' := by
  rcases h with h | rfl | rfl
  · exact Text.ne_of_decimalDigit h (by decide) (by decide)
  · decide
  · decide

theorem clean_literal {cs : List Char}
    (h : ∀ c ∈ cs, Text.isDecimalDigit c = true ∨ c = '.' ∨ c = '-') :
    dropUnderscores false (trimMargins cs) = some cs := by
  rw [trimMargins_eq_self fun c hc => isMargin_of_literal (h c hc)]
  exact dropUnderscores_eq_some (fun hm => ne_underscore_of_literal (h _ hm) rfl) false

theorem splitSign_unsigned {cs : List Char} (h : Unsigned cs) : splitSign cs = (false, cs) := by
  obtain ⟨c, rest, rfl, hc⟩ := h.first
  have hminus := Text.ne_of_decimalDigit (d := '-') hc (by decide) (by decide)
  have hplus := Text.ne_of_decimalDigit (d := '+') hc (by decide) (by decide)
  exact splitSign.eq_3 (c :: rest) (fun _ heq => hminus (List.cons.inj heq).1)
    (fun _ heq => hplus (List.cons.inj heq).1)

theorem integer?_of_digits {cs : List Char} (hne : cs ≠ [])
    (hds : ∀ c ∈ cs, Text.isDecimalDigit c = true) :
    integer? (String.ofList cs) =
      if cs.length ≤ maxIntegerDigits then some (digitsValue cs : Int) else none := by
  have hclean : dropUnderscores false (trimMargins cs) = some cs :=
    clean_literal fun c hc => Or.inl (hds c hc)
  simp [integer?, hclean, splitSign_unsigned (.whole hne hds), hne, and_iff_right hds]

theorem integer?_digits {cs : List Char} (hne : cs ≠ [])
    (hds : ∀ c ∈ cs, Text.isDecimalDigit c = true) (hlen : cs.length ≤ maxIntegerDigits) :
    integer? (String.ofList cs) = some (digitsValue cs : Int) := by
  rw [integer?_of_digits hne hds, if_pos hlen]

theorem Literal.all_isDigit {cs : List Char} (h : Literal cs) :
    cs.all Text.isDigit = true ↔ ∀ c ∈ cs, Text.isDecimalDigit c = true := by
  rw [List.all_eq_true]
  refine forall₂_congr fun c hc => ⟨fun hdigit => ?_, fun hdecimal => by
    rw [Text.isDigit, hdecimal, Bool.true_or]⟩
  rcases h.chars c hc with hdecimal | rfl | rfl
  · exact hdecimal
  · exact absurd hdigit (by decide)
  · exact absurd hdigit (by decide)

theorem toLower_of_decimalDigit {c : Char} (h : Text.isDecimalDigit c = true) :
    c.toLower = c := by
  have hcases := Text.decimalDigit_cases h
  refine dif_neg ?_
  rintro ⟨hlow, hhigh⟩
  simp only [ge_iff_le, UInt32.le_iff_toNat_le] at hlow hhigh
  change 65 ≤ c.toNat at hlow
  change c.toNat ≤ 90 at hhigh
  omega

theorem span_digits (rest : List Char) {ds : List Char}
    (hds : ∀ c ∈ ds, Text.isDecimalDigit c = true)
    (hrest : rest.takeWhile Text.isDecimalDigit = []) :
    (ds ++ rest).span Text.isDecimalDigit = (ds, rest) := by
  have hdrop := List.takeWhile_append_dropWhile (p := Text.isDecimalDigit) (l := rest)
  rw [hrest, List.nil_append] at hdrop
  rw [List.span_eq_takeWhile_dropWhile, List.takeWhile_append_of_pos hds,
    List.dropWhile_append_of_pos hds, hrest, hdrop, List.append_nil]

theorem decimal?_whole (negative : Bool) {ds : List Char} (hne : ds ≠ [])
    (hds : ∀ c ∈ ds, Text.isDecimalDigit c = true) :
    decimal? negative ds = some (.decimal negative (digitsValue ds) 0) := by
  have hspan := span_digits [] hds rfl
  rw [List.append_nil] at hspan
  simp only [decimal?, hspan]
  simp [hne, exponent?]

theorem decimal?_fraction (negative : Bool) {ds fs : List Char} (hne : ds ≠ [])
    (hds : ∀ c ∈ ds, Text.isDecimalDigit c = true) (hfs : ∀ c ∈ fs, Text.isDecimalDigit c = true) :
    decimal? negative (ds ++ '.' :: fs) =
      some (.decimal negative (digitsValue (ds ++ fs)) (-fs.length)) := by
  have hpoint : Text.isDecimalDigit '.' = false := by decide
  have hspan := span_digits ('.' :: fs) hds (by simp [hpoint])
  have hspanf := span_digits [] hfs rfl
  rw [List.append_nil] at hspanf
  simp only [decimal?, hspan, hspanf]
  simp [hne, exponent?]

theorem decimal?_unsigned (negative : Bool) {cs : List Char} (h : Unsigned cs) :
    (decimal? negative cs).isSome = true := by
  cases h with
  | whole hne hds =>
    rw [decimal?_whole negative hne hds]
    rfl
  | fraction hne hds _ hfs =>
    rw [decimal?_fraction negative hne hds hfs]
    rfl

theorem ofChars?_unsigned {cs body : List Char} {negative : Bool}
    (hcs : ∀ c ∈ cs, Text.isDecimalDigit c = true ∨ c = '.' ∨ c = '-')
    (hsign : splitSign cs = (negative, body)) (h : Unsigned body) :
    ofChars? cs = decimal? negative body := by
  obtain ⟨c, rest, rfl, hc⟩ := h.first
  have hi : c ≠ 'i' := Text.ne_of_decimalDigit hc (by decide) (by decide)
  have hn : c ≠ 'n' := Text.ne_of_decimalDigit hc (by decide) (by decide)
  simp [ofChars?, clean_literal hcs, hsign, toLower_of_decimalDigit hc, hi, hn]

theorem ofChars?_signed (negative : Bool) {body : List Char} (h : Unsigned body) :
    ofChars? (if negative then '-' :: body else body) = decimal? negative body := by
  have hchars := (literal_signed negative h).chars
  cases negative with
  | false => exact ofChars?_unsigned hchars (splitSign_unsigned h) h
  | true => exact ofChars?_unsigned hchars rfl h

/-- **Every number literal has a value.** -/
theorem ofText?_literal {cs : List Char} (h : Literal cs) :
    (ofText? (String.ofList cs)).isSome = true := by
  rw [ofText?, String.toList_ofList, Option.isSome_map]
  rcases h with hu | ⟨ds, rfl, hu⟩
  · rw [show ofChars? cs = decimal? false cs from ofChars?_signed false hu]
    exact decimal?_unsigned false hu
  · rw [show ofChars? ('-' :: ds) = decimal? true ds from ofChars?_signed true hu]
    exact decimal?_unsigned true hu

end Number

end GridSketch
