import GridSketch.Proofs.Token.Layout
import GridSketch.Proofs.Token.Place

/-!
# Scripts put together

Two texts with blanks between them are one script. If the first can be read, the script has its
tokens and then those of the second, further down by the lines of what stands before it. Only the
first line of the second text goes on with a line that has been begun, so only there do the columns
move.

* `Position.shift` moves a place; `Position.behind_after` says that it is what reading on does.
* `tokenize_composes`: the tokens of the script, or where it is refused.
-/

namespace GridSketch

/-- A place that is moved down by some lines and, if it is in the first one, to the right by some
    columns. -/
def Position.shift (lines cols : Nat) (q : Position) : Position :=
  ⟨q.line + lines, if q.line = 1 then q.col + cols else q.col⟩

/-- A token that is moved. -/
def Token.shift (lines cols : Nat) (t : Token) : Token :=
  { t with position := t.position.shift lines cols }

/-- The last line of a text, from its end to its beginning. -/
def lastLine (cs : List Char) : List Char := cs.reverse.takeWhile (· != '\n')

/-- A text behind another one is moved by the line breaks of that one, and its first line by the
    characters of that one's last. -/
theorem Position.behind_after (before : List Char) (q : Position) :
    (after before).behind q = q.shift (before.count '\n') (lastLine before).length := by
  obtain ⟨line, col⟩ := q
  by_cases hline : line = 1
  · simp only [behind, shift, after, lastLine, hline, if_true, Position.mk.injEq, true_and]
    omega
  · simp only [behind, shift, after, lastLine, hline, if_false, Position.mk.injEq, and_true]
    omega

theorem tokenize_refused {source : String} {d : Diagnostic} (h : tokenize source = .error d) :
    ∃ p snippet, d = .atPosition p (.noToken snippet) := by
  have happart := Lexer.takesApart source
  rw [h] at happart
  obtain ⟨l, c, rest, -, -, -, -, rfl⟩ := happart
  exact ⟨_, _, rfl⟩

/-- **Reading goes through blanks part by part.** A script that is a text that can be read, blanks
    and a second text has the tokens of the first text and those of the second one. These are so
    many lines further down as there are line breaks before them, and those in the first line of
    the second text are so many columns to the right as there are characters after the last of
    these line breaks. If the second text is refused, so is the script, at the place that is moved
    likewise, and the same is shown. -/
theorem tokenize_composes {first blanks second : String} {ts : List Token}
    (hfirst : tokenize first = .ok ts) (hblanks : ∀ c ∈ blanks.toList, Text.isBlank c = true)
    (hne : blanks ≠ "") :
    let before := first.toList ++ blanks.toList
    let lines := before.count '\n'
    let cols := (lastLine before).length
    match tokenize second with
    | .ok us => tokenize (first ++ blanks ++ second) = .ok (ts ++ us.map (Token.shift lines cols))
    | .error d => ∃ p snippet, d = .atPosition p (.noToken snippet) ∧
        tokenize (first ++ blanks ++ second) =
          .error (.atPosition (p.shift lines cols) (.noToken snippet)) := by
  intro before lines cols
  have hplace : ({} : Position).advanceAll (first ++ blanks).toList = .after before := by
    rw [String.toList_append]
    exact Position.advanceAll_after [] before
  have hshift : Token.behind (.after before) = Token.shift lines cols := by
    funext t
    rw [Token.behind, Position.behind_after, Token.shift]
  rw [tokenize_append hfirst hblanks fun hnil => hne (String.toList_eq_nil_iff.1 hnil), hplace]
  cases hsecond : tokenize second with
  | ok us =>
    rw [← hshift]
    rfl
  | error d =>
    obtain ⟨p, snippet, rfl⟩ := tokenize_refused hsecond
    exact ⟨p, snippet, rfl, by rw [← Position.behind_after]; rfl⟩

/-- A second text behind a literal of two lines. -/
theorem tokenize_composes_two_lines :
    let first := "color \"deep\nred\""
    let blanks := " \t"
    let second := "line 1\n2 3 4"
    let ts : List Token :=
      [⟨.keyword .color, "color", ⟨1, 1⟩⟩, ⟨.string, "deep\nred", ⟨1, 7⟩⟩]
    let us : List Token :=
      [⟨.keyword .line, "line", ⟨1, 1⟩⟩, ⟨.number, "1", ⟨1, 6⟩⟩, ⟨.number, "2", ⟨2, 1⟩⟩,
        ⟨.number, "3", ⟨2, 3⟩⟩, ⟨.number, "4", ⟨2, 5⟩⟩]
    tokenize first = .ok ts ∧ (∀ c ∈ blanks.toList, Text.isBlank c = true) ∧ blanks ≠ "" ∧
      tokenize second = .ok us ∧
      tokenize (first ++ blanks ++ second) = .ok (ts ++
        [⟨.keyword .line, "line", ⟨2, 7⟩⟩, ⟨.number, "1", ⟨2, 12⟩⟩, ⟨.number, "2", ⟨3, 1⟩⟩,
          ⟨.number, "3", ⟨3, 3⟩⟩, ⟨.number, "4", ⟨3, 5⟩⟩]) := by
  intro first blanks second ts us
  have hfirst : tokenize first = .ok ts := by decide +kernel
  have hblanks : ∀ c ∈ blanks.toList, Text.isBlank c = true := List.all_eq_true.1 (by decide)
  have hsecond : tokenize second = .ok us := by decide +kernel
  have hwhole := @tokenize_composes first blanks second ts hfirst hblanks (by decide)
  rw [hsecond] at hwhole
  have hlines : (first.toList ++ blanks.toList).count '\n' = 1 := by decide
  have hcols : (lastLine (first.toList ++ blanks.toList)).length = 6 := by decide
  simp only [hlines, hcols] at hwhole
  exact ⟨hfirst, hblanks, by decide, hsecond, hwhole⟩

end GridSketch
