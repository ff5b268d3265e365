import GridSketch.Proofs.Session.Variables
import GridSketch.Proofs.Token.Reserved

/-!
# Keywords as variables

A keyword that is read as a name stands for a variable. No script can set this variable, because a
number stands where the sign of assignment would have to; a script can only ask for its value.

* `Session.keywords_reserved`: which spellings of keywords are read as names, and what follows for
  variables and for a script that is printed and read again.
-/

namespace GridSketch

namespace Session

/-- **Keywords are reserved, but before a digit outside ASCII.** Take a text that can be read.

    * A token is a name that is spelled as a keyword if, and only if, its lexeme is that of a
      keyword and a decimal digit outside ASCII directly follows it.
    * With single spaces between its tokens, the text is read as the same tokens, but for these
      names, which are keywords there. So it is read as the same tokens if there are none of them.
    * A run never sets a variable with the name of a keyword.
    * If there are none of these names, neither a run nor the calculator reads such a variable:
      whatever its value is, and whether or not it has one, makes no difference. -/
theorem keywords_reserved {source : String} {ts : List Token} (h : tokenize source = .ok ts) :
    (∃ l : Layout, l.Reads [] [] ∧ l.tokens = ts ∧ source.toList = l.text ∧
      ∀ front p back, l.pieces = front ++ p :: back →
        (p.token.Reserved ↔ (∃ k : Keyword, p.token.lexeme = k.word.toList) ∧
          ∃ c ∈ (p.gap ++ back.flatMap (·.text)).head?, Text.isForeignDigit c = true)) ∧
    (∃ us, tokenize (String.ofList (print (fun _ => [' ']) (ts.map Token.content))) = .ok us ∧
      us.map Token.content = ts.map (fun t => t.content.settle) ∧
      (us.map Token.content = ts.map Token.content ↔ ∀ t ∈ ts, ¬ t.Reserved)) ∧
    (∀ (k : Keyword) (s : Session),
      (s.runIncremental source).1.state.bindings.get? k.word = s.state.bindings.get? k.word) ∧
    ((∀ t ∈ ts, ¬ t.Reserved) → ∀ k : Keyword,
      (∀ s s' : Session, s.forget k.word = s'.forget k.word →
        (s.runIncremental source).2 = (s'.runIncremental source).2 ∧
        (s.runIncremental source).1.forget k.word = (s'.runIncremental source).1.forget k.word) ∧
      ∀ vars vars' : Variables, vars.without k.word = vars'.without k.word →
        Expression.calculate vars source = Expression.calculate vars' source) := by
  have hspace : ∀ _ : Nat, Separates [' '] := fun _ =>
    ⟨by decide, List.all_eq_true.1 (by decide)⟩
  refine ⟨?_, ?_, fun k s => ?_, fun hnone k => ?_⟩
  · obtain ⟨l, hreads, htokens, htext⟩ := tokenize_layout h
    exact ⟨l, hreads, htokens, htext, fun _ _ _ hpieces => hreads.reserved_iff hpieces⟩
  · obtain ⟨us, hus, hcontents⟩ := tokenize_reprint h hspace
    refine ⟨us, hus, hcontents, ?_⟩
    rw [hcontents, List.map_inj_left]
    exact forall₂_congr fun _ _ => settle_content_iff
  · refine runIncremental_keeps (fun us hus => ?_) s
    obtain rfl : ts = us := Except.ok.inj (h.symm.trans hus)
    rintro name sign hpair hname hsign htext
    have hnumber := reserved_next h hpair ⟨hname, k, htext⟩
    rw [hsign] at hnumber
    cases hnumber
  · have hunnamed : ∀ t ∈ ts, t.kind = .identifier → t.text ≠ k.word := fun t ht hkind htext =>
      hnone t ht ⟨hkind, k, htext⟩
    exact ⟨fun _ _ hs => runIncremental_forget h hunnamed hs, fun _ _ hvars =>
      Expression.calculate_without h hunnamed hvars⟩

/-- In `circle٣` the spelling of a keyword is a name, and in `circle ٣` it is not. -/
theorem keywords_reserved_digit :
    let name : Token := ⟨.identifier, "circle", ⟨1, 1⟩⟩
    let digit : Token := ⟨.number, "٣", ⟨1, 7⟩⟩
    tokenize "circle٣" = .ok [name, digit] ∧ name.Reserved ∧
      (∃ us, tokenize "circle ٣" = .ok us ∧
        us.map Token.content = [⟨.keyword .circle, "circle"⟩, ⟨.number, "٣"⟩]) ∧
      ∀ s : Session, (s.runIncremental "circle٣").1.state.bindings.get? "circle" =
        s.state.bindings.get? "circle" := by
  intro name digit
  have htokens : tokenize "circle٣" = .ok [name, digit] := by decide +kernel
  have hprint : String.ofList (print (fun _ => [' ']) ([name, digit].map Token.content)) =
      "circle ٣" := by
    decide +kernel
  obtain ⟨-, ⟨us, hus, hcontents, -⟩, hkeeps, -⟩ := keywords_reserved htokens
  rw [hprint] at hus
  exact ⟨htokens, ⟨rfl, .circle, rfl⟩, ⟨us, hus, hcontents⟩, hkeeps .circle⟩

/-- **A keyword can be read as a name,** and so it can be read as a variable. -/
theorem keyword_read_as_name :
    (¬ ∀ source ts, tokenize source = .ok ts → ∀ t ∈ ts, ∀ k : Keyword,
      t.kind = .identifier → t.text ≠ k.word) ∧
    (runIncremental { state := { bindings := [("circle", .text "seen")] } } "circle٣").2.lines =
      ["seen"] := by
  refine ⟨fun hall => ?_, by decide +kernel⟩
  have htokens : tokenize "circle٣" =
      .ok [⟨.identifier, "circle", ⟨1, 1⟩⟩, ⟨.number, "٣", ⟨1, 7⟩⟩] := by
    decide +kernel
  exact hall _ _ htokens _ List.mem_cons_self .circle rfl rfl

end Session

end GridSketch
