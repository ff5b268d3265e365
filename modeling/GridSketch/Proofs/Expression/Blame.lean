import GridSketch.Proofs.Expression.Limits

/-!
# The tokens that an expression is refused for

A failure points at a token of the script. Reading an expression makes tokens of its own, the two
parts of a number with a sign, but the minus sign stands where the number did and the rest of the
number never fails.

* `Diagnostic.Blames`: a diagnostic points at one of the given tokens.
* `evaluate_blames`, `calculate_blames`: an expression that is not empty is refused for one of its
  tokens.
-/

namespace GridSketch

/-- A diagnostic has the place of a token. -/
def Diagnostic.PointsAt (d : Diagnostic) (t : Token) : Prop :=
  d.line = some t.position.line ∧ d.col = some t.position.col

/-- A diagnostic has the place of one of these tokens. -/
def Diagnostic.Blames (d : Diagnostic) (ts : List Token) : Prop := ∃ t ∈ ts, d.PointsAt t

/-- The diagnostic of an expression that is missing at the end of the input. It has no place. -/
def Diagnostic.ofNothing : Diagnostic := ⟨.emptyExpression, none, none⟩

/-- A fault of the script has the place of one of these tokens. -/
def Fault.Blames (ts : List Token) : Fault → Prop
  | script d => d.Blames ts
  | breach _ => True

theorem Fault.Blames.mono {ts all : List Token} {fault : Fault} (h : fault.Blames ts)
    (hts : ∀ t ∈ ts, t ∈ all) : fault.Blames all := by
  cases fault with
  | script d =>
    obtain ⟨t, ht, hd⟩ := h
    exact ⟨t, hts t ht, hd⟩
  | breach b => trivial

theorem Diagnostic.Blames.line {d : Diagnostic} {ts : List Token} (h : d.Blames ts) :
    d.line ≠ none := by
  obtain ⟨t, -, hline, -⟩ := h
  simp [hline]

theorem Diagnostic.blames_atToken {t : Token} {ts : List Token} (h : t ∈ ts) (cause : Cause) :
    (Diagnostic.atToken t cause).Blames ts := ⟨t, h, rfl, rfl⟩

namespace Expression

/-! ## Where the reordered tokens come from -/

/-- A token of the script, or the minus sign of one. -/
def Made (ts : List Token) (u : Token) : Prop :=
  u ∈ ts ∨ ∃ t ∈ ts, ∃ number, t.signSplit? = some (u, number)

theorem signSplit?_position {t minus number : Token} (h : t.signSplit? = some (minus, number)) :
    minus.position = t.position := by
  unfold Token.signSplit? at h
  split at h
  · cases h
    rfl
  · cases h

theorem Made.blames {ts : List Token} {u : Token} (h : Made ts u) (cause : Cause) :
    (Diagnostic.atToken u cause).Blames ts := by
  rcases h with h | ⟨t, ht, number, hs⟩
  · exact Diagnostic.blames_atToken h cause
  · rw [Diagnostic.atToken, signSplit?_position hs]
    exact Diagnostic.blames_atToken ht cause

/-- **A reordered token** that is no number is one of the script or the minus sign of one. -/
theorem toPostfix_made {ts p rest : List Token} (h : toPostfix ts = .ok (p, rest)) :
    ∀ u ∈ p, u.kind ≠ .number → Made ts u := by
  refine toPostfix_forall (Q := (· ∈ ts)) (fun ht _ => Or.inl ht) (fun hs ht => ⟨fun _ => ?_, ?_⟩) h
    fun t ht => ht
  · exact Or.inr ⟨_, ht, _, hs⟩
  · exact fun hne => absurd (Token.signSplit?_kinds hs).2.2 hne

/-! ## What is read first comes first -/

theorem release_parts (o : Operator) (stack : List Pending) (out : List Token) :
    ∃ popped, stack = popped ++ (release o stack out).1 ∧
      (release o stack out).2 = (popped.map (·.token)).reverse ++ out := by
  induction stack generalizing out with
  | nil => exact ⟨[], rfl, rfl⟩
  | cons p stack ih =>
    cases p with
    | opening t => exact ⟨[], rfl, rfl⟩
    | operator q t =>
      rw [release]
      split
      · obtain ⟨popped, hstack, hout⟩ := ih (t :: out)
        refine ⟨.operator q t :: popped, by rw [List.cons_append, ← hstack], ?_⟩
        simp [hout, Pending.token]
      · exact ⟨[], rfl, rfl⟩

theorem closeGroup?_parts {stack rest : List Pending} {out put : List Token}
    (h : closeGroup? stack out = some (rest, put)) :
    ∃ popped opening, stack = popped ++ .opening opening :: rest ∧
      put = (popped.map (·.token)).reverse ++ out := by
  induction stack generalizing out with
  | nil => cases h
  | cons p stack ih =>
    cases p with
    | opening t =>
      cases h
      exact ⟨[], t, rfl, rfl⟩
    | operator q t =>
      obtain ⟨popped, opening, hstack, hout⟩ := ih h
      refine ⟨.operator q t :: popped, opening, by rw [List.cons_append, ← hstack], ?_⟩
      simp [hout, Pending.token]

theorem shunt_out {stack : List Pending} {out ts p rest : List Token} {last? : Option Token}
    {due : Bool} (h : shunt stack out last? due ts = .ok (p, rest)) : out.reverse <+: p := by
  induction ts generalizing stack out last? due with
  | nil =>
    cases due with
    | true => simp [shunt] at h
    | false =>
      obtain ⟨rfl, -⟩ := finish_ok (by simpa [shunt] using h)
      exact List.prefix_append _ _
  | cons t ts ih =>
    -- where more is put out, it comes after
    have hmore : ∀ more {stack last? due}, shunt stack (more ++ out) last? due ts = .ok (p, rest) →
        out.reverse <+: p := by
      intro more stack last? due h
      have := ih h
      rw [List.reverse_append] at this
      exact (List.prefix_append _ _).trans this
    cases due with
    | true =>
      simp only [shunt, if_true] at h
      split at h
      · exact hmore [t] h
      · split at h
        · exact ih h
        · cases h
    | false =>
      simp only [shunt, Bool.false_eq_true, if_false] at h
      split at h
      · next o _ =>
        obtain ⟨popped, -, hout⟩ := release_parts o stack out
        rw [hout] at h
        exact hmore _ h
      · next minus number _ hs =>
        obtain ⟨popped, -, hout⟩ := release_parts .minus stack out
        rw [hout, ← List.cons_append] at h
        exact hmore _ h
      · split at h
        · next hclose =>
          obtain ⟨popped, opening, -, rfl⟩ := closeGroup?_parts hclose
          exact hmore _ h
        · obtain ⟨rfl, -⟩ := finish_ok h
          exact List.prefix_append _ _
      · obtain ⟨rfl, -⟩ := finish_ok h
        exact List.prefix_append _ _

theorem shunt_head {stack : List Pending} {ts p rest : List Token} {last? : Option Token}
    (h : shunt stack [] last? true ts = .ok (p, rest)) : ∃ t ∈ ts, p.head? = some t := by
  induction ts generalizing stack last? with
  | nil => simp [shunt] at h
  | cons t ts ih =>
    simp only [shunt, if_true] at h
    split at h
    · obtain ⟨more, rfl⟩ := shunt_out h
      exact ⟨t, by simp, rfl⟩
    · split at h
      · obtain ⟨u, hu, hhead⟩ := ih h
        exact ⟨u, List.mem_cons_of_mem t hu, hhead⟩
      · cases h

theorem toPostfix_head {ts p rest : List Token} (h : toPostfix ts = .ok (p, rest)) :
    ∃ t ∈ ts, p.head? = some t := shunt_head h

/-! ## Reading -/

section
variable {all : List Token}

/-- The parentheses on the stack are tokens of the script. -/
def Opened (all : List Token) (stack : List Pending) : Prop :=
  ∀ p ∈ stack, p.isOpening = true → p.token ∈ all

theorem Opened.suffix {stack inner rest : List Pending} (h : Opened all stack)
    (hstack : stack = inner ++ rest) : Opened all rest := fun p hp =>
  h p (by simp [hstack, hp])

theorem Opened.push {stack : List Pending} (h : Opened all stack) {p : Pending}
    (hp : p.isOpening = true → p.token ∈ all) : Opened all (p :: stack) :=
  List.forall_mem_cons.2 ⟨hp, h⟩

theorem Opened.find? {stack : List Pending} (h : Opened all stack) {p : Pending}
    (hp : stack.find? (·.isOpening) = some p) : p.token ∈ all :=
  h p (List.mem_of_find?_eq_some hp) (List.find?_some hp)

theorem finish_error {stack : List Pending} {out rest : List Token} {d : Diagnostic}
    (hstack : Opened all stack) (h : finish stack out rest = .error d) : d.Blames all := by
  unfold finish at h
  split at h
  · next hp =>
    cases h
    exact Diagnostic.blames_atToken (hstack.find? hp) _
  · cases h

theorem shunt_error {stack : List Pending} {out ts : List Token} {last? : Option Token} {due : Bool}
    {d : Diagnostic} (hstack : Opened all stack) (hlast : ∀ t, last? = some t → t ∈ all)
    (hts : ∀ t ∈ ts, t ∈ all) (hread : last? ≠ none ∨ ts ≠ [])
    (h : shunt stack out last? due ts = .error d) : d.Blames all := by
  induction ts generalizing stack out last? due with
  | nil =>
    obtain ⟨last, rfl⟩ : ∃ last, last? = some last := by
      simpa [Option.ne_none_iff_exists'] using hread
    cases due with
    | true =>
      simp only [shunt, if_true, operandDueAtEnd] at h
      split at h
      · next opening hp =>
        cases h
        exact Diagnostic.blames_atToken (hstack.find? hp) _
      · next heq =>
        cases heq
        cases h
        exact Diagnostic.blames_atToken (hlast _ rfl) _
      · next heq => cases heq
    | false => exact finish_error hstack (by simpa [shunt] using h)
  | cons t ts ih =>
    obtain ⟨ht, hts⟩ := List.forall_mem_cons.1 hts
    have hnow : ∀ u, some t = some u → u ∈ all := by
      rintro u ⟨⟩
      exact ht
    -- a token has been read, whatever comes after
    have htaken : ∀ {stack out due}, Opened all stack →
        shunt stack out (some t) due ts = .error d → d.Blames all :=
      fun hstack h => ih hstack hnow hts (Or.inl (by simp)) h
    cases due with
    | true =>
      simp only [shunt, if_true] at h
      split at h
      · exact htaken hstack h
      · split at h
        · exact htaken (hstack.push (p := .opening t) fun _ => ht) h
        · cases h
          exact Diagnostic.blames_atToken ht _
    | false =>
      simp only [shunt, Bool.false_eq_true, if_false] at h
      split at h
      · next o _ =>
        obtain ⟨popped, hpopped, -⟩ := release_parts o stack out
        exact htaken ((hstack.suffix hpopped).push (by simp [Pending.isOpening])) h
      · obtain ⟨popped, hpopped, -⟩ := release_parts .minus stack out
        exact htaken ((hstack.suffix hpopped).push (by simp [Pending.isOpening])) h
      · split at h
        · next hclose =>
          obtain ⟨popped, opening, hpopped, -⟩ := closeGroup?_parts hclose
          rw [List.append_cons] at hpopped
          exact htaken (hstack.suffix hpopped) h
        · exact finish_error hstack h
      · exact finish_error hstack h

theorem toPostfix_error {ts : List Token} {d : Diagnostic} (hne : ts ≠ [])
    (h : toPostfix ts = .error d) : d.Blames ts :=
  shunt_error (by simp [Opened]) (by simp) (fun _ ht => ht) (Or.inr hne) h

end

/-! ## Working out -/

variable {vars : Variables} {ts : List Token} {t : Token}

theorem operand_blames (h : t.kind ≠ .number → Made ts t) :
    ErrorsOnly (Fault.Blames ts) (operand vars t) := by
  unfold operand
  split
  · split
    · exact errorsOnly_ok _
    · exact errorsOnly_error trivial
  · exact errorsOnly_ok _
  · next hk =>
    have hmade := h (by simp [hk])
    simp only [Variables.get]
    split
    · exact errorsOnly_ok _
    · exact errorsOnly_error (hmade.blames (.undefined t.text))
  · next hnumber _ _ => exact errorsOnly_error ((h hnumber).blames _)

theorem applyToken_blames (h : Made ts t) (left right : Value) :
    ErrorsOnly (Fault.Blames ts) (applyToken t left right) := by
  unfold applyToken
  split
  · unfold atToken
    split
    · exact errorsOnly_ok _
    · exact errorsOnly_error (h.blames _)
  · split <;> exact errorsOnly_error (h.blames _)

theorem push_blames {stack : List Value} (h : t.kind ≠ .number → Made ts t) :
    ErrorsOnly (Fault.Blames ts) (push vars stack t) := by
  unfold push
  split
  · next hk => exact (applyToken_blames (h (by simp [hk])) _ _).map _
  · next hk _ => exact errorsOnly_error ((h (by simp [hk])).blames _)
  · exact (operand_blames h).map _

theorem ofPostfix_blames {p : List Token} (hmade : ∀ u ∈ p, u.kind ≠ .number → Made ts u)
    (hhead : ∃ t ∈ ts, p.head? = some t) : ErrorsOnly (Fault.Blames ts) (ofPostfix vars p) := by
  have hfold : ∀ (us : List Token) (stack : List Value),
      (∀ u ∈ us, u.kind ≠ .number → Made ts u) →
      ErrorsOnly (Fault.Blames ts) (us.foldlM (push vars) stack) := by
    intro us
    induction us with
    | nil => exact fun stack _ => errorsOnly_ok stack
    | cons u us ih =>
      intro stack hus
      rw [List.foldlM_cons]
      exact (push_blames (hus u (by simp))).bind fun stack _ => ih stack fun t ht => hus t (by simp [ht])
  refine (hfold p [] hmade).bind fun stack _ => ?_
  split
  · exact errorsOnly_ok _
  · obtain ⟨t, ht, hfirst⟩ := hhead
    obtain ⟨more, rfl⟩ := List.head?_eq_some_iff.1 hfirst
    exact errorsOnly_error (Diagnostic.blames_atToken ht _)

/-- **An expression that is not empty** is refused for one of its tokens. -/
theorem evaluate_blames (hne : ts ≠ []) : ErrorsOnly (Fault.Blames ts) (evaluate vars ts) := by
  refine ErrorsOnly.bind ?_ fun result hresult => ?_
  · cases hread : toPostfix ts with
    | ok result => exact errorsOnly_ok result
    | error d => exact errorsOnly_error (toPostfix_error hne hread)
  · have hread := ofScript_eq_ok.1 hresult
    exact (ofPostfix_blames (toPostfix_made hread) (toPostfix_head hread)).bind fun v _ =>
      errorsOnly_ok _

/-- Nothing is no expression, and there is no token to blame. -/
theorem evaluate_nil (vars : Variables) : evaluate vars [] = .error (.script .ofNothing) := rfl

theorem calculate_blames {source : String} (h : tokenize source = .ok ts) (hne : ts ≠ []) :
    ErrorsOnly (Fault.Blames ts) (calculate vars source) := by
  simp only [calculate, h, Fault.ofScript]
  refine (evaluate_blames hne).bind fun result hresult => ?_
  obtain ⟨v, rest⟩ := result
  cases rest with
  | nil => exact errorsOnly_ok v
  | cons stray rest =>
    have hstray : stray ∈ ts := (evaluate_suffix hresult).subset (by simp)
    dsimp only
    split <;> exact errorsOnly_error (Diagnostic.blames_atToken hstray _)

theorem calculate_nil {source : String} (h : tokenize source = .ok []) (vars : Variables) :
    calculate vars source = .error (.script .ofNothing) := by
  simp only [calculate, h, Fault.ofScript, bind, Except.bind, evaluate_nil]

theorem calculate_fault {source : String} {d : Diagnostic}
    (h : calculate vars source = .error (.script d)) :
    tokenize source = .error d ∨
      ∃ ts, tokenize source = .ok ts ∧ (d.Blames ts ∨ ts = [] ∧ d = .ofNothing) := by
  cases htokens : tokenize source with
  | error d' =>
    simp only [calculate, htokens, Fault.ofScript, bind, Except.bind] at h
    cases h
    exact Or.inl rfl
  | ok ts =>
    refine Or.inr ⟨ts, rfl, ?_⟩
    by_cases hne : ts = []
    · subst hne
      rw [calculate_nil htokens] at h
      cases h
      exact Or.inr ⟨rfl, rfl⟩
    · exact Or.inl (calculate_blames htokens hne _ h)

end Expression

end GridSketch
