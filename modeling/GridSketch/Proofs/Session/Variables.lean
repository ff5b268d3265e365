import GridSketch.Proofs.Script.Limits
import GridSketch.Proofs.Session.Atomic

/-!
# The variables that a script deals with

A script reads a variable at a name in an expression, and sets it at a name before the sign of
assignment. A variable that it has no such name for is not read or not set, whatever happens on the
way and however the run ends.

* `Action.Respects R`: from two sessions that are related by `R`, an action ends alike, in sessions
  that are related again.
* `Steady`: the relations that a run respects if it reads some tokens only and sets some variables
  only; `dispatch_respects` is the move, `execute_respects` the run.
* `Session.forget` is a session without one of its variables; `Session.runIncremental_forget`: a run
  does not depend on a variable that it does not name.
-/

namespace GridSketch

open GridSketch.Action

/-! ## Running from two sessions -/

namespace Action

variable {α β : Type} {R : Session → Session → Prop} {a : Action α}

/-- Two actions that have ended with the same result or the same fault, in related sessions. -/
inductive EndsAlike (R : Session → Session → Prop) :
    EStateM.Result Fault Session α → EStateM.Result Fault Session α → Prop
  | ok {r : α} {s s' : Session} : R s s' → EndsAlike R (.ok r s) (.ok r s')
  | error {fault : Fault} {s s' : Session} : R s s' → EndsAlike R (.error fault s) (.error fault s')

/-- From related sessions, an action ends alike. -/
def Respects (R : Session → Session → Prop) (a : Action α) : Prop :=
  ∀ s s', R s s' → EndsAlike R (a.run s) (a.run s')

theorem respects_pure (r : α) : Respects R (pure r : Action α) := fun _ _ h => .ok h

theorem respects_fail (fault : Fault) : Respects R (fail fault : Action α) := fun _ _ h => .error h

theorem respects_consult {f : Variables → Except Fault α}
    (hf : ∀ s s', R s s' → f s.state.bindings = f s'.state.bindings) : Respects R (consult f) := by
  intro s s' h
  rw [run_consult, run_consult, hf s s' h]
  cases f s'.state.bindings with
  | ok r => exact .ok h
  | error fault => exact .error h

theorem Respects.bind {f : α → Action β} (ha : Respects R a)
    (hf : ∀ s r s', a.run s = .ok r s' → Respects R (f r)) : Respects R (a >>= f) := by
  intro s s' h
  rw [EStateM.run_bind, EStateM.run_bind]
  have hends := ha s s' h
  cases hrun : a.run s with
  | ok r s₁ =>
    rw [hrun] at hends
    generalize a.run s' = other at hends
    cases hends with
    | ok h₁ => exact hf s r s₁ hrun _ _ h₁
  | error fault s₁ =>
    rw [hrun] at hends
    generalize a.run s' = other at hends
    cases hends with
    | error h₁ => exact .error h₁

theorem Respects.map (ha : Respects R a) (f : α → β) : Respects R (f <$> a) := by
  rw [← bind_pure_comp]
  exact ha.bind fun _ r _ _ => respects_pure (f r)

theorem respects_mapM {g : α → Action β} {xs : List α} (hg : ∀ x ∈ xs, Respects R (g x)) :
    Respects R (xs.mapM g) := by
  induction xs with
  | nil => exact respects_pure []
  | cons x xs ih =>
    obtain ⟨hx, hxs⟩ := List.forall_mem_cons.1 hg
    rw [List.mapM_cons]
    exact hx.bind fun _ _ _ _ => (ih hxs).bind fun _ _ _ _ => respects_pure _

theorem respects_forM {g : α → Action Unit} (hg : ∀ x, Respects R (g x)) (xs : List α) :
    Respects R (xs.forM g) := by
  induction xs with
  | nil => exact respects_pure ()
  | cons x xs ih => exact (hg x).bind fun _ _ _ _ => ih

end Action

/-! ## What a run respects -/

/-- A change of the state that neither reads nor sets variables. -/
def BesideVariables (g : State → State) : Prop :=
  ∀ st vars, g { st with bindings := vars } = { g st with bindings := vars }

theorem BesideVariables.keeps {g : State → State} (hg : BesideVariables g) (st : State) :
    (g st).bindings = st.bindings := by
  have hsame : g st = { g st with bindings := st.bindings } := hg st st.bindings
  rw [hsame]

/-- What relates two sessions whatever a script does, if it reads no tokens but those in `reads` and
    sets no variables but those in `sets`. -/
structure Steady (R : Session → Session → Prop) (reads : Token → Prop) (sets : String → Prop) :
    Prop where
  say : ∀ {s s' : Session} (line : String), R s s' → R (s.say line) (s'.say line)
  change : ∀ {s s' : Session} {g : State → State}, BesideVariables g →
    R s s' → R { s with state := g s.state } { s' with state := g s'.state }
  set : ∀ {s s' : Session} {name : String} (v : Value), sets name → R s s' →
    R { s with state := s.state.set name v } { s' with state := s'.state.set name v }
  operand : ∀ {s s' : Session} {t : Token}, reads t → R s s' →
    Expression.operand s.state.bindings t = Expression.operand s'.state.bindings t

/-- The variables are set that a script names before the sign of assignment. -/
def SetsOnly (sets : String → Prop) (ts : List Token) : Prop :=
  ∀ name sign, [name, sign] <:+: ts → name.kind = .identifier → sign.kind = .assign → sets name.text

theorem SetsOnly.mono {sets : String → Prop} {ts us : List Token} (h : SetsOnly sets ts)
    (hsub : us <:+ ts) : SetsOnly sets us :=
  fun name sign hpair => h name sign (hpair.trans hsub.isInfix)

namespace Expression

variable {vars vars' : Variables}

theorem ofPostfix_congr {ts : List Token} (h : ∀ t ∈ ts, operand vars t = operand vars' t) :
    ofPostfix vars ts = ofPostfix vars' ts := by
  have hpush : ∀ stack, ts.foldlM (push vars) stack = ts.foldlM (push vars') stack := by
    induction ts with
    | nil => exact fun _ => rfl
    | cons t ts ih =>
      intro stack
      obtain ⟨ht, hts⟩ := List.forall_mem_cons.1 h
      have hstep : push vars stack t = push vars' stack t := by
        unfold push
        rw [ht]
      simp only [List.foldlM_cons, hstep, ih hts]
  rw [ofPostfix, ofPostfix, hpush]

/-- **The value of an expression** depends on the values of its tokens only. -/
theorem evaluate_congr {ts : List Token} (h : ∀ t ∈ ts, operand vars t = operand vars' t) :
    evaluate vars ts = evaluate vars' ts := by
  rw [evaluate, evaluate]
  cases hread : toPostfix ts with
  | error d => rfl
  | ok result =>
    obtain ⟨p, rest⟩ := result
    have hp : ∀ t ∈ p, operand vars t = operand vars' t := by
      refine toPostfix_forall (fun ht => ht) (fun hs _ => ?_) hread h
      obtain ⟨-, hminus, hnumber⟩ := Token.signSplit?_kinds hs
      exact ⟨by simp only [operand, hminus], by simp only [operand, hnumber]⟩
    simp only [Fault.ofScript, bind, Except.bind, ofPostfix_congr hp]

end Expression

section
variable {R : Session → Session → Prop} {reads : Token → Prop} {sets : String → Prop}
  (hR : Steady R reads sets) {skipped after : List Token} {t : Token}
include hR

namespace Steady

theorem respects_say (line : String) : Respects R (Action.say line) :=
  fun _ _ h => .ok (hR.say line h)

theorem respects_change {g : State → State} (hg : BesideVariables g) :
    Respects R (Action.change g) :=
  fun _ _ h => .ok (hR.change hg h)

theorem respects_evaluate (hafter : ∀ u ∈ after, reads u) :
    Respects R (Action.consult (Expression.evaluate · after)) :=
  respects_consult fun _ _ h => Expression.evaluate_congr fun u hu => hR.operand (hafter u hu) h

end Steady

namespace Statement

theorem draw_respects (hafter : ∀ u ∈ after, reads u) : Respects R (draw t after) := by
  have hscalar : ∀ u ∈ after, Respects R (consult (scalar · u)) := fun u hu =>
    respects_consult fun s s' h => by rw [scalar, scalar, hR.operand (hafter u hu) h]
  unfold draw
  split
  · exact respects_fail _
  · dsimp only
    split
    · exact respects_fail _
    · refine (respects_mapM fun u hu => hscalar u (List.mem_of_mem_take hu)).bind
        fun _ numbers _ _ => ?_
      split
      · exact respects_fail _
      · exact (hR.respects_change fun _ _ => rfl).bind fun _ _ _ _ =>
          (hR.respects_say _).bind fun _ _ _ _ => respects_pure _

theorem color_respects : Respects R (color t after) := by
  unfold color
  split
  · exact respects_fail _
  · split
    · exact (hR.respects_change fun _ _ => rfl).bind fun _ _ _ _ =>
        (hR.respects_say _).bind fun _ _ _ _ => respects_pure _
    · exact respects_fail _

theorem clear_respects : Respects R (clear after) :=
  (hR.respects_change fun _ _ => rfl).bind fun _ _ _ _ =>
    (hR.respects_say _).bind fun _ _ _ _ => respects_pure _

theorem assign_respects (hafter : ∀ u ∈ after, reads u) (hname : sets t.text) :
    Respects R (assign t after) :=
  (hR.respects_evaluate hafter).bind fun _ value _ _ =>
    Respects.bind (fun _ _ h => .ok (hR.set value.1 hname h)) fun _ _ _ _ =>
      (hR.respects_say _).bind fun _ _ _ _ => respects_pure _

theorem binding_respects (hafter : ∀ u ∈ after, reads u) (hsets : SetsOnly sets after) :
    Respects R (binding t after) := by
  unfold binding
  split
  · exact respects_fail _
  · next name after =>
    split
    · next hname =>
      split
      · exact respects_fail _
      · next sign after =>
        split
        · next hsign =>
          have hpair : [name, sign] <:+: name :: sign :: after :=
            (List.prefix_append [name, sign] after).isInfix
          exact assign_respects hR (fun u hu => hafter u (by simp [hu]))
            (hsets name sign hpair hname hsign)
        · exact respects_fail _
    · exact respects_fail _

theorem loop_respects : Respects R (loop t after) := by
  unfold loop
  split
  · split
    · split
      · split
        · exact (respects_forM hR.respects_say _).bind fun _ _ _ _ => respects_pure _
        · exact respects_fail _
      · exact respects_fail _
    · exact respects_fail _
  · exact respects_fail _

theorem choice_respects (hskipped : ∀ u ∈ skipped, reads u) (hafter : ∀ u ∈ after, reads u) :
    Respects R (choice skipped t after) := by
  have hcondition : ∀ u ∈ skipped.reverse, reads u := fun u hu =>
    hskipped u (List.mem_reverse.1 hu)
  unfold choice
  split
  · exact respects_fail _
  · split
    · next yes separator no rest =>
      split
      · refine (hR.respects_evaluate hcondition).bind fun _ value _ _ => ?_
        obtain ⟨v, stray⟩ := value
        cases stray with
        | cons u stray => exact respects_fail _
        | nil =>
          have hchosen : reads (if v.holds then yes else no) := by
            split
            · exact hafter yes (by simp)
            · exact hafter no (by simp)
          exact (respects_consult fun _ _ h => hR.operand hchosen h).bind fun _ _ _ _ =>
            (hR.respects_say _).bind fun _ _ _ _ => respects_pure _
      · exact respects_fail _
    · exact respects_fail _

theorem around_respects (hskipped : ∀ u ∈ skipped, reads u) (hafter : ∀ u ∈ t :: after, reads u) :
    Respects R (consult (around skipped t after)) := by
  refine respects_consult fun s s' h => ?_
  have hlead : ∀ u ∈ leadIn skipped ++ t :: after, reads u := fun u hu =>
    (List.mem_append.1 hu).elim (fun hu => hskipped u (mem_of_mem_leadIn hu)) (hafter u)
  rw [around, around, Expression.evaluate_congr fun u hu => hR.operand (hlead u hu) h,
    Expression.evaluate_congr fun u hu => hR.operand (hafter u hu) h]

end Statement

theorem dispatchName_respects (ht : t.kind = .identifier) (hskipped : ∀ u ∈ skipped, reads u)
    (hafter : ∀ u ∈ t :: after, reads u) (hsets : SetsOnly sets (t :: after)) :
    Respects R (dispatchName skipped t after) := by
  unfold dispatchName
  split
  · next hsign =>
    cases after with
    | nil => cases hsign
    | cons sign after =>
      have hpair : [t, sign] <:+: t :: sign :: after :=
        (List.prefix_append [t, sign] after).isInfix
      have hrest : ∀ u ∈ after, reads u := fun u hu => hafter u (by simp [hu])
      have hname := hsets t sign hpair ht (by simpa using hsign)
      exact (Statement.assign_respects hR hrest hname).map _
  · refine (Statement.around_respects hR hskipped hafter).bind fun _ _ _ _ => ?_
    dsimp only
    split
    · exact respects_pure _
    · exact (hR.respects_say _).bind fun _ _ _ _ => respects_pure _

theorem dispatch_respects (hskipped : ∀ u ∈ skipped, reads u) (hafter : ∀ u ∈ t :: after, reads u)
    (hsets : SetsOnly sets (t :: after)) : Respects R (dispatch skipped t after) := by
  have hrest := (List.forall_mem_cons.1 hafter).2
  unfold dispatch
  split
  iterate 3 exact (Statement.draw_respects hR hrest).map _
  · exact (Statement.color_respects hR).map _
  · exact (Statement.clear_respects hR).map _
  · exact (Statement.binding_respects hR hrest (hsets.mono (List.suffix_cons t after))).map _
  · exact (Statement.loop_respects hR).map _
  · next ht => exact dispatchName_respects hR ht hskipped hafter hsets
  · exact (Statement.choice_respects hR hskipped hrest).map _
  · exact respects_pure _

theorem executeFrom_respects {ts : List Token} (hskipped : ∀ u ∈ skipped, reads u)
    (hts : ∀ u ∈ ts, reads u) (hsets : SetsOnly sets ts) : Respects R (executeFrom skipped ts) := by
  -- there are two runs to follow, so the induction is on the number of tokens and not along a run
  induction hn : ts.length using Nat.strongRecOn generalizing skipped ts with
  | ind n ih =>
    cases ts with
    | nil =>
      rw [executeFrom_nil]
      exact respects_pure _
    | cons t after =>
      rw [executeFrom_cons]
      refine (dispatch_respects hR hskipped hts hsets).bind fun s m s' hmove => ?_
      have hrest := dispatch_rest hmove
      have hless : (m.rest after).length < n := by
        rw [← hn]
        exact Nat.lt_succ_of_le hrest.length_le
      obtain ⟨hskipped', hafter⟩ := Move.forall_mem hskipped hts hrest
      exact ih _ hless hskipped' hafter (hsets.mono (hrest.trans (List.suffix_cons t after))) rfl

theorem execute_respects {ts : List Token} (hts : ∀ u ∈ ts, reads u) (hsets : SetsOnly sets ts) :
    Respects R (execute ts) :=
  (executeFrom_respects hR (by simp) hts hsets).bind fun _ _ _ _ => respects_pure ()

theorem Session.runIncremental_respects {source : String} {ts : List Token}
    (h : tokenize source = .ok ts) (hts : ∀ u ∈ ts, reads u) (hsets : SetsOnly sets ts)
    {s s' : Session} (hs : R s s') :
    R (s.runIncremental source).1 (s'.runIncremental source).1 ∧
      (s.runIncremental source).2.fault? = (s'.runIncremental source).2.fault? := by
  have hends := execute_respects hR hts hsets s s' hs
  rw [runIncremental_of_tokens h, runIncremental_of_tokens h]
  dsimp only
  generalize (GridSketch.execute ts).run s = result at *
  generalize (GridSketch.execute ts).run s' = result' at *
  cases hends with
  | ok h₁ => exact ⟨h₁, rfl⟩
  | @error fault _ _ h₁ =>
    cases fault with
    | script d => exact ⟨hR.say _ h₁, rfl⟩
    | breach b => exact ⟨h₁, rfl⟩

end

/-! ## Variables that are not set -/

theorem steady_keeps (x : String) (v? : Option Value) :
    Steady (fun s s' => s = s' ∧ s.state.bindings.get? x = v?) (fun _ => True) (· ≠ x) where
  say line h := by
    obtain ⟨rfl, h⟩ := h
    exact ⟨rfl, h⟩
  change hg h := by
    obtain ⟨rfl, h⟩ := h
    exact ⟨rfl, by rw [hg.keeps, h]⟩
  set v hname h := by
    obtain ⟨rfl, h⟩ := h
    exact ⟨rfl, by rw [State.set, Variables.get?_set_of_ne _ v hname.symm, h]⟩
  operand _ h := by rw [h.1]

/-- **A run keeps a variable** that it has no name for before a sign of assignment. -/
theorem Session.runIncremental_keeps {source : String} {x : String}
    (h : ∀ ts, tokenize source = .ok ts → SetsOnly (· ≠ x) ts) (s : Session) :
    (s.runIncremental source).1.state.bindings.get? x = s.state.bindings.get? x := by
  cases htokens : tokenize source with
  | error d =>
    rw [runIncremental_of_refused htokens]
    rfl
  | ok ts =>
    have hsteady := steady_keeps x (s.state.bindings.get? x)
    exact (runIncremental_respects hsteady htokens (fun _ _ => trivial) (h ts htokens)
      ⟨rfl, rfl⟩).1.2

/-! ## Variables that are not read -/

namespace Variables

/-- The other variables. -/
def without (vars : Variables) (x : String) : Variables := vars.filter (·.1 != x)

variable {x y : String}

theorem get?_without (vars : Variables) (h : y ≠ x) : (vars.without x).get? y = vars.get? y := by
  induction vars with
  | nil => rfl
  | cons entry vars ih =>
    by_cases hx : entry.1 = x
    · simpa [without, get?, hx, h.symm] using ih
    · by_cases hy : entry.1 = y
      · simp [without, get?, hy, h]
      · simpa [without, get?, hx, hy] using ih

theorem set_without (vars : Variables) (v : Value) (h : y ≠ x) :
    (vars.set y v).without x = (vars.without x).set y v := by
  induction vars with
  | nil => simp [without, set, h]
  | cons entry vars ih =>
    by_cases hy : entry.1 = y
    · simp [without, set, hy, h]
    · by_cases hx : entry.1 = x
      · simpa [without, set, hx, h.symm] using ih
      · simpa [without, set, hy, hx] using ih

end Variables

theorem Expression.operand_without {vars vars' : Variables} {x : String} {t : Token}
    (ht : t.kind = .identifier → t.text ≠ x) (h : vars.without x = vars'.without x) :
    operand vars t = operand vars' t := by
  cases hkind : t.kind with
  | identifier =>
    have hsame : vars.get? t.text = vars'.get? t.text := by
      rw [← Variables.get?_without vars (ht hkind), h, Variables.get?_without vars' (ht hkind)]
    simp only [operand, hkind, Variables.get, hsame]
  | _ => simp only [operand, hkind]

theorem Expression.calculate_without {source x : String} {ts : List Token}
    (h : tokenize source = .ok ts) (hts : ∀ t ∈ ts, t.kind = .identifier → t.text ≠ x)
    {vars vars' : Variables} (hvars : vars.without x = vars'.without x) :
    calculate vars source = calculate vars' source := by
  have hvalue := evaluate_congr fun t ht => operand_without (hts t ht) hvars
  simp only [calculate, h, Fault.ofScript, bind, Except.bind, hvalue]

/-- A session without one of its variables. -/
def Session.forget (s : Session) (x : String) : Session :=
  { s with state := { s.state with bindings := s.state.bindings.without x } }

theorem steady_forget (x : String) :
    Steady (fun s s' => s.forget x = s'.forget x) (fun t => t.kind = .identifier → t.text ≠ x)
      (· ≠ x) where
  say line h := congrArg (·.say line) h
  change {s s' g} hg h := by
    have hforget : ∀ s : Session, Session.forget { s with state := g s.state } x =
        { s.forget x with state := g (s.forget x).state } := fun s => by
      show { s with state := { g s.state with bindings := (g s.state).bindings.without x } } =
        { s with state := g { s.state with bindings := s.state.bindings.without x } }
      rw [hg s.state (s.state.bindings.without x), hg.keeps]
    rw [hforget, hforget, h]
  set {s s' name} v hname h := by
    have hforget : ∀ s : Session, Session.forget { s with state := s.state.set name v } x =
        { s.forget x with state := (s.forget x).state.set name v } := fun s => by
      rw [Session.forget, State.set, Variables.set_without _ v hname]
      rfl
    rw [hforget, hforget, h]
  operand ht h := Expression.operand_without ht (congrArg (·.state.bindings) h)

/-- What is reported is what has been added to the log, and the shapes that there are. -/
theorem Session.runIncremental_report (s : Session) (source : String) :
    (s.runIncremental source).2 = ⟨s.linesSince (s.runIncremental source).1,
      (s.runIncremental source).1.state.shapes, (s.runIncremental source).2.fault?⟩ :=
  rfl

/-- **A run does not depend on a variable** that it has no name for. -/
theorem Session.runIncremental_forget {source x : String} {ts : List Token}
    (h : tokenize source = .ok ts) (hts : ∀ t ∈ ts, t.kind = .identifier → t.text ≠ x)
    {s s' : Session} (hs : s.forget x = s'.forget x) :
    (s.runIncremental source).2 = (s'.runIncremental source).2 ∧
      (s.runIncremental source).1.forget x = (s'.runIncremental source).1.forget x := by
  have hsets : SetsOnly (· ≠ x) ts := fun name sign hpair hname _ =>
    hts name (hpair.subset (by simp)) hname
  obtain ⟨hends, hfault⟩ := runIncremental_respects (steady_forget x) h hts hsets hs
  have hlog : s.log = s'.log := congrArg (·.log) hs
  have hlogs : (s.runIncremental source).1.log = (s'.runIncremental source).1.log :=
    congrArg (·.log) hends
  have hshapes : (s.runIncremental source).1.state.shapes =
      (s'.runIncremental source).1.state.shapes := congrArg (·.state.shapes) hends
  refine ⟨?_, hends⟩
  rw [runIncremental_report, runIncremental_report s', linesSince, linesSince, hlog, hlogs, hshapes,
    hfault]

end GridSketch
