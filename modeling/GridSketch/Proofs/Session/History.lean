import GridSketch.Proofs.Canvas.Painter
import GridSketch.Proofs.Script.Event
import GridSketch.Proofs.Session.Atomic

/-!
# The shapes of a session and its history

A session is called again and again: to run a text, with or without starting over, to run tokens, or
to start over. Some calls fail halfway. At every moment its shapes are those that the events so far
have left.

* `Stage.go`: some moves of a run and the events on the way.
* `Call.perform` is the session after a call, `Call.moment` what has happened and what the state is
  after some moves of it; `Call.perform_state` says that the last moment is the end of the call.
* `Agrees`: the state is the one that the events have left. A move keeps this (`Agrees.follows`), and
  so does a run (`Agrees.go`) and a sequence of calls (`Agrees.performAll`).
* `Session.shapes_history`: what the shapes are at every moment of a sequence of calls.
-/

namespace GridSketch

/-! ## Moves of a run -/

/-- At most `n` moves of a run, up to its end: the events on the way, and where it stands then. -/
def Stage.go : Nat → Stage → List Event × Stage
  | 0, p => ([], p)
  | _ + 1, ⟨skipped, [], s⟩ => ([], ⟨skipped, [], s⟩)
  | n + 1, ⟨skipped, t :: after, s⟩ =>
    match (dispatch skipped t after).run s with
    | .error _ s' => ([], ⟨skipped, t :: after, s'⟩)
    | .ok m s' =>
      let (es, q) := go n ⟨m.skipped skipped t after, m.rest after, s'⟩
      ((eventOf s.state.bindings t after).toList ++ es, q)

theorem Stage.go_session {n : Nat} {skipped ts : List Token} {s : Session} (h : ts.length ≤ n) :
    (go n ⟨skipped, ts, s⟩).2.session = sessionOf ((executeFrom skipped ts).run s) := by
  induction n generalizing skipped ts s with
  | zero =>
    obtain rfl := List.length_eq_zero_iff.1 (Nat.le_zero.1 h)
    rw [executeFrom_nil]
    rfl
  | succ n ih =>
    cases ts with
    | nil =>
      rw [executeFrom_nil]
      rfl
    | cons t after =>
      rw [executeFrom_cons, EStateM.run_bind, go]
      cases hmove : (dispatch skipped t after).run s with
      | error fault s' => rfl
      | ok m s' =>
        have hrest := dispatch_rest_le hmove
        exact ih (Nat.le_trans hrest (Nat.le_of_succ_le_succ h))

/-! ## Calls -/

/-- What can be asked of a session. -/
inductive Call where
  | run (source : String)
  | runIncremental (source : String)
  | execute (ts : List Token)
  | reset
  deriving DecidableEq, Repr

namespace Call

/-- The session after a call. -/
def perform (s : Session) : Call → Session
  | run source => (Session.run source s).1
  | runIncremental source => (s.runIncremental source).1
  | execute ts => (s.execute ts).1
  | reset => s.reset

/-- Whether a call starts over. -/
def restarts : Call → Bool
  | run _ | reset => true
  | runIncremental _ | execute _ => false

/-- The tokens that a call runs. A text that cannot be read is not run. -/
def tokens : Call → List Token
  | run source | runIncremental source => (tokenize source).toOption.getD []
  | execute ts => ts
  | reset => []

/-- The session in which a call runs its tokens. -/
def opening (s : Session) (c : Call) : Session := if c.restarts then s.reset else s

/-- After at most `n` moves of a call: what has happened since it began, and the state. -/
def moment (n : Nat) (s : Session) (c : Call) : List Event × State :=
  let (es, p) := Stage.go n ⟨[], c.tokens, c.opening s⟩
  (if c.restarts then .restarted :: es else es, p.session.state)

/-- What happens in a call. -/
def events (s : Session) (c : Call) : List Event := (c.moment c.tokens.length s).1

theorem runIncremental_state (s : Session) (source : String) :
    (s.runIncremental source).1.state =
      (sessionOf ((executeFrom [] ((tokenize source).toOption.getD [])).run s)).state := by
  cases h : tokenize source with
  | error d =>
    rw [Session.runIncremental_of_refused h, Except.toOption, Option.getD_none, executeFrom_nil]
    rfl
  | ok ts =>
    rw [Session.runIncremental_of_tokens h]
    dsimp only
    rw [Session.sayFault_state, (execute_result ts s).1]
    rfl

theorem execute_state (s : Session) (ts : List Token) :
    (s.execute ts).1 = sessionOf ((executeFrom [] ts).run s) := by
  rw [← (execute_result ts s).1, Session.execute, Session.after]
  cases (GridSketch.execute ts).run s <;> rfl

theorem perform_state {n : Nat} {c : Call} (h : c.tokens.length ≤ n) (s : Session) :
    (c.perform s).state = (c.moment n s).2 := by
  have hmoment : (c.moment n s).2 =
      (sessionOf ((executeFrom [] c.tokens).run (c.opening s))).state := by
    rw [← Stage.go_session h]
    rfl
  rw [hmoment]
  cases c with
  | run source => exact runIncremental_state s.reset source
  | runIncremental source => exact runIncremental_state s source
  | execute ts => exact congrArg Session.state (execute_state s ts)
  | reset => simp [perform, tokens, opening, restarts, sessionOf]

end Call

/-- The session after some calls, one after the other. -/
def Session.performAll (s : Session) (calls : List Call) : Session :=
  calls.foldl Call.perform s

theorem Session.performAll_append (s : Session) (calls more : List Call) :
    s.performAll (calls ++ more) = (s.performAll calls).performAll more :=
  List.foldl_append

/-- What happens in some calls, one after the other. -/
def Session.events : Session → List Call → List Event
  | _, [] => []
  | s, c :: calls => c.events s ++ (c.perform s).events calls

/-! ## What the events have left -/

/-- The shapes and the color are those that the events have left, and the coordinates of the shapes
    are finite. -/
structure Agrees (initial : String) (es : List Event) (st : State) : Prop where
  shapes : st.shapes = shapesAfter initial es
  color : st.color = colorAfter initial es
  finite : ∀ c ∈ st.shapes, ∀ x ∈ c.shape.arguments, x.isFinite = true

namespace Agrees

variable {initial : String} {es : List Event} {st st' : State}

theorem start (h : st.shapes = []) : Agrees st.color [] st where
  shapes := h
  color := rfl
  finite := by simp [h]

/-- **An event keeps it.** -/
theorem follows {e? : Option Event} (h : Agrees initial es st) (he : Follows st e? st') :
    Agrees initial (es ++ e?.toList) st' := by
  cases e? with
  | none =>
    obtain ⟨hshapes, hcolor⟩ := he
    rw [Option.toList_none, List.append_nil]
    exact ⟨hshapes.trans h.shapes, hcolor.trans h.color, hshapes ▸ h.finite⟩
  | some e =>
    rw [Option.toList_some]
    cases e with
    | drew shape =>
      obtain ⟨rfl, hfinite⟩ := he
      refine ⟨?_, ?_, fun c hc => ?_⟩
      · rw [shapesAfter_snoc, ← h.shapes, ← h.color]
        rfl
      · rw [colorAfter_snoc]
        exact h.color
      · rcases List.mem_append.1 hc with hc | hc
        · exact h.finite c hc
        · obtain rfl := List.mem_singleton.1 hc
          exact hfinite
    | chose color =>
      obtain rfl := he
      exact ⟨by rw [shapesAfter_snoc]; exact h.shapes, by rw [colorAfter_snoc], h.finite⟩
    | cleared =>
      obtain rfl := he
      exact ⟨by rw [shapesAfter_snoc]; rfl, by rw [colorAfter_snoc]; exact h.color,
        by simp [State.clear]⟩
    | restarted =>
      obtain rfl := he
      exact ⟨by rw [shapesAfter_snoc], by rw [colorAfter_snoc], by simp⟩

theorem go (n : Nat) {p : Stage} (h : Agrees initial es p.session.state) :
    Agrees initial (es ++ (p.go n).1) (p.go n).2.session.state := by
  induction n generalizing es p with
  | zero => simpa [Stage.go] using h
  | succ n ih =>
    obtain ⟨skipped, tokens, s⟩ := p
    cases tokens with
    | nil => simpa [Stage.go] using h
    | cons t after =>
      rw [Stage.go]
      cases hmove : (dispatch skipped t after).run s with
      | error fault s' =>
        -- a statement that fails is no event: it has changed nothing
        obtain rfl := (dispatch_tidy skipped t after).error hmove
        simpa using h
      | ok m s' =>
        dsimp only
        rw [← List.append_assoc]
        exact ih (h.follows (dispatch_event hmove))

theorem moment {s : Session} (h : Agrees initial es s.state) (n : Nat) (c : Call) :
    Agrees initial (es ++ (c.moment n s).1) (c.moment n s).2 := by
  unfold Call.moment Call.opening
  dsimp only
  cases c.restarts with
  | false => exact h.go n (p := ⟨[], c.tokens, s⟩)
  | true =>
    have hrestarted : Follows s.state (some .restarted) s.reset.state := rfl
    have hreset : Agrees initial (es ++ [.restarted]) s.reset.state := h.follows hrestarted
    rw [if_pos rfl, if_pos rfl, List.append_cons]
    exact hreset.go n (p := ⟨[], c.tokens, s.reset⟩)

theorem performAll {s : Session} (h : Agrees initial es s.state) (calls : List Call) :
    Agrees initial (es ++ s.events calls) (s.performAll calls).state := by
  induction calls generalizing es s with
  | nil => simpa [Session.events, Session.performAll] using h
  | cons c calls ih =>
    have hcall : Agrees initial (es ++ c.events s) (c.perform s).state := by
      rw [Call.perform_state (Nat.le_refl _)]
      exact h.moment _ c
    rw [Session.events, ← List.append_assoc]
    exact ih hcall

end Agrees

/-- **The shapes of a session are what its history has left.** Take a session with no shapes and any
    sequence of calls. After it, and at every moment of a call that follows it, the shapes are those
    drawn since they were last removed, in this order, each with the color in force when it was drawn.
    All their coordinates are finite, so they are plotted on every canvas. Clearing changes neither
    the variables nor the color. -/
theorem Session.shapes_history {start : Session} (h : start.state.shapes = [])
    (calls : List Call) :
    Agrees start.state.color (start.events calls) (start.performAll calls).state ∧
    (∀ (c : Call) (n : Nat),
      let s := start.performAll calls
      let (es, st) := c.moment n s
      Agrees start.state.color (start.events calls ++ es) st ∧
        (∀ drawn ∈ st.shapes, drawn.shape.Plotted) ∧
        (c.tokens.length ≤ n → (c.perform s).state = st)) ∧
    ∀ (skipped : List Token) (t : Token) (after : List Token) (s : Session),
      t.kind = .keyword .clear →
        ∃ s', (dispatch skipped t after).run s = .ok (.complete after) s' ∧
          s'.state = { s.state with shapes := [] } := by
  have hcalls : Agrees start.state.color (start.events calls) (start.performAll calls).state :=
    (Agrees.start h).performAll calls
  refine ⟨hcalls, fun c n => ?_, fun skipped t after s hk => ?_⟩
  · have hmoment := hcalls.moment n c
    exact ⟨hmoment, fun drawn hdrawn => Shape.plotted_iff.2 (hmoment.finite drawn hdrawn),
      fun hn => Call.perform_state hn _⟩
  · unfold dispatch
    rw [hk]
    exact ⟨_, rfl, rfl⟩

/-- A shape in the color that was there at first, one in a color chosen since, and a statement that
    fails. -/
theorem Session.shapes_history_two_colors :
    let start : Session := { state := { color := "green" } }
    let calls := [Call.runIncremental "circle 1 1 2 color \"red\" line 1 2 3 4 circle"]
    start.state.shapes = [] ∧
      (start.performAll calls).state.shapes =
        [⟨.circle ⟨1, 1⟩ 2, "green"⟩, ⟨.line ⟨1, 2⟩ ⟨3, 4⟩, "red"⟩] ∧
      Agrees start.state.color (start.events calls) (start.performAll calls).state :=
  ⟨rfl, by decide +kernel, (shapes_history rfl _).1⟩

end GridSketch
