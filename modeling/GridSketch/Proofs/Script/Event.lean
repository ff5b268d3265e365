import GridSketch.Proofs.Script.Effect
import Mathlib.Data.List.Basic

/-!
# What happens to the shapes

A run draws shapes, chooses colors and removes the shapes; all else it does leaves them alone. Such
an event can be read off the tokens of the statement, and the shapes off the events.

* `eventOf`: the event of a statement, from its tokens and the variables.
* `dispatch_event`: a move changes the shapes and the color as its event says.
* `colorAfter`, `shapesAfter`: the color and the shapes after some events, looked up in the past.
-/

namespace GridSketch

/-- What can happen to the shapes and to the color. -/
inductive Event where
  | drew (shape : Shape)
  | chose (color : String)
  | cleared
  | restarted
  deriving DecidableEq, Repr

namespace Event

/-- There are no shapes after this. -/
def empties : Event → Bool
  | cleared | restarted => true
  | drew _ | chose _ => false

/-- The color chosen, if one is. -/
def color? : Event → Option String
  | chose color => some color
  | _ => none

end Event

/-! ## Looking back -/

/-- The color in force after some events: the last one chosen since the last restart. If none was,
    it is the initial one, or the default one after a restart. -/
def colorAfter (initial : String) (es : List Event) : String :=
  ((es.reverse.takeWhile (· ≠ .restarted)).findSome? Event.color?).getD
    (if .restarted ∈ es then defaultColor else initial)

/-- What one event has left of a picture: a shape that was drawn, in the color in force before, if
    the shapes have not been removed since. -/
def leftBy (initial : String) (es : List Event) (i : Nat) : Option ColoredShape :=
  match es[i]? with
  | some (.drew shape) =>
    if (es.drop (i + 1)).any (·.empties) then none else some ⟨shape, colorAfter initial (es.take i)⟩
  | _ => none

/-- The shapes after some events, in the order in which they were drawn. -/
def shapesAfter (initial : String) (es : List Event) : List ColoredShape :=
  (List.range es.length).filterMap (leftBy initial es)

theorem colorAfter_snoc (initial : String) (es : List Event) (e : Event) :
    colorAfter initial (es ++ [e]) =
      match e with
      | .chose color => color
      | .restarted => defaultColor
      | _ => colorAfter initial es := by
  cases e <;> simp [colorAfter, Event.color?, List.findSome?_cons]

theorem leftBy_snoc (initial : String) {es : List Event} {i : Nat} (hi : i < es.length) (e : Event) :
    leftBy initial (es ++ [e]) i = if e.empties then none else leftBy initial es i := by
  have hdrop : (es ++ [e]).drop (i + 1) = es.drop (i + 1) ++ [e] := List.drop_append_of_le_length hi
  have htake : (es ++ [e]).take i = es.take i := List.take_append_of_le_length (Nat.le_of_lt hi)
  unfold leftBy
  rw [List.getElem?_append_left hi, hdrop, htake]
  cases he : e.empties <;> split <;> simp [he]

theorem shapesAfter_snoc (initial : String) (es : List Event) (e : Event) :
    shapesAfter initial (es ++ [e]) =
      match e with
      | .drew shape => shapesAfter initial es ++ [⟨shape, colorAfter initial es⟩]
      | .chose _ => shapesAfter initial es
      | _ => [] := by
  have hearlier : (List.range es.length).filterMap (leftBy initial (es ++ [e])) =
      if e.empties then [] else shapesAfter initial es := by
    cases he : e.empties with
    | true =>
      refine List.filterMap_eq_nil_iff.2 fun i hi => ?_
      rw [leftBy_snoc initial (List.mem_range.1 hi), he]
      rfl
    | false =>
      refine List.filterMap_congr fun i hi => ?_
      rw [leftBy_snoc initial (List.mem_range.1 hi), he]
      exact if_neg Bool.false_ne_true
  rw [shapesAfter, List.length_append, List.length_singleton, List.range_succ,
    List.filterMap_append, hearlier]
  cases e <;> simp [leftBy, Event.empties]

/-! ## The event of a statement -/

/-- The number that an argument of a draw statement stands for. -/
def argument? (vars : Variables) (t : Token) : Option Float :=
  match Expression.operand vars t with
  | .ok (.number x) => some x
  | _ => none

/-- The shape that a draw statement asks for: its word says which, its arguments give the numbers. -/
def shapeOf? (vars : Variables) (lead : Token) (after : List Token) : Option Shape := do
  let k ← Keyword.ofWord? lead.text
  let numbers ← (after.take k.arity).mapM (argument? vars)
  Shape.ofArguments? k numbers

/-- The event of the statement that is led by a token, if it is completed. -/
def eventOf (vars : Variables) (lead : Token) (after : List Token) : Option Event :=
  match lead.kind with
  | .keyword .circle | .keyword .rectangle | .keyword .line =>
    (shapeOf? vars lead after).map .drew
  | .keyword .color => after.head?.map (.chose ·.text)
  | .keyword .clear => some .cleared
  | _ => none

/-- A state comes from another by an event. A shape that is drawn has finite coordinates. -/
def Follows (st : State) : Option Event → State → Prop
  | some (.drew shape), st' => st' = st.draw shape ∧ ∀ x ∈ shape.arguments, x.isFinite = true
  | some (.chose color), st' => st' = { st with color := color }
  | some .cleared, st' => st' = st.clear
  | some .restarted, st' => st' = {}
  | none, st' => st'.shapes = st.shapes ∧ st'.color = st.color

namespace Action

variable {α β : Type} {a : Action α}

/-- An action that draws nothing, removes nothing and chooses no color. -/
structure KeepsShapes (a : Action α) : Prop where
  ok : ∀ {s r s'}, a.run s = .ok r s' → Follows s.state none s'.state

theorem Quiet.keepsShapes (ha : Quiet a) : KeepsShapes a where
  ok h := by
    rw [ha.ok h]
    exact ⟨rfl, rfl⟩

theorem keepsShapes_say (line : String) : KeepsShapes (say line) where
  ok h := by
    cases h
    exact ⟨rfl, rfl⟩

theorem keepsShapes_set (name : String) (v : Value) : KeepsShapes (change (·.set name v)) where
  ok h := by
    cases h
    exact ⟨rfl, rfl⟩

theorem KeepsShapes.bind {f : α → Action β} (ha : KeepsShapes a) (hf : ∀ r, KeepsShapes (f r)) :
    KeepsShapes (a >>= f) where
  ok h := by
    obtain ⟨r, s₁, hr, hrest⟩ := run_bind_ok.1 h
    have hfirst := ha.ok hr
    have hsecond := (hf r).ok hrest
    exact ⟨hsecond.1.trans hfirst.1, hsecond.2.trans hfirst.2⟩

theorem KeepsShapes.map (ha : KeepsShapes a) (f : α → β) : KeepsShapes (f <$> a) := by
  rw [← bind_pure_comp]
  exact ha.bind fun _ => (quiet_pure _).keepsShapes

theorem keepsShapes_forM {g : α → Action Unit} (hg : ∀ x, KeepsShapes (g x)) (xs : List α) :
    KeepsShapes (xs.forM g) := by
  induction xs with
  | nil => exact (quiet_pure ()).keepsShapes
  | cons x xs ih => exact (hg x).bind fun _ => ih

end Action

theorem Shape.arguments_of_ofArguments? {k : Keyword} {numbers : List Float} {shape : Shape}
    (h : ofArguments? k numbers = some shape) : shape.arguments = numbers := by
  unfold ofArguments? at h
  split at h <;> cases h <;> rfl

namespace Statement

open GridSketch.Action

variable {s s' : Session} {t : Token} {skipped after rest : List Token}

theorem scalar_ok {vars : Variables} {x : Float} (h : scalar vars t = .ok x) :
    argument? vars t = some x ∧ x.isFinite = true := by
  simp only [scalar, bind, Except.bind] at h
  unfold argument?
  split at h
  · cases h
  · next v hv =>
    rw [hv]
    split at h
    · split at h
      · next hfinite =>
        cases h
        exact ⟨rfl, hfinite⟩
      · cases h
    · cases h

theorem mapM_scalar_ok {ts : List Token} {numbers : List Float}
    (h : (ts.mapM fun t => consult (scalar · t)).run s = .ok numbers s') :
    s' = s ∧ ts.mapM (argument? s.state.bindings) = some numbers ∧
      ∀ x ∈ numbers, x.isFinite = true := by
  induction ts generalizing numbers with
  | nil =>
    obtain ⟨rfl, rfl⟩ := run_pure_ok.1 h
    exact ⟨rfl, rfl, by simp⟩
  | cons t ts ih =>
    rw [List.mapM_cons] at h
    obtain ⟨x, s₁, hx, h⟩ := run_bind_ok.1 h
    obtain ⟨hscalar, rfl⟩ := run_consult_ok.1 hx
    obtain ⟨xs, s₂, hxs, h⟩ := run_bind_ok.1 h
    obtain ⟨rfl, rfl⟩ := run_pure_ok.1 h
    obtain ⟨rfl, harguments, hfinite⟩ := ih hxs
    obtain ⟨hargument, hx⟩ := scalar_ok hscalar
    exact ⟨rfl, by simp [List.mapM_cons, hargument, harguments], List.forall_mem_cons.2 ⟨hx, hfinite⟩⟩

theorem draw_event (h : (draw t after).run s = .ok rest s') :
    ∃ shape, shapeOf? s.state.bindings t after = some shape ∧
      Follows s.state (some (.drew shape)) s'.state := by
  unfold draw at h
  split at h
  · cases h
  · next k hk =>
    dsimp only at h
    split at h
    · cases h
    · obtain ⟨numbers, s₁, hnumbers, hdrawn⟩ := run_bind_ok.1 h
      obtain ⟨rfl, harguments, hfinite⟩ := mapM_scalar_ok hnumbers
      split at hdrawn
      · cases hdrawn
      · next shape hshape =>
        cases hdrawn
        refine ⟨shape, by simp [shapeOf?, hk, harguments, hshape], rfl, ?_⟩
        rwa [Shape.arguments_of_ofArguments? hshape]

theorem color_event (h : (color t after).run s = .ok rest s') :
    ∃ u, after.head? = some u ∧ Follows s.state (some (.chose u.text)) s'.state := by
  unfold color at h
  split at h
  · cases h
  · next u _ =>
    split at h
    · cases h
      exact ⟨u, rfl, rfl⟩
    · cases h

theorem assign_keepsShapes : KeepsShapes (assign t after) :=
  (quiet_consult _).keepsShapes.bind fun _ => (keepsShapes_set _ _).bind fun _ =>
    (keepsShapes_say _).bind fun _ => (quiet_pure _).keepsShapes

theorem binding_keepsShapes : KeepsShapes (binding t after) := by
  unfold binding
  split
  · exact (quiet_fail _).keepsShapes
  · split
    · split
      · exact (quiet_fail _).keepsShapes
      · split
        · exact assign_keepsShapes
        · exact (quiet_fail _).keepsShapes
    · exact (quiet_fail _).keepsShapes

theorem loop_keepsShapes : KeepsShapes (loop t after) := by
  unfold loop
  split
  · split
    · split
      · split
        · exact (keepsShapes_forM keepsShapes_say _).bind fun _ => (quiet_pure _).keepsShapes
        · exact (quiet_fail _).keepsShapes
      · exact (quiet_fail _).keepsShapes
    · exact (quiet_fail _).keepsShapes
  · exact (quiet_fail _).keepsShapes

theorem choice_keepsShapes : KeepsShapes (choice skipped t after) := by
  unfold choice
  split
  · exact (quiet_fail _).keepsShapes
  · split
    · split
      · refine (quiet_consult _).keepsShapes.bind fun value => ?_
        obtain ⟨v, stray⟩ := value
        cases stray with
        | cons u stray => exact (quiet_fail _).keepsShapes
        | nil =>
          exact (quiet_consult _).keepsShapes.bind fun _ => (keepsShapes_say _).bind fun _ =>
            (quiet_pure _).keepsShapes
      · exact (quiet_fail _).keepsShapes
    · exact (quiet_fail _).keepsShapes

end Statement

open GridSketch.Action

variable {s s' : Session} {t : Token} {skipped after : List Token} {m : Move}

theorem dispatchName_keepsShapes : KeepsShapes (dispatchName skipped t after) := by
  unfold dispatchName
  split
  · exact Statement.assign_keepsShapes.map _
  · refine (quiet_consult _).keepsShapes.bind fun value => ?_
    dsimp only
    split
    · exact (quiet_pure _).keepsShapes
    · exact (keepsShapes_say _).bind fun _ => (quiet_pure _).keepsShapes

/-- **A move changes the shapes and the color as its event says.** -/
theorem dispatch_event (h : (dispatch skipped t after).run s = .ok m s') :
    Follows s.state (eventOf s.state.bindings t after) s'.state := by
  have hdraw : ∀ {m}, (Move.complete <$> Statement.draw t after).run s = .ok m s' →
      Follows s.state ((shapeOf? s.state.bindings t after).map .drew) s'.state := by
    intro m h
    obtain ⟨rest, hrest, -⟩ := run_map_ok.1 h
    obtain ⟨shape, hshape, hfollows⟩ := Statement.draw_event hrest
    rwa [hshape]
  unfold dispatch at h
  unfold eventOf
  split at h
  · next hk => rw [hk]; exact hdraw h
  · next hk => rw [hk]; exact hdraw h
  · next hk => rw [hk]; exact hdraw h
  · next hk =>
    obtain ⟨rest, hrest, -⟩ := run_map_ok.1 h
    obtain ⟨u, hu, hfollows⟩ := Statement.color_event hrest
    rw [hk]
    simp only [hu]
    exact hfollows
  · next hk =>
    rw [hk]
    cases h
    rfl
  · next hk => rw [hk]; exact (Statement.binding_keepsShapes.map _).ok h
  · next hk => rw [hk]; exact (Statement.loop_keepsShapes.map _).ok h
  · next hk => rw [hk]; exact dispatchName_keepsShapes.ok h
  · next hk => rw [hk]; exact (Statement.choice_keepsShapes.map _).ok h
  · obtain ⟨-, rfl⟩ := run_pure_ok.1 h
    split <;> simp_all [Follows]

end GridSketch
