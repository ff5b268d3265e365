import GridSketch.Canvas.Picture
import GridSketch.Proofs.Number.Finite

/-!
# Whole coordinates

A rectangle and a line are drawn from the whole parts of their coordinates, and only finite numbers
have whole parts. So a shape is drawn if all its coordinates are finite, and leaves no mark if not.

* `Box.TruncatedFrom`, `Span.TruncatedFrom`: the box and the ends that a shape is drawn from.
* `Shape.Plotted`: the shape is drawn cell by cell; `Shape.plotted_iff` says when.
-/

namespace GridSketch

theorem Shape.exists_trunc? {s : Shape} (h : ∀ v ∈ s.arguments, v.isFinite = true) :
    ∀ v ∈ s.arguments, ∃ n, Number.trunc? v = some n :=
  fun v hv => Option.isSome_iff_exists.1 ((Number.trunc?_isSome v).trans (h v hv))

/-! ## Boxes -/

namespace Box

/-- The box has the whole parts of the numbers that a rectangle is drawn from. -/
structure TruncatedFrom (b : Box) (corner : Point) (extent : Extent) : Prop where
  x : Number.trunc? corner.x = some b.x
  y : Number.trunc? corner.y = some b.y
  width : Number.trunc? extent.width = some b.width
  height : Number.trunc? extent.height = some b.height

variable {b b' : Box} {corner : Point} {extent : Extent}

theorem exists_truncatedFrom
    (h : ∀ v ∈ (Shape.rectangle corner extent).arguments, v.isFinite = true) :
    ∃ b : Box, b.TruncatedFrom corner extent := by
  have hwhole := Shape.exists_trunc? h
  simp only [Shape.arguments, List.forall_mem_cons] at hwhole
  obtain ⟨⟨x, hx⟩, ⟨y, hy⟩, ⟨w, hw⟩, ⟨t, ht⟩, -⟩ := hwhole
  exact ⟨⟨x, y, w, t⟩, hx, hy, hw, ht⟩

theorem TruncatedFrom.finite (h : b.TruncatedFrom corner extent) :
    ∀ v ∈ (Shape.rectangle corner extent).arguments, v.isFinite = true := by
  simp [Shape.arguments, ← Number.trunc?_isSome, h.x, h.y, h.width, h.height]

theorem TruncatedFrom.unique (h : b.TruncatedFrom corner extent)
    (h' : b'.TruncatedFrom corner extent) : b = b' := by
  obtain ⟨x, y, w, t⟩ := b
  obtain ⟨x', y', w', t'⟩ := b'
  obtain rfl : x = x' := Option.some.inj (h.x.symm.trans h'.x)
  obtain rfl : y = y' := Option.some.inj (h.y.symm.trans h'.y)
  obtain rfl : w = w' := Option.some.inj (h.width.symm.trans h'.width)
  obtain rfl : t = t' := Option.some.inj (h.height.symm.trans h'.height)
  rfl

theorem TruncatedFrom.draw {width height : Nat} (h : b.TruncatedFrom corner extent)
    (g : Grid width height) :
    g.draw (.rectangle corner extent) = g.plotAll rectangleMark (b.edges width height) := by
  simp only [Grid.draw, h.x, h.y, h.width, h.height]

end Box

/-! ## Lines -/

/-- The cells at the two ends of a line. -/
structure Span where
  x₀ : Int
  y₀ : Int
  x₁ : Int
  y₁ : Int
  deriving DecidableEq, Repr

namespace Span

/-- The ends have the whole parts of the coordinates that a line is drawn from. -/
structure TruncatedFrom (l : Span) (first last : Point) : Prop where
  x₀ : Number.trunc? first.x = some l.x₀
  y₀ : Number.trunc? first.y = some l.y₀
  x₁ : Number.trunc? last.x = some l.x₁
  y₁ : Number.trunc? last.y = some l.y₁

variable {l l' : Span} {first last : Point}

theorem exists_truncatedFrom
    (h : ∀ v ∈ (Shape.line first last).arguments, v.isFinite = true) :
    ∃ l : Span, l.TruncatedFrom first last := by
  have hwhole := Shape.exists_trunc? h
  simp only [Shape.arguments, List.forall_mem_cons] at hwhole
  obtain ⟨⟨x₀, hx₀⟩, ⟨y₀, hy₀⟩, ⟨x₁, hx₁⟩, ⟨y₁, hy₁⟩, -⟩ := hwhole
  exact ⟨⟨x₀, y₀, x₁, y₁⟩, hx₀, hy₀, hx₁, hy₁⟩

theorem TruncatedFrom.finite (h : l.TruncatedFrom first last) :
    ∀ v ∈ (Shape.line first last).arguments, v.isFinite = true := by
  simp [Shape.arguments, ← Number.trunc?_isSome, h.x₀, h.y₀, h.x₁, h.y₁]

theorem TruncatedFrom.unique (h : l.TruncatedFrom first last)
    (h' : l'.TruncatedFrom first last) : l = l' := by
  obtain ⟨x₀, y₀, x₁, y₁⟩ := l
  obtain ⟨x₀', y₀', x₁', y₁'⟩ := l'
  obtain rfl : x₀ = x₀' := Option.some.inj (h.x₀.symm.trans h'.x₀)
  obtain rfl : y₀ = y₀' := Option.some.inj (h.y₀.symm.trans h'.y₀)
  obtain rfl : x₁ = x₁' := Option.some.inj (h.x₁.symm.trans h'.x₁)
  obtain rfl : y₁ = y₁' := Option.some.inj (h.y₁.symm.trans h'.y₁)
  rfl

theorem TruncatedFrom.draw {width height : Nat} (h : l.TruncatedFrom first last)
    (g : Grid width height) :
    g.draw (.line first last) =
      g.plotAll lineMark (segmentCells l.x₀ l.y₀ l.x₁ l.y₁ width height) := by
  simp only [Grid.draw, h.x₀, h.y₀, h.x₁, h.y₁]

end Span

/-! ## Shapes -/

namespace Shape

/-- What passes the test for numbers that are not finite: a circle of finite ones, a rectangle and a
    line of such as have whole parts. On every grid it is drawn cell by cell. -/
def Plotted : Shape → Prop
  | circle center radius =>
    (center.x.isFinite = true ∧ center.y.isFinite = true ∧ radius.isFinite = true) ∧
      ∀ {width height : Nat} (g : Grid width height),
        g.draw (circle center radius) = g.plotWhere circleMark (onRing center radius)
  | rectangle corner extent => ∃ b : Box, b.TruncatedFrom corner extent ∧
      ∀ {width height : Nat} (g : Grid width height),
        g.draw (rectangle corner extent) = g.plotAll rectangleMark (b.edges width height)
  | line first last => ∃ l : Span, l.TruncatedFrom first last ∧
      ∀ {width height : Nat} (g : Grid width height),
        g.draw (line first last) =
          g.plotAll lineMark (segmentCells l.x₀ l.y₀ l.x₁ l.y₁ width height)

/-- **A shape is plotted** if its coordinates are finite, and only then. -/
theorem plotted_iff {s : Shape} : s.Plotted ↔ ∀ v ∈ s.arguments, v.isFinite = true := by
  constructor
  · intro h
    cases s with
    | circle center radius => simpa [arguments] using h.1
    | rectangle corner extent =>
      obtain ⟨b, hb, -⟩ := h
      exact hb.finite
    | line first last =>
      obtain ⟨l, hl, -⟩ := h
      exact hl.finite
  · intro h
    cases s with
    | circle center radius =>
      have hfinite : center.x.isFinite = true ∧ center.y.isFinite = true ∧
          radius.isFinite = true := by simpa [arguments] using h
      refine ⟨hfinite, fun g => ?_⟩
      simp only [Grid.draw, hfinite.1, hfinite.2.1, hfinite.2.2, Bool.and_self, if_true]
    | rectangle corner extent =>
      obtain ⟨b, hb⟩ := Box.exists_truncatedFrom h
      exact ⟨b, hb, hb.draw⟩
    | line first last =>
      obtain ⟨l, hl⟩ := Span.exists_truncatedFrom h
      exact ⟨l, hl, hl.draw⟩

end Shape

theorem Grid.draw_of_not_finite {width height : Nat} (g : Grid width height) {s : Shape}
    (h : ∃ v ∈ s.arguments, v.isFinite = false) : g.draw s = g := by
  obtain ⟨v, hv, hfinite⟩ := h
  have hwhole : Number.trunc? v = none := by
    rw [← Option.not_isSome_iff_eq_none, Number.trunc?_isSome, hfinite]
    exact Bool.false_ne_true
  cases s with
  | circle center radius =>
    simp only [Shape.arguments, List.mem_cons, List.not_mem_nil, or_false] at hv
    rcases hv with rfl | rfl | rfl <;> simp [draw, hfinite]
  | rectangle corner extent =>
    simp only [Shape.arguments, List.mem_cons, List.not_mem_nil, or_false] at hv
    unfold draw
    dsimp only
    split
    · next ha hb hc hd => rcases hv with rfl | rfl | rfl | rfl <;> simp_all
    · rfl
  | line first last =>
    simp only [Shape.arguments, List.mem_cons, List.not_mem_nil, or_false] at hv
    unfold draw
    dsimp only
    split
    · next ha hb hc hd => rcases hv with rfl | rfl | rfl | rfl <;> simp_all
    · rfl

end GridSketch
