import GridSketch.Proofs.Session.Breach
import GridSketch.Proofs.Session.History
import GridSketch.Session.Dialogue
import Mathlib.Data.List.DropRight

/-!
# A dialogue, line by line

A line that is typed asks to be shown something, starts over, ends the dialogue or is a piece of
script. Only the last three matter to the lines after it.

* `Dialogue.exchanges`: the lines that were answered, each with the session that it met, and how the
  dialogue ends. `Dialogue.transcriptFrom_exchanges`: the transcript is made of them.
* `Dialogue.answer_of_inspects` and the lemmas after it: what each kind of line does.
* `Dialogue.Continues`: the session is the one that the earlier pieces of script have left.
* `Dialogue.exchanges_inspection`: what lines that ask to be shown something leave alone, and what
  the others do.
-/

namespace GridSketch

namespace Dialogue

/-! ## Kinds of lines -/

/-- A typed line without the blanks around it. -/
def strip (typed : String) : String := String.ofList (Text.trimBlanks typed.toList)

/-- A typed line as a word of command. -/
def word (typed : String) : String := (strip typed).map Char.toLower

/-- A blank line, or one that asks to be shown something. -/
def inspects (typed : String) : Bool :=
  strip typed == "" || ["help", "vars", "shapes", "show"].contains (word typed)

/-- A line that starts over. -/
def restarts (typed : String) : Bool := word typed == "reset"

/-- A line that ends the dialogue. -/
def departs (typed : String) : Bool := ["exit", "quit"].contains (word typed)

/-- A piece of script. -/
def isScript (typed : String) : Bool := !(inspects typed || restarts typed || departs typed)

/-- The answer to a piece of script. -/
def answerScript (s : Session) (text : String) : List String × Next :=
  let (s', report) := s.runIncremental text
  let shown := report.lines.map ("  " ++ ·)
  match report.fault?.bind Fault.breach? with
  | some b => (shown, .broken b)
  | none => (shown, .goOn s')

/-! ## What a line does -/

section
variable {size : CanvasSize} {s : Session} {typed : String}

theorem answer_eq (size : CanvasSize) (s : Session) (typed : String) :
    answer size s typed =
      if strip typed = "" then ([], .goOn s)
      else if word typed = "exit" ∨ word typed = "quit" then ([farewell], .stop)
      else
        match s.command? size (strip typed) with
        | some (s', shown) => (shown, .goOn s')
        | none => answerScript s (strip typed) :=
  rfl

theorem strip_ne_of_word {w : String} (h : word typed = w) (hw : w ≠ "") : strip typed ≠ "" := by
  intro hstrip
  have hempty : ("" : String).map Char.toLower = "" := by simp
  rw [word, hstrip, hempty] at h
  exact hw h.symm

theorem answer_of_stays (hblank : strip typed ≠ "") (hdeparts : departs typed = false) :
    answer size s typed =
      match s.command? size (strip typed) with
      | some (s', shown) => (shown, .goOn s')
      | none => answerScript s (strip typed) := by
  have hwords : ¬ (word typed = "exit" ∨ word typed = "quit") := by
    simpa [departs] using hdeparts
  rw [answer_eq, if_neg hblank, if_neg hwords]

theorem answer_of_inspects (h : inspects typed = true) :
    (answer size s typed).2 = .goOn s := by
  by_cases hblank : strip typed = ""
  · rw [answer_eq, if_pos hblank]
  · have hword : word typed = "help" ∨ word typed = "vars" ∨ word typed = "shapes" ∨
        word typed = "show" := by
      simpa [inspects, hblank] using h
    have hcommand : ∃ shown, s.command? size (strip typed) = some (s, shown) := by
      unfold Session.command?
      rcases hword with hw | hw | hw | hw
      all_goals
        rw [word] at hw
        rw [hw]
        exact ⟨_, rfl⟩
    obtain ⟨shown, hshown⟩ := hcommand
    have hdeparts : departs typed = false := by
      rcases hword with hw | hw | hw | hw <;> simp [departs, hw]
    rw [answer_of_stays hblank hdeparts, hshown]

theorem answer_of_restarts (h : restarts typed = true) :
    (answer size s typed).2 = .goOn s.reset := by
  have hword : word typed = "reset" := by
    simpa [restarts] using h
  have hcommand : ∃ shown, s.command? size (strip typed) = some (s.reset, shown) := by
    unfold Session.command?
    rw [word] at hword
    rw [hword]
    exact ⟨_, rfl⟩
  obtain ⟨shown, hshown⟩ := hcommand
  rw [answer_of_stays (strip_ne_of_word hword (by decide)) (by simp [departs, hword]), hshown]

theorem answer_of_departs (h : departs typed = true) :
    answer size s typed = ([farewell], .stop) := by
  have hword : word typed = "exit" ∨ word typed = "quit" := by
    simpa [departs] using h
  have hblank : strip typed ≠ "" :=
    hword.elim (strip_ne_of_word · (by decide)) (strip_ne_of_word · (by decide))
  rw [answer_eq, if_neg hblank, if_pos hword]

theorem answer_of_isScript (h : isScript typed = true) :
    answer size s typed = answerScript s (strip typed) := by
  simp only [isScript, Bool.not_eq_true', Bool.or_eq_false_iff] at h
  obtain ⟨⟨hinspects, hrestarts⟩, hdeparts⟩ := h
  have hblank : strip typed ≠ "" := by
    intro hstrip
    simp [inspects, hstrip] at hinspects
  have hcommand : s.command? size (strip typed) = none := by
    unfold Session.command?
    split
    iterate 5
      next hw => simp [inspects, restarts, word, hw] at hinspects hrestarts
    · rfl
  rw [answer_of_stays hblank hdeparts, hcommand]

end

/-! ## The lines that are answered -/

/-- A line that was typed: the session that it met, the lines shown for it, and how the dialogue went
    on. -/
structure Exchange where
  before : Session
  typed : String
  shown : List String
  next : Next
  deriving DecidableEq, Repr

/-- How a dialogue ends. -/
inductive Ending where
  | endOfInput (s : Session)
  | departure
  | broken (b : Breach)
  deriving DecidableEq, Repr

/-- The lines that are answered in a dialogue, and how it ends. -/
def exchanges (size : CanvasSize) (s : Session) : List String → List Exchange × Ending
  | [] => ([], .endOfInput s)
  | typed :: rest =>
    let (shown, next) := answer size s typed
    match next with
    | .goOn s' =>
      let (es, ending) := exchanges size s' rest
      (⟨s, typed, shown, next⟩ :: es, ending)
    | .stop => ([⟨s, typed, shown, next⟩], .departure)
    | .broken b => ([⟨s, typed, shown, next⟩], .broken b)

/-- What is shown from the prompt on at which a line is typed. -/
def Exchange.text (e : Exchange) : String := prompt ++ Text.unlines e.shown

/-- What is shown at the end of the input. -/
def Ending.text : Ending → String
  | endOfInput _ => prompt ++ "\n" ++ farewell ++ "\n"
  | departure | broken _ => ""

/-- The limit that was broken, if one was. -/
def Ending.breach? : Ending → Option Breach
  | broken b => some b
  | endOfInput _ | departure => none

theorem transcriptFrom_exchanges (size : CanvasSize) (s : Session) (lines : List String) :
    transcriptFrom size s lines =
      let (es, ending) := exchanges size s lines
      ((es.map (·.text)).foldr (· ++ ·) ending.text, ending.breach?) := by
  induction lines generalizing s with
  | nil => rfl
  | cons typed rest ih =>
    rw [transcriptFrom, exchanges]
    obtain ⟨shown, next⟩ := answer size s typed
    cases next with
    | goOn s' => simp [ih s', Exchange.text]
    | stop => simp [Exchange.text, Ending.text, Ending.breach?]
    | broken b => simp [Exchange.text, Ending.text, Ending.breach?]

/-! ## Leaving lines out -/

/-- Those elements that are marked to be kept. -/
def kept {α : Type} (marked : List (α × Bool)) : List α := (marked.filter (·.2)).map (·.1)

section
variable {α : Type} (a : α) (marked : List (α × Bool))

@[simp] theorem kept_nil : kept ([] : List (α × Bool)) = [] := rfl

@[simp] theorem kept_cons_true : kept ((a, true) :: marked) = a :: kept marked := rfl

@[simp] theorem kept_cons_false : kept ((a, false) :: marked) = kept marked := rfl

end

/-- **Lines that ask to be shown something may be left out.** The exchanges of the lines that are kept
    are what they were. -/
theorem exchanges_kept (size : CanvasSize) (s : Session) {marked : List (String × Bool)}
    (h : ∀ l ∈ marked, l.2 = false → inspects l.1 = true) :
    exchanges size s (kept marked) =
      let (all, ending) := exchanges size s (marked.map (·.1))
      (kept (all.zip (marked.map (·.2))), ending) := by
  induction marked generalizing s with
  | nil => rfl
  | cons l marked ih =>
    obtain ⟨hl, hmarked⟩ := List.forall_mem_cons.1 h
    obtain ⟨typed, keep⟩ := l
    rw [List.map_cons, List.map_cons, exchanges]
    -- a line that is left out hands the session on as it is, so the rest meets the same one
    cases keep with
    | false =>
      have hnext : (answer size s typed).2 = .goOn s := answer_of_inspects (hl rfl)
      rw [kept_cons_false, ih s hmarked]
      dsimp only
      rw [hnext]
      rfl
    | true =>
      rw [kept_cons_true, exchanges]
      obtain ⟨shown, next⟩ := answer size s typed
      cases next with
      | goOn s' =>
        dsimp only
        rw [ih s' hmarked]
        rfl
      | stop => simp
      | broken b => simp

/-! ## The session that a line meets -/

/-- The pieces of script since the last line that started over. -/
def scripts (past : List String) : List String :=
  ((past.rtakeWhile (!restarts ·)).filter isScript).map strip

theorem scripts_snoc (past : List String) (typed : String) :
    scripts (past ++ [typed]) =
      if restarts typed then []
      else if isScript typed then scripts past ++ [strip typed]
      else scripts past := by
  rw [scripts, List.rtakeWhile_concat]
  cases hr : restarts typed with
  | true => simp
  | false => cases hs : isScript typed <;> simp [scripts, hs]

/-- The session is one that was new, up to what had been shown, and has run the pieces of script since
    the last line that started over. -/
def Continues (past : List String) (s : Session) : Prop :=
  ∃ shown, s = ({ shown := shown } : Session).performAll ((scripts past).map .runIncremental)

theorem answerScript_goOn {s s' : Session} {text : String}
    (h : (answerScript s text).2 = .goOn s') : s' = (s.runIncremental text).1 := by
  unfold answerScript at h
  dsimp only at h
  split at h
  · cases h
  · cases h
    rfl

theorem Continues.answer {size : CanvasSize} {past : List String} {s s' : Session} {typed : String}
    (h : Continues past s) (hnext : (Dialogue.answer size s typed).2 = .goOn s') :
    Continues (past ++ [typed]) s' := by
  obtain ⟨shown, hs⟩ := h
  unfold Continues
  rw [scripts_snoc]
  cases hrestarts : restarts typed with
  | true =>
    rw [answer_of_restarts hrestarts] at hnext
    cases hnext
    exact ⟨s.shown, rfl⟩
  | false =>
    rw [if_neg Bool.false_ne_true]
    cases hscript : isScript typed with
    | true =>
      rw [answer_of_isScript hscript] at hnext
      obtain rfl := answerScript_goOn hnext
      refine ⟨shown, ?_⟩
      rw [if_pos rfl, List.map_append, Session.performAll_append, ← hs]
      rfl
    | false =>
      rw [if_neg Bool.false_ne_true]
      cases hdeparts : departs typed with
      | true =>
        rw [answer_of_departs hdeparts] at hnext
        cases hnext
      | false =>
        have hinspects : inspects typed = true := by
          simpa [isScript, hrestarts, hdeparts] using hscript
        rw [answer_of_inspects hinspects] at hnext
        cases hnext
        exact ⟨shown, hs⟩

theorem exchanges_getElem? {size : CanvasSize} {past lines : List String} {s : Session} {i : Nat}
    {e : Exchange} (h : Continues past s) (he : (exchanges size s lines).1[i]? = some e) :
    lines[i]? = some e.typed ∧ Continues (past ++ lines.take i) e.before ∧
      (e.shown, e.next) = answer size e.before e.typed := by
  induction lines generalizing past s i with
  | nil => cases he
  | cons typed rest ih =>
    rw [exchanges] at he
    cases i with
    | zero =>
      obtain rfl : e = ⟨s, typed, (answer size s typed).1, (answer size s typed).2⟩ := by
        dsimp only at he
        split at he <;> cases he <;> simp_all
      exact ⟨rfl, by simpa using h, Prod.eta _⟩
    | succ i =>
      dsimp only at he
      split at he
      · next s' hnext =>
        obtain ⟨htyped, hbefore, hanswer⟩ := ih (h.answer hnext) he
        exact ⟨htyped, by simpa using hbefore, hanswer⟩
      · cases he
      · cases he

/-! ## Pieces of script -/

/-- Running a text in a session fails with `d` and leaves the state `st`, which is the one after the
    statements that were completed before. -/
def Stops (s : Session) (text : String) (d : Diagnostic) (st : State) : Prop :=
  match tokenize text with
  | .error refusal => refusal = d ∧ st = s.state
  | .ok ts =>
    ∃ deeds p, Trace ⟨[], ts, s⟩ deeds p ∧ p.Ends (some (.script d)) ∧
      st = (sessionAfter s deeds).state

theorem stops_of_fault {s : Session} {text : String} {d : Diagnostic}
    (h : (s.runIncremental text).2.fault? = some (.script d)) :
    Stops s text d (s.runIncremental text).1.state := by
  unfold Stops
  cases htokens : tokenize text with
  | error refusal =>
    rw [Session.runIncremental_of_refused htokens] at h ⊢
    cases h
    exact ⟨rfl, rfl⟩
  | ok ts =>
    obtain ⟨deeds, p, htrace, hstate, hends⟩ := Session.runIncremental_trace s htokens
    rw [h] at hends
    exact ⟨deeds, p, htrace, hends, by rw [hstate, htrace.session]⟩

/-- A piece of script is run in the session that it meets, and its lines are shown. If it fails, the
    dialogue goes on with the statements that were completed; it ends at a loop whose count is too
    long. -/
def Exchange.Runs (e : Exchange) : Prop :=
  let text := strip e.typed
  let (s', report) := e.before.runIncremental text
  e.shown = report.lines.map ("  " ++ ·) ∧
    match report.fault? with
    | none => e.next = .goOn s'
    | some (.script d) => e.next = .goOn s' ∧ Stops e.before text d s'.state
    | some (.breach b) =>
      e.next = .broken b ∧
        ∃ ts deeds p, tokenize text = .ok ts ∧ Trace ⟨[], ts, e.before⟩ deeds p ∧
          LongLoop p.tokens b

theorem Exchange.runs {size : CanvasSize} {e : Exchange} (h : isScript e.typed = true)
    (hanswer : (e.shown, e.next) = answer size e.before e.typed) : e.Runs := by
  obtain ⟨before, typed, shown, next⟩ := e
  rw [answer_of_isScript h] at hanswer
  unfold answerScript at hanswer
  unfold Runs
  dsimp only at hanswer ⊢
  cases hfault : (before.runIncremental (strip typed)).2.fault? with
  | none =>
    rw [hfault] at hanswer
    cases hanswer
    exact ⟨rfl, rfl⟩
  | some fault =>
    rw [hfault] at hanswer
    cases fault with
    | script d =>
      cases hanswer
      exact ⟨rfl, rfl, stops_of_fault hfault⟩
    | breach b =>
      cases hanswer
      exact ⟨rfl, rfl, Session.longLoop_of_runIncremental hfault⟩

/-- **Asking to be shown something interferes with nothing.** A transcript is made of exchanges.

    * Leave out any blank lines, and lines that ask to be shown something. Every line that is kept
      meets the same session as before, is answered with the same lines and goes on in the same way,
      and the dialogue ends in the same way.
    * A line that is answered meets the session that the pieces of script since the last start have
      left, run one after the other. If it is a piece of script it is run in this session. -/
theorem exchanges_inspection (size : CanvasSize) :
    (∀ (s : Session) (lines : List String),
      transcriptFrom size s lines =
        let (es, ending) := exchanges size s lines
        ((es.map (·.text)).foldr (· ++ ·) ending.text, ending.breach?)) ∧
    (∀ (s : Session) (marked : List (String × Bool)),
      (∀ l ∈ marked, l.2 = false → inspects l.1 = true) →
        exchanges size s (kept marked) =
          let (all, ending) := exchanges size s (marked.map (·.1))
          (kept (all.zip (marked.map (·.2))), ending)) ∧
    ∀ (lines : List String) (i : Nat) (e : Exchange), (exchanges size {} lines).1[i]? = some e →
      lines[i]? = some e.typed ∧ Continues (lines.take i) e.before ∧
        (isScript e.typed = true → e.Runs) := by
  refine ⟨transcriptFrom_exchanges size, fun s marked h => exchanges_kept size s h,
    fun lines i e he => ?_⟩
  have hstart : Continues [] {} := ⟨[], rfl⟩
  obtain ⟨htyped, hbefore, hanswer⟩ := exchanges_getElem? hstart he
  exact ⟨htyped, hbefore, fun hscript => Exchange.runs hscript hanswer⟩

/-- A word of command and a blank line are left out between two pieces of script. -/
theorem exchanges_inspection_of_two :
    let marked :=
      [("color \"red\"", true), (" Vars ", false), ("", false), ("clear", true), ("quit", true)]
    (∀ l ∈ marked, l.2 = false → inspects l.1 = true) ∧
      (exchanges .standard {} (kept marked)).1.map (·.shown) =
        [["  Stik: Drawing color set to red."], ["  Stik: Canvas cleared."], [farewell]] ∧
      exchanges .standard {} (kept marked) =
        let (all, ending) := exchanges .standard {} (marked.map (·.1))
        (kept (all.zip (marked.map (·.2))), ending) := by
  intro marked
  have h : ∀ l ∈ marked, l.2 = false → inspects l.1 = true := by decide +kernel
  exact ⟨h, by decide +kernel, (exchanges_inspection .standard).2.1 {} marked h⟩

end Dialogue

end GridSketch
