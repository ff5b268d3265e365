import GridSketch.Proofs.Script.Scan
import GridSketch.Proofs.Session.Report

/-!
# A run, statement by statement

A run is a sequence of moves, some of which complete a statement. All that a run does is done by the
statements it completes, and a failure is said once, after their lines.

* `Stage`, `Deed`: where a run stands; what a completed statement did.
* `Trace`: the deeds of a run from one stage to another. `Trace.session` and `Trace.adds` are the
  session it leads to and the lines it adds. `Trace.run`: the run from a later stage is the rest of
  the run.
* `Session.runIncremental_atomic`: what a session does with a text.
-/

namespace GridSketch

/-- Where a run stands: what it has skipped since the last completed statement, the tokens to come,
    and the session. -/
structure Stage where
  skipped : List Token
  tokens : List Token
  session : Session

/-- A completed statement: the session before and after it. -/
structure Deed where
  before : Session
  done : Session

/-- The lines that a completed statement has said. -/
def Deed.lines (d : Deed) : List String := d.before.linesSince d.done

/-- The session after some deeds. -/
def sessionAfter (start : Session) (deeds : List Deed) : Session :=
  (deeds.getLast?.map (·.done)).getD start

/-- A run leads from a stage to a stage and completes some statements on the way. -/
inductive Trace : Stage → List Deed → Stage → Prop
  | here (p) : Trace p [] p
  | onward {skipped t after s m s' deeds q} : (dispatch skipped t after).run s = .ok m s' →
      m.completes = false → Trace ⟨m.skipped skipped t after, m.rest after, s'⟩ deeds q →
      Trace ⟨skipped, t :: after, s⟩ deeds q
  | complete {skipped t after s rest s' deeds q} :
      (dispatch skipped t after).run s = .ok (.complete rest) s' →
      Trace ⟨[], rest, s'⟩ deeds q → Trace ⟨skipped, t :: after, s⟩ (⟨s, s'⟩ :: deeds) q

theorem Move.forall_mem {P : Token → Prop} {skipped after : List Token} {t : Token} {m : Move}
    (hskipped : ∀ u ∈ skipped, P u) (hafter : ∀ u ∈ t :: after, P u)
    (hrest : m.rest after <:+ after) :
    (∀ u ∈ m.skipped skipped t after, P u) ∧ ∀ u ∈ m.rest after, P u := by
  refine ⟨?_, fun u hu => hafter u (List.mem_cons_of_mem t (hrest.subset hu))⟩
  cases m with
  | pass => exact List.forall_mem_cons.2 ⟨hafter t (by simp), hskipped⟩
  | complete rest => exact fun u hu => by cases hu
  | handOver rest =>
    intro u hu
    rcases List.mem_append.1 hu with hu | hu
    · exact hafter u (List.mem_of_mem_take (List.mem_reverse.1 hu))
    · exact hskipped u hu

namespace Trace

variable {p q : Stage} {deeds : List Deed}

theorem forall_mem {P : Token → Prop} (h : Trace p deeds q)
    (hp : (∀ u ∈ p.skipped, P u) ∧ ∀ u ∈ p.tokens, P u) :
    (∀ u ∈ q.skipped, P u) ∧ ∀ u ∈ q.tokens, P u := by
  induction h with
  | here p => exact hp
  | onward hmove _ _ ih => exact ih (Move.forall_mem hp.1 hp.2 (dispatch_rest hmove))
  | complete hmove _ ih => exact ih (Move.forall_mem hp.1 hp.2 (dispatch_rest hmove))

theorem run (h : Trace p deeds q) :
    (executeFrom p.skipped p.tokens).run p.session =
      (executeFrom q.skipped q.tokens).run q.session := by
  induction h with
  | here p => rfl
  | onward hmove _ _ ih =>
    rw [← ih, executeFrom_cons, EStateM.run_bind, hmove]
  | complete hmove _ ih =>
    rw [← ih, executeFrom_cons, EStateM.run_bind, hmove]
    rfl

theorem session (h : Trace p deeds q) : q.session = sessionAfter p.session deeds := by
  induction h with
  | here p => rfl
  | onward hmove hm _ ih => rw [ih, dispatch_quiet hmove hm]
  | @complete skipped t after s rest s' deeds q hmove _ ih =>
    rw [ih]
    cases deeds with
    | nil => rfl
    | cons d deeds =>
      simp [sessionAfter, List.getLast?_eq_some_getLast]

theorem adds (h : Trace p deeds q) : p.session.Adds (deeds.flatMap (·.lines)) q.session := by
  induction h with
  | here p => exact .refl p.session
  | onward hmove hm _ ih =>
    obtain rfl := dispatch_quiet hmove hm
    exact ih
  | complete hmove _ ih =>
    obtain ⟨lines, hlines⟩ := (dispatch_tidy _ _ _).ok hmove
    rw [List.flatMap_cons, Deed.lines, Session.linesSince_adds hlines]
    exact hlines.trans ih

end Trace

/-- Where a run ends: at the end of its tokens, or at a move that fails. -/
def Stage.Ends (p : Stage) : Option Fault → Prop
  | none => p.tokens = []
  | some fault => ∃ t after, p.tokens = t :: after ∧
      (dispatch p.skipped t after).run p.session = .error fault p.session

/-- **Every run has a trace** to where it ends. -/
theorem executeFrom_trace (skipped ts : List Token) (s : Session) :
    ∃ deeds q, Trace ⟨skipped, ts, s⟩ deeds q ∧
      q.session = sessionOf ((executeFrom skipped ts).run s) ∧
      q.Ends (faultOf ((executeFrom skipped ts).run s)) := by
  induction skipped, ts, s using run_induction with
  | nil skipped s =>
    rw [executeFrom_nil]
    exact ⟨[], _, .here _, rfl, rfl⟩
  | cons skipped t after s ih =>
    rw [executeFrom_cons, EStateM.run_bind]
    cases hmove : (dispatch skipped t after).run s with
    | error fault s' =>
      obtain rfl := (dispatch_tidy skipped t after).error hmove
      exact ⟨[], _, .here _, rfl, t, after, rfl, hmove⟩
    | ok m s' =>
      obtain ⟨deeds, q, htrace, hq⟩ := ih m s' hmove
      cases m with
      | complete rest => exact ⟨⟨s, s'⟩ :: deeds, q, .complete hmove htrace, hq⟩
      | pass => exact ⟨deeds, q, .onward hmove rfl htrace, hq⟩
      | handOver rest => exact ⟨deeds, q, .onward hmove rfl htrace, hq⟩

/-- **A text that can be read has a trace** to where its run ends, and its state is the one there. -/
theorem Session.runIncremental_trace (s : Session) {source : String} {ts : List Token}
    (h : tokenize source = .ok ts) :
    ∃ deeds p, Trace ⟨[], ts, s⟩ deeds p ∧ (s.runIncremental source).1.state = p.session.state ∧
      p.Ends (s.runIncremental source).2.fault? := by
  obtain ⟨deeds, p, htrace, hsession, hends⟩ := executeFrom_trace [] ts s
  rw [runIncremental_of_tokens h]
  dsimp only
  rw [(execute_result ts s).1, (execute_result ts s).2, sayFault_state, ← hsession]
  exact ⟨deeds, p, htrace, rfl, hends⟩

/-- **Statements are atomic, and a failure is said once.** A statement that fails has changed
    nothing. A text is run by completing some statements, one after the other, to the end of its
    tokens or to the statement that fails: the state is the one after the last of them; what is
    said, logged and shown are their lines and, if there is a failure, the line that says it. A text
    that cannot be read is not run at all. -/
theorem Session.runIncremental_atomic :
    (∀ skipped t after, Action.Tidy (dispatch skipped t after)) ∧
    ∀ (s : Session) (source : String),
      let (s', report) := s.runIncremental source
      s.Adds report.lines s' ∧ report.shapes = s'.state.shapes ∧
      match tokenize source with
      | .error d =>
        s'.state = s.state ∧ report.fault? = some (.script d) ∧
          report.lines = [failurePrefix ++ d.message]
      | .ok ts =>
        ∃ deeds p, Trace ⟨[], ts, s⟩ deeds p ∧ p.Ends report.fault? ∧
          s'.state = (sessionAfter s deeds).state ∧
          report.lines = deeds.flatMap (·.lines) ++ failureLines report.fault? := by
  refine ⟨dispatch_tidy, fun s source => ?_⟩
  cases h : tokenize source with
  | error d =>
    rw [runIncremental_of_refused h]
    exact ⟨.say s _, rfl, rfl, rfl, rfl⟩
  | ok ts =>
    rw [runIncremental_of_tokens h]
    dsimp only
    rw [(execute_result ts s).1, (execute_result ts s).2]
    obtain ⟨deeds, p, htrace, hsession, hends⟩ := executeFrom_trace [] ts s
    have hadds := htrace.adds.trans (adds_sayFault p.session (faultOf ((executeFrom [] ts).run s)))
    have hlast := htrace.session
    rw [hsession] at hadds hlast
    rw [linesSince_adds hadds, sayFault_state]
    exact ⟨hadds, rfl, deeds, p, htrace, hends, by rw [hlast], rfl⟩

end GridSketch
