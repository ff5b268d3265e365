import GridSketch.Script.Move

/-!
# Running a script

A run makes moves from the first token to the last, or to the first fault.

* `executeFrom` runs on from a point where some tokens have been skipped, `execute` from the
  beginning.
-/

namespace GridSketch

/-- Runs over tokens, of which some have just been skipped; the tokens skipped last come first. The
    result is what has been skipped since the last completed statement when the tokens end. -/
def executeFrom (skipped : List Token) : List Token → Action (List Token)
  | [] => pure skipped
  | t :: after => fun s =>
    match _hmove : (dispatch skipped t after).run s with
    | .error fault s' => .error fault s'
    | .ok .pass s' => executeFrom (t :: skipped) after s'
    | .ok (.complete rest) s' => executeFrom [] rest s'
    | .ok (.handOver rest) s' =>
      let taken := (t :: after).take ((t :: after).length - rest.length)
      executeFrom (taken.reverse ++ skipped) rest s'
  termination_by ts => ts.length
  decreasing_by
    all_goals
      have hle := dispatch_rest_le _hmove
      simp only [Move.rest] at hle
      simp only [List.length_cons]
      omega

/-- Runs over all tokens of a script. -/
def execute (ts : List Token) : Action Unit := do
  let _ ← executeFrom [] ts

end GridSketch
