import GridSketch.Main
import GridSketch.Proofs.Canvas.Border
import GridSketch.Proofs.Canvas.Stepwise
import GridSketch.Proofs.Cursor.Acceptance
import GridSketch.Proofs.Cursor.Condition
import GridSketch.Proofs.Cursor.Progress
import GridSketch.Proofs.Expression.Stack
import GridSketch.Proofs.Session.Blame
import GridSketch.Proofs.Script.Cut
import GridSketch.Proofs.Script.Skipped
import GridSketch.Proofs.Session.Exchange
import GridSketch.Proofs.Session.Reserved
import GridSketch.Proofs.Session.Spacing
import GridSketch.Proofs.Token.Composition
import GridSketch.Proofs.Canvas.Reversal
import GridSketch.Proofs.Expression.Inlining
import GridSketch.Proofs.Expression.Typing
import GridSketch.Proofs.Number.Pattern
import GridSketch.Proofs.Number.Digits
import GridSketch.Proofs.Number.Display
import GridSketch.Proofs.Expression.Display
