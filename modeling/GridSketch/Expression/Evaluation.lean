import GridSketch.Expression.ToPostfix
import GridSketch.State
import GridSketch.Token.Lexer

/-!
# The value of an expression

An expression in operand-first order is evaluated on a stack of values.

* `operand` is the value of a single token, `Operator.apply` that of an operation.
* `ofPostfix` runs a reordered list; a list that is no expression in that order is refused.
* `evaluate` is the value of the expression at the beginning of a list, and what follows it.
* `calculate` is the value of a text that is one expression and nothing else.
-/

namespace GridSketch

/-- The value of an arithmetic operation or a comparison of two numbers. Only a division by zero
    fails. -/
def Operator.onNumbers (o : Operator) (a b : Float) : Except Cause Value :=
  match o with
  | plus => .ok (.number (a + b))
  | minus => .ok (.number (a - b))
  | star => .ok (.number (a * b))
  | slash => if b == 0 then .error .divisionByZero else .ok (.number (a / b))
  | eq => .ok (.boolean (a == b))
  | ne => .ok (.boolean (a != b))
  | lt => .ok (.boolean (decide (a < b)))
  | gt => .ok (.boolean (decide (b < a)))
  | le => .ok (.boolean (decide (a ≤ b)))
  | ge => .ok (.boolean (decide (b ≤ a)))

/-- The value of an operation, written with the given symbol. Two truth values can be compared for
    equality; all else needs two numbers. -/
def Operator.apply (o : Operator) (symbol : String) : Value → Value → Except Cause Value
  | .number a, .number b => o.onNumbers a b
  | .boolean a, .boolean b =>
    match o with
    | eq => .ok (.boolean (a == b))
    | ne => .ok (.boolean (a != b))
    | _ => .error (.notForBooleans symbol)
  | left, right => .error (.operandTypes symbol left.type right.type)

namespace Expression

/-- A result whose failures point at a token. -/
def atToken {α : Type} (t : Token) : Except Cause α → Except Fault α
  | .ok a => .ok a
  | .error cause => .error (.atToken t cause)

/-- Applies the operator that a token stands for. A token of another kind operates on nothing. -/
def applyToken (t : Token) (left right : Value) : Except Fault Value :=
  match t.kind with
  | .operator o => atToken t (o.apply t.text left right)
  | _ =>
    match left, right with
    | .number _, .number _ => .error (.atToken t (.unknownOperator t.text))
    | .boolean _, .boolean _ => .error (.atToken t (.notForBooleans t.text))
    | _, _ => .error (.atToken t (.operandTypes t.text left.type right.type))

/-- The value of a single token. -/
def operand (vars : Variables) (t : Token) : Except Fault Value :=
  match t.kind with
  | .number =>
    match Number.ofText? t.text with
    | some x => .ok (.number x)
    | none => .error (.breach (.unreadableNumber t.text))
  | .string => .ok (.text t.text)
  | .identifier =>
    Fault.ofScript (vars.get t.text (some t.position.line) (some t.position.col))
  | _ => .error (.atToken t (.notAnOperand t.text))

/-- Works one token off: an operator replaces the two values on top of the stack by one, every other
    token adds its value. -/
def push (vars : Variables) (stack : List Value) (t : Token) : Except Fault (List Value) :=
  match t.kind, stack with
  | .operator _, right :: left :: stack => (applyToken t left right).map (· :: stack)
  | .operator _, _ => .error (.atToken t (.operandMissingFor t.text))
  | _, stack => (operand vars t).map (· :: stack)

/-- The value of a list in operand-first order: exactly one value must be left at the end. -/
def ofPostfix (vars : Variables) (ts : List Token) : Except Fault Value := do
  match ← ts.foldlM (push vars) [] with
  | [v] => .ok v
  | stack =>
    let cause := Cause.valuesLeft stack.length
    match ts with
    | first :: _ => .error (.atToken first cause)
    | [] => .error (.script ⟨cause, none, none⟩)

/-- The value of the expression at the beginning of a list of tokens, and the tokens after it. -/
def evaluate (vars : Variables) (ts : List Token) : Except Fault (Value × List Token) := do
  let (reordered, rest) ← Fault.ofScript (toPostfix ts)
  let v ← ofPostfix vars reordered
  .ok (v, rest)

theorem evaluate_ok {vars : Variables} {ts rest : List Token} {v : Value} :
    evaluate vars ts = .ok (v, rest) ↔
      ∃ p, toPostfix ts = .ok (p, rest) ∧ ofPostfix vars p = .ok v := by
  simp only [evaluate, bind, Except.bind]
  cases toPostfix ts with
  | error d => simp [Fault.ofScript]
  | ok result =>
    obtain ⟨p, r⟩ := result
    simp only [Fault.ofScript, Except.ok.injEq, Prod.mk.injEq]
    cases hv : ofPostfix vars p with
    | error fault => grind
    | ok w => grind

theorem evaluate_suffix {vars : Variables} {ts rest : List Token} {v : Value}
    (h : evaluate vars ts = .ok (v, rest)) : rest <:+ ts := by
  obtain ⟨p, hp, -⟩ := evaluate_ok.1 h
  exact toPostfix_suffix hp

theorem evaluate_length_lt {vars : Variables} {ts rest : List Token} {v : Value}
    (h : evaluate vars ts = .ok (v, rest)) : rest.length < ts.length := by
  obtain ⟨p, hp, -⟩ := evaluate_ok.1 h
  exact toPostfix_length_lt hp

/-- The value of a text that is one expression. What is left over is refused. -/
def calculate (vars : Variables) (source : String) : Except Fault Value := do
  let ts ← Fault.ofScript (tokenize source)
  let (v, rest) ← evaluate vars ts
  match rest with
  | [] => .ok v
  | stray :: _ =>
    if stray.kind = .rightParen then .error (.atToken stray .unmatchedParenthesis)
    else .error (.atToken stray (.afterExpression stray.text))

end Expression

end GridSketch
