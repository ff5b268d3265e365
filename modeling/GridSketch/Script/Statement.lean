import GridSketch.Expression.Evaluation
import GridSketch.Script.Action

/-!
# Statements

A statement is recognised by the token that leads it and takes a number of tokens after it. It is an
action whose result is the list of tokens that it has not taken.

* A draw statement takes one token for each argument of its keyword.
* A binding and an expression take the longest expression that follows.
* A choice `condition ? a : b` tests the tokens that lead up to it.
-/

namespace GridSketch

/-- What every line said about a statement begins with. -/
def sayPrefix : String := "Stik: "

namespace Statement

open GridSketch.Action

/-! ## Drawing -/

/-- A draw argument is a finite number. -/
def scalar (vars : Variables) (t : Token) : Except Fault Float := do
  match ← Expression.operand vars t with
  | .number x =>
    if x.isFinite then .ok x
    else .error (.atToken t (.argumentNotFinite (Number.display x)))
  | v => .error (.atToken t (.argumentType v.type))

/-- Draws a shape. The word of the leading token decides which one, and how many arguments. -/
def draw (lead : Token) (after : List Token) : Action (List Token) :=
  match Keyword.ofWord? lead.text with
  | none => fail (.breach (.unknownKeyword lead.text))
  | some k => do
    let arguments := after.take k.arity
    if arguments.length < k.arity then
      fail (.atToken lead (.argumentsMissing lead.text k.arity arguments.length))
    else
      let numbers ← arguments.mapM fun t => consult (scalar · t)
      match Shape.ofArguments? k numbers with
      | none => fail (.breach (.unknownShape lead.text numbers.length))
      | some shape =>
        change (·.draw shape)
        say (sayPrefix ++ shape.describe)
        return after.drop k.arity

/-- Chooses the color of the shapes to come. -/
def color (lead : Token) (after : List Token) : Action (List Token) :=
  match after with
  | [] => fail (.atToken lead (.colorNotText none))
  | t :: rest =>
    if t.kind = .string then do
      change ({ · with color := t.text })
      say (sayPrefix ++ "Drawing color set to " ++ t.text ++ ".")
      return rest
    else fail (.atToken t (.colorNotText (some t.text)))

/-- Removes every shape. -/
def clear (after : List Token) : Action (List Token) := do
  change (·.clear)
  say (sayPrefix ++ "Canvas cleared.")
  return after

/-! ## Variables -/

/-- Binds a name to the value of the expression that follows. -/
def assign (name : Token) (after : List Token) : Action (List Token) := do
  let (v, rest) ← consult (Expression.evaluate · after)
  change (·.set name.text v)
  say (sayPrefix ++ "Variable " ++ name.text ++ " set to " ++ v.display ++ ".")
  return rest

/-- A binding led by its keyword: a name, the sign of assignment and an expression. -/
def binding (lead : Token) (after : List Token) : Action (List Token) :=
  match after with
  | [] => fail (.atToken lead (.nameInvalid none))
  | name :: after =>
    if name.kind = .identifier then
      match after with
      | [] => fail (.atToken name (.assignMissing name.text none))
      | sign :: after =>
        if sign.kind = .assign then assign name after
        else fail (.atToken sign (.assignMissing name.text (some sign.text)))
    else fail (.atToken name (.nameInvalid (some name.text)))

/-! ## Repetition -/

/-- Says a message a number of times. -/
def loop (lead : Token) (after : List Token) : Action (List Token) :=
  match after with
  | count :: message :: rest =>
    if count.kind = .number ∧ count.text ≠ "" ∧ count.text.toList.all Text.isDigit = true then
      if message.kind = .string then
        match Number.integer? count.text with
        | some n => do
          (List.replicate n.toNat message.text).forM say
          return rest
        | none => fail (.breach (.unreadableCount count.text))
      else fail (.atToken message (.loopMessage message.text))
    else fail (.atToken count (.loopCount count.text))
  | _ => fail (.atToken lead .loopIncomplete)

/-! ## Choice -/

/-- Says one of two values, as the condition made of the skipped tokens decides. The tokens skipped
    last come first. -/
def choice (skipped : List Token) (mark : Token) (after : List Token) : Action (List Token) :=
  if skipped.isEmpty then fail (.atToken mark .conditionMissing)
  else
    match after with
    | yes :: separator :: no :: rest =>
      if separator.kind = .colon then do
        let (condition, stray) ← consult (Expression.evaluate · skipped.reverse)
        match stray with
        | t :: _ => fail (.atToken t (.conditionStray t.text))
        | [] =>
          let v ← consult (Expression.operand · (if condition.holds then yes else no))
          say v.display
          return rest
      else fail (.atToken mark .choiceFormat)
    | _ => fail (.atToken mark .choiceFormat)

/-! ## Expressions -/

/-- The kinds of skipped tokens that may lead into an expression with a name. -/
def mayLead : TokenKind → Bool
  | .operator _ | .leftParen | .rightParen | .number | .string => true
  | _ => false

/-- The kinds that such a lead may begin with. -/
def mayOpen : TokenKind → Bool
  | .leftParen | .number | .string => true
  | _ => false

/-- The kinds that such a lead may end in: those after which an operand has to come. -/
def mayPrecede : TokenKind → Bool
  | .operator _ | .leftParen => true
  | _ => false

/-- The tokens before a name that belong to its expression: all of the skipped ones, in order, if
    they open one and leave an operand due, and none otherwise. -/
def leadIn (skipped : List Token) : List Token :=
  if skipped.all (mayLead ·.kind) && skipped.getLast?.any (mayOpen ·.kind) &&
      skipped.head?.any (mayPrecede ·.kind)
  then skipped.reverse else []

/-- The value of the expression that a name stands in, and the tokens after it. An expression that
    ends before the name is dropped, and the one that the name begins is taken. -/
def around (skipped : List Token) (name : Token) (after : List Token) (vars : Variables) :
    Except Fault (Value × List Token) := do
  let (v, rest) ← Expression.evaluate vars (leadIn skipped ++ name :: after)
  if (name :: after).length ≤ rest.length then Expression.evaluate vars (name :: after)
  else .ok (v, rest)

end Statement

end GridSketch
