import LineShell.Regex.Expr
import LineShell.Unicode.Category

/-!
# Programs

An expression is matched by running a program: a list of instructions, each of which takes a
character, tests the place, notes the place, or tells where to go on. An instruction that does not
say where to go on is followed by the next one. Where two ways are open, the first one is preferred.

The code of an expression is written for the address at which it starts and goes on behind its end.
A body that may match without taking a character is looped over inside an option, so that the loop
is entered once before it is left.
-/

namespace LineShell.Regex

/-- An instruction. -/
inductive Instruction where
  /-- Takes a character of the set. -/
  | take (s : CharSet)
  /-- Goes on only where the test holds. -/
  | look (l : Look)
  /-- Notes the place in a slot. -/
  | save (slot : Nat)
  /-- Goes on at the first address or, failing that, at the second. -/
  | split (first second : Nat)
  | jump (target : Nat)
  | accept
  deriving Repr

namespace Instruction

/-- The choice between going into a body and going around it; the greedy one goes in. -/
def choice (greedy : Bool) (into around : Nat) : Instruction :=
  if greedy then split into around else split around into

end Instruction

open Instruction

/-- A piece of code, for any address at which it may start. -/
abbrev Code := Nat → List Instruction

namespace Code

/-- The code one piece after the other, `count` times. -/
def copies (body : Code) : Nat → Code
  | 0, _ => []
  | count + 1, start =>
    let first := body start
    first ++ copies body count (start + first.length)

/-- The body once and then as often as it matches. -/
def plus (greedy : Bool) (body : Code) : Code := fun start ↦
  let first := body start
  first ++ [choice greedy start (start + first.length + 1)]

/-- The body as often as it matches; every match takes a character. -/
def star (greedy : Bool) (body : Code) : Code := fun start ↦
  let inner := body (start + 1)
  choice greedy (start + 1) (start + inner.length + 2) :: inner ++ [jump start]

/-- The body or nothing, `count` times in one another; going around it leads to `stop`. -/
def options (greedy : Bool) (body : Code) (stop : Nat) : Nat → Code
  | 0, _ => []
  | count + 1, start =>
    let inner := body (start + 1)
    choice greedy (start + 1) stop ::
      (inner ++ options greedy body stop count (start + 1 + inner.length))

/-- The body at most `count` times. -/
def atMost (greedy : Bool) (body : Code) : Nat → Code
  | 0, _ => []
  | count + 1, start =>
    let inner := body (start + 1)
    let stop := start + (count + 1) * (inner.length + 1)
    choice greedy (start + 1) stop ::
      (inner ++ options greedy body stop count (start + 1 + inner.length))

/-- One piece of code behind another. -/
def andThen (first second : Code) : Code := fun start ↦
  let code := first start
  code ++ second (start + code.length)

/-- The body at least `least` times; `consumes` tells whether every match takes a character. -/
def atLeast (greedy consumes : Bool) (body : Code) : Nat → Code
  | 0 => if consumes then star greedy body else atMost greedy (plus greedy body) 1
  | least + 1 => (copies body least).andThen (plus greedy body)

/-- The body between `least` and `most` times. -/
def repetition (greedy consumes : Bool) (least : Nat) (most : Option Nat) (body : Code) : Code :=
  match most with
  | none => atLeast greedy consumes body least
  | some most => (copies body least).andThen (atMost greedy body (most - least))

/-- Either piece of code, the first one if it can. -/
def orElse (first second : Code) : Code := fun start ↦
  let one := first (start + 1)
  let other := second (start + one.length + 2)
  split (start + 1) (start + one.length + 2) ::
    (one ++ jump (start + one.length + 2 + other.length) :: other)

end Code

namespace Expr

mutual

/-- The code of an expression. -/
def code : Expr → Code
  | empty => fun _ ↦ []
  | literal t => fun _ ↦ t.map fun c ↦ take (.single c)
  | set _ s => fun _ ↦ [take s]
  | look l => fun _ ↦ [Instruction.look l]
  | repetition least most greedy body =>
    Code.repetition greedy body.consumes least most fun start ↦ body.code start
  | capture index body => fun start ↦
    save (2 * index) :: body.code (start + 1) ++ [save (2 * index + 1)]
  | concat parts => codeOfAll parts
  | alternation branches => codeOfAny branches

/-- The code of expressions one after the other. -/
def codeOfAll : List Expr → Code
  | [] => fun _ ↦ []
  | e :: rest => Code.andThen (fun start ↦ e.code start) fun start ↦ codeOfAll rest start

/-- The code of alternatives. -/
def codeOfAny : List Expr → Code
  | [] => fun _ ↦ [take .empty]
  | [e] => e.code
  | e :: rest => Code.orElse (fun start ↦ e.code start) fun start ↦ codeOfAny rest start

end

/-- The program of an expression; slots zero and one hold the ends of the whole match. -/
def program (e : Expr) : Array Instruction := ((capture 0 e).code 0 ++ [accept]).toArray

end Expr

end LineShell.Regex
