import LineShell.Regex.Pattern
import LineShell.Unicode.CharSet

/-!
# Expressions

What a pattern means, without spans and flags: texts, sets of characters, tests of the place,
repetitions, captures, and the two ways of putting them together. A class of bytes and a class of
characters are different expressions even if they hold the same. The constructors under `namespace
Expr` keep expressions in a simple form: texts that stand side by side are one text, a concatenation
has no concatenation in it and no empty part, and an alternation has no alternation in it. An
alternation of branches that begin with the same parts has these parts in front; where such a part
can match in several ways this decides which match is found.
-/

namespace LineShell.Regex

/-- A test of the place between two characters. -/
inductive Look where
  | textStart
  | textEnd
  /-- At the start of a line; `crlf` when a carriage return can end a line too. -/
  | lineStart (crlf : Bool)
  | lineEnd (crlf : Bool)
  /-- At an edge of a word; `unicode` when words have the characters of all scripts. -/
  | word (edge : WordEdge) (unicode : Bool)
  deriving DecidableEq, Repr

/-- What a pattern means. -/
inductive Expr where
  | empty
  | literal (t : Text)
  /-- A character of the set; `bytes` for a class of bytes. The empty set always is one. -/
  | set (bytes : Bool) (s : CharSet)
  | look (l : Look)
  | repetition (least : Nat) (most : Option Nat) (greedy : Bool) (body : Expr)
  | capture (index : Nat) (body : Expr)
  | concat (parts : List Expr)
  | alternation (branches : List Expr)
  deriving Inhabited

namespace Expr

/-! ### Equality -/

mutual

/-- Whether two expressions are the same. -/
def beq : Expr → Expr → Bool
  | empty, empty => true
  | literal t, literal u => t == u
  | set bytes s, set bytes' s' => bytes == bytes' && s == s'
  | look l, look l' => l == l'
  | repetition least most greedy body, repetition least' most' greedy' body' =>
    least == least' && most == most' && greedy == greedy' && beq body body'
  | capture index body, capture index' body' => index == index' && beq body body'
  | concat parts, concat parts' => beqAll parts parts'
  | alternation branches, alternation branches' => beqAll branches branches'
  | _, _ => false

/-- Whether two lists hold the same expressions. -/
def beqAll : List Expr → List Expr → Bool
  | [], [] => true
  | e :: rest, e' :: rest' => beq e e' && beqAll rest rest'
  | _, _ => false

end

instance : BEq Expr := ⟨beq⟩

/-! ### Lengths -/

/-- The sum of the lengths, if every one is known. -/
def sum? (lengths : List (Option Nat)) : Option Nat :=
  lengths.foldr (fun a b ↦ a.bind fun m ↦ b.map (m + ·)) (some 0)

/-- The best of the lengths, if every one is known. -/
def best? (pick : Nat → Nat → Nat) : List (Option Nat) → Option Nat
  | [] => none
  | [a] => a
  | a :: rest => a.bind fun m ↦ (best? pick rest).map (pick m)

mutual

/-- The least length of a match, if it is known; there is none where nothing matches. -/
def least? : Expr → Option Nat
  | empty => some 0
  | literal t => some t.length
  | set _ s => if s.isEmpty then none else some 1
  | look _ => some 0
  | repetition least _ _ body => body.least?.map (least * ·)
  | capture _ body => body.least?
  | concat parts => sum? (leastOfEach parts)
  | alternation branches => best? min (leastOfEach branches)

/-- The least length for each of the expressions. -/
def leastOfEach : List Expr → List (Option Nat)
  | [] => []
  | e :: rest => e.least? :: leastOfEach rest

end

mutual

/-- The greatest length of a match, if there is one. -/
def greatest? : Expr → Option Nat
  | empty => some 0
  | literal t => some t.length
  | set _ s => if s.isEmpty then none else some 1
  | look _ => some 0
  | repetition _ most _ body => most.bind fun n ↦ body.greatest?.map (n * ·)
  | capture _ body => body.greatest?
  | concat parts => sum? (greatestOfEach parts)
  | alternation branches => best? max (greatestOfEach branches)

/-- The greatest length for each of the expressions. -/
def greatestOfEach : List Expr → List (Option Nat)
  | [] => []
  | e :: rest => e.greatest? :: greatestOfEach rest

end

/-- Whether every match takes at least one character. -/
def consumes (e : Expr) : Bool := e.least?.any (0 < ·)

/-! ### Building -/

/-- The expression that matches nothing. -/
def never : Expr := set true .empty

/-- The expression that matches a character of the set; a set of one character is a text. -/
def ofSet (bytes : Bool) (s : CharSet) : Expr :=
  if s.isEmpty then never
  else match s.only? with
    | some c => literal [c]
    | none => set bytes s

/-- The repetition of an expression. What never takes a character need not be repeated. -/
def times (least : Nat) (most : Option Nat) (greedy : Bool) (body : Expr) : Expr :=
  let still := body.greatest? == some 0
  let least := if still then min least 1 else least
  let most := if still then some ((most.map (min 1)).getD 1) else most
  if least = 0 ∧ most = some 0 then empty
  else if least = 1 ∧ most = some 1 then body
  else repetition least most greedy body

/-- The parts that an expression adds to a concatenation. -/
def partsOf : Expr → List Expr
  | empty => []
  | concat parts => parts
  | e => [e]

/-- Puts a part in front of others; two texts become one. -/
def joinText : Expr → List Expr → List Expr
  | literal t, literal u :: rest => literal (t ++ u) :: rest
  | e, rest => e :: rest

/-- The expression that matches the parts one after the other. -/
def inOrder (parts : List Expr) : Expr :=
  match (parts.flatMap partsOf).foldr joinText [] with
  | [] => empty
  | [e] => e
  | parts => concat parts

/-- The branches that an expression adds to an alternation. -/
def branchesOf : Expr → List Expr
  | alternation branches => branches
  | e => [e]

/-- The set of the character of a text of one character. -/
def asChar? : Expr → Option CharSet
  | literal [c] => some (.single c)
  | _ => none

/-- The set of an expression that is one. -/
def asSet? : Expr → Option CharSet
  | set _ s => some s
  | _ => none

/-- The parts of a concatenation. -/
def asParts? : Expr → Option (List Expr)
  | concat parts => some parts
  | _ => none

/-- The longest list that both lists begin with. -/
def common : List Expr → List Expr → List Expr
  | a :: as, b :: bs => if a == b then a :: common as bs else []
  | _, _ => []

/-- The parts that every one of several lists begins with. -/
def commonOfAll : List (List Expr) → List Expr
  | [] => []
  | parts :: rest => rest.foldl common parts

/-- Alternatives as they are, when nothing makes them simpler. -/
def plainAlternation : List Expr → Expr
  | [] => never
  | [e] => e
  | branches => alternation branches

/-- The expression that matches one of the branches, an earlier one if it can. `depth` bounds how
often equal parts in front are taken out; each time makes the branches shorter. -/
def firstOfWithin : Nat → List Expr → Expr
  | 0, branches => plainAlternation branches
  | depth + 1, branches =>
    match branches.flatMap branchesOf with
    | [] => plainAlternation []
    | [e] => e
    | branches =>
      match (branches.mapM asChar?).or (branches.mapM asSet?), branches.mapM asParts? with
      | some sets, _ => ofSet false (.unionAll sets)
      | none, some lists =>
        match commonOfAll lists with
        | [] => plainAlternation branches
        | front =>
          inOrder (front ++ [firstOfWithin depth
            (lists.map fun parts ↦ inOrder (parts.drop front.length))])
      | none, none => plainAlternation branches

/-- The expression that matches one of the branches, an earlier one if it can. -/
def firstOf (branches : List Expr) : Expr := firstOfWithin nestLimit branches

end Expr

end LineShell.Regex
