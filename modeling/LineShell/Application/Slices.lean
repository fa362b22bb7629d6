import LineShell.Application.Substitute

/-!
# Substitutions in slices

A second way to read a substitution, from the bytes of its expression. What is behind the delimiter
is the slice of the bytes behind `s` and behind as many bytes as the delimiter has. A slice begins
where a character begins, or at the end; anywhere else there is none.
-/

namespace LineShell

namespace Utf8

/-- Whether a byte goes on with a character that another byte began. -/
def isContinuation (b : UInt8) : Bool := 0x80 ≤ b.toNat && b.toNat < 0xC0

/-- Whether the bytes of a text can be cut at an index. -/
def isBoundary (bytes : Bytes) (i : Nat) : Bool :=
  match bytes[i]? with
  | some b => i == 0 || !isContinuation b
  | none => i == bytes.length

end Utf8

/-- What the bytes from an index on are the text of, if the text can be cut there. -/
def Text.sliceFrom? (t : Text) (i : Nat) : Option Text :=
  if Utf8.isBoundary t.encode i then Utf8.decode? (t.encode.drop i) else none

namespace Application.Substitution

/-- A substitution whose pattern is compiled. -/
def compiled (s : Substitution) : Except ShellError (Substitution × Regex.Matcher) :=
  match Regex.Matcher.compile false s.pattern with
  | .ok r => .ok (s, r)
  | .error f => .error (.pattern sedName (.regex s.pattern f))

/-- Reads a substitution and compiles its pattern. -/
def parse (expression : Text) : Except ShellError (Substitution × Regex.Matcher) :=
  match read? expression with
  | some s => s.compiled
  | none => .error (.argument sedName .invalidFirstArgument)

/-- Reads a substitution from what is behind the delimiter. -/
def parseBody (delimiter : Char) (body : Text) : Except ShellError (Substitution × Regex.Matcher) :=
  match Text.pieces delimiter body with
  | [pattern, replacement, flags] =>
    if pattern.isEmpty || !(flags.isEmpty || flags == ['g']) then
      .error (.argument sedName .invalidFirstArgument)
    else compiled ⟨pattern, replacement, flags == ['g']⟩
  | _ => .error (.argument sedName .invalidFirstArgument)

/-- Reads a substitution by a slice; there is no result if there is no slice. -/
def parseSliced? (expression : Text) : Option (Except ShellError (Substitution × Regex.Matcher)) :=
  match expression with
  | 's' :: delimiter :: _ =>
    if isAlphanumericChar delimiter || isBlankChar delimiter || delimiter == '\\' then
      some (.error (.argument sedName .invalidFirstArgument))
    else
      (expression.sliceFrom? (1 + (Utf8.encodeChar delimiter).length)).map (parseBody delimiter)
  | _ => some (.error (.argument sedName .invalidFirstArgument))

end Application.Substitution

end LineShell
