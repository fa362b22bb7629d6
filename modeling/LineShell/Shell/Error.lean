import LineShell.Glob.Pattern
import LineShell.Line.Token
import LineShell.Options.Usage
import LineShell.Regex.Fault
import LineShell.Stream.Source
import LineShell.Text.Blank

/-!
# Errors

Everything that can make a line fail. An error keeps its cause; its message is the line that the
error channel shows, and begins with the name of the component that failed.
-/

namespace LineShell

/-- What is wrong with the arguments of an application. -/
inductive ArgumentFault where
  | usage (f : UsageFault)
  /-- The application needs input and has none. -/
  | missingInput
  | missingArgument
  | missingArguments
  | tooManyArguments
  | invalidArgument (argument : Text)
  | invalidFirstArgument
  | invalidOption
  | zeroLines
  /-- A complaint in the application's own words. -/
  | other (message : Text)
  deriving DecidableEq, Repr

/-- The text of the fault; what the usage complains about is put on one line. -/
def ArgumentFault.message : ArgumentFault → Text
  | usage f => Text.join [' '] f.message.words
  | missingInput => "missing input".toList
  | missingArgument => "missing argument".toList
  | missingArguments => "missing arguments".toList
  | tooManyArguments => "too many arguments".toList
  | invalidArgument argument => "invalid argument ".toList ++ argument
  | invalidFirstArgument => "invalid first argument".toList
  | invalidOption => "invalid option".toList
  | zeroLines => "illegal line count -- 0".toList
  | other message => message

/-- What is wrong with a path. -/
inductive PathFault where
  | os (path : Text) (e : OsError)
  /-- A directory, where a file is needed. -/
  | isDirectory (path : Text)
  /-- No directory, where one is needed. -/
  | notDirectory (path : Text)
  /-- No directory to search. -/
  | cannotSearch (path : Text)
  deriving DecidableEq, Repr

/-- The text of the fault. -/
def PathFault.message : PathFault → Text
  | os path e => path ++ ": ".toList ++ e.message
  | isDirectory path => path ++ ": is a directory".toList
  | notDirectory path => path ++ " is not an existing directory".toList
  | cannotSearch path => "could not open ".toList ++ path

/-- What is wrong with a pattern. -/
inductive PatternFault where
  | regex (pattern : Text) (f : Regex.Fault)
  | glob (f : GlobFault)
  deriving DecidableEq, Repr

/-- The text of the fault. -/
def PatternFault.message : PatternFault → Text
  | regex pattern f => f.report pattern
  | glob f => f.message

/-- Why a line fails. -/
inductive ShellError where
  /-- A quote that is not closed. -/
  | unterminated (d : Delimiter)
  | argument (app : Text) (f : ArgumentFault)
  | unknownApplication (name : Text)
  /-- More than one of a redirection marker in one call. -/
  | redirection (marker : Marker)
  | path (app : Text) (f : PathFault)
  | pattern (app : Text) (f : PatternFault)
  | stream (app : Text) (f : StreamFault)
  /-- Substitutions nested deeper than the limit. -/
  | depth (limit : Nat)
  deriving DecidableEq, Repr

/-- The direction that a marker stands for. -/
def Marker.direction : Marker → Text
  | input => "input".toList
  | output => "output".toList

/-- The message of an error, as the error channel shows it. -/
def ShellError.message : ShellError → Text
  | unterminated d => "parser: unterminated ".toList ++ [d.mark] ++ " quote".toList
  | argument app f => app ++ ": ".toList ++ f.message
  | unknownApplication name => name ++ ": unknown application".toList
  | redirection marker =>
    "redirection: too many files for ".toList ++ marker.direction ++ " redirection".toList
  | path app f => app ++ ": ".toList ++ f.message
  | pattern app f => app ++ ": ".toList ++ f.message
  | stream app f => app ++ ": ".toList ++ f.message
  | depth limit =>
    "substitution: nesting deeper than ".toList ++ Text.ofNat limit ++ " levels".toList

end LineShell
