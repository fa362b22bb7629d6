import LineShell.Main
import LineShell.Proofs.Application.Find
import LineShell.Proofs.Application.History
import LineShell.Proofs.Application.PatternIndex
import LineShell.Proofs.Application.Registry
import LineShell.Proofs.Application.SeveralFiles
import LineShell.Proofs.Application.Substitution
import LineShell.Proofs.Application.Totals
import LineShell.Proofs.Application.WholeWords
import LineShell.Proofs.Application.Windows
import LineShell.Proofs.Glob.Expansion
import LineShell.Proofs.Glob.Segments
import LineShell.Proofs.Line.Agreement
import LineShell.Proofs.Line.Outline
import LineShell.Proofs.Line.Regions
import LineShell.Proofs.Line.Separation
import LineShell.Proofs.Line.Writing
import LineShell.Proofs.Shell.Capture
import LineShell.Proofs.Shell.Depth
import LineShell.Proofs.Shell.Encoding
import LineShell.Proofs.Shell.ErrorLines
import LineShell.Proofs.Shell.Failures
import LineShell.Proofs.Shell.Interactive
import LineShell.Proofs.Shell.NamedFiles
import LineShell.Proofs.Shell.Portions
import LineShell.Proofs.Shell.RedirectionOrder
import LineShell.Proofs.Shell.Refusal
import LineShell.Proofs.Shell.Sequence
import LineShell.Proofs.Shell.Splice
import LineShell.Proofs.Shell.Unfailing
import LineShell.Proofs.Shell.WorkingDirectory
import LineShell.Proofs.Stream.Pipe
