import LineShell.Application.Count
import LineShell.Application.Directory
import LineShell.Application.Find
import LineShell.Application.Output
import LineShell.Application.Portion
import LineShell.Application.Registry
import LineShell.Application.Search
import LineShell.Application.Substitute

/-!
# All applications

The applications that a shell has from the start.
-/

namespace LineShell

open Application in
/-- The applications that a shell has from the start. -/
def Registry.standard : Registry :=
  .ofList [pwd, cd, ls, cat, echo, head, tail, grep, sed, find, history, wc]

end LineShell
