/-!
# Severities: the named message levels

Eight message levels have a name.  Each has a rank, a 32-bit integer that grows with the amount of detail.  The
graver half has negative ranks; zero is left free.

* `mem_all`: the list of severities leaves none out.
-/

namespace LeveledLog

/-- A named message level, in ascending order of rank. -/
inductive Severity
  | fatal
  | error
  | warning
  | info
  | verbose
  | verbose2
  | verbose3
  | debug
  deriving DecidableEq

namespace Severity

/-- All severities, in ascending order of rank. -/
def all : List Severity :=
  [fatal, error, warning, info, verbose, verbose2, verbose3, debug]

/-- The rank of a severity: the higher, the more detailed. -/
def rank : Severity → Int32
  | fatal => -4
  | error => -3
  | warning => -2
  | info => 1
  | verbose => 2
  | verbose2 => 3
  | verbose3 => 4
  | debug => 5

theorem mem_all (s : Severity) : s ∈ all := by
  cases s <;> decide

end Severity

end LeveledLog
