/-!
# Verbosity
-/

namespace Checkup

/-- The least severe kind of log line that is shown when verbosity was asked for so many times. -/
def levelFor (count : Nat) : String :=
  match count with
  | 0 => "warn"
  | 1 => "info"
  | 2 => "debug"
  | _ => "trace"

end Checkup
