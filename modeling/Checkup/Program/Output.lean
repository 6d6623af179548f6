import Checkup.Files.Error
import Checkup.Text.Utf8

/-!
# What a program leaves behind

A program that was run has printed bytes to two streams and has ended in one of two ways. It may also never
have started, or not have ended in the time that it was given.
-/

namespace Checkup.Program

/-- How a program ended. -/
inductive Ending where
  /-- By itself, with a status. -/
  | status (code : Nat)
  /-- By a signal. -/
  | signal (number : Nat)
  deriving DecidableEq, Repr

namespace Ending

/-- Whether a program ended well. -/
def isSuccess (ending : Ending) : Bool :=
  ending = status 0

/-- The names of signals by their numbers. -/
def signalNames : List (Nat × String) := [
  (1, "SIGHUP"), (2, "SIGINT"), (3, "SIGQUIT"), (4, "SIGILL"), (5, "SIGTRAP"), (6, "SIGABRT"), (7, "SIGBUS"),
  (8, "SIGFPE"), (9, "SIGKILL"), (10, "SIGUSR1"), (11, "SIGSEGV"), (12, "SIGUSR2"), (13, "SIGPIPE"),
  (14, "SIGALRM"), (15, "SIGTERM"), (16, "SIGSTKFLT"), (17, "SIGCHLD"), (18, "SIGCONT"), (19, "SIGSTOP"),
  (20, "SIGTSTP"), (21, "SIGTTIN"), (22, "SIGTTOU"), (23, "SIGURG"), (24, "SIGXCPU"), (25, "SIGXFSZ"),
  (26, "SIGVTALRM"), (27, "SIGPROF"), (28, "SIGWINCH"), (29, "SIGIO"), (30, "SIGPWR"), (31, "SIGSYS")]

/-- The wording of an ending. -/
def text : Ending → String
  | status code => s!"exit status: {code}"
  | signal number =>
    match signalNames.lookup number with
    | some name => s!"signal: {number} ({name})"
    | none => s!"signal: {number}"

end Ending

/-- What a program has printed, and how it ended. -/
structure Output where
  stdout : List UInt8
  stderr : List UInt8
  ending : Ending
  deriving DecidableEq, Repr

/-- Why there is no output of a program. -/
inductive RunError where
  | notStarted (cause : Files.FileError)
  /-- The program has used up its time, and has been killed. -/
  | tooLong
  deriving DecidableEq, Repr

/-- What runs programs and tasks. -/
structure Runner where
  /-- From the path of a directory and the words of a command to what comes of the program. -/
  output : String → List String → Except RunError Output
  /-- From the path of a project to the number of the task that works on it apart from the scan. Numbers are given
  to whatever is started, in order, so that they depend on the machine; here they depend on the project alone. -/
  task : String → Nat

end Checkup.Program
