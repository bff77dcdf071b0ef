import ConnectorSchema.Files.FileError

/-!
Programs as those who start them see them: they are given a text to read and leave bytes and a status
behind. Which programs there are and what they do is up to a `Launcher`.
-/

namespace ConnectorSchema

/-- How a program ends. -/
inductive ExitStatus where
  | code (n : Nat)
  | signal (n : Nat)
deriving DecidableEq, Repr

def signalNames : List (Nat × String) := [
  (1, "SIGHUP"), (2, "SIGINT"), (3, "SIGQUIT"), (4, "SIGILL"), (5, "SIGTRAP"), (6, "SIGABRT"),
  (7, "SIGBUS"), (8, "SIGFPE"), (9, "SIGKILL"), (10, "SIGUSR1"), (11, "SIGSEGV"), (12, "SIGUSR2"),
  (13, "SIGPIPE"), (14, "SIGALRM"), (15, "SIGTERM"), (16, "SIGSTKFLT"), (17, "SIGCHLD"),
  (18, "SIGCONT"), (19, "SIGSTOP"), (20, "SIGTSTP"), (21, "SIGTTIN"), (22, "SIGTTOU"),
  (23, "SIGURG"), (24, "SIGXCPU"), (25, "SIGXFSZ"), (26, "SIGVTALRM"), (27, "SIGPROF"),
  (28, "SIGWINCH"), (29, "SIGIO"), (30, "SIGPWR"), (31, "SIGSYS")]

def ExitStatus.describe : ExitStatus → String
  | .code n => "exit status: " ++ toString n
  | .signal n =>
    match signalNames.lookup n with
    | some name => "signal: " ++ toString n ++ " (" ++ name ++ ")"
    | none => "signal: " ++ toString n

/-- What a program has left behind when it has ended. -/
structure Remains where
  status : ExitStatus
  out : List UInt8
  err : List UInt8

/-- What comes of a program that was started. -/
structure Launch where
  /-- Whether its text could be written to it. -/
  written : Except FileError Unit
  /-- What it has left behind, if its end could be waited for. -/
  remains : Except FileError Remains

/-- Starts a program with arguments on a text, or says why it cannot be started. -/
abbrev Launcher := (program : String) → (arguments : List String) → (text : String) →
  Except FileError Launch

end ConnectorSchema
