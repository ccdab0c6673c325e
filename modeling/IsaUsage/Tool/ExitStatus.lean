namespace IsaUsage

/-!
# How a process ended

The system reports the end of a process as one word that packs an exit code or
a signal. `ExitStatus.ofWaitStatus` unpacks it, and `ExitStatus.message` is the
text of what it says. The word is signed, but only its bits count; its sign
shows where nothing can be unpacked.
-/

/-- How a process ended, or why it has not. -/
inductive ExitStatus where
  | exited (code : Nat)
  | killed (signal : Nat) (dumpedCore : Bool)
  | stopped (signal : Nat)
  | continued
  | unrecognized (status : Int32)
  deriving DecidableEq, Repr

namespace ExitStatus

/-- The names of the signals from 1 on. -/
def signalNames : List String :=
  ["SIGHUP", "SIGINT", "SIGQUIT", "SIGILL", "SIGTRAP", "SIGABRT", "SIGBUS",
    "SIGFPE", "SIGKILL", "SIGUSR1", "SIGSEGV", "SIGUSR2", "SIGPIPE", "SIGALRM",
    "SIGTERM", "SIGSTKFLT", "SIGCHLD", "SIGCONT", "SIGSTOP", "SIGTSTP",
    "SIGTTIN", "SIGTTOU", "SIGURG", "SIGXCPU", "SIGXFSZ", "SIGVTALRM",
    "SIGPROF", "SIGWINCH", "SIGIO", "SIGPWR", "SIGSYS"]

/-- A signal by its number, and by its name where it has one. -/
def signalText (signal : Nat) : String :=
  match signal with
  | 0 => "0"
  | index + 1 =>
      match signalNames[index]? with
      | some name => toString signal ++ " (" ++ name ++ ")"
      | none => toString signal

/-- The bits of a word, as a number without a sign. -/
def bits (status : Int32) : Nat :=
  status.toUInt32.toNat

/-- Unpack the word that the system reports. -/
def ofWaitStatus (status : Int32) : ExitStatus :=
  let low := bits status % 0x80
  let high := bits status / 0x100 % 0x100
  if low = 0 then .exited high
  else if low ≠ 0x7F then .killed low (bits status / 0x80 % 2 = 1)
  else if bits status % 0x100 = 0x7F then .stopped high
  else if bits status = 0xFFFF then .continued
  else .unrecognized status

/-- Whether a process did its work. -/
def isSuccess (status : ExitStatus) : Bool :=
  status == .exited 0

/-- The text of how a process ended. -/
def message : ExitStatus → String
  | .exited code => "exit status: " ++ toString code
  | .killed signal dumpedCore =>
      "signal: " ++ signalText signal ++
        (if dumpedCore then " (core dumped)" else "")
  | .stopped signal =>
      "stopped (not terminated) by signal: " ++ signalText signal
  | .continued => "continued (WIFCONTINUED)"
  | .unrecognized status =>
      "unrecognised wait status: " ++ toString status.toInt ++ " 0x" ++
        String.ofList (Nat.toDigits 16 (bits status))

end ExitStatus
end IsaUsage
