import TwinRun.Text.Decimal

/-!
How a process ended, as the system's wait status encodes it.

The low seven bits hold the signal that killed the process, or zero for a normal exit,
whose code is in the next byte.
-/

namespace TwinRun

/-- A raw wait status. -/
structure ExitStatus where
  raw : Nat
  deriving DecidableEq, Repr

namespace ExitStatus

/-- A normal exit. Only the low byte of the code is kept. -/
def ofCode (code : Nat) : ExitStatus := ⟨code % 256 * 256⟩

def ofSignal (signal : Nat) : ExitStatus := ⟨signal % 128⟩

def low (s : ExitStatus) : Nat := s.raw % 128

def code? (s : ExitStatus) : Option Nat :=
  if s.low = 0 then some (s.raw / 256 % 256) else none

def signal? (s : ExitStatus) : Option Nat :=
  if s.low = 0 ∨ s.low = 127 then none else some s.low

def stoppedBy? (s : ExitStatus) : Option Nat :=
  if s.raw % 256 = 127 then some (s.raw / 256 % 256) else none

def coreDumped (s : ExitStatus) : Bool := s.signal?.isSome && s.raw / 128 % 2 = 1

/-- Ended normally with code zero. -/
def success (s : ExitStatus) : Bool := s.raw = 0

/-- The names of the classic signals, from 1 on. -/
def signalNames : List String := [
  "SIGHUP", "SIGINT", "SIGQUIT", "SIGILL", "SIGTRAP", "SIGABRT", "SIGBUS", "SIGFPE",
  "SIGKILL", "SIGUSR1", "SIGSEGV", "SIGUSR2", "SIGPIPE", "SIGALRM", "SIGTERM", "SIGSTKFLT",
  "SIGCHLD", "SIGCONT", "SIGSTOP", "SIGTSTP", "SIGTTIN", "SIGTTOU", "SIGURG", "SIGXCPU",
  "SIGXFSZ", "SIGVTALRM", "SIGPROF", "SIGWINCH", "SIGIO", "SIGPWR", "SIGSYS"]

/-- A signal as number and, if it has one, name. -/
def signalText (signal : Nat) : String :=
  Decimal.text signal ++
    match signal with
    | 0 => ""
    | n + 1 => (signalNames[n]?.map (fun name => " (" ++ name ++ ")")).getD ""

def hexadecimal (n : Nat) : String := String.ofList (Nat.toDigits 16 n)

def describe (s : ExitStatus) : String :=
  match s.code?, s.signal?, s.stoppedBy? with
  | some code, _, _ => "exit status: " ++ Decimal.text code
  | none, some signal, _ =>
      "signal: " ++ signalText signal ++ (if s.coreDumped then " (core dumped)" else "")
  | none, none, some signal =>
      "stopped (not terminated) by signal: " ++ signalText signal
  | none, none, none =>
      if s.raw = 65535 then "continued (WIFCONTINUED)"
      else "unrecognised wait status: " ++ Decimal.text s.raw ++ " 0x" ++ hexadecimal s.raw

end ExitStatus

end TwinRun
