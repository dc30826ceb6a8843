import ProcTrace.Journal

/-!
# The transcript of system calls

One line for each call, with its arguments; an unbroken run of memory peeks at one process is one
line, which gives the first and the last address and their number.
-/

namespace ProcTrace.Transcript

/-- strings as they are passed, in brackets -/
def vector (a : PointerArray) : String := "[" ++ ",".intercalate (a.strings.map Hex.bytes) ++ "]"

def hex (n : Nat) : String := "0x" ++ Hex.number n

/-- a request of a tracer, with its four arguments -/
def request (name : String) (pid : Pid) (address data : Nat) : String :=
  "ptrace " ++ name ++ " " ++ toString pid.toInt ++ " " ++ hex address ++ " " ++ hex data

/-- the number of a signal that is delivered, zero for none -/
def signalNumber (signal : Option Signal) : Nat := (signal.map Signal.number).getD 0

/-- flag that also waits for children of any kind -/
def waitAll : Nat := 0x40000000

/-- register set that holds the general registers -/
def generalRegisters : Nat := 1

def line : Syscall → String
  | .fork _ => "fork"
  | .waitpid pid _ => "waitpid " ++ toString pid.toInt ++ " " ++ hex waitAll
  | .kill pid signal _ => "kill " ++ toString pid.toInt ++ " " ++ toString signal.number
  | .attach pid _ => request "ATTACH" pid 0 0
  | .cont pid signal _ => request "CONT" pid 0 (signalNumber signal)
  | .setOptions pid options _ => request "SETOPTIONS" pid 0 options.bits
  | .traceMe _ => request "TRACEME" 0 0 0
  | .peekUser pid offset _ =>
    "ptrace PEEKUSER " ++ toString pid.toInt ++ " " ++ hex offset.toNat
  | .peekData pid address _ =>
    "ptrace PEEKDATA " ++ toString pid.toInt ++ " " ++ hex address.toNat
  | .getRegisterSet pid _ =>
    "ptrace GETREGSET " ++ toString pid.toInt ++ " " ++ hex generalRegisters ++ " iov_len="
      ++ toString (8 * RegisterSet.size)
  | .exec program argv none _ => "execv " ++ Hex.bytes program.upToZero ++ " " ++ vector argv
  | .exec program argv (some envp) _ =>
    "execve " ++ Hex.bytes program.upToZero ++ " " ++ vector argv ++ " " ++ vector envp
  | .exit code => "_exit " ++ toString code.toInt

/-- a run of memory peeks -/
structure Peeks where
  pid : Pid
  first : Address
  last : Address
  count : Nat

def Peeks.line (p : Peeks) : String :=
  "ptrace PEEKDATA " ++ toString p.pid.toInt ++ " " ++ hex p.first.toNat ++ ".."
    ++ hex p.last.toNat ++ " x" ++ toString p.count

/-- the lines written so far, latest first, and the run of peeks that is still open -/
structure Draft where
  lines : List String := []
  peeks : Option Peeks := none

namespace Draft

def close (d : Draft) : List String :=
  match d.peeks with
  | some p => p.line :: d.lines
  | none => d.lines

def add (d : Draft) : Syscall → Draft
  | .peekData pid address _ =>
    match d.peeks with
    | some p =>
      if p.pid = pid then { d with peeks := some { p with last := address, count := p.count + 1 } }
      else ⟨d.close, some ⟨pid, address, address, 1⟩⟩
    | none => { d with peeks := some ⟨pid, address, address, 1⟩ }
  | call => ⟨line call :: d.close, none⟩

end Draft

def lines (calls : List Syscall) : List String := (calls.foldl Draft.add {}).close.reverse

end ProcTrace.Transcript
