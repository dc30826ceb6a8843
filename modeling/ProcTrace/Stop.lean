import ProcTrace.Signal

/-!
# Stops

What a tracer sees when it waits for a process: the process either stands still (`Stop.isStopped`)
or has ended (`Stop.isTerminal`).

`FirstStop` is the stop that opens the tracing of a process: the trap after the exec of a spawned
program, or the stop that attaching sends.  Each arrives as a plain stop by `FirstStop.signal`.
-/

namespace ProcTrace

inductive Stop where
  /-- trap on return from the exec of a spawned process -/
  | exec
  /-- stop sent by attaching -/
  | attach
  /-- about to receive a signal -/
  | signal (signal : Signal)
  /-- an event that the options asked for -/
  | event (signal : Signal) (event : Int32)
  /-- ended with an exit code -/
  | exited (code : Int32)
  /-- ended by a signal -/
  | signaled (signal : Signal) (coreDumped : Bool)
deriving DecidableEq

namespace Stop

def isTerminal : Stop → Bool
  | exited _ | signaled _ _ => true
  | _ => false

def isStopped (s : Stop) : Bool := !s.isTerminal

/-- ended by itself with code zero -/
def isSuccess : Stop → Bool
  | exited code => code == 0
  | _ => false

theorem isTerminal_of_isSuccess {s : Stop} (h : s.isSuccess = true) : s.isTerminal = true := by
  cases s <;> simp_all [isSuccess, isTerminal]

def text : Stop → String
  | exec => "Exec"
  | attach => "Attach"
  | signal s => "Signal \x7b signal: " ++ s.name ++ " \x7d"
  | event s e => "Event \x7b signal: " ++ s.name ++ ", event: " ++ toString e.toInt ++ " \x7d"
  | exited code => "Exited \x7b exit_code: " ++ toString code.toInt ++ " \x7d"
  | signaled s core =>
    "Signaled \x7b signal: " ++ s.name ++ ", core_dumped: " ++ (if core then "true" else "false")
      ++ " \x7d"

end Stop

inductive FirstStop where
  | exec
  | attach
deriving DecidableEq

namespace FirstStop

/-- the plain stop as which it arrives -/
def signal : FirstStop → Signal
  | exec => .trap
  | attach => .stop

def stop : FirstStop → Stop
  | exec => .exec
  | attach => .attach

theorem stop_injective {a b : FirstStop} (same : a.stop = b.stop) : a = b := by
  cases a <;> cases b <;> first | rfl | cases same

theorem isTerminal_stop (f : FirstStop) : f.stop.isTerminal = false := by cases f <;> rfl

end FirstStop

end ProcTrace
