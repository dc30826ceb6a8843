import ProcTrace.Journal

/-!
# The kernel

`Kernel` says how every system call will be answered: a queue of replies for each call that
changes something, and a function for each that only looks.  What is asked for beyond the end of a
queue gets the usual reply of its call.

Memory and registers stay the same for the whole of an operation, as a process that stands still is
not written to; the next operation has a kernel of its own.  So an address that is looked at twice
in one operation gives one reply.  A process that dies among the looks of a scan is told of by the
addresses that it reads from then on, which fail; that an address read before would fail as well is
left out.
-/

namespace ProcTrace

structure Kernel where
  forks : List (Reply Pid) := []
  attaches : List (Reply Unit) := []
  conts : List (Reply Unit) := []
  setOptions : List (Reply Unit) := []
  traceMes : List (Reply Unit) := []
  kills : List (Reply Unit) := []
  execs : List (Reply Unit) := []
  waits : List (Reply RawStatus) := []
  memory : Pid → Address → Reply Word := fun _ _ => .error .eio
  registers : Pid → UInt64 → Reply Word := fun _ _ => .error .eio
  registerSet : Pid → Reply (Vector UInt64 RegisterSet.size) := fun _ => .error .eio

end ProcTrace
