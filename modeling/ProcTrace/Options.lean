/-!
# Tracing options

The switches that a tracer can set on a stopped process, one field each.

* `Options.ofBits`, `Options.bits`   the switches of a bit mask, and back; a bit without a switch
                                     is dropped;
* `Options.descendants`              the three switches that would trace children as well;
* `Options.difference`               the switches of one value that are off in another.
-/

namespace ProcTrace

structure Options where
  sysGood : Bool := false
  fork : Bool := false
  vfork : Bool := false
  clone : Bool := false
  exec : Bool := false
  vforkDone : Bool := false
  exit : Bool := false
  seccomp : Bool := false
  exitKill : Bool := false
deriving DecidableEq

namespace Options

def empty : Options := {}

def isEmpty (o : Options) : Bool := o == empty

theorem isEmpty_iff {o : Options} : o.isEmpty = true ↔ o = empty := by simp [isEmpty]

/-- each switch with the position of its bit and its name, lowest bit first -/
def switches (o : Options) : List (Bool × Nat × String) :=
  [(o.sysGood, 0, "PTRACE_O_TRACESYSGOOD"), (o.fork, 1, "PTRACE_O_TRACEFORK"),
    (o.vfork, 2, "PTRACE_O_TRACEVFORK"), (o.clone, 3, "PTRACE_O_TRACECLONE"),
    (o.exec, 4, "PTRACE_O_TRACEEXEC"), (o.vforkDone, 5, "PTRACE_O_TRACEVFORKDONE"),
    (o.exit, 6, "PTRACE_O_TRACEEXIT"), (o.seccomp, 7, "PTRACE_O_TRACESECCOMP"),
    (o.exitKill, 20, "PTRACE_O_EXITKILL")]

def bits (o : Options) : Nat :=
  o.switches.foldr (fun s n => if s.1 then 1 <<< s.2.1 + n else n) 0

def ofBits (n : Nat) : Options where
  sysGood := n.testBit 0
  fork := n.testBit 1
  vfork := n.testBit 2
  clone := n.testBit 3
  exec := n.testBit 4
  vforkDone := n.testBit 5
  exit := n.testBit 6
  seccomp := n.testBit 7
  exitKill := n.testBit 20

theorem ofBits_bits (o : Options) : ofBits o.bits = o := by
  obtain ⟨a, b, c, d, e, f, g, h, i⟩ := o
  revert a b c d e f g h i
  decide

/-- names of the switches that are on -/
def names (o : Options) : List String := (o.switches.filter (·.1)).map (·.2.2)

def text (o : Options) : String := " | ".intercalate o.names

/-- the switches that are on in `a` and off in `b` -/
def difference (a b : Options) : Options where
  sysGood := a.sysGood && !b.sysGood
  fork := a.fork && !b.fork
  vfork := a.vfork && !b.vfork
  clone := a.clone && !b.clone
  exec := a.exec && !b.exec
  vforkDone := a.vforkDone && !b.vforkDone
  exit := a.exit && !b.exit
  seccomp := a.seccomp && !b.seccomp
  exitKill := a.exitKill && !b.exitKill

/-- The switches that would make the kernel trace descendants too.  They are never set. -/
def descendants : Options := { fork := true, vfork := true, clone := true }

/-- none of the switches of `descendants` is on -/
def TracesOne (o : Options) : Prop := o.fork = false ∧ o.vfork = false ∧ o.clone = false

theorem tracesOne_difference (o : Options) : (o.difference descendants).TracesOne := by
  simp [TracesOne, difference, descendants]

/-- a tracee is killed when its tracer ends; nothing else -/
def standard : Options := { exitKill := true }

theorem tracesOne_standard : standard.TracesOne := ⟨rfl, rfl, rfl⟩

end Options

end ProcTrace
