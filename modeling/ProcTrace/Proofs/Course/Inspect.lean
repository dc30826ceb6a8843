import ProcTrace.Inspect.Scans
import ProcTrace.Proofs.Course

/-!
# Looking goes by steps

A look leaves the tracee as it is, and peeks only at one that stands still.

* `Inspect.Looks`           an attempt that goes by looks and remarks, whoever drives the tracee;
* `Inspect.Looks.closed`    the looks at single words do, and it is kept by putting together;
* `Look.run_looks`          every look does.
-/

namespace ProcTrace

open Course

namespace Inspect

/-- the attempt only looks at `x` -/
def Looks (x : Tracee) (act : Attempt α) : Prop :=
  ∀ h : Host, ∃ es, (act.runOn h).2.journal = es ++ h.journal ∧ ∀ e ∈ es, e.Looks x

namespace Looks

variable {x : Tracee}

theorem pure (a : α) : Looks x (pure a) := fun _ => ⟨[], rfl, by simp⟩

theorem throw (e : Error) : Looks x (throw e : Attempt α) := fun _ => ⟨[], rfl, by simp⟩

theorem bind {act : Attempt α} {f : α → Attempt β} (first : Looks x act)
    (rest : ∀ a, Looks x (f a)) : Looks x (act >>= f) := by
  intro h
  obtain ⟨es, written, looks⟩ := first h
  rw [Attempt.runOn_bind]
  rcases run : act.runOn h with ⟨r, g⟩
  rw [run] at written
  cases r with
  | error e => exact ⟨es, written, looks⟩
  | ok a =>
    obtain ⟨fs, written', looks'⟩ := rest a g
    refine ⟨fs ++ es, ?_, List.forall_mem_append.mpr ⟨looks', looks⟩⟩
    rw [written', written, List.append_assoc]

/-- One peek, and a remark if it gave a word. -/
theorem memoryWord (a : Address) : Looks x (memoryWord x a) := by
  intro h
  rw [runOn_memoryWord]
  cases allowed : x.require "read memory of" [.stopped] with
  | error e => exact ⟨[], rfl, by simp⟩
  | ok _ =>
    have still : x.state = .stopped := List.mem_singleton.mp (Tracee.require_ok.mp allowed).2
    have peek := Entry.Looks.peekData still a (h.kernel.memory x.pid a)
    simp only
    cases (h.kernel.memory x.pid a).named with
    | error e => exact ⟨[_], rfl, by simpa using peek⟩
    | ok word => exact ⟨[_, _], rfl, by simpa using ⟨.remark (.memoryRead x.pid a word) rfl, peek⟩⟩

theorem register (r : Slot) : Looks x (register x r) := by
  intro h
  rw [runOn_register]
  cases allowed : x.require "read registers of" [.stopped] with
  | error e => exact ⟨[], rfl, by simp⟩
  | ok _ =>
    have still : x.state = .stopped := List.mem_singleton.mp (Tracee.require_ok.mp allowed).2
    have peek := Entry.Looks.peekUser still r.offset (h.kernel.registers x.pid r.offset)
    simp only
    cases (h.kernel.registers x.pid r.offset).named with
    | error e => exact ⟨[_], rfl, by simpa using peek⟩
    | ok word =>
      exact ⟨[_, _], rfl, by simpa using ⟨.remark (.registerRead x.pid r word) rfl, peek⟩⟩

theorem closed (x : Tracee) : Closed x (Looks x) where
  pure := pure
  throw := throw
  bind := bind
  memoryWord := memoryWord
  register := register

end Looks

end Inspect

theorem Look.run_looks (x : Tracee) (look : Look) : Inspect.Looks x (look.run x) :=
  (Inspect.Looks.closed x).look look

end ProcTrace
