import ProcTrace.Host

/-!
# Dialogues with the kernel

A dialogue is a list of calls, each with the reply that it gets.  Whether a host would hold it can
be said without any code that makes the calls.

* `Host.ask`               a call made once more, with the reply of this host;
* `Host.Answers`           the host gives just these replies, call after call;
* `Host.after`             the host once the calls are made;
* `Host.Came`              a host that has come by these calls from another, whatever was noted
                           between them;
* `Host.answers_append`, `Host.Came.trans`   dialogues are held one after the other.

What a host has yet to say does not depend on its journal (`Host.bare`).
-/

namespace ProcTrace

namespace Host

/-- makes a call, and tells it with its reply; a peek finds the error number cleared -/
def ask : Syscall → HostM Syscall
  | .fork _ => return .fork (← fork)
  | .waitpid pid _ => return .waitpid pid (← waitpid pid)
  | .kill pid signal _ => return .kill pid signal (← kill pid signal)
  | .attach pid _ => return .attach pid (← attach pid)
  | .cont pid signal _ => return .cont pid signal (← cont pid signal)
  | .setOptions pid options _ => return .setOptions pid options (← setOptions pid options)
  | .traceMe _ => return .traceMe (← traceMe)
  | .peekUser pid offset _ => do
    clearErrno
    let _ ← peekUser pid offset
    return .peekUser pid offset ((← get).kernel.registers pid offset)
  | .peekData pid address _ => do
    clearErrno
    let _ ← peekData pid address
    return .peekData pid address ((← get).kernel.memory pid address)
  | .getRegisterSet pid _ => return .getRegisterSet pid (← getRegisterSet pid)
  | .exec program argv envp _ => return .exec program argv envp (← exec program argv envp)
  | .exit code => do
    exit code
    return .exit code

def after (calls : List Syscall) (h : Host) : Host := calls.foldl (fun h c => (ask c h).2) h

/-- Asked these calls one after the other, the host gives these replies. -/
def Answers : List Syscall → Host → Prop
  | [], _ => True
  | c :: calls, h => (ask c h).1 = c ∧ Answers calls (ask c h).2

instance decidableAnswers : (calls : List Syscall) → (h : Host) → Decidable (Answers calls h)
  | [], _ => isTrue trivial
  | c :: calls, h =>
    have := decidableAnswers calls (ask c h).2
    inferInstanceAs (Decidable (_ ∧ _))

theorem after_append (calls more : List Syscall) (h : Host) :
    after (calls ++ more) h = after more (after calls h) := List.foldl_append

theorem answers_append {calls more : List Syscall} {h : Host} :
    Answers (calls ++ more) h ↔ Answers calls h ∧ Answers more (after calls h) := by
  induction calls generalizing h with
  | nil => exact (and_iff_right trivial).symm
  | cons c calls ih =>
    show (_ ∧ Answers (calls ++ more) _) ↔ (_ ∧ _) ∧ _
    rw [ih, and_assoc]
    rfl

/-! ## the journal aside -/

/-- a host without its journal -/
def bare (h : Host) : Host := { h with journal := [] }

theorem ask_bare (c : Syscall) (h : Host) :
    (ask c h.bare).1 = (ask c h).1 ∧ (ask c h.bare).2.bare = (ask c h).2.bare := by
  cases c with
  | fork _ =>
    obtain ⟨⟨forks, _, _, _, _, _, _, _, _, _, _⟩, _, _, _⟩ := h
    cases forks <;> exact ⟨rfl, rfl⟩
  | waitpid _ _ | kill _ _ _ | attach _ _ | cont _ _ _ | setOptions _ _ _ | traceMe _
  | peekUser _ _ _ | peekData _ _ _ | getRegisterSet _ _ | exec _ _ _ _ | exit _ => exact ⟨rfl, rfl⟩

theorem ask_eq_of_bare {h g : Host} (same : h.bare = g.bare) (c : Syscall) :
    (ask c h).1 = (ask c g).1 ∧ (ask c h).2.bare = (ask c g).2.bare := by
  rw [← (ask_bare c h).1, ← (ask_bare c h).2, ← (ask_bare c g).1, ← (ask_bare c g).2, same]
  exact ⟨rfl, rfl⟩

theorem answers_iff_of_bare {calls : List Syscall} {h g : Host} (same : h.bare = g.bare) :
    Answers calls h ↔ Answers calls g := by
  induction calls generalizing h g with
  | nil => exact Iff.rfl
  | cons c calls ih =>
    obtain ⟨reply, rest⟩ := ask_eq_of_bare same c
    rw [Answers, Answers, reply, ih rest]

theorem after_eq_of_bare (calls : List Syscall) {h g : Host} (same : h.bare = g.bare) :
    (after calls h).bare = (after calls g).bare := by
  induction calls generalizing h g with
  | nil => exact same
  | cons c calls ih => exact ih (ask_eq_of_bare same c).2

theorem journal_ask (c : Syscall) (h : Host) :
    (ask c h).2.journal = .call (ask c h).1 :: h.journal := by
  cases c with
  | fork _ =>
    obtain ⟨⟨forks, _, _, _, _, _, _, _, _, _, _⟩, _, _, _⟩ := h
    cases forks <;> rfl
  | waitpid _ _ | kill _ _ _ | attach _ _ | cont _ _ _ | setOptions _ _ _ | traceMe _
  | peekUser _ _ _ | peekData _ _ _ | getRegisterSet _ _ | exec _ _ _ _ | exit _ => rfl

/-! ## what has come of a host -/

/-- The second host is the first after these calls, with whatever was noted between them. -/
structure Came (h : Host) (calls : List Syscall) (g : Host) : Prop where
  rest : g.bare = (after calls h).bare
  written : g.journal.calls = h.journal.calls ++ calls

namespace Came

variable {h g k : Host} {calls more : List Syscall}

theorem refl (h : Host) : h.Came [] h := ⟨rfl, (List.append_nil _).symm⟩

theorem noted (came : h.Came calls g) (n : Note) : h.Came calls (g.noted n) :=
  ⟨came.rest, (Journal.calls_note n g.journal).trans came.written⟩

theorem asked {c : Syscall} (answered : (ask c h).1 = c) : h.Came [c] (ask c h).2 := by
  refine ⟨rfl, ?_⟩
  rw [journal_ask, answered, Journal.calls_call]

theorem trans (first : h.Came calls g) (second : g.Came more k) : h.Came (calls ++ more) k := by
  refine ⟨?_, ?_⟩
  · rw [second.rest, after_append]
    exact after_eq_of_bare more first.rest
  · rw [second.written, first.written, List.append_assoc]

theorem calls_of_new (came : h.Came calls g) (new : h.journal = []) : g.journal.calls = calls := by
  rw [came.written, new]
  rfl

/-- What is answered after the calls is answered by the host that has come by them. -/
theorem answers (came : h.Came calls g) (answered : Answers (calls ++ more) h) : Answers more g :=
  (answers_iff_of_bare came.rest).mpr (answers_append.mp answered).2

end Came

/-! ## replies of waiting -/

theorem waitsLeft_ask (c : Syscall) (h : Host) : (ask c h).2.waitsLeft ≤ h.waitsLeft := by
  cases c with
  | fork _ =>
    obtain ⟨⟨forks, _, _, _, _, _, _, _, _, _, _⟩, _, _, _⟩ := h
    cases forks <;> exact Nat.le_refl _
  | waitpid pid reply =>
    have left : (ask (.waitpid pid reply) h).2.waitsLeft = h.waitsLeft - 1 := waitsLeft_waitpid pid h
    rw [left]
    exact Nat.sub_le _ _
  | kill _ _ _ | attach _ _ | cont _ _ _ | setOptions _ _ _ | traceMe _ | peekUser _ _ _
  | peekData _ _ _ | getRegisterSet _ _ | exec _ _ _ _ | exit _ => exact Nat.le_refl _

theorem waitsLeft_after (calls : List Syscall) (h : Host) :
    (after calls h).waitsLeft ≤ h.waitsLeft := by
  induction calls generalizing h with
  | nil => exact Nat.le_refl _
  | cons c calls ih => exact Nat.le_trans (ih _) (waitsLeft_ask c h)

end Host

end ProcTrace
