import ProcTrace.Inspect

/-!
# Running single looks

A look at one word, run on a host, in closed form.

* `Reply.named`            a failure whose number has no name reads as the word `-1`;
* `Inspect.peek_peekData`, `Inspect.peek_peekUser`   a peek gives the reply as named, whatever
                           error number was left before;
* `Inspect.runOn_memoryWord`, `Inspect.runOn_register`   the two looks that all others are made of.
-/

namespace ProcTrace

/-- what a peek makes of a reply -/
def Reply.named : Reply Word → Reply Word
  | .ok w => .ok w
  | .error e => if e = .unknown then .ok (-1) else .error e

/-- a host after a peek, which leaves no error number but its own -/
def Host.peekedOn (h : Host) (call : Syscall) (reply : Reply Word) : Host :=
  { h with errno := reply.errno .unknown, journal := .call call :: h.journal }

namespace Inspect

/-! ## peeks -/

theorem peek_eq {raw : HostM Word} {h g : Host} {w : Word}
    (run : raw { h with errno := .unknown } = (w, g)) :
    peek raw h = if w = -1 ∧ g.errno ≠ .unknown then (.error g.errno, g) else (.ok w, g) := by
  rw [peek, HostM.bind_apply, HostM.bind_apply]
  have cleared : (Host.clearErrno h).2 = { h with errno := .unknown } := rfl
  rw [cleared, run]
  by_cases sentinel : w = -1
  · subst sentinel
    simp only [bne_self_eq_false, Bool.false_eq_true, if_false]
    have got : (get : HostM Host) g = (g, g) := rfl
    rw [HostM.bind_apply, got]
    obtain ⟨kernel, errno, nextPid, journal⟩ := g
    cases errno <;> rfl
  · rw [if_pos (by simpa using sentinel), if_neg fun both => sentinel both.1]
    rfl

theorem peek_peeked {raw : HostM Word} {h : Host} {call : Syscall} {reply : Reply Word}
    (run : raw { h with errno := .unknown } = (Host.peeked reply, h.peekedOn call reply)) :
    peek raw h = (reply.named, h.peekedOn call reply) := by
  rw [peek_eq run]
  cases reply with
  | ok w => exact if_neg fun both => both.2 rfl
  | error e =>
    show (if (-1 : Word) = -1 ∧ e ≠ .unknown then _ else _) = (if e = .unknown then _ else _, _)
    by_cases unnamed : e = .unknown
    · rw [if_neg fun both => both.2 unnamed, if_pos unnamed]
      rfl
    · rw [if_pos ⟨rfl, unnamed⟩, if_neg unnamed]
      rfl

theorem peek_peekData (pid : Pid) (a : Address) (h : Host) :
    peek (Host.peekData pid a) h = ((h.kernel.memory pid a).named,
      h.peekedOn (.peekData pid a (h.kernel.memory pid a)) (h.kernel.memory pid a)) :=
  peek_peeked rfl

theorem peek_peekUser (pid : Pid) (offset : UInt64) (h : Host) :
    peek (Host.peekUser pid offset) h = ((h.kernel.registers pid offset).named,
      h.peekedOn (.peekUser pid offset (h.kernel.registers pid offset))
        (h.kernel.registers pid offset)) :=
  peek_peeked rfl

/-! ## looks -/

theorem requireStopped_bind (t : Tracee) (action : String) (f : Unit → Attempt α) (h : Host) :
    (requireStopped t action >>= f).runOn h = match t.require action [.stopped] with
      | .ok _ => (f ()).runOn h
      | .error e => (.error e, h) := by
  rw [requireStopped]
  cases t.require action [.stopped] <;> rfl

theorem runOn_memoryWord (t : Tracee) (a : Address) (h : Host) :
    (memoryWord t a).runOn h = match t.require "read memory of" [.stopped] with
      | .error e => (.error e, h)
      | .ok _ =>
        let reply := h.kernel.memory t.pid a
        let seen := h.peekedOn (.peekData t.pid a reply) reply
        match reply.named with
        | .error e => (.error (.memoryRead t.pid a e), seen)
        | .ok word => (.ok word, seen.noted (.memoryRead t.pid a word)) := by
  rw [memoryWord, requireStopped_bind]
  cases t.require "read memory of" [.stopped] with
  | error e => rfl
  | ok _ =>
    simp only
    rw [Attempt.runOn_bind, Attempt.runOn_lift, peek_peekData]
    simp only
    cases (h.kernel.memory t.pid a).named <;> rfl

theorem runOn_register (t : Tracee) (r : Slot) (h : Host) :
    (register t r).runOn h = match t.require "read registers of" [.stopped] with
      | .error e => (.error e, h)
      | .ok _ =>
        let reply := h.kernel.registers t.pid r.offset
        let seen := h.peekedOn (.peekUser t.pid r.offset reply) reply
        match reply.named with
        | .error e => (.error (.registerRead t.pid r.offset e), seen)
        | .ok word => (.ok word, seen.noted (.registerRead t.pid r word)) := by
  rw [register, requireStopped_bind]
  cases t.require "read registers of" [.stopped] with
  | error e => rfl
  | ok _ =>
    simp only
    rw [Attempt.runOn_bind, Attempt.runOn_lift, peek_peekUser]
    simp only
    cases (h.kernel.registers t.pid r.offset).named <;> rfl

end Inspect

end ProcTrace
