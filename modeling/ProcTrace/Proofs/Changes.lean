import ProcTrace.Proofs.Ledger

/-!
# Changes of state

What the log tells of the states that a process goes through.

* `State.next`            the states that may come next;
* `Change`, `Path`        changes of one process, each from where the one before has ended;
* `Journal.changes`       the changes that a journal tells of;
* `Course.Steps.changes`  what driving tells of is such a path.
-/

namespace ProcTrace

open Course

/-! ## paths -/

/-- the states that may come next; `exited` and `failed` are never left -/
def State.next : State → List State
  | .created => [.attached]
  | .attached | .running => [.stopped, .exited, .failed]
  | .stopped => [.running]
  | .exited | .failed => []

theorem State.next_of_moving {s : State} (moves : s ∈ moving) :
    s.next = [.stopped, .exited, .failed] := by
  rcases List.mem_cons.mp moves with rfl | moves
  · rfl
  · rw [List.mem_singleton.mp moves]
    rfl

/-- a change of state, as it is logged -/
structure Change where
  pid : Pid
  old : State
  new : State
deriving DecidableEq

/-- The changes are changes of this process, and lead from one state to another: each begins where
the one before has ended, and goes where the lifecycle goes on. -/
def Path (pid : Pid) : State → List Change → State → Prop
  | s, [], t => s = t
  | s, c :: cs, t => c.pid = pid ∧ c.old = s ∧ c.new ∈ s.next ∧ Path pid c.new cs t

instance decidablePath (pid : Pid) :
    (s : State) → (cs : List Change) → (t : State) → Decidable (Path pid s cs t)
  | s, [], t => inferInstanceAs (Decidable (s = t))
  | _, c :: cs, t =>
    have := decidablePath pid c.new cs t
    inferInstanceAs (Decidable (_ ∧ _ ∧ _ ∧ _))

theorem Path.single {pid : Pid} {s t : State} (next : t ∈ s.next) : Path pid s [⟨pid, s, t⟩] t :=
  ⟨rfl, rfl, next, rfl⟩

theorem Path.append {pid : Pid} {s t u : State} {cs ds : List Change} (first : Path pid s cs t)
    (rest : Path pid t ds u) : Path pid s (cs ++ ds) u := by
  induction cs generalizing s with
  | nil =>
    cases first
    exact rest
  | cons c cs ih =>
    obtain ⟨mine, old, next, first⟩ := first
    exact ⟨mine, old, next, ih first⟩

def Entry.change? : Entry → Option Change
  | .note (.stateSet pid old new) => some ⟨pid, old, new⟩
  | _ => none

namespace Journal

/-- the changes that a journal tells of, earliest first -/
def changes (j : Journal) : List Change := j.reverse.filterMap Entry.change?

theorem changes_append (a b : Journal) : changes (a ++ b) = changes b ++ changes a := by
  simp [changes, List.filterMap_append]

theorem changes_of_none {es : Journal} (none : ∀ e ∈ es, e.change? = none) : changes es = [] := by
  simpa [changes] using none

theorem changes_unchanged {es : Journal} (none : ∀ e ∈ es, e.change? = none) (j : Journal) :
    changes (es ++ j) = changes j := by
  rw [changes_append, changes_of_none none, List.append_nil]

theorem changes_stateSet (pid : Pid) (old new : State) (j : Journal) :
    changes (.note (.stateSet pid old new) :: j) = changes j ++ [⟨pid, old, new⟩] :=
  changes_append [_] j

end Journal

open Journal

theorem Entry.change?_of_about {e : Entry} (aside : e.about = none) : e.change? = none := by
  cases e with
  | call _ => rfl
  | note n => cases n <;> first | rfl | cases aside

theorem Entry.Looks.change? {e : Entry} {x : Tracee} (looks : e.Looks x) : e.change? = none := by
  cases looks with
  | remark n aside => exact Entry.change?_of_about aside
  | peekData _ _ _ | peekUser _ _ _ => rfl

theorem Birth.changes {pid : Pid} {first : FirstStop} {es : Journal} (birth : Birth pid first es) :
    changes es = [⟨pid, .created, .attached⟩] := by cases birth <;> rfl

namespace Course

variable {c d : Course}

theorem Step.changes (step : Step c d) : ∃ cs, changes d.journal = changes c.journal ++ cs ∧
    Path c.tracee.pid c.tracee.state cs d.tracee.state := by
  have unchanged {x : Tracee} (es : Journal) (none : ∀ e ∈ es, e.change? = none) (j : Journal) :
      ∃ cs, Journal.changes (es ++ j) = Journal.changes j ++ cs ∧ Path x.pid x.state cs x.state :=
    ⟨[], by rw [changes_unchanged none, List.append_nil], rfl⟩
  have changed {x : Tracee} {new : State} (es : Journal) (next : new ∈ x.state.next)
      (none : ∀ e ∈ es, e.change? = none) (j : Journal) :
      ∃ cs, Journal.changes (.note (.stateSet x.pid x.state new) :: (es ++ j)) =
        Journal.changes j ++ cs ∧ Path x.pid x.state cs new :=
    ⟨[⟨x.pid, x.state, new⟩], by rw [changes_stateSet, changes_unchanged none], .single next⟩
  cases step with
  | look e looks => exact unchanged [e] (by simpa using looks.change?) _
  | waitFailed _ _ _ | resumeFailed _ _ | killed _ | killFailed _ _ =>
    exact unchanged [_] (by simp [Entry.change?]) _
  | odd _ _ _ => exact unchanged [_, _] (by simp [Entry.change?]) _
  | missed _ _ _ _ _ _ _ => exact unchanged [_, _, _, _] (by simp [Entry.change?]) _
  | vanished may =>
    exact changed [_, _, _] (by simp [State.next_of_moving may.state])
      (by simp [Entry.change?]) _
  | ended may _ _ _ _ =>
    refine changed [_, _, _] ?_ (by simp [Entry.change?]) _
    rw [State.next_of_moving may.state, Tracee.endState]
    split <;> simp
  | @opened t x j may w _ _ _ =>
    let es : Journal := t.optionsSet x.pid ++
      [.note (.statusSeen x.pid w), .call (.waitpid x.pid (.ok w))]
    have none : ∀ e ∈ es, e.change? = none := by
      unfold es Tracer.optionsSet
      split <;> simp [Entry.change?]
    have next : .stopped ∈ x.state.next := by simp [State.next_of_moving may.state]
    have told := changed es next none j
    rwa [List.append_assoc] at told
  | stopped may _ _ _ _ _ =>
    exact changed [_, _] (by simp [State.next_of_moving may.state])
      (by simp [Entry.change?]) _
  | resumed may | killedStill may | letGo may _ =>
    refine changed [_] ?_ (by simp [Entry.change?]) _
    simp [List.mem_singleton.mp may.state, State.next]

theorem Steps.changes (steps : Steps c d) : ∃ cs, changes d.journal = changes c.journal ++ cs ∧
    Path c.tracee.pid c.tracee.state cs d.tracee.state := by
  induction steps with
  | refl => exact ⟨[], (List.append_nil _).symm, rfl⟩
  | tail steps step ih =>
    obtain ⟨cs, before, path⟩ := ih
    obtain ⟨ds, after, on⟩ := step.changes
    rw [Steps.pid steps] at on
    exact ⟨cs ++ ds, by rw [after, before, List.append_assoc], path.append on⟩

end Course

end ProcTrace
