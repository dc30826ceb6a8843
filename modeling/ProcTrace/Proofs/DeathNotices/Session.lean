import ProcTrace.Inspect.Scans
import ProcTrace.Proofs.DeathNotices
import ProcTrace.Proofs.Failures

/-!
# Whether a tracee is told to be dead

Every operation on a live tracee that fails says truly whether the tracee is gone: its error says so
just if its last call has found that there is no such process.

* `Host.Gave`                   a look that is under way has peeked a word;
* `Attempt.FailsFrom`           a look that fails by its last call, wherever it is begun;
* `Look.failsFrom`              so does every look;
* `Session.died_iff_of_failed`  every failed operation on a tracee.
-/

namespace ProcTrace

/-! ## looks -/

/-- The last call gave a word, of a tracee that stands still. -/
structure Host.Gave (x : Tracee) (h : Host) : Prop where
  still : x.state = .stopped
  last : ∃ call, h.journal.calls.getLast? = some call ∧ call.GaveWord x.pid

/-- A look may go on, or be begun. -/
def Host.Ready (x : Tracee) (h : Host) : Prop := h.journal.calls = [] ∨ h.Gave x

/-- Begun where this holds, the attempt ends with a word that was given, or fails by its last
call. -/
def Attempt.FailsFrom (x : Tracee) (pre : Host → Prop) (act : Attempt α) : Prop :=
  ∀ ⦃h⦄, pre h → match act.runOn h with
    | (.ok _, g) => g.Gave x
    | (.error e, g) => Failed x g.journal.calls e

namespace Attempt.FailsFrom

variable {x : Tracee} {pre : Host → Prop}

theorem pure (a : α) : FailsFrom x (Host.Gave x) (pure a : Attempt α) := fun _ gave => gave

theorem bind {act : Attempt α} {f : α → Attempt β} (first : FailsFrom x pre act)
    (rest : ∀ a, FailsFrom x (Host.Gave x) (f a)) : FailsFrom x pre (act >>= f) := by
  intro h ready
  have begun := first ready
  rw [runOn_bind]
  rcases run : act.runOn h with ⟨r, g⟩
  rw [run] at begun
  cases r with
  | error e => exact begun
  | ok a => exact rest a begun

theorem map {act : Attempt α} (first : FailsFrom x pre act) (f : α → β) :
    FailsFrom x pre (f <$> act) := by
  rw [map_eq_pure_bind]
  exact first.bind fun a => .pure (f a)

theorem goingOn {act : Attempt α} (ready : FailsFrom x (Host.Ready x) act) :
    FailsFrom x (Host.Gave x) act := fun _ gave => ready (.inr gave)

/-- There were too many words, or there are no addresses left. -/
theorem endless (a : Address) {e : Errno} (limit : e = .e2big ∨ e = .efault) :
    FailsFrom x (Host.Gave x) (throw (.memoryRead x.pid a e) : Attempt α) := by
  intro h gave
  obtain ⟨call, last, word⟩ := gave.last
  exact .called (.of_last last (.endless word a limit))

theorem nextWord (a : Address) : FailsFrom x (Host.Gave x) (Inspect.nextWord x a) := by
  unfold Inspect.nextWord
  cases a.next? with
  | some next => exact .pure next
  | none => exact .endless a (.inr rfl)

end Attempt.FailsFrom

open Attempt (FailsFrom)

/-- What a look is refused, it is refused before it has peeked anything. -/
theorem Host.Ready.rejected {x : Tracee} {h : Host} (ready : h.Ready x) {action : String} {e : Error}
    (refused : x.require action [.stopped] = .error e) : Failed x h.journal.calls e := by
  rcases ready with silent | gave
  · exact .rejected silent (Tracee.rejects_of_require refused)
  · rw [Tracee.require_of_stopped gave.still] at refused
    cases refused

theorem Host.getLast?_peekedOn (h : Host) (call : Syscall) (reply : Reply Word) :
    (h.peekedOn call reply).journal.calls.getLast? = some call := by
  rw [peekedOn, Journal.calls_call, List.getLast?_concat]

theorem Host.Gave.of_peek {x : Tracee} {action : String}
    (allowed : x.require action [.stopped] = .ok ()) (h : Host) {call : Syscall}
    (gave : call.GaveWord x.pid) (reply : Reply Word) (n : Note) :
    ((h.peekedOn call reply).noted n).Gave x := by
  refine ⟨List.mem_singleton.mp (Tracee.require_ok.mp allowed).2, call, ?_, gave⟩
  rw [noted, Journal.calls_note]
  exact h.getLast?_peekedOn call reply

namespace Inspect

variable (x : Tracee)

theorem memoryWord_failsFrom (a : Address) : FailsFrom x (Host.Ready x) (memoryWord x a) := by
  intro h ready
  rw [runOn_memoryWord]
  cases allowed : x.require "read memory of" [.stopped] with
  | error e => exact ready.rejected allowed
  | ok _ =>
    simp only
    cases named : (h.kernel.memory x.pid a).named with
    | error e => exact .called (.of_last (h.getLast?_peekedOn _ _) (.unread a named))
    | ok word => exact .of_peek allowed h (.memory a named) _ _

theorem register_failsFrom (r : Slot) : FailsFrom x (Host.Ready x) (register x r) := by
  intro h ready
  rw [runOn_register]
  cases allowed : x.require "read registers of" [.stopped] with
  | error e => exact ready.rejected allowed
  | ok _ =>
    simp only
    cases named : (h.kernel.registers x.pid r.offset).named with
    | error e => exact .called (.of_last (h.getLast?_peekedOn _ _) (.unfetched r.offset named))
    | ok word => exact .of_peek allowed h (.register r.offset named) _ _

/-! ### scans -/

/-- The limit is met only behind a word. -/
theorem scanString_step (start : Address) {n : Nat}
    (rest : ∀ next seen, FailsFrom x (Host.Gave x) (scanString x start n next seen))
    (next : Address) (seen : Bytes) :
    FailsFrom x (Host.Ready x) (scanString x start (n + 1) next seen) := by
  refine .bind (memoryWord_failsFrom x next) fun word => ?_
  by_cases ends : 0 ∈ word.bytes
  · simp only [if_pos ends]
    exact .pure _
  · simp only [if_neg ends]
    exact .bind (.nextWord next) fun next => rest next _

theorem scanString_failsFrom (start : Address) (n : Nat) (next : Address) (seen : Bytes) :
    FailsFrom x (Host.Gave x) (scanString x start n next seen) := by
  induction n generalizing next seen with
  | zero => exact .endless start (.inl rfl)
  | succ n ih => exact (scanString_step x start ih next seen).goingOn

theorem string_failsFrom (start : Address) : FailsFrom x (Host.Ready x) (string x start) :=
  scanString_step x start (scanString_failsFrom x start (scanLimit - 1)) start []

theorem scanStrings_step (start : Address) {n : Nat}
    (rest : ∀ next seen, FailsFrom x (Host.Gave x) (scanStrings x start n next seen))
    (next : Address) (seen : List Bytes) :
    FailsFrom x (Host.Ready x) (scanStrings x start (n + 1) next seen) := by
  refine .bind (memoryWord_failsFrom x next) fun pointer => ?_
  by_cases ends : pointer = 0
  · simp only [if_pos ends]
    exact .pure _
  · simp only [if_neg ends]
    refine .bind (string_failsFrom x pointer.toAddress).goingOn fun s => ?_
    exact .bind (.nextWord next) fun next => rest next _

theorem scanStrings_failsFrom (start : Address) (n : Nat) (next : Address) (seen : List Bytes) :
    FailsFrom x (Host.Gave x) (scanStrings x start n next seen) := by
  induction n generalizing next seen with
  | zero => exact .endless start (.inl rfl)
  | succ n ih => exact (scanStrings_step x start ih next seen).goingOn

theorem strings_failsFrom (start : Address) : FailsFrom x (Host.Ready x) (strings x start) :=
  scanStrings_step x start (scanStrings_failsFrom x start (scanLimit - 1)) start []

theorem execArguments_failsFrom (layout : Layout) :
    FailsFrom x (Host.Ready x) (execArguments x layout) := by
  refine .bind (register_failsFrom x _) fun sp => .bind (.nextWord _) fun start => ?_
  exact (strings_failsFrom x start).goingOn

theorem execEnvironment_failsFrom (layout : Layout) :
    FailsFrom x (Host.Ready x) (execEnvironment x layout) := by
  refine .bind (register_failsFrom x _) fun sp => ?_
  refine .bind (memoryWord_failsFrom x _).goingOn fun argc => ?_
  simp only
  cases environmentStart? sp.toAddress argc.toAddress with
  | some start => exact (strings_failsFrom x start).goingOn
  | none => exact .endless _ (.inr rfl)

end Inspect

theorem Look.failsFrom (x : Tracee) (look : Look) :
    FailsFrom x (Host.Ready x) (look.run x) := by
  cases look with
  | memoryWord a => exact (Inspect.memoryWord_failsFrom x a).map _
  | register r => exact (Inspect.register_failsFrom x r).map _
  | syscallNumber layout | stackPointer layout | instructionPointer layout =>
    exact (Inspect.register_failsFrom x (layout.slot _)).map _
  | string a => exact (Inspect.string_failsFrom x a).map _
  | strings a => exact (Inspect.strings_failsFrom x a).map _
  | execArguments layout => exact (Inspect.execArguments_failsFrom x layout).map _
  | execEnvironment layout => exact (Inspect.execEnvironment_failsFrom x layout).map _

/-! ## operations -/

namespace Session

variable {s : Session} {k : Kernel} {j : Nat} {h : Held} {e : Error}

theorem failed_of_drive {act : Drive α} (i : Nat) (value : α → Value)
    (at_ : s.tracees[j]? = some h) (fails : ∀ c, act.Fails c)
    (failed : (s.drive k i j act value).1.outcome = .error e) :
    Failed h.tracee (s.drive k i j act value).1.journal.calls e := by
  obtain ⟨t, g, u, _, there, run, written, _⟩ := drive_failed (Prod.eta _).symm failed
  obtain rfl := Option.some.inj (there.symm.trans at_)
  rw [written]
  exact fails _ rfl run

theorem failed_of_look (at_ : s.tracees[j]? = some h) (look : Look)
    (failed : (s.step k (.look j look)).1.outcome = .error e) :
    Failed h.tracee (s.step k (.look j look)).1.journal.calls e := by
  have fails := look.failsFrom h.tracee (h := s.host k) (.inl rfl)
  rw [look_eq at_] at failed ⊢
  simp only at failed ⊢
  rcases run : (look.run h.tracee).runOn (s.host k) with ⟨r, g⟩
  rw [run] at fails failed
  cases r with
  | ok v => cases failed
  | error e' =>
    cases failed
    exact fails

/-- Whatever operation on a live tracee fails, it was refused before anything was said, or its error
is what its last call came to.  It says that the tracee is gone just if that call found it gone. -/
theorem died_iff_of_failed {op : Op} (on : op.tracee? = some j) (at_ : s.tracees[j]? = some h)
    (live : h.tracee.state.isTerminal = false)
    (failed : (s.step k op).1.outcome = .error e) :
    Failed h.tracee (s.step k op).1.journal.calls e ∧
      (e.traceeDied = true ↔ ∃ call,
        (s.step k op).1.journal.calls.getLast? = some call ∧ call.findsGone = true) := by
  have fails : Failed h.tracee (s.step k op).1.journal.calls e := by
    cases op with
    | wait i j' =>
      cases on
      exact failed_of_drive i .stop at_ Drive.wait_fails failed
    | waitForExec i j' =>
      cases on
      exact failed_of_drive i _ at_ Drive.waitForExec_fails failed
    | resume i j' =>
      cases on
      exact failed_of_drive i _ at_ Drive.resume_fails failed
    | kill i j' =>
      cases on
      exact failed_of_drive i .stop at_ Drive.kill_fails failed
    | look j' look =>
      cases on
      exact failed_of_look at_ look failed
    | _ => cases on
  exact ⟨fails, fails.died_iff live⟩

/-- A killed program stops, and is gone when its options are to be set. -/
def goneAtStop : Kernel := { waits := [.ok ⟨none, 0x57f⟩], setOptions := [.error .esrch] }

/-- All memory reads as a word without a zero byte. -/
def endlessMemory : Kernel := { memory := fun _ _ => .ok 0x4141414141414141 }

/-- One is found gone in the middle of a kill; the other lives, but the addresses end. -/
theorem died_iff_of_goneAtStop :
    let s := (run startedByFirst (new 2)).2
    let killed := (s.step goneAtStop (.kill 0 0)).1
    let stopped := (run [({}, .spawn 0 ls), ({ waits := [.ok ⟨none, 0x57f⟩] }, .wait 0 0)] (new 1)).2
    let look : Op := .look 0 (.string 0xfffffffffffffff0)
    let looked := (stopped.step endlessMemory look).1
    killed.outcome = .error (.noSuchProcess 1000) ∧
      (∃ call, killed.journal.calls.getLast? = some call ∧ call.findsGone = true) ∧
      looked.outcome = .error (.memoryRead 1000 0xfffffffffffffff8 .efault) ∧
      ¬ ∃ call, looked.journal.calls.getLast? = some call ∧ call.findsGone = true := by
  intro s killed stopped look looked
  have gone : killed.outcome = .error (.noSuchProcess 1000) := by decide +kernel
  have ends : looked.outcome = .error (.memoryRead 1000 0xfffffffffffffff8 .efault) := by
    decide +kernel
  have there : s.tracees[0]? = some ⟨0, .exec, .born 1000 .exec⟩ := by decide +kernel
  obtain ⟨h, stands, live⟩ : ∃ h, stopped.tracees[0]? = some h ∧
      h.tracee.state.isTerminal = false := ⟨_, rfl, by decide +kernel⟩
  have on : look.tracee? = some 0 := rfl
  have killing := died_iff_of_failed rfl there rfl gone
  have looking := died_iff_of_failed on stands live ends
  refine ⟨gone, killing.2.mp rfl, ends, fun found => ?_⟩
  cases looking.2.mpr found

end Session

end ProcTrace
