import ProcTrace.Proofs.Doings
import ProcTrace.Proofs.Ownership

/-!
# What is refused on the dead and the foreign

A tracee that has ended is refused to everyone, and a live one to every tracer that does not trace
it, before anything is done.  Waiting for the exec asks first whether the exec is owed, and asks
nothing else where it is not: then it says so, of the dead and the foreign too.

* `Tracer.Refused`       the tracer is refused whatever it wants of a tracee;
* `Attempt.Refused`      an attempt that fails before anything is done;
* `Look.refused`         so does every look at a tracee that has ended;
* `Op.Asks`              the operations of a tracer that ask whose the tracee is;
* `Session.Rejections`   which requests are refused, and with what words.
-/

namespace ProcTrace

/-! ## driving -/

/-- The tracer is refused whatever it wants of the tracee. -/
def Tracer.Refused (t : Tracer) (x : Tracee) (e : Error) : Prop :=
  ∀ action allowed, t.permit x action allowed = .error e

namespace Drive

variable {t : Tracer} {x : Tracee} {e : Error}

theorem wait_refused (refused : t.Refused x e) (h : Host) :
    wait.runOn ⟨t, x, h⟩ = (.error e, ⟨t, x, h⟩) := by
  rw [runOn_wait, refused]

theorem resume_refused (refused : t.Refused x e) (h : Host) :
    resume.runOn ⟨t, x, h⟩ = (.error e, ⟨t, x, h⟩) := by
  rw [runOn_resume, refused]

theorem kill_refused (refused : t.Refused x e) (h : Host) :
    kill.runOn ⟨t, x, h⟩ = (.error e, ⟨t, x, h⟩) := by
  rw [runOn_kill, refused]

/-- Where the exec is owed, waiting for it begins with a wait. -/
theorem waitForExec_refused (refused : t.Refused x e) (owed : x.awaiting = some .exec) (h : Host) :
    waitForExec.runOn ⟨t, x, h⟩ = (.error e, ⟨t, x, h⟩) := by
  rw [runOn_waitForExec, if_pos owed, waitUntil_eq .skip, wait_refused refused]

theorem waitForExec_unowed (unowed : x.awaiting ≠ some .exec) (t : Tracer) (h : Host) :
    waitForExec.runOn ⟨t, x, h⟩ =
      (.error (.invalidState x.pid x.state "wait for exec of"), ⟨t, x, h⟩) := by
  rw [runOn_waitForExec, if_neg unowed]

end Drive

/-! ## looking -/

/-- The attempt fails before anything is done. -/
def Attempt.Refused (act : Attempt α) (e : Error) : Prop := ∀ h, act.runOn h = (.error e, h)

namespace Attempt.Refused

theorem bind {act : Attempt α} {e : Error} (refused : act.Refused e) (f : α → Attempt β) :
    (act >>= f).Refused e := fun h => by rw [runOn_bind, refused h]

theorem map {act : Attempt α} {e : Error} (refused : act.Refused e) (f : α → β) :
    (f <$> act).Refused e := by
  rw [map_eq_pure_bind]
  exact refused.bind _

end Attempt.Refused

namespace Inspect

variable {x : Tracee} (gone : x.state.isTerminal = true)
include gone

theorem memoryWord_refused (a : Address) : (memoryWord x a).Refused (.noSuchProcess x.pid) :=
  fun h => by rw [runOn_memoryWord, Tracee.require_of_terminal gone]

theorem register_refused (r : Slot) : (register x r).Refused (.noSuchProcess x.pid) :=
  fun h => by rw [runOn_register, Tracee.require_of_terminal gone]

theorem string_refused (a : Address) : (string x a).Refused (.noSuchProcess x.pid) :=
  (memoryWord_refused gone a).bind _

theorem strings_refused (a : Address) : (strings x a).Refused (.noSuchProcess x.pid) :=
  (memoryWord_refused gone a).bind _

end Inspect

/-- Every look begins with a word that is refused. -/
theorem Look.refused {x : Tracee} (gone : x.state.isTerminal = true) (look : Look) :
    (look.run x).Refused (.noSuchProcess x.pid) := by
  cases look with
  | memoryWord a => exact (Inspect.memoryWord_refused gone a).map _
  | register r => exact (Inspect.register_refused gone r).map _
  | syscallNumber layout | stackPointer layout | instructionPointer layout =>
    exact (Inspect.register_refused gone (layout.slot _)).map _
  | string a => exact (Inspect.string_refused gone a).map _
  | strings a => exact (Inspect.strings_refused gone a).map _
  | execArguments layout | execEnvironment layout =>
    exact ((Inspect.register_refused gone (layout.slot _)).bind _).map _

/-! ## every request -/

/-- The operation, of the tracer at `i` on the tracee `x` at `j`, asks first whether the tracee lives
and whose it is.  Waiting for the exec does so only where the exec is owed. -/
inductive Op.Asks (i j : Nat) (x : Tracee) : Op → Prop where
  | wait : Asks i j x (.wait i j)
  | waitForExec (owed : x.awaiting = some .exec) : Asks i j x (.waitForExec i j)
  | resume : Asks i j x (.resume i j)
  | kill : Asks i j x (.kill i j)

namespace Session

variable {s : Session} {i j : Nat} {t : Tracer} {h : Held}

theorem step_refused (found : s.tracers[i]? = some t) (at_ : s.tracees[j]? = some h) {e : Error}
    (refused : t.Refused h.tracee e) {op : Op} (asks : op.Asks i j h.tracee) (k : Kernel) :
    s.step k op = (⟨.error e, []⟩, s) := by
  cases asks with
  | wait => exact drive_refused found at_ (Drive.wait_refused refused _) _
  | waitForExec owed => exact drive_refused found at_ (Drive.waitForExec_refused refused owed _) _
  | resume => exact drive_refused found at_ (Drive.resume_refused refused _) _
  | kill => exact drive_refused found at_ (Drive.kill_refused refused _) _

theorem look_refused (at_ : s.tracees[j]? = some h) {look : Look} {e : Error}
    (refused : (look.run h.tracee).Refused e) (k : Kernel) :
    s.step k (.look j look) = (⟨.error e, []⟩, s) := by
  rw [look_eq at_, refused]
  rfl

/-- which requests are refused, with what words; no call is made then, and nothing changes -/
structure Rejections (s : Session) : Prop where
  /-- a tracee that has ended, whoever asks for it -/
  ended {i j : Nat} {t : Tracer} {h : Held} (found : s.tracers[i]? = some t)
    (at_ : s.tracees[j]? = some h) (gone : h.tracee.state.isTerminal = true) {op : Op}
    (asks : op.Asks i j h.tracee) (k : Kernel) :
    s.step k op = (⟨.error (.noSuchProcess h.tracee.pid), []⟩, s)
  /-- a look at a tracee that has ended -/
  looked {j : Nat} {h : Held} (at_ : s.tracees[j]? = some h)
    (gone : h.tracee.state.isTerminal = true) (look : Look) (k : Kernel) :
    s.step k (.look j look) = (⟨.error (.noSuchProcess h.tracee.pid), []⟩, s)
  /-- a live tracee that the tracer does not trace -/
  foreign {i j : Nat} {t : Tracer} {h : Held} (found : s.tracers[i]? = some t)
    (at_ : s.tracees[j]? = some h) (live : h.tracee.state.isTerminal = false)
    (untraced : t.isTracing h.tracee.pid = false) {op : Op} (asks : op.Asks i j h.tracee)
    (k : Kernel) : s.step k op = (⟨.error (.notOwned h.tracee.pid), []⟩, s)
  /-- A tracee that has failed still owes its exec, so that waiting for the exec is refused as all
  else is. -/
  failed {i j : Nat} {t : Tracer} {h : Held} (found : s.tracers[i]? = some t)
    (at_ : s.tracees[j]? = some h) (failed : h.tracee.state = .failed) (k : Kernel) :
    s.step k (.waitForExec i j) = (⟨.error (.noSuchProcess h.tracee.pid), []⟩, s)
  /-- Where the exec is not owed, waiting for it is refused for just that, whether the tracee lives
  or not and whosever it is. -/
  unowed {i j : Nat} {t : Tracer} {h : Held} (found : s.tracers[i]? = some t)
    (at_ : s.tracees[j]? = some h) (unowed : h.tracee.awaiting ≠ some .exec) (k : Kernel) :
    s.step k (.waitForExec i j) =
      (⟨.error (.invalidState h.tracee.pid h.tracee.state "wait for exec of"), []⟩, s)

theorem rejections_of_run (ops : List (Kernel × Op)) (n : Nat) :
    (run ops (new n)).2.Rejections where
  ended found at_ gone _ asks k := step_refused found at_ (Tracer.permit_of_terminal gone) asks k
  looked at_ gone look k := look_refused at_ (look.refused gone) k
  foreign found at_ live untraced _ asks k :=
    step_refused found at_ (Tracer.permit_of_foreign live untraced) asks k
  failed {_ j _ h} found at_ failed k := by
    have sound : h.tracee.Sound h.origin := sound_at (p := .held j) ops at_
    have gone : h.tracee.state.isTerminal = true := by
      rw [failed]
      rfl
    exact step_refused found at_ (Tracer.permit_of_terminal gone)
      (.waitForExec (sound.failed failed).2.1) k
  unowed found at_ unowed k := drive_refused found at_ (Drive.waitForExec_unowed unowed _ _) _

/-- A program is killed after its exec. -/
def killedAfterExec : List (Kernel × Op) :=
  [({}, .spawn 0 ls), ({ waits := [.ok ⟨none, 0x57f⟩] }, .wait 0 0),
    ({ waits := [.ok ⟨none, 9⟩] }, .kill 0 0)]

/-- There is no such process any more for a wait, but waiting for the exec says that its state does
not allow that. -/
theorem rejections_of_killedAfterExec :
    let s := (run killedAfterExec (new 1)).2
    let reaped : Tracee := ⟨1000, .exited, none, some (.signaled .kill false)⟩
    s.tracees[0]? = some ⟨0, .exec, reaped⟩ ∧ ∀ k,
      s.step k (.wait 0 0) = (⟨.error (.noSuchProcess 1000), []⟩, s) ∧
      s.step k (.waitForExec 0 0) =
        (⟨.error (.invalidState 1000 .exited "wait for exec of"), []⟩, s) := by
  intro s reaped
  have found : s.tracers[0]? = some .new := by decide +kernel
  have at_ : s.tracees[0]? = some ⟨0, .exec, reaped⟩ := by decide +kernel
  have rejections : s.Rejections := rejections_of_run killedAfterExec 1
  exact ⟨at_, fun k =>
    ⟨rejections.ended found at_ rfl .wait k, rejections.unowed found at_ nofun k⟩⟩

end Session

end ProcTrace
