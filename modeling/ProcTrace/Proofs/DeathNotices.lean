import ProcTrace.Proofs.Dialogue.Refusals
import ProcTrace.Proofs.Orphans

/-!
# Errors and last calls

An operation that fails after a call says in its error what this last call came to.  So the error
says that the process is gone just if the last call found it gone.

* `Syscall.findsGone`      the call found that its process is gone;
* `Syscall.GaveWord`       a peek that gave a word;
* `Syscall.Fails`          which errors an operation fails with, by its last call;
* `Syscall.Fails.died_iff` which of these say that the process is gone;
* `FailsBy`                a dialogue whose last call accounts for its error: `Waits.failsBy`,
                           `Rounds.failsBy`, `Resumes.failsBy`, `Execs.failsBy`, `Kills.failsBy`;
* `Failed`                 what is refused without a call, or fails by its last one;
* `Drive.Fails`            an action of which every failure is of this kind.
-/

namespace ProcTrace

open Course

/-! ## last calls -/

/-- The process is no child any more, or there is none to request anything of. -/
def Syscall.findsGone : Syscall → Bool
  | waitpid _ (.error e) => e == .echild
  | peekData _ _ (.error e) | peekUser _ _ (.error e) => e == .esrch
  | cont _ _ (.error e) | setOptions _ _ (.error e) | kill _ _ (.error e) => e == .esrch
  | _ => false

namespace Syscall

/-- a peek at this process that gave a word -/
inductive GaveWord (pid : Pid) : Syscall → Prop where
  | memory (a : Address) {reply : Reply Word} {w : Word} (named : reply.named = .ok w) :
    GaveWord pid (.peekData pid a reply)
  | register (offset : UInt64) {reply : Reply Word} {w : Word} (named : reply.named = .ok w) :
    GaveWord pid (.peekUser pid offset reply)

/-- An operation on this process whose last call is this one fails with this error. -/
inductive Fails (pid : Pid) : Syscall → Error → Prop where
  | unheard (e : Errno) (other : e ≠ .echild) : Fails pid (.waitpid pid (.error e)) (.os e)
  | vanished : Fails pid (.waitpid pid (.error .echild)) (.noSuchProcess pid)
  /-- a status that nobody asked for -/
  | odd (w : Waited) (none : w.status.stop? = none) :
    Fails pid (.waitpid pid (.ok w)) (.internal w.status.complaint)
  /-- The exec was waited for, and the end came. -/
  | ended (w : Waited) (stop : Stop) (told : w.status.stop? = some stop)
      (final : stop.isTerminal = true) : Fails pid (.waitpid pid (.ok w)) (.exec pid stop)
  | unset (options : Options) (e : Errno) :
    Fails pid (.setOptions pid options (.error e)) (.ofRequest pid e)
  | unkilled (e : Errno) : Fails pid (.kill pid .kill (.error e)) (.ofRequest pid e)
  | unresumed (e : Errno) : Fails pid (.cont pid none (.error e)) (.resume pid e)
  | unread (a : Address) {reply : Reply Word} {e : Errno} (named : reply.named = .error e) :
    Fails pid (.peekData pid a reply) (.memoryRead pid a e)
  | unfetched (offset : UInt64) {reply : Reply Word} {e : Errno} (named : reply.named = .error e) :
    Fails pid (.peekUser pid offset reply) (.registerRead pid offset e)
  /-- Too many words were read, or their addresses came to an end. -/
  | endless {call : Syscall} (gave : call.GaveWord pid) (a : Address) {e : Errno}
      (limit : e = .e2big ∨ e = .efault) : Fails pid call (.memoryRead pid a e)

variable {pid : Pid} {call : Syscall}

theorem eq_error_of_named {reply : Reply Word} {e : Errno} (named : reply.named = .error e) :
    reply = .error e := by
  cases reply with
  | ok w => cases named
  | error n =>
    by_cases unnamed : n = .unknown
    · rw [Reply.named, if_pos unnamed] at named
      cases named
    · rw [Reply.named, if_neg unnamed] at named
      cases named
      rfl

theorem GaveWord.findsGone (gave : call.GaveWord pid) : call.findsGone = false := by
  have alive {reply : Reply Word} {w : Word} (named : reply.named = .ok w) :
      reply ≠ .error .esrch := by
    rintro rfl
    cases named
  have other {reply : Reply Word} {w : Word} (named : reply.named = .ok w) {e : Errno}
      (failed : reply = .error e) : (e == .esrch) = false :=
    beq_false_of_ne fun same => alive named (failed.trans (congrArg _ same))
  cases gave with
  | @memory a reply w named | @register offset reply w named =>
    cases reply with
    | ok _ => rfl
    | error e => exact other named rfl

theorem Fails.died_iff {e : Error} (fails : call.Fails pid e) :
    e.traceeDied = true ↔ call.findsGone = true := by
  cases fails with
  | unheard e other => simp [Error.traceeDied, Syscall.findsGone, other]
  | vanished => exact ⟨fun _ => rfl, fun _ => rfl⟩
  | odd _ _ | ended _ _ _ _ => simp [Error.traceeDied, Syscall.findsGone]
  | unset _ e | unkilled e => rw [Error.traceeDied_ofRequest]; rfl
  | unresumed e => rfl
  | unread _ named | unfetched _ named =>
    rw [eq_error_of_named named]
    rfl
  | endless gave a limit =>
    rw [gave.findsGone]
    rcases limit with rfl | rfl <;> simp [Error.traceeDied]

end Syscall

/-! ## dialogues that fail -/

/-- The last call accounts for the error. -/
def FailsBy (pid : Pid) (calls : List Syscall) (e : Error) : Prop :=
  ∃ call, calls.getLast? = some call ∧ call.Fails pid e

namespace FailsBy

variable {pid : Pid} {calls : List Syscall} {e : Error}

theorem of_last {call : Syscall} (last : calls.getLast? = some call) (fails : call.Fails pid e) :
    FailsBy pid calls e := ⟨call, last, fails⟩

theorem after (earlier : List Syscall) (fails : FailsBy pid calls e) :
    FailsBy pid (earlier ++ calls) e := by
  obtain ⟨call, last, fails⟩ := fails
  exact ⟨call, getLast?_after earlier last, fails⟩

end FailsBy

section dialogues

variable {c d : Cast} {calls : List Syscall} {e : Error}

theorem Waits.failsBy {t : Tracer} {x : Tracee} (waits : Waits t x calls (.error e) d) :
    FailsBy x.pid calls e := by
  cases waits with
  | failed n e _ other => exact .of_last (getLast?_heard _ _ _) (.unheard e other)
  | vanished n => exact .of_last (getLast?_heard _ _ _) .vanished
  | odd n w none => exact .of_last (getLast?_heard _ _ _) (.odd w none)
  | missed n w first owed told some e => exact .of_last List.getLast?_concat (.unset _ e)

theorem Resumes.failsBy (resumes : Resumes c calls (.error e) d) :
    FailsBy c.tracee.pid calls e := by
  cases resumes with
  | refused e => exact .of_last rfl (.unresumed e)

theorem LetsGo.failsBy (lets : LetsGo c calls (.error e) d) : FailsBy c.tracee.pid calls e := by
  cases lets

theorem Rounds.failsBy {final : Stop → Bool} {pass : Talks Unit}
    (still : ∀ stop, final stop = false → stop.isTerminal = false)
    (keeps : ∀ {c calls d}, pass c calls (.ok ()) d → c.Keeps d)
    (fails : ∀ {c calls e d}, pass c calls (.error e) d → FailsBy c.tracee.pid calls e)
    (rounds : Rounds final pass c calls (.error e) d) : FailsBy c.tracee.pid calls e := by
  obtain ⟨b, last, ⟨earlier, rfl⟩, kept, ⟨waits, _⟩ | ⟨_, same, passes⟩⟩ :=
    rounds.exists_last still keeps
  · rw [← kept.pid]
    exact waits.failsBy.after earlier
  · cases same
    rw [← kept.pid]
    exact (fails passes).after earlier

/-- Where the end came, the last call was told of it. -/
theorem Execs.failsBy (execs : Execs c calls (.error e) d) : FailsBy c.tracee.pid calls e := by
  cases execs with
  | failed rounds => exact rounds.failsBy Drive.still_of_execOver Resumes.keeps Resumes.failsBy
  | ended rounds final =>
    obtain ⟨b, last, ⟨earlier, rfl⟩, kept, ⟨waits, _⟩ | ⟨_, came, _⟩⟩ :=
      rounds.exists_last Drive.still_of_execOver Resumes.keeps
    · obtain ⟨told, seen, rfl, _⟩ := waits.exists_end final
      rw [kept.pid]
      refine .of_last (getLast?_after earlier (getLast?_heard _ _ _)) (.ended _ _ seen final)
    · cases came

theorem Kills.failsBy (kills : Kills c calls (.error e) d) : FailsBy c.tracee.pid calls e := by
  cases kills with
  | refused e => exact .of_last rfl (.unkilled e)
  | sent rounds =>
    rename_i t x calls
    have fails := rounds.failsBy (fun _ onward => onward) LetsGo.keeps LetsGo.failsBy
    rw [x.pid_struck] at fails
    exact fails.after [_]

end dialogues

/-! ## actions that fail -/

/-- What was done on the tracee was refused before anything was said, or failed by its last call. -/
inductive Failed (x : Tracee) (calls : List Syscall) (e : Error) : Prop where
  | rejected (silent : calls = []) (rejects : x.Rejects e)
  | called (fails : FailsBy x.pid calls e)

theorem Failed.died_iff {x : Tracee} {calls : List Syscall} {e : Error} (failed : Failed x calls e)
    (live : x.state.isTerminal = false) :
    e.traceeDied = true ↔ ∃ call, calls.getLast? = some call ∧ call.findsGone = true := by
  cases failed with
  | rejected silent rejects =>
    subst silent
    cases rejects with
    | ended terminal =>
      rw [live] at terminal
      cases terminal
    | foreign | state _ => simp [Error.traceeDied]
  | called fails =>
    obtain ⟨call, last, fails⟩ := fails
    rw [fails.died_iff, last]
    simp

namespace Drive

variable {α : Type} {act : Drive α} {talks : Talks α} {c : Cast}

/-- On a host with nothing in the journal, each failure of the action is accounted for. -/
def Fails (act : Drive α) (c : Cast) : Prop :=
  ∀ ⦃h e u⦄, h.journal = [] → act.runOn (c.on h) = (.error e, u) →
    Failed c.tracee u.host.journal.calls e

theorem Holds.fails (holds : Holds act talks c)
    (failsBy : ∀ {calls e d}, talks c calls (.error e) d → FailsBy c.tracee.pid calls e) :
    Fails act c := by
  intro h e u new failed
  obtain ⟨calls, r, d, g, talk, _, run, came⟩ := holds.run h
  cases failed.symm.trans run
  refine .called ?_
  rw [Cast.on, came.calls_of_new new]
  exact failsBy talk

theorem Refused.fails {e : Error} (refused : Refused act c e) : Fails act c := by
  intro h e' u new failed
  cases failed.symm.trans (refused.run h)
  exact .rejected (by rw [Cast.on, new]; rfl) refused.rejects

theorem wait_fails (c : Cast) : Fails wait c := by
  obtain ⟨_, refused⟩ | holds := wait_refused_or_holds c
  · exact refused.fails
  · exact holds.fails Waits.failsBy

theorem resume_fails (c : Cast) : Fails resume c := by
  obtain ⟨_, refused⟩ | holds := resume_refused_or_holds c
  · exact refused.fails
  · exact holds.fails Resumes.failsBy

theorem kill_fails (c : Cast) : Fails kill c := by
  obtain ⟨_, refused⟩ | holds := kill_refused_or_holds c
  · exact refused.fails
  · exact holds.fails Kills.failsBy

theorem waitForExec_fails (c : Cast) : Fails waitForExec c := by
  obtain ⟨_, refused⟩ | holds := waitForExec_refused_or_holds c
  · exact refused.fails
  · exact holds.fails Execs.failsBy

end Drive

end ProcTrace
