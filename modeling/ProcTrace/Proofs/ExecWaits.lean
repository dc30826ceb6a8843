import ProcTrace.Proofs.Reports

/-!
# Waiting for the exec, again and again

What waiting for the exec comes to is told by the replies of the kernel alone.  Where a stop before
the exec cannot be resumed the wait fails and the tracee stands there; once it is resumed, the next
wait goes on behind that stop.

* `EarlyStops`              stops before the exec, which is a plain trap;
* `execCalls`, `endCalls`, `stuckCalls`   the calls of a wait that comes to the exec, that comes to
                            the end before it, and that cannot go on;
* `Tracee.past_append`      a tracee that went on behind some stops goes on behind more;
* `Tracer.LeadsToExec`      what each wait comes to, whatever stops the waits before it have passed;
* `Tracer.leadsToExec_of_owed`   and so it is with every tracee that owes its exec.
-/

namespace ProcTrace

open Course

/-- stops of any kind but a plain trap -/
def EarlyStops (told : List Told) : Prop :=
  ∀ s ∈ told, s.status.isStop = true ∧ s.status ≠ .stopped .trap

instance decidableEarlyStops (told : List Told) : Decidable (EarlyStops told) :=
  inferInstanceAs (Decidable (∀ s ∈ told, _))

/-! ## calls -/

/-- The stops are passed, and the options are set at the exec. -/
def execCalls (t : Tracer) (pid : Pid) (before : List Told) (exec : Told) : List Syscall :=
  turns [.cont pid none (.ok ())] pid before ++ (exec.calls pid ++ t.optionsCalls pid)

def endCalls (pid : Pid) (before : List Told) (last : Told) : List Syscall :=
  turns [.cont pid none (.ok ())] pid before ++ last.calls pid

/-- The stops are passed but the last, which is not resumed. -/
def stuckCalls (pid : Pid) (before : List Told) (stop : Told) (e : Errno) : List Syscall :=
  turns [.cont pid none (.ok ())] pid before ++ (stop.calls pid ++ [.cont pid none (.error e)])

theorem conts_execCalls (t : Tracer) (pid : Pid) (before : List Told) (exec : Told) :
    (execCalls t pid before exec).filter Syscall.isCont =
      List.replicate before.length (.cont pid none (.ok ())) := by
  have set := t.filter_optionsCalls (p := Syscall.isCont) (fun _ _ _ => rfl) pid
  simp only [execCalls, List.filter_append, conts_turns, conts_calls, set, List.append_nil]

theorem conts_endCalls (pid : Pid) (before : List Told) (last : Told) :
    (endCalls pid before last).filter Syscall.isCont =
      List.replicate before.length (.cont pid none (.ok ())) := by
  rw [endCalls, List.filter_append, conts_turns, conts_calls, List.append_nil]

/-! ## tracees -/

namespace Tracee

variable (x : Tracee)

/-- a tracee that stands at a stop before its exec, after these stops -/
def standing (before : List Told) (stop : Told) : Tracee :=
  { x.past before with state := .stopped, lastStop := stop.status.stop? }

theorem past_append (gone before : List Told) :
    (x.past gone).past before = x.past (gone ++ before) := by
  induction gone generalizing x with
  | nil => rfl
  | cons s gone ih => exact ih _

/-- It goes on behind the stop at which it stood. -/
theorem past_concat (before : List Told) (stop : Told) :
    x.past (before ++ [stop]) = { x.standing before stop with state := .running } := by
  rw [← past_append]
  rfl

theorem atExec_append (gone before : List Told) :
    (x.past gone).atExec before = x.atExec (gone ++ before) := by
  rw [atExec, atExec, past_append]

theorem cutShort_append (gone before : List Told) (exit : Stop) :
    (x.past gone).cutShort before exit = x.cutShort (gone ++ before) exit := by
  rw [cutShort, cutShort, past_append]

theorem standing_append (gone before : List Told) (stop : Told) :
    (x.past gone).standing before stop = x.standing (gone ++ before) stop := by
  rw [standing, standing, past_append]

end Tracee

/-! ## waiting for the exec -/

variable {t : Tracer} {x : Tracee}

/-- A stop before the exec that is not resumed. -/
theorem Execs.stuck_of_told (owed : x.awaiting = some .exec) {before : List Told} {stop : Told}
    (early : EarlyStops (before ++ [stop])) (e : Errno) :
    Execs ⟨t, x⟩ (stuckCalls x.pid before stop e) (.error (.resume x.pid e))
      ⟨t, x.standing before stop⟩ := by
  have each (s : Told) (mem : s ∈ before ++ [stop]) : s.Passed Drive.execOver x.awaiting :=
    owed ▸ Told.passed_exec.mpr (early s mem)
  have passed := each stop List.mem_concat_self
  obtain ⟨seen, told, onward⟩ := passed.onward
  have waits : Waits t (x.past before) (stop.calls x.pid) (.ok seen) ⟨t, x.standing before stop⟩ := by
    rw [Tracee.standing, told, ← x.pid_past before]
    refine .stopped _ _ seen told (Drive.still_of_execOver seen onward) fun first promised => ?_
    exact passed.later first (x.awaiting_past before ▸ promised)
  have refused : Resumes ⟨t, x.standing before stop⟩ [.cont x.pid none (.error e)]
      (.error (.resume x.pid e)) ⟨t, x.standing before stop⟩ := by
    rw [← x.pid_past before]
    exact .refused e
  exact .failed (.past (Resumes.by_cont x.pid) Drive.still_of_execOver
    (fun s mem => each s (List.mem_append_left _ mem)) (.stuck waits onward refused))

namespace Tracer

/-- What waiting for the exec of this tracee comes to, wherever the waits before it have `gone`. -/
structure LeadsToExec (t : Tracer) (x : Tracee) : Prop where
  reached (gone : List Told) {before : List Told} {exec : Told} (early : EarlyStops before)
    (trapped : exec.status = .stopped .trap) :
    Drive.waitForExec.Does ⟨t, x.past gone⟩ (execCalls t x.pid before exec) (.ok ())
      ⟨t, x.atExec (gone ++ before)⟩ ∧
    (execCalls t x.pid before exec).filter Syscall.isCont =
      List.replicate before.length (.cont x.pid none (.ok ()))
  /-- The tracer has given up the process. -/
  ended (gone : List Told) {before : List Told} {last : Told} {exit : Stop}
    (early : EarlyStops before) (told : last.status.stop? = some exit)
    (final : exit.isTerminal = true) :
    Drive.waitForExec.Does ⟨t, x.past gone⟩ (endCalls x.pid before last) (.error (.exec x.pid exit))
      ⟨t.release x.pid, x.cutShort (gone ++ before) exit⟩ ∧
    (t.release x.pid).isTracing x.pid = false ∧
    (endCalls x.pid before last).filter Syscall.isCont =
      List.replicate before.length (.cont x.pid none (.ok ()))
  /-- The tracee stands at the stop that was not resumed, and still owes its exec. -/
  stuck (gone : List Told) {before : List Told} {stop : Told}
    (early : EarlyStops (before ++ [stop])) (e : Errno) :
    Drive.waitForExec.Does ⟨t, x.past gone⟩ (stuckCalls x.pid before stop e)
      (.error (.resume x.pid e)) ⟨t, x.standing (gone ++ before) stop⟩ ∧
    t.May (x.standing (gone ++ before) stop) [.stopped] ∧
    (x.standing (gone ++ before) stop).awaiting = some .exec
  /-- Once it is resumed, it is `gone` past that stop as well. -/
  resumed (gone : List Told) (stop : Told) :
    Drive.resume.Does ⟨t, x.standing gone stop⟩ [.cont x.pid none (.ok ())] (.ok ())
      ⟨t, x.past (gone ++ [stop])⟩

theorem leadsToExec_of_owed (may : t.May x moving) (owed : x.awaiting = some .exec) :
    t.LeadsToExec x := by
  have owing (gone : List Told) : (x.past gone).awaiting = some .exec := by
    rw [x.awaiting_past, owed]
  have own (gone : List Told) : t.isTracing (x.past gone).pid = true := by
    rw [x.pid_past]
    exact may.owned
  have waits (gone : List Told) : Drive.Holds Drive.waitForExec Execs ⟨t, x.past gone⟩ :=
    Drive.waitForExec_holds ⟨own gone, Tracee.past_moving may.state gone⟩ (owing gone)
  have stands (gone : List Told) (stop : Told) : t.May (x.standing gone stop) [.stopped] :=
    ⟨own gone, List.mem_singleton_self _⟩
  refine ⟨?_, ?_, ?_, ?_⟩
  · intro gone before exec early trapped
    refine ⟨?_, conts_execCalls t x.pid before exec⟩
    have told := (waits gone).does (.of_told (owing gone) early trapped)
    rwa [x.pid_past, x.atExec_append] at told
  · intro gone before last exit early ended final
    refine ⟨?_, ?_, conts_endCalls x.pid before last⟩
    · have told := (waits gone).does (.ended_of_told (owing gone) early ended final)
      rwa [x.pid_past, x.cutShort_append] at told
    · rw [Bool.eq_false_iff, Ne, isTracing_release]
      simp
  · intro gone before stop early e
    refine ⟨?_, stands _ _, owing _⟩
    have told := (waits gone).does (.stuck_of_told (owing gone) early e)
    rwa [x.pid_past, x.standing_append] at told
  · intro gone stop
    rw [x.past_concat]
    exact (Drive.resume_holds (stands gone stop)).does
      ((Resumes.by_cont x.pid).passed (x.pid_past gone))

/-- Of a new program, a signal that cannot be passed on at the first try, an event that comes with a
trap, and the trap of the exec; the first wait is interrupted. -/
def refusedOnce : Host where
  kernel := {
    waits := [.error .eintr, .ok ⟨none, 0xa7f⟩, .ok ⟨none, 0x4057f⟩, .ok ⟨none, 0x57f⟩]
    conts := [.error .esrch, .ok (), .ok ()] }
  errno := .unknown
  nextPid := 1001
  journal := []

theorem leadsToExec_of_refusedOnce :
    let t := new.adopt 1000
    let x := Tracee.born 1000 .exec
    let usr : Told := ⟨1, ⟨1000, .stopped .usr1⟩⟩
    let event : Told := ⟨0, ⟨1000, .event .trap 4⟩⟩
    ∃ g k l, Drive.waitForExec.runOn ⟨t, x, refusedOnce⟩ =
        (.error (.resume 1000 .esrch), ⟨t, x.standing [] usr, g⟩) ∧
      Drive.resume.runOn ⟨t, x.standing [] usr, g⟩ = (.ok (), ⟨t, x.past [usr], k⟩) ∧
      Drive.waitForExec.runOn ⟨t, x.past [usr], k⟩ = (.ok (), ⟨t, x.atExec [usr, event], l⟩) ∧
      (l.journal.calls.filter Syscall.isCont) =
        [.cont 1000 none (.error .esrch), .cont 1000 none (.ok ()), .cont 1000 none (.ok ())] := by
  intro t x usr event
  let exec : Told := ⟨0, ⟨1000, .stopped .trap⟩⟩
  have leads := leadsToExec_of_owed (t := t) (x := x) ⟨by decide, by decide⟩ rfl
  have answered : refusedOnce.Answers (stuckCalls 1000 [] usr .esrch ++
      ([.cont 1000 none (.ok ())] ++ execCalls t 1000 [event] exec)) := by
    decide +kernel
  have early : EarlyStops ([] ++ [usr]) := by decide
  have early' : EarlyStops [event] := by decide
  have trapped : exec.status = .stopped .trap := rfl
  obtain ⟨g, stuck, came⟩ :=
    (leads.stuck [] early .esrch).1 refusedOnce (Host.answers_append.mp answered).1
  have answered := came.answers answered
  obtain ⟨k, resumed, came'⟩ := leads.resumed [] usr g (Host.answers_append.mp answered).1
  have answered := came'.answers answered
  obtain ⟨l, reached, came''⟩ := (leads.reached [usr] early' trapped).1 k answered
  refine ⟨g, k, l, stuck, resumed, reached, ?_⟩
  rw [((came.trans came').trans came'').written]
  decide

end Tracer

end ProcTrace
