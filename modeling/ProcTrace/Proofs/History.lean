import ProcTrace.Proofs.Changes
import ProcTrace.Proofs.Changes.Accounts
import ProcTrace.Proofs.Doings

/-!
# Histories of tracees

What the log tells of a tracee, from its making to the state that it is in.

* `Session.step_accounts`    every operation accounts for what it sets going;
* `Session.History`          the changes of state that the log tells of are an unbroken path, and
                             accounted for;
* `Session.history_of_run`   whole runs.
-/

namespace ProcTrace

/-- Killing is part of the operation. -/
def Op.mayKill : Op → Bool
  | kill _ _ | runTraced _ _ _ => true
  | _ => false

namespace Session

open Drive

variable {s u : Session} {k : Kernel} {op : Op}

theorem Moved.accounts {answer : Answer} (moved : Moved s op (answer, u)) (idle : op.drives = false)
    (kills : Bool) : answer.journal.Accounts kills := by
  cases moved with
  | aside _ _ _ none => exact .of_rests fun e mem => Entry.setsGoing_of_about (none e mem)
  | born _ _ _ _ birth => exact .of_rests birth.setsGoing
  | traced _ drives | driven _ drives => exact absurd (idle.symm.trans drives) nofun
  | missing => exact .nil
  | looked _ _ looks => exact .of_rests fun e mem => (looks e mem).setsGoing

theorem drive_accounts {kills : Bool} {act : Drive α} (keeps : Keeps (Accounted kills) act)
    (i j : Nat) (value : α → Value) : (s.drive k i j act value).1.journal.Accounts kills := by
  rw [drive]
  cases s.tracees[j]? with
  | none => exact .nil
  | some h =>
    cases s.tracers[i]? with
    | none => exact .nil
    | some t => exact keeps ⟨t, h.tracee, s.host k⟩ .nil

theorem runTraced_accounts (t : Tracer) (c : Command) (layout : Layout) (i : Nat) :
    (s.recruit k t (Tracer.runTraced c layout) (·.setTracer i) (keepRun i)).1.journal.Accounts
      true := by
  have idle {g : Host} (idled : (s.host k).Idled g) : g.journal.Accounts true := by
    obtain ⟨es, written, none⟩ := idled
    rw [journal_of_host written]
    exact .of_rests fun e mem => Entry.setsGoing_of_about (none e mem)
  rcases t.runTraced_cases c layout (s.host k) with ⟨e, g, run, idled⟩ | ⟨exit, g, run, idled⟩ |
    ⟨pid, g, es, birth, written, run⟩
  · rw [recruit_error run]
    exact idle idled
  · rw [recruit_child run]
    exact idle idled
  · rw [recruit_parent run]
    refine follow_accounted layout ⟨t.adopt pid, .born pid .exec, g⟩ ?_
    show Journal.Accounts true g.journal
    rw [journal_of_host written]
    exact .of_rests birth.setsGoing

/-- Every operation accounts for all that it sets going, and kills only where that is its task. -/
theorem step_accounts (s : Session) (k : Kernel) (op : Op) :
    (s.step k op).1.journal.Accounts op.mayKill := by
  by_cases idle : op.drives = false
  · exact (step_moved s k op).accounts idle _
  cases op with
  | wait i j => exact drive_accounts (.wait (accounted_patient false)) i j _
  | waitForExec i j => exact drive_accounts (waitForExec_accounted false) i j _
  | resume i j => exact drive_accounts (resume_accounted false) i j _
  | kill i j => exact drive_accounts kill_accounted i j _
  | runTraced i c layout =>
    rw [step, withTracer]
    cases s.tracers[i]? with
    | none => exact .nil
    | some t => exact runTraced_accounts t c layout i
  | _ => exact absurd rfl idle

/-! ## whole runs -/

/-- the changes of state that the log tells of in these deeds, earliest first -/
def changes (ds : List Deed) : List Change := ds.flatMap (·.answer.journal.changes)

theorem changes_concat (ds : List Deed) (d : Deed) :
    changes (ds ++ [d]) = changes ds ++ d.answer.journal.changes := by
  simp [changes]

/-- what the log tells of a tracee in all that was done with it -/
structure History (ds : List Deed) (x : Tracee) : Prop where
  begins : (changes ds).head? = some ⟨x.pid, .created, .attached⟩
  path : Path x.pid .created (changes ds) x.state
  accounts : ∀ d ∈ ds, d.answer.journal.Accounts d.op.mayKill

namespace History

variable {ds : List Deed} {d : Deed} {x y : Tracee}

/-- The path goes on where the tracee is. -/
theorem concat (history : History ds x) (same : y.pid = x.pid)
    (path : Path x.pid x.state d.answer.journal.changes y.state)
    (accounts : d.answer.journal.Accounts d.op.mayKill) : History (ds ++ [d]) y where
  begins := by rw [changes_concat, List.head?_append, history.begins, same]; rfl
  path := by
    rw [changes_concat, same]
    exact history.path.append path
  accounts := List.forall_mem_append.mpr ⟨history.accounts, by simpa using accounts⟩

/-- A tracee that was made, and driven from there. -/
theorem of_made {cs : List Change}
    (told : d.answer.journal.changes = ⟨x.pid, .created, .attached⟩ :: cs)
    (path : Path x.pid .attached cs x.state)
    (accounts : d.answer.journal.Accounts d.op.mayKill) : History [d] x where
  begins := by
    rw [← List.nil_append [d], changes_concat, told]
    rfl
  path := by
    rw [← List.nil_append [d], changes_concat, told]
    exact ⟨rfl, rfl, List.mem_singleton.mpr rfl, path⟩
  accounts := by simpa using accounts

end History

/-- After any run, the log tells of each tracee, abandoned ones among them, an unbroken path from
its making to the state that it is in; and accounts for whatever set it going. -/
theorem history_of_run (ops : List (Kernel × Op)) (n : Nat) {p : Place} {h : Held}
    (at_ : (run ops (new n)).2.at? p = some h) : History (deeds p ops (new n)) h.tracee := by
  refine deeds_induction (P := fun ds h => History ds h.tracee)
    (fun {s k op h} _ begins => ?_) (fun {s k op ds g h} before _ _ _ leads => ?_) ops at_
  · have accounts := step_accounts s k op
    cases begins with
    | born i pid first birth => exact .of_made birth.changes rfl accounts
    | traced i t pid es c birth steps written =>
      obtain ⟨cs, told, path⟩ := Course.Steps.changes steps
      rw [written, birth.changes] at told
      have same : c.tracee.pid = pid := Course.Steps.pid steps
      rw [← same] at told path
      exact .of_made told path accounts
  · have accounts := step_accounts s k op
    cases leads with
    | looked looks =>
      have none : (s.step k op).1.journal.changes = [] :=
        Journal.changes_of_none fun e mem => (looks e mem).change?
      refine before.concat rfl ?_ accounts
      rw [none]
      rfl
    | driven _ steps written =>
      obtain ⟨cs, told, path⟩ := Course.Steps.changes steps
      rw [written] at told
      have told : (s.step k op).1.journal.changes = cs := told
      refine before.concat (Course.Steps.pid steps) ?_ accounts
      rw [told]
      exact path

/-- A program is resumed after its exec, and killed while a stop of it is still queued. -/
def killedPastStop : List (Kernel × Op) :=
  [({}, .spawn 0 ls), ({ waits := [.ok ⟨none, 0x57f⟩] }, .wait 0 0), ({}, .resume 0 0),
    ({ waits := [.error .eintr, .ok ⟨none, 0xa7f⟩, .ok ⟨none, 9⟩] }, .kill 0 0)]

theorem history_of_killedPastStop :
    let ds := deeds (.held 0) killedPastStop (new 1)
    let reaped : Tracee := ⟨1000, .exited, none, some (.signaled .kill false)⟩
    changes ds = [⟨1000, .created, .attached⟩, ⟨1000, .attached, .stopped⟩,
      ⟨1000, .stopped, .running⟩, ⟨1000, .running, .stopped⟩, ⟨1000, .stopped, .running⟩,
      ⟨1000, .running, .exited⟩] ∧ History ds reaped := by
  intro ds reaped
  have at_ : (run killedPastStop (new 1)).2.at? (.held 0) = some ⟨0, .exec, reaped⟩ := by
    decide +kernel
  exact ⟨by decide +kernel, history_of_run killedPastStop 1 at_⟩

end Session

end ProcTrace
