import ProcTrace.Proofs.Dialogue.Wait
import ProcTrace.Proofs.Independence.Blind

/-!
# Interruptions

What is said to two hosts whose replies to waiting differ only by interruptions.

* `Interrupted`            replies that differ by nothing else;
* `Host.Disturbed`         two hosts that differ so, and in the error number that was left;
* `undisturbed`            the calls but for the interrupted waits;
* `Kernel.interruptions`   how many of the replies that these calls take are interruptions;
* `Host.Matched`           a dialogue with the one host, and one with the other that differs from it
                           by interrupted waits alone, one for each interruption;
* `Host.Disturbed.heard_matched`   a wait of the one is matched by a wait of the other.
-/

namespace ProcTrace

/-! ## replies and calls -/

/-- anything but an interruption -/
def Reply.isNews : Reply α → Bool
  | error .eintr => false
  | _ => true

/-- Replies to waiting that differ by interruptions alone, wherever these are and however many. -/
inductive Interrupted : List (Reply RawStatus) → List (Reply RawStatus) → Prop where
  | nil : Interrupted [] []
  | both (reply : Reply RawStatus) {a b : List (Reply RawStatus)} (rest : Interrupted a b) :
      Interrupted (reply :: a) (reply :: b)
  | left {a b : List (Reply RawStatus)} (rest : Interrupted a b) :
      Interrupted (.error .eintr :: a) b
  | right {a b : List (Reply RawStatus)} (rest : Interrupted a b) :
      Interrupted a (.error .eintr :: b)

/-- a wait that was interrupted -/
def Syscall.isInterrupted : Syscall → Bool
  | waitpid _ reply => !reply.isNews
  | _ => false

/-- a call that is answered without the replies to waiting, and without the error number that was
left before -/
def Syscall.isApart : Syscall → Bool
  | waitpid _ _ | fork _ => false
  | _ => true

theorem Syscall.isWait_of_isApart {c : Syscall} (apart : c.isApart = true) : c.isWait = false := by
  cases c with
  | waitpid _ _ => cases apart
  | _ => rfl

/-- the calls but for the interrupted waits -/
def undisturbed (calls : List Syscall) : List Syscall := calls.filter (!·.isInterrupted)

theorem undisturbed_append (calls more : List Syscall) :
    undisturbed (calls ++ more) = undisturbed calls ++ undisturbed more :=
  List.filter_append _ _

def waitsMade (calls : List Syscall) : Nat := calls.countP Syscall.isWait

theorem waitsMade_append (calls more : List Syscall) :
    waitsMade (calls ++ more) = waitsMade calls + waitsMade more := List.countP_append

/-- how many of the replies that these calls take are interruptions -/
def Kernel.interruptions (k : Kernel) (calls : List Syscall) : Nat :=
  (k.waits.take (waitsMade calls)).countP (!·.isNews)

namespace Host

/-! ## replies taken -/

theorem waits_ask {c : Syscall} (unwaited : c.isWait = false) (h : Host) :
    (ask c h).2.kernel.waits = h.kernel.waits := by
  cases c with
  | fork _ =>
    obtain ⟨⟨forks, _, _, _, _, _, _, _, _, _, _⟩, _, _, _⟩ := h
    cases forks <;> rfl
  | waitpid _ _ => cases unwaited
  | kill _ _ _ | attach _ _ | cont _ _ _ | setOptions _ _ _ | traceMe _ | peekUser _ _ _
  | peekData _ _ _ | getRegisterSet _ _ | exec _ _ _ _ | exit _ => rfl

/-- Each wait takes a reply. -/
theorem waits_after (calls : List Syscall) (h : Host) :
    (after calls h).kernel.waits = h.kernel.waits.drop (waitsMade calls) := by
  induction calls generalizing h with
  | nil => rfl
  | cons c calls ih =>
    refine (ih (ask c h).2).trans ?_
    cases waits : c.isWait with
    | true =>
      cases c with
      | waitpid pid reply =>
        show h.kernel.waits.tail.drop _ = _
        rw [← List.drop_one, List.drop_drop, waitsMade, waitsMade, List.countP_cons_of_pos rfl,
          Nat.add_comm]
      | _ => cases waits
    | false =>
      rw [waits_ask waits, waitsMade, waitsMade, List.countP_cons_of_neg (by simp [waits])]

theorem interruptions_append (h : Host) (calls more : List Syscall) :
    h.kernel.interruptions (calls ++ more) =
      h.kernel.interruptions calls + (h.after calls).kernel.interruptions more := by
  rw [Kernel.interruptions, Kernel.interruptions, Kernel.interruptions, waits_after,
    waitsMade_append, List.take_add, List.countP_append]

/-! ## waits -/

theorem waitpid_of_cons {pid : Pid} {h : Host} {reply : Reply RawStatus}
    {replies : List (Reply RawStatus)} (waits : h.kernel.waits = reply :: replies) : waitpid pid h =
      (reply.bind (Waited.ofRaw pid (reply.errno h.errno)), { h with
        kernel.waits := replies
        errno := reply.errno h.errno
        journal := .call (.waitpid pid (reply.bind (Waited.ofRaw pid (reply.errno h.errno)))) ::
          h.journal }) := by
  show (Reply.bind (h.kernel.waits.headD (.error .echild)) _, _) = _
  rw [waits]
  rfl

theorem waitpid_of_interrupted (pid : Pid) {h : Host}
    (interrupted : h.kernel.waits.head? = some (.error .eintr)) :
    (waitpid pid h).1 = .error .eintr ∧ (waitpid pid h).2.waitsLeft < h.waitsLeft := by
  obtain ⟨rest, waits⟩ := List.head?_eq_some_iff.mp interrupted
  rw [waitpid_of_cons waits, waitsLeft, waitsLeft, waits]
  exact ⟨rfl, Nat.lt_succ_self _⟩

/-! ## hosts -/

/-- The second host goes on like the first, but that its replies to waiting differ by interruptions.
It may have been left with another error number, which no wait for the process gives as its own. -/
inductive Disturbed (pid : Pid) (h g : Host) : Prop where
  | intro {waits : List (Reply RawStatus)} (interrupted : Interrupted h.kernel.waits waits)
      (sets : SetsErrno pid h.kernel.waits) (errno : Errno) (journal : Journal)
      (same : g = { h with kernel.waits := waits, errno, journal })

namespace Disturbed

variable {pid : Pid} {h g : Host}

theorem asked (disturbed : Disturbed pid h g) {c : Syscall} (apart : c.isApart = true) :
    (ask c g).1 = (ask c h).1 ∧ Disturbed pid (ask c h).2 (ask c g).2 := by
  obtain ⟨interrupted, sets, errno, journal, rfl⟩ := disturbed
  cases c with
  | fork _ | waitpid _ _ => cases apart
  | kill _ _ _ | attach _ _ | cont _ _ _ | setOptions _ _ _ | traceMe _ | peekUser _ _ _
  | peekData _ _ _ | getRegisterSet _ _ | exec _ _ _ _ | exit _ =>
    exact ⟨rfl, .intro interrupted sets _ _ rfl⟩

/-- A fork might give the error number that was left before. -/
theorem forked (disturbed : Disturbed pid h g) (agree : g.errno = h.errno) :
    (fork g).1 = (fork h).1 ∧ Disturbed pid (fork h).2 (fork g).2 := by
  obtain ⟨interrupted, sets, errno, journal, rfl⟩ := disturbed
  obtain rfl : errno = h.errno := agree
  obtain ⟨⟨forks, _, _, _, _, _, _, _, _, _, _⟩, _, _, _⟩ := h
  cases forks <;> exact ⟨rfl, .intro interrupted sets _ _ rfl⟩

/-- A wait tells the same on both, or is interrupted on one of them. -/
theorem waited (disturbed : Disturbed pid h g) :
    (g.kernel.waits.head? = h.kernel.waits.head? ∧ (waitpid pid g).1 = (waitpid pid h).1 ∧
        Disturbed pid (waitpid pid h).2 (waitpid pid g).2) ∨
      (h.kernel.waits.head? = some (.error .eintr) ∧ Disturbed pid (waitpid pid h).2 g) ∨
      (g.kernel.waits.head? = some (.error .eintr) ∧ Disturbed pid h (waitpid pid g).2) := by
  obtain ⟨interrupted, sets, errno, journal, rfl⟩ := disturbed
  generalize replies : h.kernel.waits = a at interrupted sets
  cases interrupted with
  | nil =>
    have none : (waitpid pid h).2.kernel.waits = [] := congrArg List.tail replies
    have spent : Interrupted (waitpid pid h).2.kernel.waits [] := by
      rw [none]
      exact .nil
    refine .inl ⟨rfl, ?_, .intro spent (none ▸ sets) _ _ rfl⟩
    rw [waitpid_of_none_left (congrArg List.length replies), waitpid_of_none_left rfl]
  | both reply rest =>
    refine .inl ⟨rfl, ?_, ?_⟩
    · rw [waitpid_of_cons replies, waitpid_of_cons rfl]
      exact bind_ofRaw_congr (fun raw => sets.head) errno h.errno
    · rw [waitpid_of_cons replies, waitpid_of_cons rfl]
      exact .intro rest sets.tail _ _ rfl
  | left rest =>
    refine .inr (.inl ⟨rfl, ?_⟩)
    rw [waitpid_of_cons replies]
    exact .intro rest sets.tail _ _ rfl
  | right rest =>
    refine .inr (.inr ⟨rfl, ?_⟩)
    rw [waitpid_of_cons rfl]
    exact .intro (replies ▸ rest) (replies ▸ sets) _ _ rfl

end Disturbed

/-! ## dialogues that match -/

/-- The first host is asked these calls, and the second, which answers them, those: they are the same
but for the interrupted waits, of which there is one for each interruption that was taken. -/
structure Matched (pid : Pid) (h : Host) (calls : List Syscall) (g : Host) (more : List Syscall) :
    Prop where
  answers : g.Answers more
  same : undisturbed more = undisturbed calls
  waits : waitsMade more + h.kernel.interruptions calls =
    waitsMade calls + g.kernel.interruptions more
  after : Disturbed pid (h.after calls) (g.after more)

namespace Matched

variable {pid : Pid} {h g : Host} {calls more calls' more' : List Syscall}

theorem refl (disturbed : Disturbed pid h g) : Matched pid h [] g [] :=
  ⟨trivial, rfl, rfl, disturbed⟩

/-- a dialogue without a wait -/
theorem of_unwaited (answered : g.Answers calls) (none : waitsMade calls = 0)
    (after : Disturbed pid (h.after calls) (g.after calls)) : Matched pid h calls g calls := by
  refine ⟨answered, rfl, ?_, after⟩
  rw [Kernel.interruptions, Kernel.interruptions, none]
  rfl

theorem forked (disturbed : Disturbed pid h g) (agree : g.errno = h.errno) {reply : Reply Pid}
    (answered : (fork h).1 = reply) : Matched pid h [.fork reply] g [.fork reply] :=
  have both := disturbed.forked agree
  of_unwaited ⟨congrArg Syscall.fork (both.1.trans answered), trivial⟩ rfl both.2

theorem append (first : Matched pid h calls g more)
    (rest : Matched pid (h.after calls) calls' (g.after more) more') :
    Matched pid h (calls ++ calls') g (more ++ more') := by
  refine ⟨answers_append.mpr ⟨first.answers, rest.answers⟩, ?_, ?_, ?_⟩
  · rw [undisturbed_append, undisturbed_append, first.same, rest.same]
  · have before := first.waits
    have later := rest.waits
    rw [waitsMade_append, waitsMade_append, interruptions_append, interruptions_append]
    omega
  · rw [after_append, after_append]
    exact rest.after

theorem asked (disturbed : Disturbed pid h g) {c : Syscall} (apart : c.isApart = true)
    (answered : (ask c h).1 = c) : Matched pid h [c] g [c] := by
  obtain ⟨told, after⟩ := disturbed.asked apart
  have none : waitsMade [c] = 0 :=
    List.countP_cons_of_neg (by simp [Syscall.isWait_of_isApart apart])
  exact of_unwaited ⟨told.trans answered, trivial⟩ none after

theorem all_asked (disturbed : Disturbed pid h g) (apart : ∀ c ∈ calls, c.isApart = true)
    (answered : h.Answers calls) : Matched pid h calls g calls := by
  induction calls generalizing h g with
  | nil => exact refl disturbed
  | cons c calls ih =>
    obtain ⟨first, rest⟩ := List.forall_mem_cons.mp apart
    have asked := asked disturbed first answered.1
    exact asked.append (ih asked.after rest answered.2)

/-- What has come of the hosts by these dialogues counts processes on alike. -/
theorem nextPid (matched : Matched pid h calls g more) {h' g' : Host} (came : h.Came calls h')
    (came' : g.Came more g') : g'.nextPid = h'.nextPid := by
  obtain ⟨_, _, _, _, same⟩ := matched.after
  have kept := congrArg Host.nextPid came.rest
  have kept' := congrArg Host.nextPid came'.rest
  exact kept'.trans ((congrArg Host.nextPid same).trans kept.symm)

/-- a wait that tells both hosts the same -/
theorem waited {reply : Reply Waited} (heads : g.kernel.waits.head? = h.kernel.waits.head?)
    (told : (waitpid pid g).1 = reply) (after : Disturbed pid (waitpid pid h).2 (waitpid pid g).2) :
    Matched pid h [.waitpid pid reply] g [.waitpid pid reply] := by
  refine ⟨⟨congrArg _ told, trivial⟩, rfl, ?_, after⟩
  rw [Kernel.interruptions, Kernel.interruptions, show waitsMade [.waitpid pid reply] = 1 from rfl,
    List.take_one, List.take_one, heads]

/-- a wait that is interrupted on the first host only -/
theorem left (interrupted : h.kernel.waits.head? = some (.error .eintr))
    (after : Disturbed pid (waitpid pid h).2 g) :
    Matched pid h [.waitpid pid (.error .eintr)] g [] := by
  refine ⟨trivial, rfl, ?_, after⟩
  rw [Kernel.interruptions, show waitsMade [.waitpid pid (.error .eintr)] = 1 from rfl,
    List.take_one, interrupted]
  rfl

/-- a wait that is interrupted on the second host only -/
theorem right (interrupted : g.kernel.waits.head? = some (.error .eintr))
    (after : Disturbed pid h (waitpid pid g).2) :
    Matched pid h [] g [.waitpid pid (.error .eintr)] := by
  have told := (waitpid_of_interrupted pid interrupted).1
  refine ⟨⟨congrArg (Syscall.waitpid pid) told, trivial⟩, rfl, ?_, after⟩
  · rw [Kernel.interruptions, Kernel.interruptions,
      show waitsMade [.waitpid pid (.error .eintr)] = 1 from rfl, List.take_one, interrupted]
    rfl

end Matched

/-- However often the one host interrupts a wait, the other tells the same in the end. -/
theorem Disturbed.heard_matched {pid : Pid} {h g : Host} (disturbed : Disturbed pid h g) {n : Nat}
    {reply : Reply Waited} (news : reply ≠ .error .eintr)
    (answered : h.Answers (heard pid n reply)) :
    ∃ m, Matched pid h (heard pid n reply) g (heard pid m reply) := by
  -- each turn takes an interruption that is still to come, of the one host or of the other
  induction left : n + g.waitsLeft using Nat.strongRecOn generalizing n h g with
  | _ k ih =>
    rcases disturbed.waited with ⟨heads, told, after⟩ | ⟨interrupted, after⟩ | ⟨interrupted, after⟩
    · have kept : (waitpid pid g).2.waitsLeft ≤ g.waitsLeft := waitsLeft_ask (.waitpid pid reply) g
      cases n with
      | zero => exact ⟨0, .waited heads (told.trans (ask_waitpid answered.1)) after⟩
      | succ n =>
        obtain ⟨m, rest⟩ := ih _ (by omega) after answered.2 rfl
        exact ⟨m + 1, (Matched.waited heads (told.trans (ask_waitpid answered.1)) after).append rest⟩
    · cases n with
      | zero =>
        have told := ask_waitpid answered.1
        rw [(waitpid_of_interrupted pid interrupted).1] at told
        exact absurd told.symm news
      | succ n =>
        obtain ⟨m, rest⟩ := ih _ (by omega) after answered.2 rfl
        exact ⟨m, (Matched.left interrupted after).append rest⟩
    · obtain ⟨told, spent⟩ := waitpid_of_interrupted pid interrupted
      obtain ⟨m, rest⟩ := ih _ (by omega) after answered rfl
      exact ⟨m + 1, (Matched.right interrupted after).append rest⟩

end Host

end ProcTrace
