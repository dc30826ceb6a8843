import ProcTrace.Inspect.Words
import ProcTrace.Proofs.Rows
import Mathlib.Data.List.Forall2

/-!
# Scans

Strings and arrays of strings are read in one way: word after word, up to a limit, where each word
either ends the scan or adds a part to what it gives.  How a scan comes out is told here by the
memory alone.

* `Kernel.peek`              what a peek at an address comes to;
* `Inspect.Yields`           an attempt whose calls and result are decided by the kernel alone;
* `Inspect.scan`             the common scan, with a look into each word;
* `Inspect.Passed`           a row of words that a scan has passed over;
* `Inspect.Scanned`          the ways in which a scan ends, each with its calls and its result;
* `Inspect.exists_scanned`, `Inspect.Scanned.yields`   one of these ways there always is, and a scan
                             that can end so does;
* `Inspect.scan_exact`       so that whatever tells the ends tells what the scan comes to.
-/

namespace ProcTrace

/-- what a peek at an address of a process comes to -/
def Kernel.peek (k : Kernel) (pid : Pid) (a : Address) : Reply Word := (k.memory pid a).named

/-- What lies in memory is what a peek shows. -/
theorem Kernel.peek_of_memory {k : Kernel} {pid : Pid} {a : Address} {w : Word}
    (found : k.memory pid a = .ok w) : k.peek pid a = .ok w := by
  rw [Kernel.peek, found]
  rfl

/-- the peek at an address, with the reply that it gets -/
def Kernel.peekCall (k : Kernel) (pid : Pid) (a : Address) : Syscall :=
  .peekData pid a (k.memory pid a)

namespace Inspect

/-! ## attempts that look only -/

/-- On every host with this kernel the attempt makes these calls and comes to this result, and the
kernel stays as it is. -/
def Yields (k : Kernel) (act : Attempt α) (calls : List Syscall) (r : Except Error α) : Prop :=
  ∀ h : Host, h.kernel = k →
    ∃ g, act.runOn h = (r, g) ∧ g.kernel = k ∧ g.journal.calls = h.journal.calls ++ calls

namespace Yields

variable {k : Kernel} {act : Attempt α} {calls more : List Syscall} {r : Except Error α}

theorem pure (a : α) : Yields k (pure a) [] (.ok a) :=
  fun h same => ⟨h, rfl, same, (List.append_nil _).symm⟩

theorem throw (e : Error) : Yields k (throw e : Attempt α) [] (.error e) :=
  fun h same => ⟨h, rfl, same, (List.append_nil _).symm⟩

theorem bind {f : α → Attempt β} {a : α} {q : Except Error β} (first : Yields k act calls (.ok a))
    (rest : Yields k (f a) more q) : Yields k (act >>= f) (calls ++ more) q := by
  intro h same
  obtain ⟨g, run, same, written⟩ := first h same
  obtain ⟨g', run', same, written'⟩ := rest g same
  refine ⟨g', ?_, same, ?_⟩
  · rw [Attempt.runOn_bind, run]
    exact run'
  · rw [written', written, List.append_assoc]

theorem bind_error {f : α → Attempt β} {e : Error} (failed : Yields k act calls (.error e)) :
    Yields k (act >>= f) calls (.error e) := by
  intro h same
  obtain ⟨g, run, same, written⟩ := failed h same
  refine ⟨g, ?_, same, written⟩
  rw [Attempt.runOn_bind, run]

/-- What is done at the end without a call adds nothing. -/
theorem bind_pure {a : α} (first : Yields k act calls (.ok a)) (f : α → β) :
    Yields k (act >>= fun a => Pure.pure (f a)) calls (.ok (f a)) := by
  rw [← List.append_nil calls]
  exact first.bind (pure (f a))

theorem map (yields : Yields k act calls r) (f : α → β) : Yields k (f <$> act) calls (r.map f) := by
  rw [map_eq_pure_bind]
  cases r with
  | ok a => exact yields.bind_pure f
  | error e => exact yields.bind_error

theorem run {h : Host} (yields : Yields h.kernel act calls r) :
    (act.runOn h).1 = r ∧ (act.runOn h).2.journal.calls = h.journal.calls ++ calls := by
  obtain ⟨g, run, _, written⟩ := yields h rfl
  rw [run]
  exact ⟨rfl, written⟩

/-- There is one result only. -/
theorem unique {q : Except Error α} (first : Yields k act calls r) (second : Yields k act more q) :
    r = q := by
  let h : Host := ⟨k, .unknown, 0, []⟩
  have left : (act.runOn h).1 = r := (run (h := h) first).1
  have right : (act.runOn h).1 = q := (run (h := h) second).1
  exact left.symm.trans right

/-- The calls are made in one way only. -/
theorem calls_unique {q : Except Error α} (first : Yields k act calls r)
    (second : Yields k act more q) : calls = more := by
  let h : Host := ⟨k, .unknown, 0, []⟩
  have left := (run (h := h) first).2
  have right := (run (h := h) second).2
  exact List.append_cancel_left (left.symm.trans right)

end Yields

variable {t : Tracee} {k : Kernel}

theorem yields_memoryWord (stopped : t.state = .stopped) {a : Address} {w : Word}
    (found : k.peek t.pid a = .ok w) :
    Yields k (memoryWord t a) [k.peekCall t.pid a] (.ok w) := by
  rintro h rfl
  have found : (h.kernel.memory t.pid a).named = .ok w := found
  rw [runOn_memoryWord, Tracee.require_of_stopped stopped]
  simp only [found]
  exact ⟨_, rfl, rfl, (Journal.calls_note _ _).trans (Journal.calls_call _ _)⟩

theorem yields_unread (stopped : t.state = .stopped) {a : Address} {e : Errno}
    (fails : k.peek t.pid a = .error e) :
    Yields k (memoryWord t a) [k.peekCall t.pid a] (.error (.memoryRead t.pid a e)) := by
  rintro h rfl
  have fails : (h.kernel.memory t.pid a).named = .error e := fails
  rw [runOn_memoryWord, Tracee.require_of_stopped stopped]
  simp only [fails]
  exact ⟨_, rfl, rfl, Journal.calls_call _ _⟩

/-- the peek at a register, with the reply that it gets -/
def registerCall (k : Kernel) (pid : Pid) (r : Slot) : Syscall :=
  .peekUser pid r.offset (k.registers pid r.offset)

theorem yields_register (stopped : t.state = .stopped) {r : Slot} {w : Word}
    (found : (k.registers t.pid r.offset).named = .ok w) :
    Yields k (register t r) [registerCall k t.pid r] (.ok w) := by
  rintro h rfl
  rw [runOn_register, Tracee.require_of_stopped stopped]
  simp only [found]
  exact ⟨_, rfl, rfl, (Journal.calls_note _ _).trans (Journal.calls_call _ _)⟩

theorem yields_registerUnread (stopped : t.state = .stopped) {r : Slot} {e : Errno}
    (fails : (k.registers t.pid r.offset).named = .error e) :
    Yields k (register t r) [registerCall k t.pid r]
      (.error (.registerRead t.pid r.offset e)) := by
  rintro h rfl
  rw [runOn_register, Tracee.require_of_stopped stopped]
  simp only [fails]
  exact ⟨_, rfl, rfl, Journal.calls_call _ _⟩

theorem yields_nextWord {a : Nat} (inside : a + wordSize < UInt64.size) :
    Yields k (nextWord t (.ofNat a)) [] (.ok (.ofNat (a + wordSize))) := by
  rw [nextWord, Address.next?_ofNat inside]
  exact .pure _

theorem yields_edge {a : Nat} (here : a < UInt64.size) (last : UInt64.size ≤ a + wordSize) :
    Yields k (nextWord t (.ofNat a)) [] (.error (.memoryRead t.pid (.ofNat a) .efault)) := by
  rw [nextWord, Address.next?_ofNat_eq_none here last]
  exact .throw _

/-! ## the common scan -/

/-- what a word gives to a scan: the end of it, or a part that goes on -/
inductive Part (γ : Type) where
  | last (cs : List γ)
  | onward (cs : List γ)

/-- Reads on at `next`, up to `n` words, behind what was `seen` (latest first). -/
def scan (t : Tracee) (start : Address) (look : Word → Attempt (Part γ)) :
    Nat → Address → List γ → Attempt (List γ)
  | 0, _, _ => throw (.memoryRead t.pid start .e2big)
  | n + 1, next, seen => do
    match ← look (← memoryWord t next) with
    | .last cs => return seen.reverse ++ cs
    | .onward cs => scan t start look n (← nextWord t next) (cs.reverse ++ seen)

/-- the calls of a scan over these words: at each the peek, and what is asked of it -/
def scanCalls (k : Kernel) (pid : Pid) (asks : Word → List Syscall) : Nat → List Word → List Syscall
  | _, [] => []
  | a, w :: ws => k.peekCall pid (.ofNat a) :: asks w ++ scanCalls k pid asks (a + wordSize) ws

/-- Words from `a` on that each add a part, and an address behind them. -/
structure Passed (read : Address → Reply Word) (sees : Word → Except Error (Part γ)) (a : Nat)
    (ws : List Word) (parts : List (List γ)) : Prop where
  words : WordsAt read a ws
  onward : List.Forall₂ (fun w cs => sees w = .ok (.onward cs)) ws parts
  inside : a + ws.length * wordSize < UInt64.size

/-- How a scan from `a` on of at most `limit` words ends, where looking into a word asks and sees
this. -/
inductive Scanned (k : Kernel) (pid : Pid) (asks : Word → List Syscall)
    (sees : Word → Except Error (Part γ)) (a limit : Nat) :
    List Syscall → Except Error (List γ) → Prop where
  | ended {ws parts w cs} (passed : Passed (k.peek pid) sees a ws parts) (room : ws.length < limit)
      (word : WordAt (k.peek pid) (a + ws.length * wordSize) w) (last : sees w = .ok (.last cs)) :
    Scanned k pid asks sees a limit (scanCalls k pid asks a (ws ++ [w])) (.ok (parts.flatten ++ cs))
  | unread {ws parts e} (passed : Passed (k.peek pid) sees a ws parts) (room : ws.length < limit)
      (fails : k.peek pid (.ofNat (a + ws.length * wordSize)) = .error e) :
    Scanned k pid asks sees a limit
      (scanCalls k pid asks a ws ++ [k.peekCall pid (.ofNat (a + ws.length * wordSize))])
      (.error (.memoryRead pid (.ofNat (a + ws.length * wordSize)) e))
  | refused {ws parts w e} (passed : Passed (k.peek pid) sees a ws parts) (room : ws.length < limit)
      (word : WordAt (k.peek pid) (a + ws.length * wordSize) w) (fails : sees w = .error e) :
    Scanned k pid asks sees a limit (scanCalls k pid asks a (ws ++ [w])) (.error e)
  /-- the last word of the address space -/
  | edge {ws parts w cs} (passed : Passed (k.peek pid) sees a ws parts) (room : ws.length < limit)
      (word : WordAt (k.peek pid) (a + ws.length * wordSize) w) (onward : sees w = .ok (.onward cs))
      (last : UInt64.size ≤ a + ws.length * wordSize + wordSize) :
    Scanned k pid asks sees a limit (scanCalls k pid asks a (ws ++ [w]))
      (.error (.memoryRead pid (.ofNat (a + ws.length * wordSize)) .efault))
  | long {ws parts} (passed : Passed (k.peek pid) sees a ws parts) (all : ws.length = limit) :
    Scanned k pid asks sees a limit (scanCalls k pid asks a ws)
      (.error (.memoryRead pid (.ofNat a) .e2big))

section

variable {look : Word → Attempt (Part γ)} {asks : Word → List Syscall}
  {sees : Word → Except Error (Part γ)}

theorem scanCalls_append (k : Kernel) (pid : Pid) (asks : Word → List Syscall) (a : Nat)
    (us vs : List Word) : scanCalls k pid asks a (us ++ vs) =
      scanCalls k pid asks a us ++ scanCalls k pid asks (a + us.length * wordSize) vs := by
  induction us generalizing a with
  | nil => simp [scanCalls]
  | cons u us ih =>
    rw [List.cons_append, scanCalls, scanCalls, ih, shift_cons, ← List.append_assoc]

/-- A word behind what was passed is passed as well. -/
theorem Passed.concat {read : Address → Reply Word} {a : Nat} {ws : List Word}
    {parts : List (List γ)} {w : Word} {cs : List γ} (passed : Passed read sees a ws parts)
    (word : WordAt read (a + ws.length * wordSize) w) (onward : sees w = .ok (.onward cs))
    (inside : a + ws.length * wordSize + wordSize < UInt64.size) :
    Passed read sees a (ws ++ [w]) (parts ++ [cs]) where
  words := WordsAt.concat.mpr ⟨passed.words, word⟩
  onward := List.rel_append passed.onward (.cons onward .nil)
  inside := by
    rw [List.length_append, List.length_singleton, Nat.succ_mul, ← Nat.add_assoc]
    exact inside

/-- A scan ends in one of the ways, whatever the memory holds. -/
theorem exists_scanned (k : Kernel) (pid : Pid) (asks : Word → List Syscall)
    (sees : Word → Except Error (Part γ)) (limit : Nat) {a : Nat} (inside : a < UInt64.size) :
    ∃ calls r, Scanned k pid asks sees a limit calls r := by
  -- by the number of words that are still allowed
  have goOn (n : Nat) : ∀ ws parts, Passed (k.peek pid) sees a ws parts → ws.length + n = limit →
      ∃ calls r, Scanned k pid asks sees a limit calls r := by
    induction n with
    | zero => exact fun ws parts passed all => ⟨_, _, .long passed all⟩
    | succ n ih =>
      intro ws parts passed left
      have room : ws.length < limit := by omega
      cases found : k.peek pid (.ofNat (a + ws.length * wordSize)) with
      | error e => exact ⟨_, _, .unread passed room found⟩
      | ok w =>
        have word : WordAt (k.peek pid) (a + ws.length * wordSize) w := ⟨passed.inside, found⟩
        cases seen : sees w with
        | error e => exact ⟨_, _, .refused passed room word seen⟩
        | ok part =>
          cases part with
          | last cs => exact ⟨_, _, .ended passed room word seen⟩
          | onward cs =>
            by_cases more : a + ws.length * wordSize + wordSize < UInt64.size
            · refine ih _ _ (passed.concat word seen more) ?_
              rw [List.length_append, List.length_singleton]
              omega
            · exact ⟨_, _, .edge passed room word seen (Nat.le_of_not_lt more)⟩
  have nothing : Passed (k.peek pid) sees a [] [] := ⟨trivial, .nil, by simpa using inside⟩
  exact goOn limit [] [] nothing (Nat.zero_add _)

/-- the calls of a scan, and of one turn more -/
theorem scanCalls_concat (k : Kernel) (pid : Pid) (asks : Word → List Syscall) (a : Nat)
    (ws : List Word) (w : Word) : scanCalls k pid asks a (ws ++ [w]) =
      scanCalls k pid asks a ws ++
        (k.peekCall pid (.ofNat (a + ws.length * wordSize)) :: asks w) := by
  rw [scanCalls_append, scanCalls, scanCalls, List.append_nil]

/-! ## how the scan runs -/

variable (stopped : t.state = .stopped) (looks : ∀ w, Yields k (look w) (asks w) (sees w))
include stopped looks

/-- the first part of a turn: the word is read and looked into -/
theorem yields_look {a : Nat} {w : Word} (word : WordAt (k.peek t.pid) a w) {f : Part γ → Attempt β}
    {part : Part γ} (seen : sees w = .ok part) {more : List Syscall} {r : Except Error β}
    (rest : Yields k (f part) more r) :
    Yields k (do f (← look (← memoryWord t (.ofNat a))))
      (k.peekCall t.pid (.ofNat a) :: asks w ++ more) r := by
  have looked := looks w
  rw [seen] at looked
  exact (yields_memoryWord stopped word.2).bind (looked.bind rest)

/-- What is passed over goes before what is read behind it. -/
theorem Passed.yields {start : Address} {a n : Nat} {ws : List Word} {parts : List (List γ)}
    {seen : List γ} {more : List Syscall} {r : Except Error (List γ)}
    (passed : Passed (k.peek t.pid) sees a ws parts)
    (rest : Yields k (scan t start look n (.ofNat (a + ws.length * wordSize))
      (parts.flatten.reverse ++ seen)) more r) :
    Yields k (scan t start look (ws.length + n) (.ofNat a) seen)
      (scanCalls k t.pid asks a ws ++ more) r := by
  obtain ⟨words, onward, inside⟩ := passed
  induction onward generalizing a seen with
  | nil =>
    simp only [List.length_nil, Nat.zero_mul, Nat.add_zero, List.flatten_nil, List.reverse_nil,
      List.nil_append] at rest
    rw [List.length_nil, Nat.zero_add]
    exact rest
  | @cons w cs ws parts adds _ ih =>
    obtain ⟨word, words⟩ := words
    rw [← shift_cons] at inside rest
    have later : a + wordSize < UInt64.size := Nat.lt_of_le_of_lt (Nat.le_add_right _ _) inside
    rw [List.flatten_cons, List.reverse_append, List.append_assoc] at rest
    have turn : Yields k (do
          scan t start look (ws.length + n) (← nextWord t (.ofNat a)) (cs.reverse ++ seen)) _ r :=
      (yields_nextWord later).bind (ih rest words inside)
    rw [List.length_cons, Nat.add_right_comm, scanCalls, List.append_assoc]
    exact yields_look stopped looks word adds turn

/-- A scan that has passed over some words, and has room for one more, goes on at that. -/
theorem Passed.yields_room {start : Address} {limit : Nat} {ws : List Word} {parts : List (List γ)}
    {more : List Syscall} {r : Except Error (List γ)}
    (passed : Passed (k.peek t.pid) sees start.toNat ws parts) (room : ws.length < limit)
    (rest : ∀ n, Yields k (scan t start look (n + 1) (.ofNat (start.toNat + ws.length * wordSize))
      (parts.flatten.reverse ++ [])) more r) :
    Yields k (scan t start look limit start [])
      (scanCalls k t.pid asks start.toNat ws ++ more) r := by
  obtain ⟨n, rfl⟩ := Nat.exists_eq_add_of_lt room
  have run := passed.yields stopped looks (rest n)
  rw [UInt64.ofNat_toNat] at run
  exact run

/-- A scan that can end so runs so. -/
theorem Scanned.yields {start : Address} {limit : Nat} {calls : List Syscall}
    {r : Except Error (List γ)}
    (scanned : Scanned k t.pid asks sees start.toNat limit calls r) :
    Yields k (scan t start look limit start []) calls r := by
  cases scanned with
  | @ended ws parts w cs passed room word last =>
    have whole : parts.flatten ++ cs = (parts.flatten.reverse ++ []).reverse ++ cs := by
      rw [List.append_nil, List.reverse_reverse]
    rw [scanCalls_concat, whole, ← List.append_nil (_ :: asks w)]
    exact passed.yields_room stopped looks room fun n =>
      yields_look stopped looks word last (.pure _)
  | unread passed room fails =>
    exact passed.yields_room stopped looks room fun n => (yields_unread stopped fails).bind_error
  | @refused ws parts w e passed room word fails =>
    have looked := looks w
    rw [fails] at looked
    rw [scanCalls_concat]
    exact passed.yields_room stopped looks room fun n =>
      (yields_memoryWord stopped word.2).bind looked.bind_error
  | @edge ws parts w cs passed room word onward last =>
    have edge : Yields k (nextWord t (.ofNat (start.toNat + ws.length * wordSize))) []
        (.error (.memoryRead t.pid (.ofNat (start.toNat + ws.length * wordSize)) .efault)) :=
      yields_edge passed.inside last
    rw [scanCalls_concat, ← List.append_nil (_ :: asks w)]
    exact passed.yields_room stopped looks room fun n =>
      yields_look stopped looks word onward edge.bind_error
  | @long ws parts passed all =>
    have stops : Yields k (scan t start look 0 (.ofNat (start.toNat + ws.length * wordSize))
        (parts.flatten.reverse ++ [])) [] (.error (.memoryRead t.pid start .e2big)) := .throw _
    have run := passed.yields stopped looks stops
    rw [UInt64.ofNat_toNat, Nat.add_zero, all, List.append_nil] at run
    rw [UInt64.ofNat_toNat]
    exact run

/-- Where the ends of a scan are told in another way, the scan comes to what is so told. -/
theorem scan_exact {start : Address} {limit : Nat} {good : List γ → Prop} {bad : Error → Prop}
    (ok_iff : ∀ cs,
      (∃ calls, Scanned k t.pid asks sees start.toNat limit calls (.ok cs)) ↔ good cs)
    (error_iff : ∀ e,
      (∃ calls, Scanned k t.pid asks sees start.toNat limit calls (.error e)) ↔ bad e) :
    ∃ calls r, Scanned k t.pid asks sees start.toNat limit calls r ∧
      Yields k (scan t start look limit start []) calls r ∧
      (∀ cs, r = .ok cs ↔ good cs) ∧ ∀ e, r = .error e ↔ bad e := by
  obtain ⟨calls, r, scanned⟩ := exists_scanned k t.pid asks sees limit start.toNat_lt
  have run := scanned.yields stopped looks
  refine ⟨calls, r, scanned, run, fun cs => ⟨?_, ?_⟩, fun e => ⟨?_, ?_⟩⟩
  · rintro rfl
    exact (ok_iff cs).mp ⟨calls, scanned⟩
  · intro holds
    obtain ⟨_, other⟩ := (ok_iff cs).mpr holds
    exact run.unique (other.yields stopped looks)
  · rintro rfl
    exact (error_iff e).mp ⟨calls, scanned⟩
  · intro holds
    obtain ⟨_, other⟩ := (error_iff e).mpr holds
    exact run.unique (other.yields stopped looks)

end

end Inspect

end ProcTrace
