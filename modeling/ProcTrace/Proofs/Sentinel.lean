import ProcTrace.Proofs.Independence.Blind
import ProcTrace.Proofs.Moves
import ProcTrace.Proofs.Strings

/-!
# The word that looks like a failure

A peek that fails returns `-1`, and so does a peek at a word that is `-1`.  The error number tells
them apart, whatever had been left there before.

* `Outcome.TellsWord`       the word that was delivered, or the error by its name;
* `Session.answer_of_yields`   a look answers what its attempt comes to;
* `Session.TellsApart`      every look at a tracee answers so, after whatever went wrong before;
* `Session.tellsApart_of_stopped`   and so it is with every tracee that stands still.
-/

namespace ProcTrace

/-- What is answered to a look at one word.  A failure without a name is taken for the word `-1`. -/
structure Outcome.TellsWord (o : Outcome) (reply : Reply Word) (failed : Errno → Error) : Prop where
  word {w : Word} (delivered : reply = .ok w) : o = .ok (.word w)
  failure {e : Errno} (fails : reply = .error e) (named : e ≠ .unknown) : o = .error (failed e)
  nameless (fails : reply = .error .unknown) : o = .ok (.word (-1))

namespace Inspect

variable {t : Tracee} {k : Kernel}

/-- Whole words without a zero byte, and the bytes before the zero byte of the word behind them. -/
theorem yields_words (stopped : t.state = .stopped) {start : Address} {ws : List Word} {last : Word}
    (words : WordsAt (k.memory t.pid) start.toNat (ws ++ [last])) (room : ws.length < scanLimit)
    (zero_free : ∀ w ∈ ws, 0 ∉ w.bytes) (ends : 0 ∈ last.bytes) :
    ∃ calls, Yields k (string t start) calls
      (.ok (ws.flatMap Word.bytes ++ last.bytes.upToZero)) := by
  obtain ⟨before, word⟩ := WordsAt.concat.mp (words.mono fun _ _ => Kernel.peek_of_memory)
  have gone : Unended (k.peek t.pid) start.toNat ws := ⟨before, zero_free, word.1⟩
  have part : stringPart last = .last last.bytes.upToZero := stringPart_eq_last.mpr ⟨ends, rfl⟩
  have scanned : ScannedString k t.pid start.toNat _ (.ok _) :=
    .ended (passed_of_unended gone) room word (congrArg _ part)
  have run := scanned.yields stopped fun w => .pure (stringPart w)
  rw [← scanString_eq, ← List.flatMap_def] at run
  exact ⟨_, run⟩

end Inspect

namespace Session

variable {s : Session} {j : Nat} {h : Held} {k : Kernel}

theorem answer_of_yields (at_ : s.tracees[j]? = some h) {look : Look} {calls : List Syscall}
    {r : Except Error Value} (yields : Inspect.Yields k (look.run h.tracee) calls r) :
    (s.step k (.look j look)).1.outcome = .of id r ∧
      (s.step k (.look j look)).1.journal.calls = calls := by
  have yields : Inspect.Yields (s.host k).kernel (look.run h.tracee) calls r := yields
  obtain ⟨result, made⟩ := yields.run
  rw [look_eq at_]
  exact ⟨congrArg (Outcome.of id) result, made⟩

/-- A look that comes to what a peek makes of this reply. -/
theorem tellsWord_of_yields (at_ : s.tracees[j]? = some h) {look : Look} {reply : Reply Word}
    {failed : Errno → Error} {calls : List Syscall}
    (ok : ∀ w, reply.named = .ok w →
      Inspect.Yields k (look.run h.tracee) calls (.ok (.word w)))
    (error : ∀ e, reply.named = .error e →
      Inspect.Yields k (look.run h.tracee) calls (.error (failed e))) :
    (s.step k (.look j look)).1.outcome.TellsWord reply failed where
  word delivered := (answer_of_yields at_ (ok _ (by rw [delivered]; rfl))).1
  failure fails named := (answer_of_yields at_ (error _ (by rw [fails, Reply.named, if_neg named]))).1
  nameless fails := (answer_of_yields at_ (ok _ (by rw [fails]; rfl))).1

/-- Looks change nothing but the error number. -/
theorem tracees_after_looks (s : Session) (j : Nat) (looks : List (Kernel × Look)) :
    (run (looks.map fun (k, look) => (k, .look j look)) s).2.tracees = s.tracees := by
  induction looks generalizing s with
  | nil => rfl
  | cons first looks ih =>
    obtain ⟨k, look⟩ := first
    refine (ih (s.step k (.look j look)).2).trans ?_
    cases at_ : s.tracees[j]? with
    | none => rw [step, at_]
    | some h =>
      rw [look_eq at_]
      rfl

/-- Looks at the tracee at this position tell words and failures apart, whatever error number the
session has come to. -/
structure TellsApart (s : Session) (j : Nat) (x : Tracee) (k : Kernel) : Prop where
  memory (a : Address) : (s.step k (.look j (.memoryWord a))).1.outcome.TellsWord
    (k.memory x.pid a) (.memoryRead x.pid a)
  register (r : Slot) : (s.step k (.look j (.register r))).1.outcome.TellsWord
    (k.registers x.pid r.offset) (.registerRead x.pid r.offset)
  /-- Any other error number gives the same answer, by the same calls. -/
  blind (look : Look) (e : Errno) :
    ({ s with errno := e }.step k (.look j look)).1 = (s.step k (.look j look)).1
  /-- After any other looks, which may have failed, a string is told with all its words, among them
  any that is `-1`. -/
  string (looks : List (Kernel × Look)) (start : Address) {ws : List Word} {last : Word}
    (words : WordsAt (k.memory x.pid) start.toNat (ws ++ [last])) (room : ws.length < scanLimit)
    (zero_free : ∀ w ∈ ws, 0 ∉ w.bytes) (ends : 0 ∈ last.bytes) :
    let u := (run (looks.map fun (l, look) => (l, .look j look)) s).2
    (u.step k (.look j (.string start))).1.outcome =
      .ok (.bytes (ws.flatMap Word.bytes ++ last.bytes.upToZero))

theorem tellsApart_of_stopped (at_ : s.tracees[j]? = some h) (stopped : h.tracee.state = .stopped)
    (k : Kernel) : TellsApart s j h.tracee k where
  memory a := tellsWord_of_yields at_
    (fun _ found => (Inspect.yields_memoryWord stopped found).map Value.word)
    (fun _ fails => (Inspect.yields_unread stopped fails).map Value.word)
  register r := tellsWord_of_yields at_
    (fun _ found => (Inspect.yields_register stopped found).map Value.word)
    (fun _ fails => (Inspect.yields_registerUnread stopped fails).map Value.word)
  blind look e := by
    have alike : Host.Alike false h.tracee.pid s.nextPid (s.host k) ({ s with errno := e }.host k) :=
      ⟨rfl, rfl, nofun⟩
    obtain ⟨told, after⟩ := Look.blind false h.tracee.pid h.tracee look alike
    have here : { s with errno := e }.tracees[j]? = some h := at_
    rw [look_eq at_, look_eq here]
    simp only [told, after.journal]
  string looks start ws last words room zero_free ends := by
    intro u
    have there : u.tracees[j]? = some h := by rw [tracees_after_looks, at_]
    obtain ⟨calls, yields⟩ := Inspect.yields_words stopped words room zero_free ends
    have whole : Inspect.Yields k ((Look.string start).run h.tracee) calls (.ok (.bytes _)) :=
      yields.map Value.bytes
    exact (answer_of_yields there whole).1

/-- The word `-1`, and a word with a zero byte behind it. -/
def minusOne : Kernel where
  memory _ := (Memory.ofSegments [.ofBytes 0x1000 ([-1, 0x6261].flatMap Word.bytes)]).word

/-- The word is told as it is and nothing else is readable, whatever was read before in vain. -/
theorem tellsApart_of_minusOne :
    let s : Session := ⟨[.new], [⟨0, .exec, ⟨1000, .stopped, none, some .exec⟩⟩], [], .eio, 1001⟩
    let u := (run [(minusOne, .look 0 (.memoryWord 0x5000))] s).2
    (s.step minusOne (.look 0 (.memoryWord 0x1000))).1.outcome = .ok (.word (-1)) ∧
      (s.step minusOne (.look 0 (.memoryWord 0x5000))).1.outcome =
        .error (.memoryRead 1000 0x5000 .eio) ∧
      (u.step minusOne (.look 0 (.string 0x1000))).1.outcome =
        .ok (.bytes (List.replicate 8 0xff ++ [0x61, 0x62])) := by
  intro s u
  have tells := tellsApart_of_stopped (s := s) (j := 0) rfl rfl minusOne
  have words : WordsAt (minusOne.memory 1000) (0x1000 : Address).toNat ([-1] ++ [0x6261]) := by
    decide +kernel
  have zero_free (w : Word) (mem : w ∈ [-1]) : 0 ∉ w.bytes := by
    rw [List.mem_singleton.mp mem]
    decide
  have there : minusOne.memory 1000 0x1000 = .ok (-1) := by decide +kernel
  have nothing : minusOne.memory 1000 0x5000 = .error .eio := by decide +kernel
  exact ⟨(tells.memory 0x1000).word there, (tells.memory 0x5000).failure nothing (by decide),
    tells.string [(minusOne, .memoryWord 0x5000)] 0x1000 words (by decide) zero_free (by decide)⟩

end Session

end ProcTrace
