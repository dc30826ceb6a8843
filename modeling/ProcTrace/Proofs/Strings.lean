import ProcTrace.Proofs.Scan
import Mathlib.Data.List.Induction

/-!
# Strings, exactly

A string is read in words counted from its own start, whatever its alignment.  What comes of it is
told here by the bytes in memory: which strings are read, and with which error everything else
ends.

* `Spelled`                the bytes before the first zero byte, fewer than `2 ^ 17`;
* `Unended`                words without a zero byte, which the scan goes over;
* `Misread`                the three errors, each with its own address;
* `Inspect.spelled_of_scanned`, `Inspect.scanned_of_spelled`, `Inspect.misread_of_scanned`,
  `Inspect.scanned_of_misread`      what is scanned and what is spelled is the same;
* `Inspect.string_exact`   a string is read just where one is spelled, and fails with just the
                           error that the memory has for it.
-/

namespace ProcTrace

/-! ## bytes -/

namespace Bytes

/-- Up to the first zero byte, and from there on. -/
theorem eq_upToZero_append {bs : Bytes} (zero : 0 ∈ bs) :
    0 ∉ bs.upToZero ∧ ∃ rest, bs = bs.upToZero ++ 0 :: rest := by
  obtain ⟨us, rest, rfl, zero_free⟩ := List.eq_append_cons_of_mem zero
  rw [CString.upToZero_append_zero zero_free rest]
  exact ⟨zero_free, rest, rfl⟩

end Bytes

theorem Word.length_flatMap_bytes (ws : List Word) :
    (ws.flatMap Word.bytes).length = ws.length * wordSize := by
  induction ws with
  | nil => rfl
  | cons w ws ih =>
    rw [List.flatMap_cons, List.length_append, ih, Word.length_bytes, List.length_cons,
      Nat.succ_mul, Nat.add_comm]

/-! ## strings in memory -/

/-- The bytes from `a` on are those of a string of fewer than `2 ^ 17`: words that can be read begin
with it and its zero byte, and no word is counted that it does not reach into. -/
structure Spelled (read : Address → Reply Word) (a : Nat) (bs : Bytes) : Prop where
  zero_free : 0 ∉ bs
  short : bs.length < 131072
  words : ∃ ws, ws.length = bs.length / wordSize + 1 ∧ WordsAt read a ws ∧
    bs ++ [0] <+: ws.flatMap Word.bytes

/-- Words from `a` on without a zero byte, and an address behind them. -/
structure Unended (read : Address → Reply Word) (a : Nat) (ws : List Word) : Prop where
  words : WordsAt read a ws
  zero_free : ∀ w ∈ ws, 0 ∉ w.bytes
  inside : a + ws.length * wordSize < UInt64.size

/-- What goes wrong with a string from `a` on. -/
inductive Misread (pid : Pid) (read : Address → Reply Word) (a : Nat) : Error → Prop where
  | unread {ws e} (gone : Unended read a ws) (room : ws.length < scanLimit)
      (fails : read (.ofNat (a + ws.length * wordSize)) = .error e) :
    Misread pid read a (.memoryRead pid (.ofNat (a + ws.length * wordSize)) e)
  /-- No address is left behind this word, be it the last that is allowed or not. -/
  | edge {ws w} (gone : Unended read a ws) (room : ws.length < scanLimit)
      (word : WordAt read (a + ws.length * wordSize) w) (zero_free : 0 ∉ w.bytes)
      (last : UInt64.size ≤ a + ws.length * wordSize + wordSize) :
    Misread pid read a (.memoryRead pid (.ofNat (a + ws.length * wordSize)) .efault)
  | long {ws} (gone : Unended read a ws) (all : ws.length = scanLimit) :
    Misread pid read a (.memoryRead pid (.ofNat a) .e2big)

namespace Inspect

/-! ## strings are scanned -/

/-- what a word gives to a string -/
def stringPart (w : Word) : Part UInt8 :=
  if 0 ∈ w.bytes then .last w.bytes.upToZero else .onward w.bytes

theorem stringPart_eq_last {w : Word} {bs : Bytes} :
    stringPart w = .last bs ↔ 0 ∈ w.bytes ∧ w.bytes.upToZero = bs := by
  rw [stringPart]
  split <;> simp_all

theorem stringPart_eq_onward {w : Word} {bs : Bytes} :
    stringPart w = .onward bs ↔ 0 ∉ w.bytes ∧ w.bytes = bs := by
  rw [stringPart]
  split <;> simp_all

theorem scanString_eq (t : Tracee) (start : Address) (n : Nat) (next : Address) (seen : Bytes) :
    scanString t start n next seen =
      scan t start (fun w => pure (stringPart w)) n next seen := by
  induction n generalizing next seen with
  | zero => rfl
  | succ n ih =>
    rw [scanString, scan]
    congr 1
    funext w
    by_cases zero : 0 ∈ w.bytes
    · rw [if_pos zero, stringPart, if_pos zero]
      rfl
    · rw [if_neg zero, stringPart, if_neg zero]
      simp only [ih]
      rfl

/-- how the scan of a string ends -/
abbrev ScannedString (k : Kernel) (pid : Pid) (a : Nat) :
    List Syscall → Except Error Bytes → Prop :=
  Scanned k pid (fun _ => []) (fun w => .ok (stringPart w)) a scanLimit

variable {t : Tracee} {k : Kernel} {pid : Pid} {read : Address → Reply Word} {a : Nat}

theorem passed_iff_unended {ws : List Word} {parts : List Bytes} :
    Passed read (fun w => .ok (stringPart w)) a ws parts ↔
      Unended read a ws ∧ parts = ws.map Word.bytes := by
  have onward : List.Forall₂ (fun w cs => (.ok (stringPart w) : Except Error _) = .ok (.onward cs))
      ws parts ↔ (∀ w ∈ ws, 0 ∉ w.bytes) ∧ parts = ws.map Word.bytes := by
    simp only [Except.ok.injEq, stringPart_eq_onward]
    induction ws generalizing parts with
    | nil => simp
    | cons w ws ih =>
      rw [List.forall₂_cons_left_iff]
      simp only [ih, List.forall_mem_cons, List.map_cons]
      constructor
      · rintro ⟨_, _, ⟨first, rfl⟩, ⟨rest, rfl⟩, rfl⟩
        exact ⟨⟨first, rest⟩, rfl⟩
      · rintro ⟨⟨first, rest⟩, rfl⟩
        exact ⟨_, _, ⟨first, rfl⟩, ⟨rest, rfl⟩, rfl⟩
  constructor
  · intro passed
    obtain ⟨zero_free, all⟩ := onward.mp passed.onward
    exact ⟨⟨passed.words, zero_free, passed.inside⟩, all⟩
  · rintro ⟨gone, all⟩
    exact ⟨gone.words, onward.mpr ⟨gone.zero_free, all⟩, gone.inside⟩

theorem passed_of_unended {ws : List Word} (gone : Unended read a ws) :
    Passed read (fun w => .ok (stringPart w)) a ws (ws.map Word.bytes) :=
  passed_iff_unended.mpr ⟨gone, rfl⟩

/-- the peeks at so many words from `a` on -/
def peekCalls (k : Kernel) (pid : Pid) (a n : Nat) : List Syscall :=
  (List.range n).map fun i => k.peekCall pid (.ofNat (a + i * wordSize))

theorem scanCalls_eq_peekCalls (k : Kernel) (pid : Pid) (a : Nat) (ws : List Word) :
    scanCalls k pid (fun _ => []) a ws = peekCalls k pid a ws.length := by
  induction ws using List.reverseRecOn with
  | nil => rfl
  | append_singleton ws w ih =>
    rw [scanCalls_concat, ih, List.length_append, List.length_singleton, peekCalls, peekCalls,
      List.range_succ, List.map_append]
    rfl

/-! ## what is scanned is what is spelled -/

theorem spelled_of_scanned {calls : List Syscall} {bs : Bytes}
    (scanned : ScannedString k pid a calls (.ok bs)) :
    Spelled (k.peek pid) a bs ∧ calls = peekCalls k pid a (bs.length / wordSize + 1) := by
  cases scanned with
  | @ended ws parts w cs passed room word last =>
    obtain ⟨gone, rfl⟩ := passed_iff_unended.mp passed
    obtain ⟨zero, rfl⟩ := stringPart_eq_last.mp (Except.ok.inj last)
    obtain ⟨free, rest, whole⟩ := Bytes.eq_upToZero_append zero
    have size : w.bytes.upToZero.length < wordSize := by
      rw [← Word.length_bytes w, whole, List.length_append, List.length_cons, ← whole]
      omega
    rw [← List.flatMap_def]
    have long : (ws.flatMap Word.bytes ++ w.bytes.upToZero).length =
        w.bytes.upToZero.length + ws.length * wordSize := by
      rw [List.length_append, Word.length_flatMap_bytes, Nat.add_comm]
    have count : (ws.flatMap Word.bytes ++ w.bytes.upToZero).length / wordSize = ws.length := by
      rw [long, Nat.add_mul_div_right _ _ (by decide), Nat.div_eq_of_lt size, Nat.zero_add]
    refine ⟨⟨?_, ?_, ws ++ [w], ?_, WordsAt.concat.mpr ⟨gone.words, word⟩, ?_⟩, ?_⟩
    · intro among
      obtain within | last := List.mem_append.mp among
      · obtain ⟨v, member, zero⟩ := List.mem_flatMap.mp within
        exact gone.zero_free v member zero
      · exact free last
    · rw [long]
      rw [scanLimit] at room
      rw [wordSize] at size ⊢
      omega
    · rw [count, List.length_append, List.length_singleton]
    · rw [List.flatMap_append, List.flatMap_singleton, List.append_assoc,
        List.prefix_append_right_inj]
      exact ⟨rest, by rw [List.append_assoc]; exact whole.symm⟩
    · rw [scanCalls_eq_peekCalls, count, List.length_append, List.length_singleton]

theorem scanned_of_spelled {bs : Bytes} (spelled : Spelled (k.peek pid) a bs) :
    ∃ calls, ScannedString k pid a calls (.ok bs) := by
  obtain ⟨free, short, all, count, words, begins⟩ := spelled
  -- the words before the last lie within the string
  obtain rfl | ⟨ws, w, rfl⟩ := List.eq_nil_or_concat all
  · cases count
  rw [List.concat_eq_append] at count words begins
  rw [List.length_append, List.length_singleton, Nat.add_right_cancel_iff] at count
  obtain ⟨words, word⟩ := WordsAt.concat.mp words
  rw [List.flatMap_append, List.flatMap_singleton] at begins
  have within : ws.flatMap Word.bytes <+: bs := by
    refine List.prefix_of_prefix_length_le (List.prefix_append _ _)
      ((List.prefix_append bs [0]).trans begins) ?_
    rw [Word.length_flatMap_bytes, count]
    exact Nat.div_mul_le_self _ _
  obtain ⟨tail, rfl⟩ := within
  rw [List.append_assoc, List.prefix_append_right_inj] at begins
  obtain ⟨rest, whole⟩ := begins
  rw [List.mem_append, not_or] at free
  have gone : Unended (k.peek pid) a ws :=
    ⟨words, fun v member zero => free.1 (List.mem_flatMap.mpr ⟨v, member, zero⟩), word.1⟩
  have last : stringPart w = .last tail := by
    refine stringPart_eq_last.mpr ⟨?_, ?_⟩
    · rw [← whole]
      simp
    · rw [← whole, List.append_assoc]
      exact CString.upToZero_append_zero free.2 rest
  have room : ws.length < scanLimit := by
    rw [count, scanLimit, wordSize]
    omega
  rw [List.flatMap_def]
  exact ⟨_, .ended (passed_of_unended gone) room word (congrArg _ last)⟩

theorem misread_of_scanned {calls : List Syscall} {e : Error}
    (scanned : ScannedString k pid a calls (.error e)) : Misread pid (k.peek pid) a e := by
  cases scanned with
  | unread passed room fails => exact .unread (passed_iff_unended.mp passed).1 room fails
  | refused _ _ _ fails => cases fails
  | edge passed room word onward last =>
    obtain ⟨zero_free, _⟩ := stringPart_eq_onward.mp (Except.ok.inj onward)
    exact .edge (passed_iff_unended.mp passed).1 room word zero_free last
  | long passed all => exact .long (passed_iff_unended.mp passed).1 all

theorem scanned_of_misread {e : Error} (misread : Misread pid (k.peek pid) a e) :
    ∃ calls, ScannedString k pid a calls (.error e) := by
  cases misread with
  | unread gone room fails => exact ⟨_, .unread (passed_of_unended gone) room fails⟩
  | @edge ws w gone room word zero_free last =>
    have onward : stringPart w = .onward w.bytes := stringPart_eq_onward.mpr ⟨zero_free, rfl⟩
    exact ⟨_, .edge (passed_of_unended gone) room word (congrArg _ onward) last⟩
  | long gone all => exact ⟨_, .long (passed_of_unended gone) all⟩

/-- Reading a string makes these calls and comes to this result, and the result is the one that
the memory has. -/
theorem yields_string (stopped : t.state = .stopped) (k : Kernel) (start : Address) :
    ∃ calls r, Yields k (string t start) calls r ∧
      (∀ bs, r = .ok bs → calls = peekCalls k t.pid start.toNat (bs.length / wordSize + 1)) ∧
      (∀ bs, r = .ok bs ↔ Spelled (k.peek t.pid) start.toNat bs) ∧
      (∀ e, r = .error e ↔ Misread t.pid (k.peek t.pid) start.toNat e) := by
  have ok_iff (bs : Bytes) : (∃ calls, ScannedString k t.pid start.toNat calls (.ok bs)) ↔
      Spelled (k.peek t.pid) start.toNat bs :=
    ⟨fun ⟨_, scanned⟩ => (spelled_of_scanned scanned).1, scanned_of_spelled⟩
  have error_iff (e : Error) : (∃ calls, ScannedString k t.pid start.toNat calls (.error e)) ↔
      Misread t.pid (k.peek t.pid) start.toNat e :=
    ⟨fun ⟨_, scanned⟩ => misread_of_scanned scanned, scanned_of_misread⟩
  obtain ⟨calls, r, scanned, run, ok, error⟩ :=
    scan_exact stopped (fun w => .pure (stringPart w)) ok_iff error_iff
  rw [← scanString_eq] at run
  refine ⟨calls, r, run, ?_, ok, error⟩
  rintro bs rfl
  exact (spelled_of_scanned scanned).2

/-- Whatever each peek comes to, a string is read just where one is spelled, by one peek at each of
its words, and what is returned otherwise is the error that the memory has. -/
theorem string_exact (stopped : t.state = .stopped) (start : Address) (h : Host) :
    let read := h.kernel.peek t.pid
    let out := (string t start).runOn h
    (∀ bs, out.1 = .ok bs ↔ Spelled read start.toNat bs) ∧
      (∀ bs, out.1 = .ok bs → out.2.journal.calls = h.journal.calls ++
        peekCalls h.kernel t.pid start.toNat (bs.length / wordSize + 1)) ∧
      (∀ e, out.1 = .error e ↔ Misread t.pid read start.toNat e) := by
  obtain ⟨calls, r, yields, peeks, spelled, misread⟩ := yields_string stopped h.kernel start
  obtain ⟨result, made⟩ := yields.run
  simp only [result, made]
  refine ⟨spelled, ?_, misread⟩
  intro bs read
  rw [peeks bs read]

/-- a string whose first word is `-1`, not aligned, and the last word of the address space -/
def twoPlaces : Memory := .ofSegments
  [.ofBytes 0x1001 (.replicate 8 0xff ++ [0x61, 0x62, 0, 1, 2, 3, 4, 5]),
    .ofBytes 0xfffffffffffffff8 [1, 2, 3, 4, 5, 6, 7, 8]]

theorem string_exact_of_twoPlaces :
    let t : Tracee := ⟨1000, .stopped, none, some .exec⟩
    let h : Host := ⟨{ memory := fun _ => twoPlaces.word }, .eio, 1001, []⟩
    ((string t 0x1001).runOn h).1 = .ok (.replicate 8 0xff ++ [0x61, 0x62]) ∧
      ((string t 0x1001).runOn h).2.journal.calls = peekCalls h.kernel 1000 0x1001 2 ∧
      ((string t 0xfffffffffffffff8).runOn h).1 =
        .error (.memoryRead 1000 0xfffffffffffffff8 .efault) := by
  intro t h
  let words : List Word := [-1, Word.ofBytes [0x61, 0x62, 0, 1, 2, 3, 4, 5]]
  have spelled : Spelled (h.kernel.peek 1000) 0x1001 (.replicate 8 0xff ++ [0x61, 0x62]) :=
    ⟨by decide, by decide, words, by decide, by decide +kernel, by decide +kernel⟩
  let last : Word := .ofBytes [1, 2, 3, 4, 5, 6, 7, 8]
  have edge : Misread 1000 (h.kernel.peek 1000) 0xfffffffffffffff8
      (.memoryRead 1000 0xfffffffffffffff8 .efault) :=
    @Misread.edge _ _ _ [] last ⟨trivial, by simp, by decide⟩ (by decide) (by decide +kernel)
      (by decide) (by decide)
  obtain ⟨reads, peeks, _⟩ := string_exact (t := t) rfl 0x1001 h
  obtain ⟨_, _, fails⟩ := string_exact (t := t) rfl 0xfffffffffffffff8 h
  have read := (reads _).mpr spelled
  exact ⟨read, peeks _ read, (fails _).mpr edge⟩

end Inspect

end ProcTrace
