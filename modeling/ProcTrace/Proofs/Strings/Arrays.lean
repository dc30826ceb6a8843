import ProcTrace.Proofs.Strings

/-!
# Arrays of strings, exactly

An array is scanned as a string is, with a pointer in each word, and the string that it points to
is read before the next pointer.

* `Follows`                the pointers that are followed, and the strings that they lead to;
* `Listed`                 strings that an array leads to, fewer than `scanLimit`, up to its null
                           pointer;
* `Mislisted`              the four errors, each as the scan meets it;
* `Inspect.listed_of_scanned`, `Inspect.scanned_of_listed`, `Inspect.mislisted_of_scanned`,
  `Inspect.scanned_of_mislisted`   what is scanned and what is listed is the same;
* `Inspect.strings_exact`  an array is read just where strings are listed, and fails with just the
                           error that the scan meets first.
-/

namespace ProcTrace

/-- The pointers lead to the strings, and none of them is null. -/
def LeadTo (str : Word → Except Error Bytes) (ps : List Word) (ss : List Bytes) : Prop :=
  List.Forall₂ (fun p s => p ≠ 0 ∧ str p = .ok s) ps ss

/-- The array at `a` holds pointers to the strings, and then a null pointer. -/
structure Listed (read : Address → Reply Word) (str : Word → Except Error Bytes) (a : Nat)
    (ss : List Bytes) : Prop where
  few : ss.length < scanLimit
  pointers : ∃ ps, WordsAt read a (ps ++ [0]) ∧ LeadTo str ps ss

/-- Pointers from `a` on that are all followed, and an address behind them. -/
structure Followed (read : Address → Reply Word) (str : Word → Except Error Bytes) (a : Nat)
    (ps : List Word) (ss : List Bytes) : Prop where
  words : WordsAt read a ps
  strings : LeadTo str ps ss
  inside : a + ps.length * wordSize < UInt64.size

/-- What goes wrong first with an array from `a` on, behind the pointers that were followed. -/
inductive Mislisted (pid : Pid) (read : Address → Reply Word) (str : Word → Except Error Bytes)
    (a : Nat) : Error → Prop where
  | unread {ps ss e} (gone : Followed read str a ps ss) (room : ps.length < scanLimit)
      (fails : read (.ofNat (a + ps.length * wordSize)) = .error e) :
    Mislisted pid read str a (.memoryRead pid (.ofNat (a + ps.length * wordSize)) e)
  /-- The string fails, and its error is passed on. -/
  | astray {ps ss p e} (gone : Followed read str a ps ss) (room : ps.length < scanLimit)
      (word : WordAt read (a + ps.length * wordSize) p) (some : p ≠ 0) (fails : str p = .error e) :
    Mislisted pid read str a e
  /-- The string is read, but no address is left behind its pointer. -/
  | edge {ps ss p s} (gone : Followed read str a ps ss) (room : ps.length < scanLimit)
      (word : WordAt read (a + ps.length * wordSize) p) (some : p ≠ 0) (leads : str p = .ok s)
      (last : UInt64.size ≤ a + ps.length * wordSize + wordSize) :
    Mislisted pid read str a (.memoryRead pid (.ofNat (a + ps.length * wordSize)) .efault)
  | long {ps ss} (gone : Followed read str a ps ss) (all : ps.length = scanLimit) :
    Mislisted pid read str a (.memoryRead pid (.ofNat a) .e2big)

namespace Inspect

/-! ## arrays are scanned -/

/-- what a pointer gives to an array, where strings come out like this -/
def pointerPart (str : Word → Except Error Bytes) (p : Word) : Except Error (Part Bytes) :=
  if p = 0 then .ok (.last []) else (str p).map fun s => .onward [s]

/-- reading what a pointer gives to an array -/
def lookThrough (t : Tracee) (p : Word) : Attempt (Part Bytes) :=
  if p = 0 then pure (.last []) else do return .onward [← string t p.toAddress]

section

variable {str : Word → Except Error Bytes} {p : Word}

theorem pointerPart_eq_last {cs : List Bytes} :
    pointerPart str p = .ok (.last cs) ↔ p = 0 ∧ cs = [] := by
  rw [pointerPart]
  by_cases null : p = 0
  · simp [null, eq_comm]
  · rw [if_neg null]
    cases str p <;> simp [Except.map, null]

theorem pointerPart_eq_onward {cs : List Bytes} :
    pointerPart str p = .ok (.onward cs) ↔ p ≠ 0 ∧ ∃ s, str p = .ok s ∧ cs = [s] := by
  rw [pointerPart]
  by_cases null : p = 0
  · simp [null]
  · rw [if_neg null]
    cases str p <;> simp [Except.map, null, eq_comm]

theorem pointerPart_eq_error {e : Error} :
    pointerPart str p = .error e ↔ p ≠ 0 ∧ str p = .error e := by
  rw [pointerPart]
  by_cases null : p = 0
  · simp [null]
  · rw [if_neg null]
    cases str p <;> simp [Except.map, null]

end

theorem scanStrings_eq (t : Tracee) (start : Address) (n : Nat) (next : Address)
    (seen : List Bytes) :
    scanStrings t start n next seen = scan t start (lookThrough t) n next seen := by
  induction n generalizing next seen with
  | zero => rfl
  | succ n ih =>
    rw [scanStrings, scan]
    congr 1
    funext p
    by_cases null : p = 0
    · rw [if_pos null, lookThrough, if_pos null, pure_bind]
      simp only [List.append_nil]
    · rw [if_neg null, lookThrough, if_neg null, bind_assoc]
      simp only [ih, pure_bind]
      rfl

variable {t : Tracee} {k : Kernel} {pid : Pid} {read : Address → Reply Word} {a : Nat}
  {str : Word → Except Error Bytes} {asks : Word → List Syscall}

theorem yields_lookThrough {calls : List Syscall} {p : Word}
    (reads : Yields k (string t p.toAddress) calls (str p)) :
    Yields k (lookThrough t p) (if p = 0 then [] else calls) (pointerPart str p) := by
  rw [lookThrough, pointerPart]
  by_cases null : p = 0
  · rw [if_pos null, if_pos null, if_pos null]
    exact .pure _
  · rw [if_neg null, if_neg null, if_neg null]
    cases found : str p with
    | ok s =>
      rw [found] at reads
      exact reads.bind_pure _
    | error e =>
      rw [found] at reads
      exact reads.bind_error

/-- how the scan of an array ends, where strings come out like this -/
abbrev ScannedStrings (k : Kernel) (pid : Pid) (asks : Word → List Syscall)
    (str : Word → Except Error Bytes) (a : Nat) :
    List Syscall → Except Error (List Bytes) → Prop :=
  Scanned k pid asks (pointerPart str) a scanLimit

/-- the parts are one string each -/
theorem passed_iff_followed {ps : List Word} {parts : List (List Bytes)} :
    Passed read (pointerPart str) a ps parts ↔
      ∃ ss, Followed read str a ps ss ∧ parts = ss.map fun s => [s] := by
  have onward : List.Forall₂ (fun p cs => pointerPart str p = .ok (.onward cs)) ps parts ↔
      ∃ ss, LeadTo str ps ss ∧ parts = ss.map fun s => [s] := by
    simp only [LeadTo, pointerPart_eq_onward]
    constructor
    · intro all
      induction all with
      | nil => exact ⟨[], .nil, rfl⟩
      | cons first _ ih =>
        obtain ⟨some, s, leads, rfl⟩ := first
        obtain ⟨ss, rest, rfl⟩ := ih
        exact ⟨s :: ss, .cons ⟨some, leads⟩ rest, rfl⟩
    · rintro ⟨ss, all, rfl⟩
      induction all with
      | nil => exact .nil
      | cons first _ ih => exact .cons ⟨first.1, _, first.2, rfl⟩ ih
  constructor
  · intro passed
    obtain ⟨ss, strings, parts⟩ := onward.mp passed.onward
    exact ⟨ss, ⟨passed.words, strings, passed.inside⟩, parts⟩
  · rintro ⟨ss, gone, parts⟩
    exact ⟨gone.words, onward.mpr ⟨ss, gone.strings, parts⟩, gone.inside⟩

theorem passed_of_followed {ps : List Word} {ss : List Bytes} (gone : Followed read str a ps ss) :
    Passed read (pointerPart str) a ps (ss.map fun s => [s]) :=
  passed_iff_followed.mpr ⟨ss, gone, rfl⟩

/-! ## what is scanned is what is listed -/

theorem listed_of_scanned {calls : List Syscall} {ss : List Bytes}
    (scanned : ScannedStrings k pid asks str a calls (.ok ss)) :
    Listed (k.peek pid) str a ss := by
  cases scanned with
  | @ended ps parts p cs passed room word last =>
    obtain ⟨ss, gone, rfl⟩ := passed_iff_followed.mp passed
    obtain ⟨rfl, rfl⟩ := pointerPart_eq_last.mp last
    rw [← List.flatMap_def, List.flatMap_singleton', List.append_nil]
    rw [gone.strings.length_eq] at room
    exact ⟨room, ps, WordsAt.concat.mpr ⟨gone.words, word⟩, gone.strings⟩

theorem scanned_of_listed {ss : List Bytes} (listed : Listed (k.peek pid) str a ss) :
    ∃ calls, ScannedStrings k pid asks str a calls (.ok ss) := by
  obtain ⟨room, ps, words, strings⟩ := listed
  obtain ⟨words, word⟩ := WordsAt.concat.mp words
  have gone : Followed (k.peek pid) str a ps ss := ⟨words, strings, word.1⟩
  have whole : ss = (ss.map fun s => [s]).flatten ++ [] := by
    rw [← List.flatMap_def, List.flatMap_singleton', List.append_nil]
  rw [← strings.length_eq] at room
  rw [whole]
  exact ⟨_, .ended (passed_of_followed gone) room word (pointerPart_eq_last.mpr ⟨rfl, rfl⟩)⟩

theorem mislisted_of_scanned {calls : List Syscall} {e : Error}
    (scanned : ScannedStrings k pid asks str a calls (.error e)) :
    Mislisted pid (k.peek pid) str a e := by
  cases scanned with
  | unread passed room fails =>
    obtain ⟨ss, gone, _⟩ := passed_iff_followed.mp passed
    exact .unread gone room fails
  | refused passed room word fails =>
    obtain ⟨ss, gone, _⟩ := passed_iff_followed.mp passed
    obtain ⟨some, fails⟩ := pointerPart_eq_error.mp fails
    exact .astray gone room word some fails
  | edge passed room word onward last =>
    obtain ⟨ss, gone, _⟩ := passed_iff_followed.mp passed
    obtain ⟨some, s, leads, _⟩ := pointerPart_eq_onward.mp onward
    exact .edge gone room word some leads last
  | long passed all =>
    obtain ⟨ss, gone, _⟩ := passed_iff_followed.mp passed
    exact .long gone all

theorem scanned_of_mislisted {e : Error} (mislisted : Mislisted pid (k.peek pid) str a e) :
    ∃ calls, ScannedStrings k pid asks str a calls (.error e) := by
  cases mislisted with
  | unread gone room fails => exact ⟨_, .unread (passed_of_followed gone) room fails⟩
  | astray gone room word some fails =>
    have refused := pointerPart_eq_error.mpr ⟨some, fails⟩
    exact ⟨_, .refused (passed_of_followed gone) room word refused⟩
  | edge gone room word some leads last =>
    have onward := pointerPart_eq_onward.mpr ⟨some, _, leads, rfl⟩
    exact ⟨_, .edge (passed_of_followed gone) room word onward last⟩
  | long gone all => exact ⟨_, .long (passed_of_followed gone) all⟩

/-- Reading an array comes to a result, and it is the one that the pointers and their strings
have. -/
theorem yields_strings (stopped : t.state = .stopped)
    (reads : ∀ p : Word, Yields k (string t p.toAddress) (asks p) (str p)) (start : Address) :
    ∃ calls r, Yields k (strings t start) calls r ∧
      (∀ ss, r = .ok ss ↔ Listed (k.peek t.pid) str start.toNat ss) ∧
      (∀ e, r = .error e ↔ Mislisted t.pid (k.peek t.pid) str start.toNat e) := by
  let asked (p : Word) : List Syscall := if p = 0 then [] else asks p
  have ok_iff (ss : List Bytes) :
      (∃ calls, ScannedStrings k t.pid asked str start.toNat calls (.ok ss)) ↔
        Listed (k.peek t.pid) str start.toNat ss :=
    ⟨fun ⟨_, scanned⟩ => listed_of_scanned scanned, scanned_of_listed⟩
  have error_iff (e : Error) :
      (∃ calls, ScannedStrings k t.pid asked str start.toNat calls (.error e)) ↔
        Mislisted t.pid (k.peek t.pid) str start.toNat e :=
    ⟨fun ⟨_, scanned⟩ => mislisted_of_scanned scanned, scanned_of_mislisted⟩
  obtain ⟨calls, r, _, run, ok, error⟩ :=
    scan_exact stopped (fun p => yields_lookThrough (reads p)) ok_iff error_iff
  rw [← scanStrings_eq] at run
  exact ⟨calls, r, run, ok, error⟩

/-- Whatever each peek comes to, an array is read just where strings are listed, and what is
returned otherwise is the error of the first step that fails. -/
theorem strings_exact (stopped : t.state = .stopped) (start : Address) (h : Host) :
    let read := h.kernel.peek t.pid
    let str := fun p : Word => ((string t p.toAddress).runOn h).1
    let out := ((strings t start).runOn h).1
    (∀ ss, out = .ok ss ↔ Listed read str start.toNat ss) ∧
      (∀ e, out = .error e ↔ Mislisted t.pid read str start.toNat e) := by
  intro read str out
  have each (p : Word) : ∃ calls, Yields h.kernel (string t p.toAddress) calls (str p) := by
    obtain ⟨calls, r, yields, _⟩ := yields_string stopped h.kernel p.toAddress
    have result : str p = r := yields.run.1
    rw [result]
    exact ⟨calls, yields⟩
  choose asks reads using each
  obtain ⟨_, r, yields, listed, mislisted⟩ := yields_strings stopped reads start
  have result : out = r := yields.run.1
  rw [result]
  exact ⟨listed, mislisted⟩

/-- an array of two strings, one whose only pointer leads nowhere, and one that fills the last word
of the address space -/
def threeArrays : Memory := .ofSegments
  [.ofBytes 0x1000 ([0x2000, 0x2003, 0, 0x3000].flatMap fun u : UInt64 => Word.bytes u.toInt64),
    .ofBytes 0x2000 [0x61, 0x62, 0, 0, 1, 2, 3, 4, 5, 6, 7],
    .ofBytes 0xfffffffffffffff8 [0, 0x20, 0, 0, 0, 0, 0, 0]]

theorem strings_exact_of_threeArrays :
    let t : Tracee := ⟨1000, .stopped, none, some .exec⟩
    let h : Host := ⟨{ memory := fun _ => threeArrays.word }, .unknown, 1001, []⟩
    ((strings t 0x1000).runOn h).1 = .ok [[0x61, 0x62], []] ∧
      ((strings t 0x1018).runOn h).1 = .error (.memoryRead 1000 0x3000 .eio) ∧
      ((strings t 0xfffffffffffffff8).runOn h).1 =
        .error (.memoryRead 1000 0xfffffffffffffff8 .efault) := by
  intro t h
  let read := h.kernel.peek t.pid
  let str (p : Word) : Except Error Bytes := ((string t p.toAddress).runOn h).1
  have first : str 0x2000 = .ok [0x61, 0x62] := by decide +kernel
  have second : str 0x2003 = .ok [] := by decide +kernel
  have nowhere : str 0x3000 = .error (.memoryRead 1000 0x3000 .eio) := by decide +kernel
  have listed : Listed read str 0x1000 [[0x61, 0x62], []] :=
    ⟨by decide, [0x2000, 0x2003], by decide +kernel,
      .cons ⟨by decide, first⟩ (.cons ⟨by decide, second⟩ .nil)⟩
  have astray : Mislisted 1000 read str 0x1018 (.memoryRead 1000 0x3000 .eio) :=
    @Mislisted.astray _ _ _ _ [] [] 0x3000 _ ⟨trivial, .nil, by decide⟩ (by decide)
      (by decide +kernel) (by decide) nowhere
  have edge : Mislisted 1000 read str 0xfffffffffffffff8
      (.memoryRead 1000 0xfffffffffffffff8 .efault) :=
    @Mislisted.edge _ _ _ _ [] [] 0x2000 _ ⟨trivial, .nil, by decide⟩ (by decide)
      (by decide +kernel) (by decide) first (by decide)
  obtain ⟨reads, _⟩ := strings_exact (t := t) rfl 0x1000 h
  obtain ⟨_, fails⟩ := strings_exact (t := t) rfl 0x1018 h
  obtain ⟨_, ends⟩ := strings_exact (t := t) rfl 0xfffffffffffffff8 h
  exact ⟨(reads _).mpr listed, (fails _).mpr astray, (ends _).mpr edge⟩

end Inspect

end ProcTrace
