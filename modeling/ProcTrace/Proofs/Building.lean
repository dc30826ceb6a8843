import ProcTrace.Command
import Mathlib.Data.List.DropRight

/-!
# What a sequence of builder calls comes to

* `BuildCall.given`, `BuildCall.checked`   the strings of a call, and the strings it has to check;
* `BuildCall.apply_eq_error`, `BuildCall.exists_ok`   which calls are refused, with what error;
* `BuildCall.environment`   the explicit environment that accepted calls leave;
* `BuildCall.Built`         the command of a `new` and the accepted calls after it, in closed form;
* `BuildCall.Built.next`    one more accepted call keeps to it;
* `BuildCall.Comes`, `BuildCall.comes_run`   any sequence, refused calls among the others.
-/

namespace ProcTrace

/-! ## checking strings -/

namespace Command

theorem bytes_of_string {bs : Bytes} {s : CString} (checked : string bs = .ok s) :
    s.bytes = bs := by
  rw [string] at checked
  cases made : CString.ofBytes bs with
  | error n => rw [made] at checked; cases checked
  | ok t =>
    rw [made] at checked
    cases checked
    exact CString.ofBytes_eq_ok.mp made

theorem string_eq_error {bs : Bytes} {e : Error} :
    string bs = .error e ↔ 0 ∈ bs ∧ e = .zeroByte (bs.idxOf 0) := by
  rw [string]
  cases made : CString.ofBytes bs with
  | error n =>
    obtain ⟨zero, rfl⟩ := CString.ofBytes_eq_error.mp made
    simp [Except.mapError, zero, eq_comm]
  | ok s =>
    have clean : 0 ∉ bs := CString.ofBytes_eq_ok.mp made ▸ s.zero_free
    simp [Except.mapError, clean]

theorem bytes_of_mapM_string {bss : List Bytes} {ss : List CString}
    (checked : bss.mapM string = .ok ss) : ss.map CString.bytes = bss := by
  induction bss generalizing ss with
  | nil => cases checked; rfl
  | cons bs bss ih =>
    rw [List.mapM_cons] at checked
    cases first : string bs with
    | error e => rw [first] at checked; cases checked
    | ok s =>
      cases others : bss.mapM string with
      | error e => rw [first, others] at checked; cases checked
      | ok ss' =>
        rw [first, others] at checked
        cases checked
        rw [List.map_cons, bytes_of_string first, ih others]

theorem mapM_string_eq_error {bss : List Bytes} {e : Error} :
    bss.mapM string = .error e ↔
      ∃ bs, bss.find? (0 ∈ ·) = some bs ∧ e = .zeroByte (bs.idxOf 0) := by
  induction bss with
  | nil => simp [pure, Except.pure]
  | cons bs bss ih =>
    rw [List.mapM_cons, List.find?_cons]
    cases first : string bs with
    | error e' =>
      obtain ⟨zero, rfl⟩ := string_eq_error.mp first
      simp [zero, bind, Except.bind, eq_comm]
    | ok s =>
      have clean : 0 ∉ bs := bytes_of_string first ▸ s.zero_free
      rw [decide_eq_false clean, ← ih]
      cases bss.mapM string <;> simp [bind, Except.bind, pure, Except.pure]

end Command

namespace BuildCall

/-! ## refused calls -/

/-- the strings that a caller passes -/
def given : BuildCall → List Bytes
  | new program => [program]
  | args as => as
  | argv0 a => [a]
  | env key value => [key, value]
  | clearEnv => []

/-- the strings that are checked, in their order: a variable is checked as a whole -/
def checked : BuildCall → List Bytes
  | env key value => [Command.entry key value]
  | call => call.given

def Accepted (call : BuildCall) : Prop := ∀ bs ∈ call.given, 0 ∉ bs

instance : DecidablePred Accepted := fun _ => inferInstanceAs (Decidable (∀ _ ∈ _, _))

/-- Only `new` can be called before there is a command. -/
def Applies (call : BuildCall) (c : Option Command) : Prop :=
  c.isSome ∨ ∃ program, call = new program

theorem zero_mem_entry {key value : Bytes} :
    0 ∈ Command.entry key value ↔ 0 ∈ key ∨ 0 ∈ value := by
  simp [Command.entry]

theorem find?_checked (call : BuildCall) :
    (∃ bs, call.checked.find? (0 ∈ ·) = some bs) ↔ ¬ call.Accepted := by
  have found : (∃ bs, call.checked.find? (0 ∈ ·) = some bs) ↔ ∃ bs ∈ call.checked, 0 ∈ bs := by
    rw [← Option.isSome_iff_exists, List.find?_isSome]
    simp
  rw [found, Accepted]
  push Not
  cases call with
  | env key value => simp [checked, given, zero_mem_entry]
  | _ => rfl

private theorem bind_pure_eq_error {α : Type} {x : Except Error α} {f : α → Command} {e : Error} :
    (x >>= fun a => pure (f a)) = .error e ↔ x = .error e := by
  cases x <;> simp [bind, Except.bind, pure, Except.pure]

private theorem bind_pure_eq_ok {α : Type} {x : Except Error α} {f : α → Command} {c : Command} :
    (x >>= fun a => pure (f a)) = .ok c ↔ ∃ a, x = .ok a ∧ f a = c := by
  cases x <;> simp [bind, Except.bind, pure, Except.pure]

private theorem string_eq_error_find {bs : Bytes} {e : Error} :
    Command.string bs = .error e ↔
      ∃ b, [bs].find? (0 ∈ ·) = some b ∧ e = .zeroByte (b.idxOf 0) := by
  rw [Command.string_eq_error]
  by_cases zero : 0 ∈ bs <;> simp [zero]

theorem apply_eq_none {call : BuildCall} {c : Option Command} :
    call.apply c = none ↔ ¬ call.Applies c := by
  cases call <;> cases c <;> simp [apply, Applies]

theorem apply_some_eq_error {call : BuildCall} {c : Command} {e : Error} :
    call.apply (some c) = some (.error e) ↔
      ∃ bs, call.checked.find? (0 ∈ ·) = some bs ∧ e = .zeroByte (bs.idxOf 0) := by
  cases call with
  | args as =>
    rw [apply, Option.some.injEq]
    exact bind_pure_eq_error.trans Command.mapM_string_eq_error
  | clearEnv => simp [apply, checked, given]
  | _ =>
    rw [apply, Option.some.injEq]
    exact bind_pure_eq_error.trans string_eq_error_find

theorem apply_eq_error {call : BuildCall} {c : Option Command} {e : Error} :
    call.apply c = some (.error e) ↔ call.Applies c ∧
      ∃ bs, call.checked.find? (0 ∈ ·) = some bs ∧ e = .zeroByte (bs.idxOf 0) := by
  cases c with
  | some c => simp [Applies, apply_some_eq_error]
  | none =>
    cases call with
    | new p =>
      rw [apply, Option.some.injEq, Command.new, bind_pure_eq_error, string_eq_error_find]
      simp [Applies, checked, given]
    | _ => simp [apply, Applies]

theorem exists_error {call : BuildCall} {c : Option Command} :
    (∃ e, call.apply c = some (.error e)) ↔ call.Applies c ∧ ¬ call.Accepted := by
  rw [← find?_checked]
  constructor
  · rintro ⟨e, failed⟩
    obtain ⟨applies, bs, found, -⟩ := apply_eq_error.mp failed
    exact ⟨applies, bs, found⟩
  · rintro ⟨applies, bs, found⟩
    exact ⟨_, apply_eq_error.mpr ⟨applies, bs, found, rfl⟩⟩

theorem exists_ok {call : BuildCall} {c : Option Command} :
    (∃ c', call.apply c = some (.ok c')) ↔ call.Applies c ∧ call.Accepted := by
  by_cases applies : call.Applies c
  case neg => simp [apply_eq_none.mpr applies, applies]
  have refused : (∃ e, call.apply c = some (.error e)) ↔ ¬ call.Accepted := by
    rw [exists_error, and_iff_right applies]
  match outcome : call.apply c with
  | none => exact absurd applies (apply_eq_none.mp outcome)
  | some (.error e) => simpa [outcome, applies] using refused
  | some (.ok c') => simpa [outcome, applies] using refused

/-! ## the closed form -/

def program? : BuildCall → Option Bytes
  | new program => some program
  | _ => none

def argv0? : BuildCall → Option Bytes
  | argv0 a => some a
  | _ => none

def arguments : BuildCall → List Bytes
  | args as => as
  | _ => []

def entry? : BuildCall → Option Bytes
  | env key value => some (Command.entry key value)
  | _ => none

/-- After such a call nothing is inherited from the environment of the parent. -/
def endsInheritance : BuildCall → Bool
  | env _ _ | clearEnv => true
  | _ => false

/-- the calls that are not refused -/
def accepted (calls : List BuildCall) : List BuildCall := calls.filter (·.Accepted)

/-- the calls after the last `new` -/
def sinceNew (calls : List BuildCall) : List BuildCall := calls.rtakeWhile (·.program?.isNone)

/-- the calls after the last `clearEnv`, all of them where there is none -/
def sinceClear (calls : List BuildCall) : List BuildCall := calls.rtakeWhile (· ≠ clearEnv)

/-- the explicit environment, if there is one -/
def environment (calls : List BuildCall) : Option (List Bytes) :=
  if calls.any endsInheritance then some ((sinceClear calls).filterMap entry?) else none

theorem sinceNew_concat {calls : List BuildCall} {call : BuildCall} :
    sinceNew (calls ++ [call]) =
      if call.program?.isNone then sinceNew calls ++ [call] else [] :=
  List.rtakeWhile_concat _ _ _

theorem sinceClear_concat {calls : List BuildCall} {call : BuildCall} :
    sinceClear (calls ++ [call]) =
      if call = clearEnv then [] else sinceClear calls ++ [call] := by
  rw [sinceClear, List.rtakeWhile_concat]
  by_cases clears : call = clearEnv <;> simp [clears, sinceClear]

theorem environment_concat {calls : List BuildCall} {call : BuildCall}
    (inherits : call.endsInheritance = false) :
    environment (calls ++ [call]) = environment calls := by
  have remains : call ≠ clearEnv := by rintro rfl; cases inherits
  have unset : [call].filterMap entry? = [] := by cases call <;> first | rfl | cases inherits
  simp [environment, sinceClear_concat, inherits, remains, unset]

theorem environment_concat_env {calls : List BuildCall} {key value : Bytes} :
    environment (calls ++ [env key value]) =
      some ((sinceClear calls).filterMap entry? ++ [Command.entry key value]) := by
  simp [environment, sinceClear_concat, endsInheritance, entry?]

theorem environment_concat_clearEnv {calls : List BuildCall} :
    environment (calls ++ [clearEnv]) = some [] := by
  simp [environment, sinceClear_concat, endsInheritance]

theorem environment_getD (calls : List BuildCall) :
    (environment calls).getD [] = (sinceClear calls).filterMap entry? := by
  rw [environment]
  split
  case isTrue => rfl
  case isFalse inherits =>
    rw [Option.getD_none, eq_comm, List.filterMap_eq_nil_iff]
    intro call among
    have plain : endsInheritance call = false := by
      simp only [List.any_eq_true, not_exists, not_and] at inherits
      exact eq_false_of_ne_true (inherits call ((List.rtakeWhile_suffix _ _).subset among))
    cases call <;> first | rfl | cases plain

/-- the command of a `new` and the accepted calls after it -/
structure Built (p : Bytes) (calls : List BuildCall) (c : Command) : Prop where
  program : c.program.bytes = p
  argv : c.argv.map CString.bytes =
    (calls.filterMap argv0?).getLast?.getD p :: calls.flatMap arguments
  env : c.env.map (·.map CString.bytes) = environment calls

namespace Built

variable {p : Bytes} {calls : List BuildCall} {c : Command}

theorem new (made : Command.new p = .ok c) : Built p [] c := by
  obtain ⟨s, string, rfl⟩ := bind_pure_eq_ok.mp made
  have bytes := Command.bytes_of_string string
  exact ⟨bytes, by simp [Command.argv, bytes], rfl⟩

theorem next {call : BuildCall} {c' : Command} (built : Built p calls c)
    (plain : call.program? = none) (made : call.apply (some c) = some (.ok c')) :
    Built p (calls ++ [call]) c' := by
  obtain ⟨first, others⟩ := List.cons.inj built.argv
  cases call with
  | new p => cases plain
  | args as =>
    obtain ⟨ss, strings, rfl⟩ := bind_pure_eq_ok.mp (Option.some.inj made)
    refine ⟨built.program, ?_, built.env.trans (environment_concat rfl).symm⟩
    simp [Command.argv, first, others, Command.bytes_of_mapM_string strings, argv0?, arguments]
  | argv0 a =>
    obtain ⟨s, string, rfl⟩ := bind_pure_eq_ok.mp (Option.some.inj made)
    refine ⟨built.program, ?_, built.env.trans (environment_concat rfl).symm⟩
    simp [Command.argv, others, Command.bytes_of_string string, argv0?, arguments]
  | env key value =>
    obtain ⟨s, string, rfl⟩ := bind_pure_eq_ok.mp (Option.some.inj made)
    have before : (c.env.getD []).map CString.bytes = (sinceClear calls).filterMap entry? := by
      rw [← environment_getD, ← built.env]
      cases c.env <;> rfl
    refine ⟨built.program, ?_, ?_⟩
    · simp [Command.argv, first, others, argv0?, arguments]
    · simp [environment_concat_env, before, Command.bytes_of_string string]
  | clearEnv =>
    cases made
    refine ⟨built.program, ?_, environment_concat_clearEnv.symm⟩
    simp [Command.clearEnv, Command.argv, first, others, argv0?, arguments]

end Built

/-- what accepted calls come to: nothing without a `new`, else what was built since the last -/
def Comes (calls : List BuildCall) (c : Option Command) : Prop :=
  match (calls.filterMap program?).getLast? with
  | none => c = none
  | some p => ∃ made, c = some made ∧ Built p (sinceNew calls) made

theorem next_of_refused {call : BuildCall} (refused : ¬ call.Accepted) (c : Option Command) :
    call.next c = c := by
  match outcome : call.apply c with
  | some (.ok c') => exact absurd (exists_ok.mp ⟨c', outcome⟩).2 refused
  | some (.error e) => rw [next, outcome]
  | none => rw [next, outcome]

theorem Comes.concat_new {calls : List BuildCall} {c : Option Command} {p : Bytes}
    (clean : (new p).Accepted) : Comes (calls ++ [new p]) ((new p).next c) := by
  obtain ⟨c', made⟩ := exists_ok.mpr ⟨.inr ⟨p, rfl⟩, clean⟩
  have last : ((calls ++ [new p]).filterMap program?).getLast? = some p := by simp [program?]
  rw [Comes, last, next, made]
  refine ⟨c', rfl, ?_⟩
  rw [sinceNew_concat]
  exact Built.new (Option.some.inj made)

theorem Comes.concat {calls : List BuildCall} {c : Option Command} {call : BuildCall}
    (comes : Comes calls c) (plain : call.program? = none) (clean : call.Accepted) :
    Comes (calls ++ [call]) (call.next c) := by
  have last : (calls ++ [call]).filterMap program? = calls.filterMap program? := by
    simp [plain]
  unfold Comes at comes ⊢
  rw [last]
  split at comes
  case h_1 =>
    have unmade : call.apply none = none := by cases call <;> first | rfl | cases plain
    rw [comes, next, unmade]
  case h_2 p _ =>
    obtain ⟨c, rfl, built⟩ := comes
    have applies : call.Applies (some c) := .inl rfl
    obtain ⟨c', made⟩ := exists_ok.mpr ⟨applies, clean⟩
    refine ⟨c', by rw [next, made], ?_⟩
    rw [sinceNew_concat, plain]
    exact built.next plain made

theorem comes_run (calls : List BuildCall) : Comes (accepted calls) (run calls none) := by
  induction calls using List.reverseRecOn with
  | nil => rfl
  | append_singleton calls call ih =>
    rw [run_append, run_cons, run_nil, accepted, List.filter_append]
    by_cases clean : call.Accepted
    case neg =>
      have none_here : [call].filter (·.Accepted) = [] := by simp [clean]
      rw [none_here, List.append_nil, next_of_refused clean]
      exact ih
    case pos =>
      have here : [call].filter (·.Accepted) = [call] := by simp [clean]
      rw [here]
      cases named : call.program? with
      | none => exact ih.concat named clean
      | some p =>
        cases call with
        | new p => exact Comes.concat_new clean
        | _ => cases named

/-- Which builder calls fail and with what, and the command that any sequence of them makes: what
counts are the calls that did not fail, from the last `new` on. -/
theorem run_eq_closedForm (calls : List BuildCall) :
    (∀ (call : BuildCall) (c : Option Command),
      ((∃ e, call.apply c = some (.error e)) ↔ call.Applies c ∧ ∃ bs ∈ call.given, 0 ∈ bs) ∧
      ∀ e, call.apply c = some (.error e) ↔ call.Applies c ∧
        ∃ bs, call.checked.find? (0 ∈ ·) = some bs ∧ e = .zeroByte (bs.idxOf 0)) ∧
    match ((accepted calls).filterMap program?).getLast? with
    | none => run calls none = none
    | some p => ∃ c, run calls none = some c ∧ Built p (sinceNew (accepted calls)) c ∧
        c.argv ≠ [] ∧ ∀ s ∈ c.program :: c.argv ++ c.env.getD [], 0 ∉ s.bytes := by
  refine ⟨fun call c => ⟨?_, fun e => apply_eq_error⟩, ?_⟩
  · have offending : (∃ bs ∈ call.given, 0 ∈ bs) ↔ ¬ call.Accepted := by simp [Accepted]
    rw [offending, exists_error]
  · have comes := comes_run calls
    unfold Comes at comes
    split at comes
    case h_1 => exact comes
    case h_2 =>
      obtain ⟨c, made, built⟩ := comes
      exact ⟨c, made, built, List.cons_ne_nil _ _, fun s _ => s.zero_free⟩

example : (run [new [1], env [2] [3], args [[4], [5, 0]], clearEnv, argv0 [6], env [7] [],
    args [[8]]] none).map (fun c => (c.argv.map CString.bytes, c.env.map (·.map CString.bytes))) =
      some ([[6], [8]], some [[7, 0x3d]]) := by decide

end BuildCall

end ProcTrace
