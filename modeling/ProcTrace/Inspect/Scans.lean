import ProcTrace.Inspect.Words
import ProcTrace.Session

/-!
# Looks are made of words

Every look is put together of looks at single words, so what holds of these, and is kept by putting
together, holds of every look.

* `Inspect.Closed`        a property of attempts that is kept so, and holds of the single words;
* `Inspect.Closed.look`   it holds of every look.
-/

namespace ProcTrace

namespace Inspect

/-- A property of attempts that holds of the looks at single words of `x`, and is kept where
attempts are put together. -/
structure Closed (x : Tracee) (C : {α : Type} → Attempt α → Prop) : Prop where
  pure {α : Type} (a : α) : C (pure a)
  throw {α : Type} (e : Error) : C (throw e : Attempt α)
  bind {α β : Type} {act : Attempt α} {f : α → Attempt β} (first : C act) (rest : ∀ a, C (f a)) :
    C (act >>= f)
  memoryWord (a : Address) : C (memoryWord x a)
  register (r : Slot) : C (register x r)

namespace Closed

variable {x : Tracee} {C : {α : Type} → Attempt α → Prop} (closed : Closed x C)
include closed

theorem nextWord (a : Address) : C (nextWord x a) := by
  unfold Inspect.nextWord
  cases a.next? with
  | some next => exact closed.pure next
  | none => exact closed.throw _

theorem scanString (start : Address) (n : Nat) (next : Address) (seen : Bytes) :
    C (scanString x start n next seen) := by
  induction n generalizing next seen with
  | zero => exact closed.throw _
  | succ n ih =>
    refine closed.bind (closed.memoryWord next) fun word => ?_
    by_cases ends : 0 ∈ word.bytes
    · simp only [if_pos ends]
      exact closed.pure _
    · simp only [if_neg ends]
      exact closed.bind (closed.nextWord next) fun next => ih next _

theorem string (start : Address) : C (string x start) := closed.scanString start scanLimit start []

theorem scanStrings (start : Address) (n : Nat) (next : Address) (seen : List Bytes) :
    C (scanStrings x start n next seen) := by
  induction n generalizing next seen with
  | zero => exact closed.throw _
  | succ n ih =>
    refine closed.bind (closed.memoryWord next) fun pointer => ?_
    by_cases ends : pointer = 0
    · simp only [if_pos ends]
      exact closed.pure _
    · simp only [if_neg ends]
      exact closed.bind (closed.string _) fun s =>
        closed.bind (closed.nextWord next) fun next => ih next _

theorem strings (start : Address) : C (strings x start) :=
  closed.scanStrings start scanLimit start []

theorem execArguments (layout : Layout) : C (execArguments x layout) :=
  closed.bind (closed.register _) fun _ => closed.bind (closed.nextWord _) fun start =>
    closed.strings start

theorem execEnvironment (layout : Layout) : C (execEnvironment x layout) := by
  refine closed.bind (closed.register _) fun sp => closed.bind (closed.memoryWord _) fun argc => ?_
  simp only
  cases environmentStart? sp.toAddress argc.toAddress with
  | some start => exact closed.strings start
  | none => exact closed.throw _

theorem map {α β : Type} {act : Attempt α} (f : α → β) (first : C act) : C (f <$> act) := by
  rw [map_eq_pure_bind]
  exact closed.bind first fun a => closed.pure (f a)

theorem look (look : Look) : C (look.run x) := by
  cases look with
  | memoryWord address => exact closed.map _ (closed.memoryWord address)
  | register r | syscallNumber _ | stackPointer _ | instructionPointer _ =>
    exact closed.map _ (closed.register _)
  | string address => exact closed.map _ (closed.string address)
  | strings address => exact closed.map _ (closed.strings address)
  | execArguments layout => exact closed.map _ (closed.execArguments layout)
  | execEnvironment layout => exact closed.map _ (closed.execEnvironment layout)

end Closed

end Inspect

end ProcTrace
