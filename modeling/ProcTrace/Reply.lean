import ProcTrace.Errno

/-!
# Replies

A system call replies with a value, or fails with an error number.

* `Reply.errno`   the error number that is left behind after a reply.
-/

namespace ProcTrace

inductive Reply (α : Type) where
  | ok (value : α)
  | error (errno : Errno)
deriving DecidableEq

namespace Reply

def map (f : α → β) : Reply α → Reply β
  | ok a => ok (f a)
  | error e => error e

def bind (r : Reply α) (f : α → Reply β) : Reply β :=
  match r with
  | ok a => f a
  | error e => error e

def ofOption (e : Errno) : Option α → Reply α
  | some a => ok a
  | none => error e

/-- A success leaves the error number as it was. -/
def errno (before : Errno) : Reply α → Errno
  | ok _ => before
  | error e => e

end Reply

end ProcTrace
