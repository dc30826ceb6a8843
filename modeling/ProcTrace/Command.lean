import ProcTrace.Error

/-!
# Commands

A program to run, with its argument vector and, if one was given, its environment.

* `Command.new`, `Command.addArgs`, `Command.setArgv0`, `Command.addEnv`, `Command.clearEnv`
  build a command; a string with a zero byte is refused, and then there is no new command;
* `BuildCall`, `BuildCall.apply`, `BuildCall.run`   the same as data, for sequences of them.
-/

namespace ProcTrace

structure Command where
  /-- path of the image -/
  program : CString
  argv0 : CString
  /-- the arguments after `argv0` -/
  args : List CString
  /-- the entries of an explicit environment; `none` inherits that of the parent -/
  env : Option (List CString)
deriving DecidableEq

namespace Command

/-- a string to be passed, or the error that names its first zero byte -/
def string (bs : Bytes) : Except Error CString := (CString.ofBytes bs).mapError .zeroByte

/-- a variable is passed as `key=value` -/
def entry (key value : Bytes) : Bytes := key ++ 0x3d :: value

def argv (c : Command) : List CString := c.argv0 :: c.args

def new (program : Bytes) : Except Error Command := do
  let program ← string program
  return ⟨program, program, [], none⟩

def addArgs (c : Command) (args : List Bytes) : Except Error Command := do
  let args ← args.mapM string
  return { c with args := c.args ++ args }

def setArgv0 (c : Command) (argv0 : Bytes) : Except Error Command := do
  let argv0 ← string argv0
  return { c with argv0 }

/-- Once a variable is set, the environment is explicit and nothing is inherited. -/
def addEnv (c : Command) (key value : Bytes) : Except Error Command := do
  let entry ← string (entry key value)
  return { c with env := some (c.env.getD [] ++ [entry]) }

/-- an explicit environment without variables -/
def clearEnv (c : Command) : Command := { c with env := some [] }

end Command

inductive BuildCall where
  | new (program : Bytes)
  | args (args : List Bytes)
  | argv0 (argv0 : Bytes)
  | env (key value : Bytes)
  | clearEnv
deriving DecidableEq

namespace BuildCall

/-- Makes or changes a command; `none` when there is no command yet to change. -/
def apply : BuildCall → Option Command → Option (Except Error Command)
  | new program, _ => some (Command.new program)
  | _, none => none
  | args as, some c => some (c.addArgs as)
  | argv0 a, some c => some (c.setArgv0 a)
  | env key value, some c => some (c.addEnv key value)
  | clearEnv, some c => some (.ok c.clearEnv)

/-- the command after a call: a refused call leaves it as it was -/
def next (c : Option Command) (call : BuildCall) : Option Command :=
  match call.apply c with
  | some (.ok c') => some c'
  | _ => c

/-- the command after a sequence of calls -/
def run (calls : List BuildCall) (c : Option Command) : Option Command := calls.foldl next c

/-- a command from calls that all have to succeed; the first error wins -/
def build (program : Bytes) (calls : List BuildCall) : Except Error Command := do
  let c ← Command.new program
  calls.foldlM (fun c call => (call.apply (some c)).getD (.ok c)) c

theorem run_nil (c : Option Command) : run [] c = c := rfl

theorem run_cons (call : BuildCall) (calls : List BuildCall) (c : Option Command) :
    run (call :: calls) c = run calls (next c call) := rfl

theorem run_append (a b : List BuildCall) (c : Option Command) :
    run (a ++ b) c = run b (run a c) := List.foldl_append

end BuildCall

end ProcTrace
