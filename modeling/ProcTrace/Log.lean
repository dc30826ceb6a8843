import ProcTrace.Journal
import ProcTrace.Text.Escaped

/-!
# The log

Each note of the journal is a line: its level, its message, and its fields in a fixed order.
-/

namespace ProcTrace

namespace Note

def level : Note → String
  | killFailed _ _ => "WARN"
  | spawned _ _ | attached _ | released _ _ | killed _ _ | syscallNumberRead _ _ => "INFO"
  | statusSeen _ _ => "TRACE"
  | stateSet _ _ _ | vanished _ | settingOptions _ _ | skipping _ _ | letGo _ _ | passing _ _
  | memoryRead _ _ _ | registerRead _ _ _ => "DEBUG"

def message : Note → String
  | spawned _ _ => "spawned tracee"
  | attached _ => "attached to tracee"
  | stateSet _ _ _ => "setting tracee state"
  | vanished _ => "ECHILD for tracee, assuming reaped"
  | statusSeen _ _ => "tracee changed state"
  | released _ _ => "removing tracee"
  | settingOptions _ _ => "setting ptrace options"
  | skipping _ _ => "skipping pre-exec stop"
  | letGo _ _ => "discarding stop of killed tracee"
  | killed _ _ => "killed tracee"
  | passing _ _ => "resuming past stop"
  | memoryRead _ _ _ => "read memory word"
  | registerRead _ _ _ => "read register"
  | syscallNumberRead _ _ => "read syscall number at exec stop"
  | killFailed _ _ => "failed to kill tracee after read error"

def pidField (pid : Pid) : String × String := ("pid", toString pid.toInt)

def fields : Note → List (String × String)
  | spawned pid program => [pidField pid, ("program", Escaped.quoted program.bytes)]
  | attached pid | vanished pid => [pidField pid]
  | stateSet pid old new => [pidField pid, ("from", old.name), ("to", new.name)]
  | statusSeen _ waited => [("status", waited.text)]
  | released pid state => [pidField pid, ("state", state.name)]
  | settingOptions pid options => [pidField pid, ("options", options.text)]
  | skipping pid stop | letGo pid stop | killed pid stop | passing pid stop =>
    [pidField pid, ("stop", stop.text)]
  | memoryRead pid address word =>
    [pidField pid, ("addr", toString address.toNat), ("word", toString word.toInt)]
  | registerRead pid r word =>
    [pidField pid, ("register", r.register.name), ("offset", toString r.offset.toNat),
      ("word", toString word.toInt)]
  | syscallNumberRead pid word => [pidField pid, ("syscall_number", toString word.toInt)]
  | killFailed pid e => [pidField pid, ("kill_err", e.message)]

def line (n : Note) : String :=
  " ".intercalate (n.level :: n.message :: n.fields.map fun (name, value) => name ++ "=" ++ value)

end Note

namespace Journal

/-- the log of a journal, earliest line first -/
def log (j : Journal) : List String := j.notes.map Note.line

end Journal

end ProcTrace
