import ProcTrace.Kernel

/-!
# The host

`Host` is the kernel together with the error number that the last failing call left behind, and
the journal.

Each system call is an action `HostM` that takes the next reply of its queue (or the usual one when
the queue is used up), leaves its error number if it failed, and enters itself in the journal.

* `Host.peekData`, `Host.peekUser`   a failing peek returns `-1`, as does a peek of a word that is
                                     `-1`; only the error number tells them apart;
* `Host.waitpid_of_none_left`        waiting fails when no reply is left;
* `Attempt`                          an action that may fail, with the laws of running it.
-/

namespace ProcTrace

structure Host where
  kernel : Kernel
  errno : Errno
  /-- what a fork replies once its queue is used up -/
  nextPid : Pid
  journal : Journal

abbrev HostM := StateM Host

theorem HostM.bind_apply (x : HostM α) (f : α → HostM β) (h : Host) :
    (x >>= f) h = f (x h).1 (x h).2 := rfl

namespace Host

/-- enters a call with its reply; a failure leaves its error number -/
def record (h : Host) (call : Syscall) (reply : Reply α) : Host :=
  { h with
    errno := reply.errno h.errno
    journal := .call call :: h.journal }

def note (n : Note) : HostM Unit := modify fun h => { h with journal := .note n :: h.journal }

/-- the host with a note entered -/
def noted (h : Host) (n : Note) : Host := { h with journal := .note n :: h.journal }

/-- The reply `-1` is how a failure looks to the caller, who finds the reason in the error number:
whatever failed last. -/
def forkReply (errno : Errno) (reply : Reply Pid) : Reply Pid :=
  reply.bind fun pid => if pid = -1 then .error errno else .ok pid

/-- Process ids are counted on from `nextPid` when the queue is used up. -/
def fork : HostM (Reply Pid) := modifyGet fun h =>
  match h.kernel.forks with
  | [] =>
    let reply := forkReply h.errno (.ok h.nextPid)
    (reply, ({ h with nextPid := h.nextPid + 1 }).record (.fork reply) reply)
  | reply :: rest =>
    let reply := forkReply h.errno reply
    (reply, ({ h with kernel.forks := rest }).record (.fork reply) reply)

/-- Waiting for a process when nothing is left to be told finds no such child.  A status that makes
no sense is no failure of the call itself, and leaves the error number as it was. -/
def waitpid (pid : Pid) : HostM (Reply Waited) := modifyGet fun h =>
  let raw := h.kernel.waits.headD (.error .echild)
  let errno := raw.errno h.errno
  let reply := raw.bind (Waited.ofRaw pid errno)
  (reply, { h with
    kernel.waits := h.kernel.waits.tail
    errno
    journal := .call (.waitpid pid reply) :: h.journal })

/-- number of replies of waiting that are left on a host -/
def waitsLeft (h : Host) : Nat := h.kernel.waits.length

theorem waitsLeft_waitpid (pid : Pid) (h : Host) :
    (waitpid pid h).2.waitsLeft = h.waitsLeft - 1 := List.length_tail

theorem waitpid_of_none_left {pid : Pid} {h : Host} (none : h.waitsLeft = 0) :
    (waitpid pid h).1 = .error .echild := by
  show Reply.bind (h.kernel.waits.headD (.error .echild)) _ = _
  rw [List.eq_nil_of_length_eq_zero none]
  rfl

def kill (pid : Pid) (signal : Signal) : HostM (Reply Unit) := modifyGet fun h =>
  let reply := h.kernel.kills.headD (.ok ())
  (reply, ({ h with kernel.kills := h.kernel.kills.tail }).record (.kill pid signal reply) reply)

def attach (pid : Pid) : HostM (Reply Unit) := modifyGet fun h =>
  let reply := h.kernel.attaches.headD (.ok ())
  (reply, ({ h with kernel.attaches := h.kernel.attaches.tail }).record (.attach pid reply) reply)

/-- lets a stopped process run on, delivering this signal to it, if any -/
def cont (pid : Pid) (signal : Option Signal) : HostM (Reply Unit) := modifyGet fun h =>
  let reply := h.kernel.conts.headD (.ok ())
  (reply, ({ h with kernel.conts := h.kernel.conts.tail }).record (.cont pid signal reply) reply)

def setOptions (pid : Pid) (options : Options) : HostM (Reply Unit) := modifyGet fun h =>
  let reply := h.kernel.setOptions.headD (.ok ())
  (reply, ({ h with kernel.setOptions := h.kernel.setOptions.tail }).record
    (.setOptions pid options reply) reply)

/-- asks that the calling process be traced by its parent -/
def traceMe : HostM (Reply Unit) := modifyGet fun h =>
  let reply := h.kernel.traceMes.headD (.ok ())
  (reply, ({ h with kernel.traceMes := h.kernel.traceMes.tail }).record (.traceMe reply) reply)

def exec (program : Bytes) (argv : PointerArray) (envp : Option PointerArray) :
    HostM (Reply Unit) := modifyGet fun h =>
  let reply := h.kernel.execs.headD (.error .enoent)
  (reply, ({ h with kernel.execs := h.kernel.execs.tail }).record
    (.exec program argv envp reply) reply)

def exit (code : Int32) : HostM Unit :=
  modify fun h => { h with journal := .call (.exit code) :: h.journal }

def getRegisterSet (pid : Pid) : HostM (Reply (Vector UInt64 RegisterSet.size)) :=
  modifyGet fun h =>
    let reply := h.kernel.registerSet pid
    (reply, h.record (.getRegisterSet pid reply) reply)

/-! ## peeks -/

def clearErrno : HostM Unit := modify fun h => { h with errno := .unknown }

/-- what a peek returns: the word, or `-1` for a failure -/
def peeked : Reply Word → Word
  | .ok w => w
  | .error _ => -1

def peekData (pid : Pid) (address : Address) : HostM Word := modifyGet fun h =>
  let reply := h.kernel.memory pid address
  (peeked reply, h.record (.peekData pid address reply) reply)

def peekUser (pid : Pid) (offset : UInt64) : HostM Word := modifyGet fun h =>
  let reply := h.kernel.registers pid offset
  (peeked reply, h.record (.peekUser pid offset reply) reply)

end Host

/-- an action that may fail with an error of the library -/
abbrev Attempt := ExceptT Error HostM

/-- what an attempt comes to on a host, and the host afterwards -/
def Attempt.runOn (act : Attempt α) (h : Host) : Except Error α × Host := act h

namespace Attempt

theorem runOn_pure (a : α) (h : Host) : runOn (pure a) h = (.ok a, h) := rfl

theorem runOn_throw (e : Error) (h : Host) : (throw e : Attempt α).runOn h = (.error e, h) := rfl

theorem runOn_lift (act : HostM α) (h : Host) :
    runOn (liftM act) h = (.ok (act h).1, (act h).2) := rfl

theorem runOn_bind (x : Attempt α) (f : α → Attempt β) (h : Host) :
    runOn (x >>= f) h = match x.runOn h with
      | (.ok a, g) => (f a).runOn g
      | (.error e, g) => (.error e, g) := by
  show ExceptT.bind x f h = _
  simp only [runOn, ExceptT.bind, ExceptT.mk, bind, StateT.bind]
  rcases x h with ⟨r, g⟩
  cases r <;> rfl

end Attempt

end ProcTrace
