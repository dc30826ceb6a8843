/-!
# The register file of x86_64

The registers that lie at the start of a process's user area, in order, eight bytes each: a
register's offset is its position times eight.
-/

namespace ProcTrace

inductive UserRegister where
  | r15 | r14 | r13 | r12 | rbp | rbx | r11 | r10 | r9 | r8 | rax | rcx | rdx | rsi | rdi
  | origRax | rip | cs | eflags | rsp | ss | fsBase | gsBase | ds | es | fs | gs
deriving DecidableEq

namespace UserRegister

/-- in the order in which they lie -/
def all : List UserRegister :=
  [r15, r14, r13, r12, rbp, rbx, r11, r10, r9, r8, rax, rcx, rdx, rsi, rdi, origRax, rip, cs,
    eflags, rsp, ss, fsBase, gsBase, ds, es, fs, gs]

def position (r : UserRegister) : Nat := all.idxOf r

def offset (r : UserRegister) : UInt64 := 8 * .ofNat r.position

end UserRegister

end ProcTrace
