/-!
# Error numbers

`Errno` holds the error numbers that the operating system gives a name, in the order of the
numbers, and `unknown` for every other number, zero included: it stands both for a failure without
a name and for no failure.
-/

namespace ProcTrace

inductive Errno where
  | eperm | enoent | esrch | eintr | eio | enxio | e2big | enoexec | ebadf | echild | eagain
  | enomem | eacces | efault | enotblk | ebusy | eexist | exdev | enodev | enotdir | eisdir
  | einval | enfile | emfile | enotty | etxtbsy | efbig | enospc | espipe | erofs | emlink | epipe
  | edom | erange | edeadlk | enametoolong | enolck | enosys | enotempty | eloop | enomsg | eidrm
  | echrng | el2nsync | el3hlt | el3rst | elnrng | eunatch | enocsi | el2hlt | ebade | ebadr
  | exfull | enoano | ebadrqc | ebadslt | ebfont | enostr | enodata | etime | enosr | enonet
  | enopkg | eremote | enolink | eadv | esrmnt | ecomm | eproto | emultihop | edotdot | ebadmsg
  | eoverflow | enotuniq | ebadfd | eremchg | elibacc | elibbad | elibscn | elibmax | elibexec
  | eilseq | erestart | estrpipe | eusers | enotsock | edestaddrreq | emsgsize | eprototype
  | enoprotoopt | eprotonosupport | esocktnosupport | eopnotsupp | epfnosupport | eafnosupport
  | eaddrinuse | eaddrnotavail | enetdown | enetunreach | enetreset | econnaborted | econnreset
  | enobufs | eisconn | enotconn | eshutdown | etoomanyrefs | etimedout | econnrefused | ehostdown
  | ehostunreach | ealready | einprogress | estale | euclean | enotnam | enavail | eisnam
  | eremoteio | edquot | enomedium | emediumtype | ecanceled | enokey | ekeyexpired | ekeyrevoked
  | ekeyrejected | eownerdead | enotrecoverable | erfkill | ehwpoison | unknown
deriving DecidableEq

namespace Errno

def all : List Errno :=
  [eperm, enoent, esrch, eintr, eio, enxio, e2big, enoexec, ebadf, echild, eagain, enomem, eacces,
    efault, enotblk, ebusy, eexist, exdev, enodev, enotdir, eisdir, einval, enfile, emfile,
    enotty, etxtbsy, efbig, enospc, espipe, erofs, emlink, epipe, edom, erange, edeadlk,
    enametoolong, enolck, enosys, enotempty, eloop, enomsg, eidrm, echrng, el2nsync, el3hlt,
    el3rst, elnrng, eunatch, enocsi, el2hlt, ebade, ebadr, exfull, enoano, ebadrqc, ebadslt,
    ebfont, enostr, enodata, etime, enosr, enonet, enopkg, eremote, enolink, eadv, esrmnt, ecomm,
    eproto, emultihop, edotdot, ebadmsg, eoverflow, enotuniq, ebadfd, eremchg, elibacc, elibbad,
    elibscn, elibmax, elibexec, eilseq, erestart, estrpipe, eusers, enotsock, edestaddrreq,
    emsgsize, eprototype, enoprotoopt, eprotonosupport, esocktnosupport, eopnotsupp, epfnosupport,
    eafnosupport, eaddrinuse, eaddrnotavail, enetdown, enetunreach, enetreset, econnaborted,
    econnreset, enobufs, eisconn, enotconn, eshutdown, etoomanyrefs, etimedout, econnrefused,
    ehostdown, ehostunreach, ealready, einprogress, estale, euclean, enotnam, enavail, eisnam,
    eremoteio, edquot, enomedium, emediumtype, ecanceled, enokey, ekeyexpired, ekeyrevoked,
    ekeyrejected, eownerdead, enotrecoverable, erfkill, ehwpoison, unknown]

theorem mem_all (e : Errno) : e ∈ all := by cases e <;> decide +kernel

def name : Errno → String
  | eperm => "EPERM"
  | enoent => "ENOENT"
  | esrch => "ESRCH"
  | eintr => "EINTR"
  | eio => "EIO"
  | enxio => "ENXIO"
  | e2big => "E2BIG"
  | enoexec => "ENOEXEC"
  | ebadf => "EBADF"
  | echild => "ECHILD"
  | eagain => "EAGAIN"
  | enomem => "ENOMEM"
  | eacces => "EACCES"
  | efault => "EFAULT"
  | enotblk => "ENOTBLK"
  | ebusy => "EBUSY"
  | eexist => "EEXIST"
  | exdev => "EXDEV"
  | enodev => "ENODEV"
  | enotdir => "ENOTDIR"
  | eisdir => "EISDIR"
  | einval => "EINVAL"
  | enfile => "ENFILE"
  | emfile => "EMFILE"
  | enotty => "ENOTTY"
  | etxtbsy => "ETXTBSY"
  | efbig => "EFBIG"
  | enospc => "ENOSPC"
  | espipe => "ESPIPE"
  | erofs => "EROFS"
  | emlink => "EMLINK"
  | epipe => "EPIPE"
  | edom => "EDOM"
  | erange => "ERANGE"
  | edeadlk => "EDEADLK"
  | enametoolong => "ENAMETOOLONG"
  | enolck => "ENOLCK"
  | enosys => "ENOSYS"
  | enotempty => "ENOTEMPTY"
  | eloop => "ELOOP"
  | enomsg => "ENOMSG"
  | eidrm => "EIDRM"
  | echrng => "ECHRNG"
  | el2nsync => "EL2NSYNC"
  | el3hlt => "EL3HLT"
  | el3rst => "EL3RST"
  | elnrng => "ELNRNG"
  | eunatch => "EUNATCH"
  | enocsi => "ENOCSI"
  | el2hlt => "EL2HLT"
  | ebade => "EBADE"
  | ebadr => "EBADR"
  | exfull => "EXFULL"
  | enoano => "ENOANO"
  | ebadrqc => "EBADRQC"
  | ebadslt => "EBADSLT"
  | ebfont => "EBFONT"
  | enostr => "ENOSTR"
  | enodata => "ENODATA"
  | etime => "ETIME"
  | enosr => "ENOSR"
  | enonet => "ENONET"
  | enopkg => "ENOPKG"
  | eremote => "EREMOTE"
  | enolink => "ENOLINK"
  | eadv => "EADV"
  | esrmnt => "ESRMNT"
  | ecomm => "ECOMM"
  | eproto => "EPROTO"
  | emultihop => "EMULTIHOP"
  | edotdot => "EDOTDOT"
  | ebadmsg => "EBADMSG"
  | eoverflow => "EOVERFLOW"
  | enotuniq => "ENOTUNIQ"
  | ebadfd => "EBADFD"
  | eremchg => "EREMCHG"
  | elibacc => "ELIBACC"
  | elibbad => "ELIBBAD"
  | elibscn => "ELIBSCN"
  | elibmax => "ELIBMAX"
  | elibexec => "ELIBEXEC"
  | eilseq => "EILSEQ"
  | erestart => "ERESTART"
  | estrpipe => "ESTRPIPE"
  | eusers => "EUSERS"
  | enotsock => "ENOTSOCK"
  | edestaddrreq => "EDESTADDRREQ"
  | emsgsize => "EMSGSIZE"
  | eprototype => "EPROTOTYPE"
  | enoprotoopt => "ENOPROTOOPT"
  | eprotonosupport => "EPROTONOSUPPORT"
  | esocktnosupport => "ESOCKTNOSUPPORT"
  | eopnotsupp => "EOPNOTSUPP"
  | epfnosupport => "EPFNOSUPPORT"
  | eafnosupport => "EAFNOSUPPORT"
  | eaddrinuse => "EADDRINUSE"
  | eaddrnotavail => "EADDRNOTAVAIL"
  | enetdown => "ENETDOWN"
  | enetunreach => "ENETUNREACH"
  | enetreset => "ENETRESET"
  | econnaborted => "ECONNABORTED"
  | econnreset => "ECONNRESET"
  | enobufs => "ENOBUFS"
  | eisconn => "EISCONN"
  | enotconn => "ENOTCONN"
  | eshutdown => "ESHUTDOWN"
  | etoomanyrefs => "ETOOMANYREFS"
  | etimedout => "ETIMEDOUT"
  | econnrefused => "ECONNREFUSED"
  | ehostdown => "EHOSTDOWN"
  | ehostunreach => "EHOSTUNREACH"
  | ealready => "EALREADY"
  | einprogress => "EINPROGRESS"
  | estale => "ESTALE"
  | euclean => "EUCLEAN"
  | enotnam => "ENOTNAM"
  | enavail => "ENAVAIL"
  | eisnam => "EISNAM"
  | eremoteio => "EREMOTEIO"
  | edquot => "EDQUOT"
  | enomedium => "ENOMEDIUM"
  | emediumtype => "EMEDIUMTYPE"
  | ecanceled => "ECANCELED"
  | enokey => "ENOKEY"
  | ekeyexpired => "EKEYEXPIRED"
  | ekeyrevoked => "EKEYREVOKED"
  | ekeyrejected => "EKEYREJECTED"
  | eownerdead => "EOWNERDEAD"
  | enotrecoverable => "ENOTRECOVERABLE"
  | erfkill => "ERFKILL"
  | ehwpoison => "EHWPOISON"
  | unknown => "UnknownErrno"

/-- the number of this name -/
def ofName? (s : String) : Option Errno := all.find? (·.name == s)

end Errno

end ProcTrace
