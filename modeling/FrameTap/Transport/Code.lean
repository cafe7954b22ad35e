import FrameTap.Text.Basic

/-!
# Failure codes of a transport

The failures that a message transport reports, each with its symbolic name and the
text that describes it.
-/

namespace FrameTap.Transport

inductive Code where
  | eacces | eaddrinuse | eagain | ebusy | econnrefused | efault | eintr | ehostunreach
  | einprogress | einval | emfile | emsgsize | enametoolong | enodev | enoent | enomem
  | enotconn | enotsock | eproto | eprotonosupport | enotsup | enobufs | enetdown
  | eaddrnotavail | efsm | enocompatproto | eterm | emthread
  deriving DecidableEq

namespace Code

def all : List Code :=
  [eacces, eaddrinuse, eagain, ebusy, econnrefused, efault, eintr, ehostunreach,
   einprogress, einval, emfile, emsgsize, enametoolong, enodev, enoent, enomem,
   enotconn, enotsock, eproto, eprotonosupport, enotsup, enobufs, enetdown,
   eaddrnotavail, efsm, enocompatproto, eterm, emthread]

def name : Code → String
  | eacces => "EACCES"
  | eaddrinuse => "EADDRINUSE"
  | eagain => "EAGAIN"
  | ebusy => "EBUSY"
  | econnrefused => "ECONNREFUSED"
  | efault => "EFAULT"
  | eintr => "EINTR"
  | ehostunreach => "EHOSTUNREACH"
  | einprogress => "EINPROGRESS"
  | einval => "EINVAL"
  | emfile => "EMFILE"
  | emsgsize => "EMSGSIZE"
  | enametoolong => "ENAMETOOLONG"
  | enodev => "ENODEV"
  | enoent => "ENOENT"
  | enomem => "ENOMEM"
  | enotconn => "ENOTCONN"
  | enotsock => "ENOTSOCK"
  | eproto => "EPROTO"
  | eprotonosupport => "EPROTONOSUPPORT"
  | enotsup => "ENOTSUP"
  | enobufs => "ENOBUFS"
  | enetdown => "ENETDOWN"
  | eaddrnotavail => "EADDRNOTAVAIL"
  | efsm => "EFSM"
  | enocompatproto => "ENOCOMPATPROTO"
  | eterm => "ETERM"
  | emthread => "EMTHREAD"

def message : Code → Text
  | eacces => "Permission denied".toList
  | eaddrinuse => "Address already in use".toList
  | eagain => "Resource temporarily unavailable".toList
  | ebusy => "Device or resource busy".toList
  | econnrefused => "Connection refused".toList
  | efault => "Bad address".toList
  | eintr => "Interrupted system call".toList
  | ehostunreach => "Host unreachable".toList
  | einprogress => "Operation now in progress".toList
  | einval => "Invalid argument".toList
  | emfile => "Too many open files".toList
  | emsgsize => "Message too long".toList
  | enametoolong => "File name too long".toList
  | enodev => "No such device".toList
  | enoent => "No such file or directory".toList
  | enomem => "Cannot allocate memory".toList
  | enotconn => "Transport endpoint is not connected".toList
  | enotsock => "Socket operation on non-socket".toList
  | eproto => "Protocol error".toList
  | eprotonosupport => "Protocol not supported".toList
  | enotsup => "Operation not supported".toList
  | enobufs => "No buffer space available".toList
  | enetdown => "Network is down".toList
  | eaddrnotavail => "Cannot assign requested address".toList
  | efsm => "Operation cannot be accomplished in current state".toList
  | enocompatproto => "The protocol is not compatible with the socket type".toList
  | eterm => "Context was terminated".toList
  | emthread => "No thread available".toList

def ofName? (name : String) : Option Code := all.find? fun code => code.name == name

/-- A code is found under its own name. -/
theorem ofName?_name (code : Code) : ofName? code.name = some code := by cases code <;> rfl

end Code
end FrameTap.Transport
