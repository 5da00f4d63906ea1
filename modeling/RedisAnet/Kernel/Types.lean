import Mathlib.Data.Fintype.Card
import Mathlib.Data.Int.Bitwise

/-!
# The system interface of anet.c

The state anet.c works on is not in the C file but in the process: the table of open
descriptors, the `addrinfo` lists handed out by the resolver, `errno`, the caller's error
buffer and the kernel's per-socket state, fixed here as a record, `World`, with an arbitrary
environment whose `Env.answer n c` is the reply to the `n`-th call, `c`.  A run over all
environments therefore ranges over every sequence of successes and failures and every
address list the resolver can return; what the kernel itself decides (which descriptor
`socket` or `accept` returns, what `close` and `freeaddrinfo` release) is not the
environment's choice.  C buffers are lists of bytes.
-/

namespace RedisAnet.Kernel

/-! ## Constants

Return codes of anet.c come from anet.h, which is not among the sources.  It defines
`ANET_OK 0` and `ANET_ERR -1`; anet.c relies on the second value itself, since
`anetTcpAccept` tests the `ANET_ERR` returned by `anetGenericAccept` with `== -1`, and
`_anetTcpServer` starts `s` at `-1` and tests it with `!= -1` on the way to
`s = ANET_ERR`.  The other constants are the Linux values of the system headers. -/

def ANET_OK : Int := 0
def ANET_ERR : Int := -1
/-- anet.h: `ANET_IP_ONLY (1<<0)`. -/
def ANET_IP_ONLY : Int := 1
/-- anet.h: `FD_TO_PEER_NAME 0`. -/
def FD_TO_PEER_NAME : Int := 0

def AF_UNSPEC : Int := 0
def AF_LOCAL : Int := 1
def AF_UNIX : Int := 1
def AF_INET : Int := 2
def AF_INET6 : Int := 10
def SOCK_STREAM : Int := 1

def SOL_SOCKET : Int := 1
def SO_REUSEADDR : Int := 2
def SO_KEEPALIVE : Int := 9
def SO_RCVTIMEO : Int := 20
def SO_SNDTIMEO : Int := 21
def IPPROTO_TCP : Int := 6
def IPPROTO_IPV6 : Int := 41
def TCP_NODELAY : Int := 1
def TCP_KEEPIDLE : Int := 4
def TCP_KEEPINTVL : Int := 5
def TCP_KEEPCNT : Int := 6
def IPV6_V6ONLY : Int := 26

def F_GETFD : Int := 1
def F_SETFD : Int := 2
def F_GETFL : Int := 3
def F_SETFL : Int := 4
def FD_CLOEXEC : Int := 1
def O_RDWR : Int := 2
def O_NONBLOCK : Int := 2048

def AI_PASSIVE : Int := 1
def AI_NUMERICHOST : Int := 4

def EINTR : Nat := 4
def EINPROGRESS : Nat := 115

def INET_ADDRSTRLEN : Nat := 16
def INET6_ADDRSTRLEN : Nat := 46

/-- The bytes of an ASCII text, as the C code's literals and `%d` give them. -/
def ascii (s : String) : List UInt8 := s.data.map Char.toUInt8

/-- A C string in a buffer: its bytes up to the first NUL. -/
def cString (buf : List UInt8) : List UInt8 := buf.takeWhile (· ≠ 0)

/-! ## Addresses and system calls -/

/-- An address as `inet_ntop` prints it: shorter than the buffer size the system headers
give for its family, `INET_ADDRSTRLEN` or `INET6_ADDRSTRLEN`, which counts the NUL. -/
structure AddrText (size : Nat) where
  bytes : List UInt8
  fits : bytes.length < size
  deriving DecidableEq, Repr

/-- A socket address: for the internet families the address as `inet_ntop` prints it and
the port in host order, for `AF_LOCAL` the 108 bytes of `sun_path`. -/
inductive SockAddr where
  | inet (ip : AddrText INET_ADDRSTRLEN) (port : Nat)
  | inet6 (ip : AddrText INET6_ADDRSTRLEN) (port : Nat)
  | unix (sun_path : List UInt8)
  | other (family : Int)
  deriving DecidableEq, Repr

def SockAddr.family : SockAddr → Int
  | .inet .. => AF_INET
  | .inet6 .. => AF_INET6
  | .unix _ => AF_LOCAL
  | .other family => family

/-- The text `inet_ntop` prints for the address.  anet.c reads every family other than
`AF_INET` through the `sockaddr_in6` view; a family with no internet address gives the
empty text here. -/
def SockAddr.host : SockAddr → List UInt8
  | .inet ip _ => ip.bytes
  | .inet6 ip _ => ip.bytes
  | _ => []

theorem SockAddr.host_length_lt (sa : SockAddr) : sa.host.length < INET6_ADDRSTRLEN := by
  cases sa with
  | inet ip _ => exact lt_of_lt_of_le ip.fits (by decide)
  | inet6 ip _ => exact ip.fits
  | _ => exact Nat.zero_lt_succ _

/-- `ntohs(sin_port)` or `ntohs(sin6_port)`, as `SockAddr.host` reads the address. -/
def SockAddr.port : SockAddr → Nat
  | .inet _ port | .inet6 _ port => port
  | _ => 0

/-- `((struct sockaddr_un *) sa)->sun_path` for an `AF_LOCAL` address. -/
def SockAddr.sunPath : SockAddr → List UInt8
  | .unix sun_path => sun_path
  | _ => []

/-- One entry of a `getaddrinfo` result; `ai_next` is the list structure. -/
structure AddrInfo where
  family : Int
  socktype : Int
  protocol : Int
  addr : SockAddr
  addrlen : Nat
  deriving DecidableEq, Repr

/-- The fields of `struct addrinfo hints` that anet.c sets; the others are zero. -/
structure Hints where
  flags : Int := 0
  family : Int := AF_UNSPEC
  socktype : Int := 0
  deriving DecidableEq, Repr

/-- A list returned by `getaddrinfo`: the handle `freeaddrinfo` releases, and its
entries in `ai_next` order. -/
structure AddrInfoList where
  handle : Nat
  entries : List AddrInfo
  deriving DecidableEq, Repr

/-- The value passed to `setsockopt`: an `int`, or a `struct timeval`. -/
inductive OptVal where
  | int (v : Int)
  | timeval (sec usec : Int)
  deriving DecidableEq, Repr

/-- The calls whose outcome the environment decides, with the arguments anet.c passes. -/
inductive Call where
  | socket (domain type protocol : Int)
  | setsockopt (fd level name : Int) (val : OptVal)
  | fcntl (fd cmd arg : Int)
  | getaddrinfo (node service : Option String) (hints : Hints)
  | bind (fd : Int) (addr : SockAddr) (len : Nat)
  | connect (fd : Int) (addr : SockAddr) (len : Nat)
  | listen (fd backlog : Int)
  | accept (fd : Int)
  | chmod (path : List UInt8) (mode : Nat)
  | getpeername (fd : Int)
  | getsockname (fd : Int)
  deriving DecidableEq, Repr

/-- What the environment may answer to a call: the resolver's list or its nonzero error
code; the peer or local address; otherwise success or the `errno` of the failure. -/
def Call.Reply : Call → Type
  | .getaddrinfo .. => Except Int (List AddrInfo)
  | .accept _ | .getpeername _ | .getsockname _ => Except Nat SockAddr
  | _ => Except Nat Unit

structure Env where
  answer : (n : Nat) → (c : Call) → c.Reply

/-! ## The process state -/

/-- The kernel's state of one socket, as far as anet.c's calls change it. -/
structure Sock where
  statusFlags : Int := O_RDWR
  fdFlags : Int := 0
  opts : Int × Int → Option OptVal := fun _ => none
  bound : Option SockAddr := none
  peer : Option SockAddr := none
  listening : Bool := false

/-- The resources anet.c acquires and must give back: open descriptors, the number of
`addrinfo` lists handed out so far (the next one gets that number as handle), how often
each list was passed to `freeaddrinfo`, and every `close` of a descriptor that was not
open, most recent first. -/
structure Res where
  fds : Finset Int
  lists : Nat
  released : Nat → Nat
  badCloses : List Int

/-- The message `anetSetError` formats: the format text of the source and its argument. -/
inductive FmtArg where
  | strerror (errno : Nat)
  | gaiStrerror (rv : Int)
  | int (v : Int)
  deriving DecidableEq, Repr

structure Msg where
  fmt : String
  arg : FmtArg
  deriving DecidableEq, Repr

/-- The `char *err` argument: `NULL`, or the caller's buffer. -/
inductive ErrPtr where
  | null
  | buf
  deriving DecidableEq, Repr

structure World where
  env : Env
  tick : Nat
  errno : Nat
  err : Option Msg
  res : Res
  sock : Int → Sock

abbrev Os := StateM World

theorem exists_free (fds : Finset Int) : ∃ n : Nat, (n : Int) ∉ fds := by
  obtain ⟨n, hn⟩ := Infinite.exists_not_mem_finset (fds.image Int.toNat)
  exact ⟨n, fun h => hn (Finset.mem_image.2 ⟨n, h, rfl⟩)⟩

/-- The descriptor the kernel hands out: the lowest one not in use. -/
def lowestFree (fds : Finset Int) : Nat := Nat.find (exists_free fds)

theorem lowestFree_not_mem (fds : Finset Int) : (lowestFree fds : Int) ∉ fds :=
  Nat.find_spec (exists_free fds)

end RedisAnet.Kernel
