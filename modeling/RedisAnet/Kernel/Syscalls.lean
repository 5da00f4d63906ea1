import RedisAnet.Kernel.Types

/-!
# System calls and their weakest preconditions

Each call anet.c makes is a function on the `World`: it takes the environment's answer for
the current tick and on success applies the kernel's effect; a failing call sets `errno` and
returns `-1`, as in C, and `close` and `freeaddrinfo` always release what they are given.
`wp x Q w` is the weakest precondition of the state monad, and every call has one `wp` rule,
so the proofs about anet.c never unfold a call.
-/

namespace RedisAnet.Kernel

/-! ## Resource updates -/

namespace Res

variable (r : Res)

def openFd (fd : Int) : Res := { r with fds := insert fd r.fds }

/-- `close(2)` always releases the descriptor; one that was not open is recorded. -/
def closeFd (fd : Int) : Res :=
  if fd ∈ r.fds then { r with fds := r.fds.erase fd }
  else { r with badCloses := fd :: r.badCloses }

/-- `getaddrinfo` hands out the list with handle `r.lists`. -/
def obtain : Res := { r with lists := r.lists + 1 }

def release (h : Nat) : Res :=
  { r with released := Function.update r.released h (r.released h + 1) }

@[simp] theorem openFd_fds (fd : Int) : (r.openFd fd).fds = insert fd r.fds := rfl
@[simp] theorem openFd_lists (fd : Int) : (r.openFd fd).lists = r.lists := rfl
@[simp] theorem openFd_released (fd : Int) : (r.openFd fd).released = r.released := rfl
@[simp] theorem openFd_badCloses (fd : Int) : (r.openFd fd).badCloses = r.badCloses := rfl
@[simp] theorem obtain_fds : r.obtain.fds = r.fds := rfl
@[simp] theorem obtain_lists : r.obtain.lists = r.lists + 1 := rfl
@[simp] theorem obtain_released : r.obtain.released = r.released := rfl
@[simp] theorem obtain_badCloses : r.obtain.badCloses = r.badCloses := rfl
@[simp] theorem release_fds (h : Nat) : (r.release h).fds = r.fds := rfl
@[simp] theorem release_lists (h : Nat) : (r.release h).lists = r.lists := rfl
@[simp] theorem release_released (h : Nat) :
    (r.release h).released = Function.update r.released h (r.released h + 1) := rfl
@[simp] theorem release_badCloses (h : Nat) : (r.release h).badCloses = r.badCloses := rfl

theorem closeFd_of_mem {fd : Int} (h : fd ∈ r.fds) :
    r.closeFd fd = { r with fds := r.fds.erase fd } := if_pos h

theorem mem_closeFd {fd s : Int} (h : fd ∈ r.fds) (hne : fd ≠ s) : fd ∈ (r.closeFd s).fds := by
  unfold closeFd
  split
  · exact Finset.mem_erase.2 ⟨hne, h⟩
  · exact h

end Res

/-! ## World updates -/

namespace World

variable (w : World)

def reply (c : Call) : c.Reply := w.env.answer w.tick c

/-- One more call has been answered. -/
def next : World := { w with tick := w.tick + 1 }

def fail (e : Nat) : World := { w with errno := e }

def setSock (fd : Int) (s : Sock) : World := { w with sock := Function.update w.sock fd s }

/-- The kernel hands out `fd` for a fresh socket `s`. -/
def openFd (fd : Int) (s : Sock) : World :=
  { w with res := w.res.openFd fd, sock := Function.update w.sock fd s }

def closeFd (fd : Int) : World := { w with res := w.res.closeFd fd }

def obtainList : World := { w with res := w.res.obtain }

def releaseList (h : Nat) : World := { w with res := w.res.release h }

@[simp] theorem next_res : w.next.res = w.res := rfl
@[simp] theorem fail_res (e : Nat) : (w.fail e).res = w.res := rfl
@[simp] theorem setSock_res (fd : Int) (s : Sock) : (w.setSock fd s).res = w.res := rfl
@[simp] theorem openFd_res (fd : Int) (s : Sock) : (w.openFd fd s).res = w.res.openFd fd := rfl
@[simp] theorem closeFd_res (fd : Int) : (w.closeFd fd).res = w.res.closeFd fd := rfl
@[simp] theorem obtainList_res : w.obtainList.res = w.res.obtain := rfl
@[simp] theorem releaseList_res (h : Nat) : (w.releaseList h).res = w.res.release h := rfl
@[simp] theorem next_sock : w.next.sock = w.sock := rfl
@[simp] theorem fail_sock (e : Nat) : (w.fail e).sock = w.sock := rfl
@[simp] theorem setSock_sock (fd : Int) (s : Sock) :
    (w.setSock fd s).sock = Function.update w.sock fd s := rfl
@[simp] theorem openFd_sock (fd : Int) (s : Sock) :
    (w.openFd fd s).sock = Function.update w.sock fd s := rfl
@[simp] theorem closeFd_sock (fd : Int) : (w.closeFd fd).sock = w.sock := rfl
@[simp] theorem obtainList_sock : w.obtainList.sock = w.sock := rfl
@[simp] theorem releaseList_sock (h : Nat) : (w.releaseList h).sock = w.sock := rfl
@[simp] theorem next_err : w.next.err = w.err := rfl
@[simp] theorem fail_err (e : Nat) : (w.fail e).err = w.err := rfl
@[simp] theorem setSock_err (fd : Int) (s : Sock) : (w.setSock fd s).err = w.err := rfl
@[simp] theorem openFd_err (fd : Int) (s : Sock) : (w.openFd fd s).err = w.err := rfl
@[simp] theorem closeFd_err (fd : Int) : (w.closeFd fd).err = w.err := rfl
@[simp] theorem obtainList_err : w.obtainList.err = w.err := rfl
@[simp] theorem releaseList_err (h : Nat) : (w.releaseList h).err = w.err := rfl

end World

/-! ## Weakest preconditions -/

def wp {α : Type} (x : Os α) (Q : α → World → Prop) (w : World) : Prop :=
  Q (x.run w).1 (x.run w).2

section Wp

variable {α β : Type} {Q : β → World → Prop} {w : World}

@[simp] theorem wp_pure (a : β) : wp (pure a : Os β) Q w ↔ Q a w := Iff.rfl

@[simp] theorem wp_bind (x : Os α) (f : α → Os β) :
    wp (x >>= f) Q w ↔ wp x (fun a w' => wp (f a) Q w') w := Iff.rfl

@[simp] theorem wp_ite (c : Prop) [Decidable c] (x y : Os β) :
    wp (if c then x else y) Q w ↔ if c then wp x Q w else wp y Q w := by
  split <;> rfl

@[simp] theorem wp_dite (c : Prop) [Decidable c] (x : c → Os β) (y : ¬c → Os β) :
    wp (if h : c then x h else y h) Q w ↔ if h : c then wp (x h) Q w else wp (y h) Q w := by
  split <;> rfl

theorem wp_mono {x : Os β} {Q' : β → World → Prop} (h : wp x Q w)
    (hQ : ∀ a w', Q a w' → Q' a w') : wp x Q' w :=
  hQ _ _ h

theorem wp_and {x : Os β} {Q' : β → World → Prop} (h : wp x Q w) (h' : wp x Q' w) :
    wp x (fun a w' => Q a w' ∧ Q' a w') w :=
  And.intro h h'

end Wp

/-! ## The calls -/

/-- `errno` as the C code reads it. -/
def getErrno : Os Nat := fun w => (w.errno, w)

def socket (domain type protocol : Int) : Os Int := fun w =>
  match w.reply (.socket domain type protocol) with
  | .ok () => (lowestFree w.res.fds, w.next.openFd (lowestFree w.res.fds) {})
  | .error e => (-1, w.next.fail e)

def setsockopt (fd level name : Int) (val : OptVal) : Os Int := fun w =>
  match w.reply (.setsockopt fd level name val) with
  | .ok () => (0, w.next.setSock fd
      { w.sock fd with opts := Function.update (w.sock fd).opts (level, name) (some val) })
  | .error e => (-1, w.next.fail e)

/-- `fcntl(2)` with the four commands anet.c uses; others change nothing. -/
def fcntl (fd cmd arg : Int) : Os Int := fun w =>
  match w.reply (.fcntl fd cmd arg) with
  | .error e => (-1, w.next.fail e)
  | .ok () =>
      if cmd = F_GETFL then ((w.sock fd).statusFlags, w.next)
      else if cmd = F_SETFL then (0, w.next.setSock fd { w.sock fd with statusFlags := arg })
      else if cmd = F_GETFD then ((w.sock fd).fdFlags, w.next)
      else if cmd = F_SETFD then (0, w.next.setSock fd { w.sock fd with fdFlags := arg })
      else (0, w.next)

def getaddrinfo (node service : Option String) (hints : Hints) :
    Os (Except Int AddrInfoList) := fun w =>
  match w.reply (.getaddrinfo node service hints) with
  | .ok entries => (.ok ⟨w.res.lists, entries⟩, w.next.obtainList)
  | .error rv => (.error rv, w.next)

def freeaddrinfo (l : AddrInfoList) : Os Unit := fun w => ((), w.releaseList l.handle)

def close (fd : Int) : Os Unit := fun w => ((), w.closeFd fd)

def bind (fd : Int) (addr : SockAddr) (len : Nat) : Os Int := fun w =>
  match w.reply (.bind fd addr len) with
  | .ok () => (0, w.next.setSock fd { w.sock fd with bound := some addr })
  | .error e => (-1, w.next.fail e)

/-- A connection that is established, or in progress on a non-blocking socket, records
its peer. -/
def connect (fd : Int) (addr : SockAddr) (len : Nat) : Os Int := fun w =>
  match w.reply (.connect fd addr len) with
  | .ok () => (0, w.next.setSock fd { w.sock fd with peer := some addr })
  | .error e =>
      if e = EINPROGRESS then (-1, (w.next.fail e).setSock fd { w.sock fd with peer := some addr })
      else (-1, w.next.fail e)

def listen (fd backlog : Int) : Os Int := fun w =>
  match w.reply (.listen fd backlog) with
  | .ok () => (0, w.next.setSock fd { w.sock fd with listening := true })
  | .error e => (-1, w.next.fail e)

/-- `accept(2)`: the new descriptor and the address written to `sa`. -/
def accept (fd : Int) : Os (Int × Option SockAddr) := fun w =>
  match w.reply (.accept fd) with
  | .ok peer => ((lowestFree w.res.fds, some peer),
      w.next.openFd (lowestFree w.res.fds) { peer := some peer })
  | .error e => ((-1, none), w.next.fail e)

def chmod (path : List UInt8) (mode : Nat) : Os Int := fun w =>
  match w.reply (.chmod path mode) with
  | .ok () => (0, w.next)
  | .error e => (-1, w.next.fail e)

def getpeername (fd : Int) : Os (Int × Option SockAddr) := fun w =>
  match w.reply (.getpeername fd) with
  | .ok addr => ((0, some addr), w.next)
  | .error e => ((-1, none), w.next.fail e)

def getsockname (fd : Int) : Os (Int × Option SockAddr) := fun w =>
  match w.reply (.getsockname fd) with
  | .ok addr => ((0, some addr), w.next)
  | .error e => ((-1, none), w.next.fail e)

/-! ## One rule per call -/

section Rules

variable {α : Type} {Q : α → World → Prop} {w : World}

@[simp] theorem wp_getErrno {Q : Nat → World → Prop} : wp getErrno Q w ↔ Q w.errno w := Iff.rfl

@[simp] theorem wp_socket {Q : Int → World → Prop} (domain type protocol : Int) :
    wp (socket domain type protocol) Q w ↔
      match w.reply (.socket domain type protocol) with
      | .ok () => Q (lowestFree w.res.fds) (w.next.openFd (lowestFree w.res.fds) {})
      | .error e => Q (-1) (w.next.fail e) := by
  simp only [wp, socket, StateT.run]
  split <;> rfl

@[simp] theorem wp_setsockopt {Q : Int → World → Prop} (fd level name : Int) (val : OptVal) :
    wp (setsockopt fd level name val) Q w ↔
      match w.reply (.setsockopt fd level name val) with
      | .ok () => Q 0 (w.next.setSock fd
          { w.sock fd with opts := Function.update (w.sock fd).opts (level, name) (some val) })
      | .error e => Q (-1) (w.next.fail e) := by
  simp only [wp, setsockopt, StateT.run]
  split <;> rfl

@[simp] theorem wp_fcntl {Q : Int → World → Prop} (fd cmd arg : Int) :
    wp (fcntl fd cmd arg) Q w ↔
      match w.reply (.fcntl fd cmd arg) with
      | .error e => Q (-1) (w.next.fail e)
      | .ok () =>
          if cmd = F_GETFL then Q (w.sock fd).statusFlags w.next
          else if cmd = F_SETFL then Q 0 (w.next.setSock fd { w.sock fd with statusFlags := arg })
          else if cmd = F_GETFD then Q (w.sock fd).fdFlags w.next
          else if cmd = F_SETFD then Q 0 (w.next.setSock fd { w.sock fd with fdFlags := arg })
          else Q 0 w.next := by
  simp only [wp, fcntl, StateT.run]
  split
  · rfl
  · split_ifs <;> rfl

@[simp] theorem wp_getaddrinfo {Q : Except Int AddrInfoList → World → Prop}
    (node service : Option String) (hints : Hints) :
    wp (getaddrinfo node service hints) Q w ↔
      match w.reply (.getaddrinfo node service hints) with
      | .ok entries => Q (.ok ⟨w.res.lists, entries⟩) w.next.obtainList
      | .error rv => Q (.error rv) w.next := by
  simp only [wp, getaddrinfo, StateT.run]
  split <;> rfl

@[simp] theorem wp_freeaddrinfo {Q : Unit → World → Prop} (l : AddrInfoList) :
    wp (freeaddrinfo l) Q w ↔ Q () (w.releaseList l.handle) := Iff.rfl

@[simp] theorem wp_close {Q : Unit → World → Prop} (fd : Int) :
    wp (close fd) Q w ↔ Q () (w.closeFd fd) := Iff.rfl

@[simp] theorem wp_bind_call {Q : Int → World → Prop} (fd : Int) (addr : SockAddr) (len : Nat) :
    wp (bind fd addr len) Q w ↔
      match w.reply (.bind fd addr len) with
      | .ok () => Q 0 (w.next.setSock fd { w.sock fd with bound := some addr })
      | .error e => Q (-1) (w.next.fail e) := by
  simp only [wp, bind, StateT.run]
  split <;> rfl

@[simp] theorem wp_connect {Q : Int → World → Prop} (fd : Int) (addr : SockAddr) (len : Nat) :
    wp (connect fd addr len) Q w ↔
      match w.reply (.connect fd addr len) with
      | .ok () => Q 0 (w.next.setSock fd { w.sock fd with peer := some addr })
      | .error e =>
          if e = EINPROGRESS then
            Q (-1) ((w.next.fail e).setSock fd { w.sock fd with peer := some addr })
          else Q (-1) (w.next.fail e) := by
  simp only [wp, connect, StateT.run]
  split
  · rfl
  · split_ifs <;> rfl

@[simp] theorem wp_listen {Q : Int → World → Prop} (fd backlog : Int) :
    wp (listen fd backlog) Q w ↔
      match w.reply (.listen fd backlog) with
      | .ok () => Q 0 (w.next.setSock fd { w.sock fd with listening := true })
      | .error e => Q (-1) (w.next.fail e) := by
  simp only [wp, listen, StateT.run]
  split <;> rfl

@[simp] theorem wp_accept {Q : Int × Option SockAddr → World → Prop} (fd : Int) :
    wp (accept fd) Q w ↔
      match w.reply (.accept fd) with
      | .ok peer => Q (lowestFree w.res.fds, some peer)
          (w.next.openFd (lowestFree w.res.fds) { peer := some peer })
      | .error e => Q (-1, none) (w.next.fail e) := by
  simp only [wp, accept, StateT.run]
  split <;> rfl

@[simp] theorem wp_chmod {Q : Int → World → Prop} (path : List UInt8) (mode : Nat) :
    wp (chmod path mode) Q w ↔
      match w.reply (.chmod path mode) with
      | .ok () => Q 0 w.next
      | .error e => Q (-1) (w.next.fail e) := by
  simp only [wp, chmod, StateT.run]
  split <;> rfl

@[simp] theorem wp_getpeername {Q : Int × Option SockAddr → World → Prop} (fd : Int) :
    wp (getpeername fd) Q w ↔
      match w.reply (.getpeername fd) with
      | .ok addr => Q (0, some addr) w.next
      | .error e => Q (-1, none) (w.next.fail e) := by
  simp only [wp, getpeername, StateT.run]
  split <;> rfl

@[simp] theorem wp_getsockname {Q : Int × Option SockAddr → World → Prop} (fd : Int) :
    wp (getsockname fd) Q w ↔
      match w.reply (.getsockname fd) with
      | .ok addr => Q (0, some addr) w.next
      | .error e => Q (-1, none) (w.next.fail e) := by
  simp only [wp, getsockname, StateT.run]
  split <;> rfl

end Rules

end RedisAnet.Kernel
