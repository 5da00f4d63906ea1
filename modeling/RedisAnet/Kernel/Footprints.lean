import RedisAnet.Kernel.Syscalls

/-!
# Frame properties and the footprints of the calls

A frame property relates the world before a run to the world after it.  Those used for
anet.c hold of a run that does nothing, compose, and survive the bookkeeping every call
does: the clock, `errno` and the caller's buffer (`Frame`).  `Preserves R x` says that every
run of `x` satisfies `R`.  Its rules for `pure`, bind and `if` are proved once here, and so
is the footprint of each call: the updates of the world it can make, so that a frame
property holds of a call as soon as it holds of those updates.
-/

namespace RedisAnet.Kernel

class Frame (R : World → World → Prop) : Prop where
  refl : ∀ w, R w w
  trans : ∀ {w₁ w₂ w₃ : World}, R w₁ w₂ → R w₂ w₃ → R w₁ w₃
  next : ∀ w, R w w.next
  fail : ∀ w e, R w (w.fail e)
  setErr : ∀ w m, R w { w with err := some m }

/-- Every run of `x`, from every world, ends in a world that `R` relates to the one it
began in. -/
def Preserves (R : World → World → Prop) {α : Type} (x : Os α) : Prop :=
  ∀ w, wp x (fun _ w' => R w w') w

section Rules

variable {R : World → World → Prop} {α β : Type} {x : Os α} {f : α → Os β}

theorem Preserves.ite {c : Prop} [Decidable c] {y : Os α} (hx : Preserves R x)
    (hy : Preserves R y) : Preserves R (if c then x else y) := by
  split <;> assumption

theorem Preserves.ite_of {c : Prop} [Decidable c] {y : Os α} (hx : c → Preserves R x)
    (hy : ¬c → Preserves R y) : Preserves R (if c then x else y) := by
  split
  · exact hx ‹_›
  · exact hy ‹_›

theorem Preserves.dite {c : Prop} [Decidable c] {x : c → Os α} {y : ¬c → Os α}
    (hx : ∀ h, Preserves R (x h)) (hy : ∀ h, Preserves R (y h)) : Preserves R (dite c x y) := by
  split
  · exact hx ‹_›
  · exact hy ‹_›

theorem Preserves.imp {S : World → World → Prop} (hx : Preserves R x)
    (h : ∀ w w', R w w' → S w w') : Preserves S x :=
  fun w => wp_mono (hx w) fun _ _ => h w _

variable [Frame R]

theorem Frame.answered {w w' : World} (h : R w.next w') : R w w' := Frame.trans (Frame.next w) h

theorem Preserves.pure (a : α) : Preserves R (Pure.pure a : Os α) := fun w => Frame.refl (R := R) w

theorem Preserves.bind (hx : Preserves R x) (hf : ∀ a, Preserves R (f a)) :
    Preserves R (x >>= f) :=
  fun w => (wp_bind x f).2 <| wp_mono (hx w) fun a _ h => wp_mono (hf a _) fun _ _ => Frame.trans h

end Rules

/-! ## The footprint of each call -/

section Footprints

variable {R : World → World → Prop}

theorem preserves_freeaddrinfo (l : AddrInfoList) (hrelease : ∀ w, R w (w.releaseList l.handle)) :
    Preserves R (freeaddrinfo l) :=
  hrelease

theorem preserves_close (fd : Int) (hclose : ∀ w, R w (w.closeFd fd)) : Preserves R (close fd) :=
  hclose

variable [Frame R]

theorem preserves_getErrno : Preserves R getErrno := fun w => Frame.refl (R := R) w

theorem preserves_socket (domain type protocol : Int)
    (hopen : ∀ w, R w (w.openFd (lowestFree w.res.fds) {})) :
    Preserves R (socket domain type protocol) := fun w => by
  rw [wp_socket]
  split
  · exact Frame.answered (hopen _)
  · exact Frame.answered (Frame.fail _ _)

theorem preserves_setsockopt (fd level name : Int) (val : OptVal)
    (hset : ∀ w, R w (w.setSock fd
      { w.sock fd with opts := Function.update (w.sock fd).opts (level, name) (some val) })) :
    Preserves R (setsockopt fd level name val) := fun w => by
  rw [wp_setsockopt]
  split
  · exact Frame.answered (hset _)
  · exact Frame.answered (Frame.fail _ _)

theorem preserves_fcntl (fd cmd arg : Int)
    (hstatus : ∀ w, R w (w.setSock fd { w.sock fd with statusFlags := arg }))
    (hfd : ∀ w, R w (w.setSock fd { w.sock fd with fdFlags := arg })) :
    Preserves R (fcntl fd cmd arg) := fun w => by
  rw [wp_fcntl]
  split
  · exact Frame.answered (Frame.fail _ _)
  · split_ifs
    · exact Frame.next w
    · exact Frame.answered (hstatus _)
    · exact Frame.next w
    · exact Frame.answered (hfd _)
    · exact Frame.next w

theorem preserves_getaddrinfo (node service : Option String) (hints : Hints)
    (hobtain : ∀ w, R w w.obtainList) : Preserves R (getaddrinfo node service hints) := fun w => by
  rw [wp_getaddrinfo]
  split
  · exact Frame.answered (hobtain _)
  · exact Frame.next w

theorem preserves_bind_call (fd : Int) (addr : SockAddr) (len : Nat)
    (hbound : ∀ w, R w (w.setSock fd { w.sock fd with bound := some addr })) :
    Preserves R (bind fd addr len) := fun w => by
  rw [wp_bind_call]
  split
  · exact Frame.answered (hbound _)
  · exact Frame.answered (Frame.fail _ _)

theorem preserves_connect (fd : Int) (addr : SockAddr) (len : Nat)
    (hpeer : ∀ w, R w (w.setSock fd { w.sock fd with peer := some addr })) :
    Preserves R (connect fd addr len) := fun w => by
  rw [wp_connect]
  split
  · exact Frame.answered (hpeer _)
  · split_ifs
    · exact Frame.answered (Frame.trans (Frame.fail _ _) (hpeer _))
    · exact Frame.answered (Frame.fail _ _)

theorem preserves_listen (fd backlog : Int)
    (hlisten : ∀ w, R w (w.setSock fd { w.sock fd with listening := true })) :
    Preserves R (listen fd backlog) := fun w => by
  rw [wp_listen]
  split
  · exact Frame.answered (hlisten _)
  · exact Frame.answered (Frame.fail _ _)

theorem preserves_accept (fd : Int)
    (hopen : ∀ w peer, R w (w.openFd (lowestFree w.res.fds) { peer := some peer })) :
    Preserves R (accept fd) := fun w => by
  rw [wp_accept]
  split
  · exact Frame.answered (hopen _ _)
  · exact Frame.answered (Frame.fail _ _)

theorem preserves_chmod (path : List UInt8) (mode : Nat) : Preserves R (chmod path mode) :=
  fun w => by
    rw [wp_chmod]
    split
    · exact Frame.next w
    · exact Frame.answered (Frame.fail _ _)

theorem preserves_getpeername (fd : Int) : Preserves R (getpeername fd) := fun w => by
  rw [wp_getpeername]
  split
  · exact Frame.next w
  · exact Frame.answered (Frame.fail _ _)

theorem preserves_getsockname (fd : Int) : Preserves R (getsockname fd) := fun w => by
  rw [wp_getsockname]
  split
  · exact Frame.next w
  · exact Frame.answered (Frame.fail _ _)

end Footprints

end RedisAnet.Kernel
