import RedisAnet.Anet.Server
import RedisAnet.Anet.Accept
import RedisAnet.Anet.Address

/-!
# What anet.c leaves alone

Two frame properties, each a `Preserves` of a relation between worlds and composed along
the code.  The setters open and close nothing and change only the flags and options of the
descriptor they are given (`ConfiguresOnly`); the functions that create descriptors leave
every descriptor open when they are called open, with its socket as it was (`LeavesOpen`),
since the code that works on a socket `s` just made leaves every other open descriptor
alone (`LeavesOpenBut`) and a socket a creator returns was not open at the start.
-/

namespace RedisAnet.Anet

open RedisAnet.Kernel

/-! ## Setters: the flags and options of one descriptor -/

/-- `so'` is `so` with at most its flags and options changed. -/
structure SameEndpoint (so so' : Sock) : Prop where
  bound : so'.bound = so.bound
  peer : so'.peer = so.peer
  listening : so'.listening = so.listening

theorem SameEndpoint.refl (so : Sock) : SameEndpoint so so := ⟨rfl, rfl, rfl⟩

theorem SameEndpoint.trans {so₁ so₂ so₃ : Sock} (h₁ : SameEndpoint so₁ so₂)
    (h₂ : SameEndpoint so₂ so₃) : SameEndpoint so₁ so₃ :=
  ⟨h₂.bound.trans h₁.bound, h₂.peer.trans h₁.peer, h₂.listening.trans h₁.listening⟩

/-- From `w` to `w'` no descriptor was opened or closed, no socket but that of `fd` changed,
and that one only in its flags and options. -/
structure OptionsOnly (fd : Int) (w w' : World) : Prop where
  res : w'.res = w.res
  same : SameEndpoint (w.sock fd) (w'.sock fd)
  others : ∀ fd', fd' ≠ fd → w'.sock fd' = w.sock fd'

namespace OptionsOnly

variable {fd : Int} {w w₁ w₂ : World}

theorem of_sock (hres : w₁.res = w.res) (hsock : w₁.sock = w.sock) : OptionsOnly fd w w₁ :=
  ⟨hres, hsock ▸ .refl _, fun _ _ => congrFun hsock _⟩

theorem trans (h₁ : OptionsOnly fd w w₁) (h₂ : OptionsOnly fd w₁ w₂) : OptionsOnly fd w w₂ :=
  ⟨h₂.res.trans h₁.res, h₁.same.trans h₂.same, fun fd' hne => (h₂.others fd' hne).trans (h₁.others fd' hne)⟩

theorem setSock {so : Sock} (h : SameEndpoint (w.sock fd) so) : OptionsOnly fd w (w.setSock fd so) :=
  ⟨rfl, by simpa using h, fun _ hne => Function.update_noteq hne _ _⟩

theorem sameEndpoint (h : OptionsOnly fd w w₁) (fd' : Int) :
    SameEndpoint (w.sock fd') (w₁.sock fd') := by
  by_cases hne : fd' = fd
  · exact hne ▸ h.same
  · exact h.others fd' hne ▸ .refl _

end OptionsOnly

instance (fd : Int) : Frame (OptionsOnly fd) :=
  ⟨fun _ => .of_sock rfl rfl, .trans, fun _ => .of_sock rfl rfl, fun _ _ => .of_sock rfl rfl,
    fun _ _ => .of_sock rfl rfl⟩

/-- `x` changes at most the flags and options of `fd`. -/
def ConfiguresOnly {α : Type} (fd : Int) (x : Os α) : Prop := Preserves (OptionsOnly fd) x

theorem configuresOnly_setsockopt (fd level name : Int) (val : OptVal) :
    ConfiguresOnly fd (setsockopt fd level name val) :=
  preserves_setsockopt _ _ _ _ fun _ => .setSock ⟨rfl, rfl, rfl⟩

theorem configuresOnly_fcntl (fd cmd arg : Int) : ConfiguresOnly fd (fcntl fd cmd arg) :=
  preserves_fcntl _ _ _ (fun _ => .setSock ⟨rfl, rfl, rfl⟩) fun _ => .setSock ⟨rfl, rfl, rfl⟩

theorem configuresOnly_setOption (err : ErrPtr) (fd level name : Int) (val : OptVal)
    (fmt : String) : ConfiguresOnly fd (setOption err fd level name val fmt) :=
  (configuresOnly_setsockopt _ _ _ _).bind fun _ => .ite (.setError _ _ _ (.pure _)) (.pure _)

theorem configuresOnly_anetSetBlock (err : ErrPtr) (fd non_block : Int) :
    ConfiguresOnly fd (anetSetBlock err fd non_block) :=
  (configuresOnly_fcntl _ _ _).bind fun _ => .ite (.setError _ _ _ (.pure _)) <|
    .ite (.pure _) <| (configuresOnly_fcntl _ _ _).bind fun _ =>
      .ite (.setError _ _ _ (.pure _)) (.pure _)

theorem configuresOnly_anetKeepAlive (err : ErrPtr) (fd interval : Int) :
    ConfiguresOnly fd (anetKeepAlive err fd interval) :=
  (configuresOnly_setsockopt _ _ _ _).bind fun _ => .ite (.setError _ _ _ (.pure _)) <|
    (configuresOnly_setsockopt _ _ _ _).bind fun _ => .ite (.setError _ _ _ (.pure _)) <|
      (configuresOnly_setsockopt _ _ _ _).bind fun _ => .ite (.setError _ _ _ (.pure _)) <|
        (configuresOnly_setsockopt _ _ _ _).bind fun _ =>
          .ite (.setError _ _ _ (.pure _)) (.pure _)

theorem configuresOnly_anetCloexec (fd : Int) (fuel : Nat) :
    ConfiguresOnly fd (anetCloexec fd fuel) :=
  ((configuresOnly_fcntl _ _ _).retryEintr _).bind fun
    | none => .pure _
    | some _ => .ite (.pure _) ((configuresOnly_fcntl _ _ _).retryEintr _)

theorem configuresOnly_anetFdToString (fd : Int) (ip_len : Nat) (fd_to_str_type : Int) :
    ConfiguresOnly fd (anetFdToString fd ip_len fd_to_str_type) :=
  (Preserves.ite (preserves_getpeername fd) (preserves_getsockname fd)).bind fun _ =>
    .ite (.pure _) (.ite (.pure _) (.ite (.pure _) (.pure _)))

theorem configuresOnly_anetFormatFdAddr (fd : Int) (buf_len : Nat) (fd_to_str_type : Int) :
    ConfiguresOnly fd (anetFormatFdAddr fd buf_len fd_to_str_type) :=
  (configuresOnly_anetFdToString _ _ _).bind fun _ => .pure _

/-! ## Creators: the descriptors already open -/

/-- Every descriptor open in `w` other than `s` is open in `w'`, with its socket as it was. -/
def UntouchedBut (s : Int) (w w' : World) : Prop :=
  ∀ fd ∈ w.res.fds, fd ≠ s → fd ∈ w'.res.fds ∧ w'.sock fd = w.sock fd

/-- Every descriptor open in `w` is open in `w'`, with its socket as it was. -/
def Untouched (w w' : World) : Prop :=
  ∀ fd ∈ w.res.fds, fd ∈ w'.res.fds ∧ w'.sock fd = w.sock fd

section Untouched

variable {s : Int} {w w₁ w₂ : World}

theorem Untouched.trans (h₁ : Untouched w w₁) (h₂ : Untouched w₁ w₂) : Untouched w w₂ :=
  fun fd hfd => ⟨(h₂ fd (h₁ fd hfd).1).1, (h₂ fd (h₁ fd hfd).1).2.trans (h₁ fd hfd).2⟩

theorem Untouched.but (h : Untouched w w₁) (s : Int) : UntouchedBut s w w₁ :=
  fun fd hfd _ => h fd hfd

theorem UntouchedBut.trans (h₁ : UntouchedBut s w w₁) (h₂ : UntouchedBut s w₁ w₂) :
    UntouchedBut s w w₂ := fun fd hfd hne =>
  ⟨(h₂ fd (h₁ fd hfd hne).1 hne).1, (h₂ fd (h₁ fd hfd hne).1 hne).2.trans (h₁ fd hfd hne).2⟩

theorem Untouched.of_fresh (h₁ : Untouched w w₁) (hs : s ∉ w.res.fds)
    (h₂ : UntouchedBut s w₁ w₂) : Untouched w w₂ := fun fd hfd =>
  (h₁.but s).trans h₂ fd hfd fun he => hs (he ▸ hfd)

theorem OptionsOnly.untouchedBut (h : OptionsOnly s w w₁) : UntouchedBut s w w₁ :=
  fun fd hfd hne => ⟨h.res ▸ hfd, h.others fd hne⟩

end Untouched

instance : Frame Untouched :=
  ⟨fun _ _ h => ⟨h, rfl⟩, .trans, fun _ _ h => ⟨h, rfl⟩, fun _ _ _ h => ⟨h, rfl⟩,
    fun _ _ _ h => ⟨h, rfl⟩⟩

instance (s : Int) : Frame (UntouchedBut s) :=
  ⟨fun _ _ h _ => ⟨h, rfl⟩, .trans, fun _ _ h _ => ⟨h, rfl⟩, fun _ _ _ h _ => ⟨h, rfl⟩,
    fun _ _ _ h _ => ⟨h, rfl⟩⟩

/-- `x` leaves every open descriptor as it was. -/
def LeavesOpen {α : Type} (x : Os α) : Prop := Preserves Untouched x

/-- `x` leaves every open descriptor but `s` as it was. -/
def LeavesOpenBut {α : Type} (s : Int) (x : Os α) : Prop := Preserves (UntouchedBut s) x

section Leaves

variable {α β : Type} {s : Int} {x : Os α} {f : α → Os β}

theorem LeavesOpen.but (hx : LeavesOpen x) (s : Int) : LeavesOpenBut s x :=
  Preserves.imp hx fun _ _ h => h.but s

theorem ConfiguresOnly.leavesOpenBut (hx : ConfiguresOnly s x) : LeavesOpenBut s x :=
  Preserves.imp hx fun _ _ h => h.untouchedBut

theorem LeavesOpen.bind_fresh {g : α → Int} (hx : LeavesOpen x)
    (hfresh : ∀ w, wp x (fun a _ => g a ≠ ANET_ERR → g a ∉ w.res.fds) w)
    (hf : ∀ a, g a ≠ ANET_ERR → LeavesOpenBut (g a) (f a))
    (herr : ∀ a, g a = ANET_ERR → LeavesOpen (f a)) : LeavesOpen (x >>= f) := fun w =>
  (wp_bind x f).2 <| wp_mono (wp_and (hx w) (hfresh w)) fun a w₁ ⟨h₁, hs⟩ => by
    by_cases he : g a = ANET_ERR
    · exact wp_mono (herr a he w₁) fun _ _ => h₁.trans
    · exact wp_mono (hf a he w₁) fun _ _ => h₁.of_fresh (hs he)

end Leaves

/-! ## The calls -/

section Calls

variable {s : Int}

private theorem untouched_openLowest (w : World) (so : Sock) :
    Untouched w (w.openFd (lowestFree w.res.fds) so) := fun _ hfd =>
  ⟨Finset.mem_insert_of_mem hfd, Function.update_noteq (fun he => lowestFree_not_mem _ (he ▸ hfd)) _ _⟩

private theorem untouchedBut_setSock (w : World) (so : Sock) : UntouchedBut s w (w.setSock s so) :=
  fun _ hfd hne => ⟨hfd, Function.update_noteq hne _ _⟩

theorem socket_balanced (domain type protocol : Int) :
    Spec (socket domain type protocol) Balanced := fun w => by
  rw [wp_socket]
  split
  · exact .opened (lowestFree_not_mem _) (.refl _)
  · exact .failed (.refl _)

theorem fresh_of_balanced {x : Os Int} (hx : Spec x Balanced) (w : World) :
    wp x (fun r _ => r ≠ ANET_ERR → r ∉ w.res.fds) w :=
  wp_mono (hx w) fun _ _ h hr => h.fresh hr

theorem leavesOpen_socket (domain type protocol : Int) :
    LeavesOpen (socket domain type protocol) :=
  preserves_socket _ _ _ fun w => untouched_openLowest w _

theorem leavesOpen_accept (fd : Int) : LeavesOpen (accept fd) :=
  preserves_accept _ fun w _ => untouched_openLowest w _

theorem leavesOpen_getaddrinfo (node service : Option String) (hints : Hints) :
    LeavesOpen (getaddrinfo node service hints) :=
  preserves_getaddrinfo _ _ _ fun _ _ h => ⟨h, rfl⟩

theorem leavesOpen_freeaddrinfo (l : AddrInfoList) : LeavesOpen (freeaddrinfo l) :=
  preserves_freeaddrinfo _ fun _ _ h => ⟨h, rfl⟩

theorem leavesOpenBut_close (fd : Int) : LeavesOpenBut fd (close fd) :=
  preserves_close _ fun _ _ hfd hne => ⟨Res.mem_closeFd _ hfd hne, rfl⟩

theorem leavesOpenBut_bind (fd : Int) (addr : SockAddr) (len : Nat) :
    LeavesOpenBut fd (bind fd addr len) :=
  preserves_bind_call _ _ _ fun w => untouchedBut_setSock w _

theorem leavesOpenBut_connect (fd : Int) (addr : SockAddr) (len : Nat) :
    LeavesOpenBut fd (connect fd addr len) :=
  preserves_connect _ _ _ fun w => untouchedBut_setSock w _

theorem leavesOpenBut_listen (fd backlog : Int) : LeavesOpenBut fd (listen fd backlog) :=
  preserves_listen _ _ fun w => untouchedBut_setSock w _

end Calls

theorem LeavesOpen.bind_new {x : Os Int} {f : Int → Os β} (hx : LeavesOpen x)
    (hb : Spec x Balanced) (hf : ∀ s, s ≠ ANET_ERR → LeavesOpenBut s (f s))
    (herr : LeavesOpen (f ANET_ERR)) : LeavesOpen (x >>= f) :=
  hx.bind_fresh (g := fun s => s) (fresh_of_balanced hb) hf fun a h => (show a = ANET_ERR from h) ▸ herr

/-! ## The steps on a socket just made -/

theorem nonBlockFails_leavesOpenBut (err : ErrPtr) (s flags : Int) :
    LeavesOpenBut s (nonBlockFails err s flags) :=
  .ite ((configuresOnly_anetSetBlock _ _ _).leavesOpenBut.bind fun _ => .pure _) (.pure _)

theorem bindFirst_leavesOpenBut (s : Int) (bs : List AddrInfo) :
    LeavesOpenBut s (bindFirst s bs) := by
  induction bs with
  | nil => exact .pure _
  | cons b bs ih =>
      exact (leavesOpenBut_bind _ _ _).bind fun _ => .ite (.pure _) ih

theorem bindSourceFails_leavesOpenBut (err : ErrPtr) (s : Int) (source_addr : Option String)
    (hints : Hints) : LeavesOpenBut s (bindSourceFails err s source_addr hints) := by
  cases source_addr with
  | none => exact .pure _
  | some source_addr =>
      refine ((leavesOpen_getaddrinfo _ _ _).but s).bind fun r => ?_
      rcases r with rv | bservinfo
      · exact (preserves_anetSetError _ _ _).bind fun _ => .pure _
      · exact (bindFirst_leavesOpenBut _ _).bind fun _ =>
          ((leavesOpen_freeaddrinfo _).but s).bind fun _ =>
            .ite (.setError _ _ _ (.pure _)) (.pure _)

theorem anetListen_leavesOpenBut (err : ErrPtr) (s : Int) (sa : SockAddr) (len : Nat)
    (backlog : Int) (perm : Nat) : LeavesOpenBut s (anetListen err s sa len backlog perm) :=
  (leavesOpenBut_bind _ _ _).bind fun _ =>
    .ite (.setError _ _ _ ((leavesOpenBut_close s).bind fun _ => .pure _)) <|
      (Preserves.ite (preserves_chmod _ _) (.pure _)).bind fun _ =>
        (leavesOpenBut_listen _ _).bind fun _ =>
          .ite (.setError _ _ _ ((leavesOpenBut_close s).bind fun _ => .pure _)) (.pure _)

theorem v6OnlyFails_leavesOpenBut (err : ErrPtr) (s af : Int) :
    LeavesOpenBut s (v6OnlyFails err s af) :=
  .ite ((configuresOnly_setOption _ _ _ _ _ _).leavesOpenBut.bind fun _ => .pure _) (.pure _)

/-! ## The creators -/

theorem anetCreateSocket_leavesOpen (err : ErrPtr) (domain : Int) :
    LeavesOpen (anetCreateSocket err domain) :=
  (leavesOpen_socket _ _ _).bind_new (socket_balanced _ _ _)
    (fun s hs => .ite_of (fun h => absurd h hs) fun _ =>
      (configuresOnly_setOption _ _ _ _ _ _).leavesOpenBut.bind fun _ =>
        .ite ((leavesOpenBut_close s).bind fun _ => .pure _) (.pure _))
    (.ite_of (fun _ => .setError _ _ _ (.pure _)) fun h => absurd rfl h)

theorem connectLoop_leavesOpen (err : ErrPtr) (source_addr : Option String) (hints : Hints)
    (flags : Int) (ps : List AddrInfo) (s₀ : Int) :
    LeavesOpen (connectLoop err source_addr hints flags ps s₀) := by
  induction ps generalizing s₀ with
  | nil => exact .setError _ _ _ (.pure _)
  | cons p ps ih =>
      exact (leavesOpen_socket _ _ _).bind_new (socket_balanced _ _ _)
        (fun s hs => .ite_of (fun h => absurd h hs) fun _ =>
          (configuresOnly_setOption _ _ _ _ _ _).leavesOpenBut.bind fun _ =>
            .ite (.pure _) <|
          (nonBlockFails_leavesOpenBut _ _ _).bind fun _ => .ite (.pure _) <|
          (bindSourceFails_leavesOpenBut _ _ _ _).bind fun _ => .ite (.pure _) <|
          (leavesOpenBut_connect _ _ _).bind fun _ => .ite
            (preserves_getErrno.bind fun _ =>
              .ite (.pure _) <| (leavesOpenBut_close s).bind fun _ => (ih _).but s) (.pure _))
        (.ite_of (fun _ => ih _) fun h => absurd rfl h)

private theorem anetTcpGenericConnect_leavesOpen_of_retry (err : ErrPtr) (addr : String)
    (port : Int) (source_addr : Option String) (flags : Int)
    (hretry : source_addr.isSome → LeavesOpen (anetTcpGenericConnect err addr port none flags)) :
    LeavesOpen (anetTcpGenericConnect err addr port source_addr flags) := by
  rw [anetTcpGenericConnect]
  refine (leavesOpen_getaddrinfo _ _ _).bind fun r => ?_
  rcases r with rv | servinfo
  · exact (preserves_anetSetError _ _ _).bind fun _ => .pure _
  have htail : ∀ y, LeavesOpen (do
      freeaddrinfo servinfo
      if _retry : y = ANET_ERR ∧ source_addr.isSome ∧ Int.land flags ANET_CONNECT_BE_BINDING ≠ 0 then
        anetTcpGenericConnect err addr port none flags
      else pure y) :=
    fun _ => (leavesOpen_freeaddrinfo _).bind fun _ =>
      .dite (fun retry => hretry retry.2.1) fun _ => .pure _
  refine (connectLoop_leavesOpen _ _ _ _ _ _).bind_fresh (g := Prod.snd)
    (fun w => wp_mono (connectLoop_balanced _ _ _ _ _ w) fun _ _ h hr => h.fresh hr)
    (fun ⟨label, s⟩ _ => ?_) fun ⟨label, s⟩ hs => ?_
  · dsimp only
    exact .ite ((leavesOpenBut_close s).bind fun _ => (Preserves.pure _).bind
      fun _ => (htail _).but s) ((Preserves.pure _).bind fun _ => (htail _).but s)
  · dsimp only
    exact .ite_of (fun h => absurd hs h.2) fun _ => (Preserves.pure _).bind htail

theorem anetTcpGenericConnect_leavesOpen (err : ErrPtr) (addr : String) (port : Int)
    (source_addr : Option String) (flags : Int) :
    LeavesOpen (anetTcpGenericConnect err addr port source_addr flags) :=
  have hnone := anetTcpGenericConnect_leavesOpen_of_retry err addr port none flags nofun
  anetTcpGenericConnect_leavesOpen_of_retry err addr port source_addr flags fun _ => hnone

theorem anetUnixGenericConnect_leavesOpen (err : ErrPtr) (path : List UInt8) (flags : Int)
    (stale : UInt8) : LeavesOpen (anetUnixGenericConnect err path flags stale) :=
  (anetCreateSocket_leavesOpen _ _).bind_new (anetCreateSocket_balanced _ _)
    (fun s hs => .ite_of (fun h => absurd h hs) fun _ =>
      (nonBlockFails_leavesOpenBut _ _ _).bind fun _ =>
        .ite ((leavesOpenBut_close s).bind fun _ => .pure _) <|
      (leavesOpenBut_connect _ _ _).bind fun _ => .ite
        (preserves_getErrno.bind fun _ =>
          .ite (.pure _) <| .setError _ _ _ ((leavesOpenBut_close s).bind fun _ => .pure _))
        (.pure _))
    (.ite_of (fun _ => .pure _) fun h => absurd rfl h)

theorem serverLoop_leavesOpen (err : ErrPtr) (af backlog : Int) (ps : List AddrInfo) (s₀ : Int) :
    LeavesOpen (serverLoop err af backlog ps s₀) := by
  induction ps generalizing s₀ with
  | nil => exact .setError _ _ _ (.pure _)
  | cons p ps ih =>
      exact (leavesOpen_socket _ _ _).bind_new (socket_balanced _ _ _)
        (fun s hs => .ite_of (fun h => absurd h hs) fun _ =>
          (v6OnlyFails_leavesOpenBut _ _ _).bind fun _ => .ite (.pure _) <|
          (configuresOnly_setOption _ _ _ _ _ _).leavesOpenBut.bind fun _ =>
            .ite (.pure _) <|
          (anetListen_leavesOpenBut _ _ _ _ _ _).bind fun _ =>
            .ite (.pure _) (.pure _))
        (.ite_of (fun _ => ih _) fun h => absurd rfl h)

theorem _anetTcpServer_leavesOpen (err : ErrPtr) (port : Int) (bindaddr : Option String)
    (af backlog : Int) : LeavesOpen (_anetTcpServer err port bindaddr af backlog) := by
  refine (leavesOpen_getaddrinfo _ _ _).bind fun r => ?_
  rcases r with rv | servinfo
  · exact (preserves_anetSetError _ _ _).bind fun _ => .pure _
  have hfree : ∀ y, LeavesOpen (do freeaddrinfo servinfo; pure y : Os Int) :=
    fun _ => (leavesOpen_freeaddrinfo _).bind fun _ => .pure _
  refine (serverLoop_leavesOpen _ _ _ _ _).bind_fresh (g := Prod.snd)
    (fun w => wp_mono (serverLoop_balanced _ _ _ _ w) fun _ _ h hr => h.fresh hr)
    (fun ⟨label, s⟩ _ => ?_) fun ⟨label, s⟩ hs => ?_
  · dsimp only
    have hs : ∀ y, LeavesOpenBut s (do freeaddrinfo servinfo; pure y : Os Int) :=
      fun _ => (hfree _).but s
    exact .ite (.ite ((leavesOpenBut_close s).bind fun _ => (Preserves.pure _).bind hs)
      ((Preserves.pure _).bind fun _ => (Preserves.pure _).bind hs)) ((Preserves.pure _).bind hs)
  · dsimp only
    exact .ite (.ite_of (fun h => absurd hs h) fun _ =>
      (Preserves.pure _).bind fun _ => (Preserves.pure _).bind hfree)
      ((Preserves.pure _).bind hfree)

theorem anetUnixServer_leavesOpen (err : ErrPtr) (path : List UInt8) (perm : Nat) (backlog : Int) :
    LeavesOpen (anetUnixServer err path perm backlog) :=
  (anetCreateSocket_leavesOpen _ _).bind_new (anetCreateSocket_balanced _ _)
    (fun _ hs => .ite_of (fun h => absurd h hs) fun _ =>
      (anetListen_leavesOpenBut _ _ _ _ _ _).bind fun _ => .ite (.pure _) (.pure _))
    (.ite_of (fun _ => .pure _) fun h => absurd rfl h)

theorem anetGenericAccept_leavesOpen (err : ErrPtr) (s : Int) (fuel : Nat) :
    LeavesOpen (anetGenericAccept err s fuel) :=
  ((leavesOpen_accept s).retryEintr fuel).bind fun
    | none => .pure _
    | some _ => .ite (.setError _ _ _ (.pure _)) (.pure _)

theorem anetTcpAccept_leavesOpen (err : ErrPtr) (s : Int) (ip_len fuel : Nat) :
    LeavesOpen (anetTcpAccept err s ip_len fuel) :=
  (anetGenericAccept_leavesOpen _ _ _).bind fun
    | none => .pure _
    | some _ => .ite (.pure _) (.pure _)

theorem anetUnixAccept_leavesOpen (err : ErrPtr) (s : Int) (fuel : Nat) :
    LeavesOpen (anetUnixAccept err s fuel) :=
  (anetGenericAccept_leavesOpen _ _ _).bind fun
    | none => .pure _
    | some _ => .pure _

theorem anetResolve_leavesOpen (err : ErrPtr) (host : String) (ipbuf_len : Nat) (flags : Int) :
    LeavesOpen (anetResolve err host ipbuf_len flags) :=
  (leavesOpen_getaddrinfo _ _ _).bind fun
    | .error _ => (preserves_anetSetError _ _ _).bind fun _ => .pure _
    | .ok info => by
        dsimp only
        split
        · exact .pure _
        · exact (leavesOpen_freeaddrinfo _).bind fun _ => .pure _

/-! ## What the functions of anet.c leave alone -/

/-- The functions that create or accept descriptors leave every descriptor that is open when
they are called open, with its socket as it was: all they bind, connect, configure or close
is a socket they made themselves, on every path, the best-effort retry included. -/
theorem anet_creators_leave_open_alone :
    (∀ err domain, LeavesOpen (anetCreateSocket err domain)) ∧
    (∀ err addr port source_addr flags,
      LeavesOpen (anetTcpGenericConnect err addr port source_addr flags)) ∧
    (∀ err path flags stale, LeavesOpen (anetUnixGenericConnect err path flags stale)) ∧
    (∀ err port bindaddr af backlog, LeavesOpen (_anetTcpServer err port bindaddr af backlog)) ∧
    (∀ err path perm backlog, LeavesOpen (anetUnixServer err path perm backlog)) ∧
    (∀ err s ip_len fuel, LeavesOpen (anetTcpAccept err s ip_len fuel)) ∧
    (∀ err s fuel, LeavesOpen (anetUnixAccept err s fuel)) :=
  ⟨anetCreateSocket_leavesOpen, anetTcpGenericConnect_leavesOpen,
    anetUnixGenericConnect_leavesOpen, _anetTcpServer_leavesOpen, anetUnixServer_leavesOpen,
    anetTcpAccept_leavesOpen, anetUnixAccept_leavesOpen⟩

/-- The setters open and close nothing, and change only the flags and options of the
descriptor they are given: no other socket, and not its binding, peer or listening state. -/
theorem anet_setters_configure_only :
    (∀ err fd non_block, ConfiguresOnly fd (anetSetBlock err fd non_block)) ∧
    (∀ fd fuel, ConfiguresOnly fd (anetCloexec fd fuel)) ∧
    (∀ err fd interval, ConfiguresOnly fd (anetKeepAlive err fd interval)) ∧
    (∀ err fd val, ConfiguresOnly fd (anetSetTcpNoDelay err fd val)) ∧
    (∀ err fd ms, ConfiguresOnly fd (anetSendTimeout err fd ms)) ∧
    (∀ err fd ms, ConfiguresOnly fd (anetRecvTimeout err fd ms)) ∧
    (∀ err fd, ConfiguresOnly fd (anetSetReuseAddr err fd)) ∧
    (∀ err s, ConfiguresOnly s (anetV6Only err s)) :=
  ⟨configuresOnly_anetSetBlock, configuresOnly_anetCloexec, configuresOnly_anetKeepAlive,
    fun _ _ _ => configuresOnly_setOption _ _ _ _ _ _,
    fun _ _ _ => configuresOnly_setOption _ _ _ _ _ _,
    fun _ _ _ => configuresOnly_setOption _ _ _ _ _ _,
    fun _ _ => configuresOnly_setOption _ _ _ _ _ _,
    fun _ _ => configuresOnly_setOption _ _ _ _ _ _⟩

end RedisAnet.Anet
