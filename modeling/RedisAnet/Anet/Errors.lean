import RedisAnet.Anet.Server
import RedisAnet.Anet.Address

/-!
# Every failure is explained

The caller's buffer `err` is where anet.c explains a failure.  Every function that takes
`err` leaves a message there on every run that returns `ANET_ERR`, and none empties it.
`Reports x failed` says so for a program `x` whose failing results are `failed`; the
combinators follow the code: a system call keeps the buffer, `anetSetError` fills it, and
a branch that returns `ANET_ERR` without a message of its own passes on the failure of a
call that wrote one.
-/

namespace RedisAnet.Anet

open RedisAnet.Kernel

/-- The caller's buffer holds a message afterwards if it held one before. -/
def MsgKept (w w' : World) : Prop := w.err.isSome → w'.err.isSome

instance : Frame MsgKept := ⟨fun _ => id, fun h₁ h₂ => h₂ ∘ h₁, fun _ => id, fun _ _ => id,
  fun _ _ _ => rfl⟩

/-- `x` never empties the caller's buffer. -/
def KeepsMsg {α : Type} (x : Os α) : Prop := Preserves MsgKept x

/-- `x` never empties the caller's buffer, and leaves a message there on every run whose
result is `failed`. -/
structure Reports {α : Type} (x : Os α) (failed : α → Prop) : Prop where
  keeps : KeepsMsg x
  sets : ∀ w, wp x (fun r w' => failed r → w'.err.isSome) w

section Combinators

variable {α β : Type} {x : Os α} {f : α → Os β} {failed : β → Prop}

theorem Reports.pure {b : β} (h : ¬failed b) : Reports (Pure.pure b : Os β) failed :=
  ⟨.pure b, fun _ hf => absurd hf h⟩

theorem Reports.of_keeps {y : Os β} (hy : KeepsMsg y) (h : ∀ b, ¬failed b) : Reports y failed :=
  ⟨hy, fun w => wp_mono (hy w) fun b _ _ hf => absurd hf (h b)⟩

theorem Reports.mono {y : Os β} {failed' : β → Prop} (hy : Reports y failed)
    (h : ∀ b, failed' b → failed b) : Reports y failed' :=
  ⟨hy.keeps, fun w => wp_mono (hy.sets w) fun b _ hs hf => hs (h b hf)⟩

theorem Reports.bind {P : α → Prop} (hx : Reports x P) (hf : ∀ a, ¬P a → Reports (f a) failed)
    (hk : ∀ a, P a → KeepsMsg (f a)) : Reports (x >>= f) failed := by
  have hkeep : ∀ a, KeepsMsg (f a) := fun a => by
    by_cases hp : P a
    · exact hk a hp
    · exact (hf a hp).keeps
  refine ⟨hx.keeps.bind hkeep, fun w => (wp_bind x f).2 (wp_mono (hx.sets w) fun a w' hset => ?_)⟩
  by_cases hp : P a
  · exact wp_mono (hk a hp w') fun _ _ h _ => h (hset hp)
  · exact (hf a hp).sets w'

theorem Reports.after (hx : KeepsMsg x) (hf : ∀ a, Reports (f a) failed) :
    Reports (x >>= f) failed :=
  .bind (P := fun _ => False) (.of_keeps hx fun _ => id) (fun a _ => hf a) fun _ => False.elim

theorem Reports.bindIte {P : α → Prop} [DecidablePred P] {k g : α → Os β} (hx : Reports x P)
    (hk : ∀ a, P a → KeepsMsg (k a)) (hg : ∀ a, ¬P a → Reports (g a) failed) :
    Reports (x >>= fun a => if P a then k a else g a) failed :=
  .bind hx (fun a hp => by rw [if_neg hp]; exact hg a hp) fun a hp => by rw [if_pos hp]; exact hk a hp

theorem Reports.ite {c : Prop} [Decidable c] {x y : Os β} (hx : c → Reports x failed)
    (hy : ¬c → Reports y failed) : Reports (if c then x else y) failed := by
  split
  · exact hx ‹_›
  · exact hy ‹_›

theorem Reports.dite {c : Prop} [Decidable c] {x : c → Os β} {y : ¬c → Os β}
    (hx : ∀ h, Reports (x h) failed) (hy : ∀ h, Reports (y h) failed) :
    Reports (dite c x y) failed := by
  split
  · exact hx ‹_›
  · exact hy ‹_›

end Combinators

/-! ## Calls that keep the buffer, and the one that fills it -/

theorem keepsMsg_getErrno : KeepsMsg getErrno := preserves_getErrno

theorem keepsMsg_socket (domain type protocol : Int) : KeepsMsg (socket domain type protocol) :=
  preserves_socket _ _ _ fun _ => id

theorem keepsMsg_setsockopt (fd level name : Int) (val : OptVal) :
    KeepsMsg (setsockopt fd level name val) :=
  preserves_setsockopt _ _ _ _ fun _ => id

theorem keepsMsg_fcntl (fd cmd arg : Int) : KeepsMsg (fcntl fd cmd arg) :=
  preserves_fcntl _ _ _ (fun _ => id) fun _ => id

theorem keepsMsg_getaddrinfo (node service : Option String) (hints : Hints) :
    KeepsMsg (getaddrinfo node service hints) :=
  preserves_getaddrinfo _ _ _ fun _ => id

theorem keepsMsg_freeaddrinfo (l : AddrInfoList) : KeepsMsg (freeaddrinfo l) :=
  preserves_freeaddrinfo _ fun _ => id

theorem keepsMsg_close (fd : Int) : KeepsMsg (close fd) := preserves_close _ fun _ => id

theorem keepsMsg_bind (fd : Int) (addr : SockAddr) (len : Nat) : KeepsMsg (bind fd addr len) :=
  preserves_bind_call _ _ _ fun _ => id

theorem keepsMsg_connect (fd : Int) (addr : SockAddr) (len : Nat) :
    KeepsMsg (connect fd addr len) :=
  preserves_connect _ _ _ fun _ => id

theorem keepsMsg_listen (fd backlog : Int) : KeepsMsg (listen fd backlog) :=
  preserves_listen _ _ fun _ => id

theorem keepsMsg_accept (fd : Int) : KeepsMsg (accept fd) := preserves_accept _ fun _ _ => id

theorem keepsMsg_chmod (path : List UInt8) (mode : Nat) : KeepsMsg (chmod path mode) :=
  preserves_chmod _ _

theorem Reports.setMsg {β : Type} {failed : β → Prop} (fmt : String) (arg : FmtArg) {k : Os β}
    (hk : KeepsMsg k) : Reports (do anetSetError .buf fmt arg; k) failed :=
  ⟨(preserves_anetSetError _ _ _).bind fun _ => hk, fun _ =>
    (wp_bind _ _).2 <| (wp_anetSetError _ _ _).2 <| wp_mono (hk _) fun _ _ h _ => h rfl⟩

theorem Reports.setError {β : Type} {failed : β → Prop} (fmt : String) (arg : Nat → FmtArg)
    {k : Os β} (hk : KeepsMsg k) :
    Reports (do anetSetError .buf fmt (arg (← getErrno)); k) failed :=
  .after keepsMsg_getErrno fun _ => .setMsg _ _ hk

/-! ## The option setters: every result but `ANET_OK` is explained -/

theorem setOption_reports (fd level name : Int) (val : OptVal) (fmt : String) :
    Reports (setOption .buf fd level name val fmt) (· ≠ ANET_OK) :=
  .after (keepsMsg_setsockopt _ _ _ _) fun _ =>
    .ite (fun _ => .setError _ _ (.pure _)) fun _ => .pure (by decide)

theorem anetSetBlock_reports (fd non_block : Int) :
    Reports (anetSetBlock .buf fd non_block) (· ≠ ANET_OK) :=
  .after (keepsMsg_fcntl _ _ _) fun _ => .ite (fun _ => .setError _ _ (.pure _)) fun _ =>
    .ite (fun _ => .pure (by decide)) fun _ => .after (keepsMsg_fcntl _ _ _) fun _ =>
      .ite (fun _ => .setError _ _ (.pure _)) fun _ => .pure (by decide)

theorem anetKeepAlive_reports (fd interval : Int) :
    Reports (anetKeepAlive .buf fd interval) (· ≠ ANET_OK) :=
  .after (keepsMsg_setsockopt _ _ _ _) fun _ => .ite (fun _ => .setError _ _ (.pure _)) fun _ =>
    .after (keepsMsg_setsockopt _ _ _ _) fun _ => .ite (fun _ => .setError _ _ (.pure _)) fun _ =>
      .after (keepsMsg_setsockopt _ _ _ _) fun _ => .ite (fun _ => .setError _ _ (.pure _)) fun _ =>
        .after (keepsMsg_setsockopt _ _ _ _) fun _ =>
          .ite (fun _ => .setError _ _ (.pure _)) fun _ => .pure (by decide)

private theorem err_ne_ok {r : Int} (h : r = ANET_ERR) : r ≠ ANET_OK := h ▸ by decide

/-! ## Creating, connecting and listening: every `ANET_ERR` is explained -/

theorem anetCreateSocket_reports (domain : Int) :
    Reports (anetCreateSocket .buf domain) (· = ANET_ERR) :=
  .after (keepsMsg_socket _ _ _) fun _ => .ite (fun _ => .setError _ _ (.pure _)) fun hs =>
    .bindIte ((setOption_reports _ _ _ _ _).mono fun _ => err_ne_ok)
      (fun _ _ => (keepsMsg_close _).bind fun _ => .pure _) fun _ _ => .pure hs

theorem nonBlockFails_reports (s flags : Int) : Reports (nonBlockFails .buf s flags) (· = true) :=
  .ite (fun _ => .bind (anetSetBlock_reports _ _) (fun _ h => .pure (by simpa using h))
    fun _ _ => .pure _) fun _ => .pure nofun

theorem keepsMsg_bindFirst (s : Int) (bs : List AddrInfo) : KeepsMsg (bindFirst s bs) := by
  induction bs with
  | nil => exact .pure _
  | cons b bs ih => exact (keepsMsg_bind _ _ _).bind fun _ => .ite (.pure _) ih

theorem bindSourceFails_reports (s : Int) (source_addr : Option String) (hints : Hints) :
    Reports (bindSourceFails .buf s source_addr hints) (· = true) := by
  cases source_addr with
  | none => exact .pure nofun
  | some source_addr =>
      refine .after (keepsMsg_getaddrinfo _ _ _) fun r => ?_
      rcases r with rv | bservinfo
      · exact .setMsg _ _ (.pure _)
      · exact .after (keepsMsg_bindFirst _ _) fun _ => .after (keepsMsg_freeaddrinfo _) fun _ =>
          .ite (fun _ => .setError _ _ (.pure _)) fun _ => .pure nofun

theorem connectLoop_reports (source_addr : Option String) (hints : Hints) (flags : Int)
    (ps : List AddrInfo) (s : Int) :
    Reports (connectLoop .buf source_addr hints flags ps s)
      fun r => r.1 = .toError ∨ r.2 = ANET_ERR := by
  induction ps generalizing s with
  | nil => exact .setError _ _ (.pure _)
  | cons p ps ih =>
      exact .after (keepsMsg_socket _ _ _) fun s => .ite (fun _ => ih s) fun hs =>
        .bindIte ((setOption_reports _ _ _ _ _).mono fun _ => err_ne_ok) (fun _ _ => .pure _)
          fun _ _ => .bindIte (nonBlockFails_reports _ _) (fun _ _ => .pure _)
          fun _ _ => .bindIte (bindSourceFails_reports _ _ _) (fun _ _ => .pure _)
          fun _ _ => .after (keepsMsg_connect _ _ _) fun _ => .ite
            (fun _ => .after keepsMsg_getErrno fun _ =>
              .ite (fun _ => .pure fun h => h.elim nofun hs)
                fun _ => .after (keepsMsg_close _) fun _ => ih _)
            fun _ => .pure fun h => h.elim nofun hs

private theorem anetTcpGenericConnect_reports_of_retry (addr : String) (port : Int)
    (source_addr : Option String) (flags : Int)
    (hretry : source_addr.isSome →
      Reports (anetTcpGenericConnect .buf addr port none flags) (· = ANET_ERR)) :
    Reports (anetTcpGenericConnect .buf addr port source_addr flags) (· = ANET_ERR) := by
  rw [anetTcpGenericConnect]
  refine .after (keepsMsg_getaddrinfo _ _ _) fun r => ?_
  rcases r with rv | servinfo
  · exact .setMsg _ _ (.pure _)
  refine .bind (connectLoop_reports _ _ _ _ _) (fun ⟨label, s⟩ h => ?_) fun ⟨label, s⟩ _ => ?_
  · dsimp only
    refine .ite (fun hc => absurd (.inl hc.1) h) fun _ =>
      .bind (P := (· = ANET_ERR)) (.pure (h ∘ .inr)) (fun _ hs => ?_) fun _ _ => ?_
    · exact .after (keepsMsg_freeaddrinfo _) fun _ =>
        .dite (fun retry => hretry retry.2.1) fun _ => .pure hs
    · exact (keepsMsg_freeaddrinfo _).bind fun _ =>
        .dite (fun retry => (hretry retry.2.1).keeps) fun _ => .pure _
  · dsimp only
    refine .ite ((keepsMsg_close _).bind fun _ => (Preserves.pure _).bind fun _ => ?_)
      ((Preserves.pure _).bind fun _ => ?_)
    all_goals
      exact (keepsMsg_freeaddrinfo _).bind fun _ =>
        .dite (fun retry => (hretry retry.2.1).keeps) fun _ => .pure _

theorem anetTcpGenericConnect_reports (addr : String) (port : Int)
    (source_addr : Option String) (flags : Int) :
    Reports (anetTcpGenericConnect .buf addr port source_addr flags) (· = ANET_ERR) :=
  have hnone := anetTcpGenericConnect_reports_of_retry addr port none flags nofun
  anetTcpGenericConnect_reports_of_retry addr port source_addr flags fun _ => hnone

theorem anetUnixGenericConnect_reports (path : List UInt8) (flags : Int) (stale : UInt8) :
    Reports (anetUnixGenericConnect .buf path flags stale) (· = ANET_ERR) :=
  .bindIte (anetCreateSocket_reports _) (fun _ _ => .pure _) fun _ hs =>
    .bindIte (nonBlockFails_reports _ _) (fun _ _ => (keepsMsg_close _).bind fun _ => .pure _)
      fun _ _ => .after (keepsMsg_connect _ _ _) fun _ => .ite
        (fun _ => .after keepsMsg_getErrno fun _ => .ite (fun _ => .pure hs)
          fun _ => .setError _ _ ((keepsMsg_close _).bind fun _ => .pure _))
        fun _ => .pure hs

theorem anetListen_reports (s : Int) (sa : SockAddr) (len : Nat) (backlog : Int) (perm : Nat) :
    Reports (anetListen .buf s sa len backlog perm) (· ≠ ANET_OK) :=
  .after (keepsMsg_bind _ _ _) fun _ =>
    .ite (fun _ => .setError _ _ ((keepsMsg_close _).bind fun _ => .pure _)) fun _ =>
      .after (.ite (keepsMsg_chmod _ _) (.pure _)) fun _ => .after (keepsMsg_listen _ _) fun _ =>
        .ite (fun _ => .setError _ _ ((keepsMsg_close _).bind fun _ => .pure _)) fun _ =>
          .pure (by decide)

theorem v6OnlyFails_reports (s af : Int) : Reports (v6OnlyFails .buf s af) (· = true) :=
  .ite (fun _ => .bind (setOption_reports _ _ _ _ _)
    (fun _ h => .pure fun hd => h (err_ne_ok (of_decide_eq_true hd))) fun _ _ => .pure _)
    fun _ => .pure nofun

theorem serverLoop_reports (af backlog : Int) (ps : List AddrInfo) (s : Int) :
    Reports (serverLoop .buf af backlog ps s) fun r => r.1 = .toError ∨ r.2 = ANET_ERR := by
  induction ps generalizing s with
  | nil => exact .setError _ _ (.pure _)
  | cons p ps ih =>
      exact .after (keepsMsg_socket _ _ _) fun s => .ite (fun _ => ih s) fun hs =>
        .bindIte (v6OnlyFails_reports _ _) (fun _ _ => .pure _)
          fun _ _ => .bindIte ((setOption_reports _ _ _ _ _).mono fun _ => err_ne_ok)
            (fun _ _ => .pure _)
          fun _ _ => .bindIte ((anetListen_reports _ _ _ _ _).mono fun _ => err_ne_ok)
            (fun _ _ => .pure _)
          fun _ _ => .pure fun h => h.elim nofun hs

theorem _anetTcpServer_reports (port : Int) (bindaddr : Option String) (af backlog : Int) :
    Reports (_anetTcpServer .buf port bindaddr af backlog) (· = ANET_ERR) := by
  refine .after (keepsMsg_getaddrinfo _ _ _) fun r => ?_
  rcases r with rv | servinfo
  · exact .setMsg _ _ (.pure _)
  refine .bind (serverLoop_reports _ _ _ _) (fun ⟨label, s⟩ h => ?_) fun ⟨label, s⟩ _ => ?_
  · dsimp only
    exact .ite (fun hc => absurd (.inl hc) h) fun _ => .bind (P := (· = ANET_ERR))
      (.pure (h ∘ .inr)) (fun _ hs => .after (keepsMsg_freeaddrinfo _) fun _ => .pure hs)
      fun _ _ => (keepsMsg_freeaddrinfo _).bind fun _ => .pure _
  · dsimp only
    have hfree : ∀ y, KeepsMsg (do freeaddrinfo servinfo; pure y : Os Int) :=
      fun _ => (keepsMsg_freeaddrinfo _).bind fun _ => .pure _
    exact .ite (.ite ((keepsMsg_close _).bind fun _ => (Preserves.pure _).bind hfree)
      ((Preserves.pure _).bind fun _ => (Preserves.pure _).bind hfree)) ((Preserves.pure _).bind hfree)

theorem anetUnixServer_reports (path : List UInt8) (perm : Nat) (backlog : Int) :
    Reports (anetUnixServer .buf path perm backlog) (· = ANET_ERR) :=
  .bindIte (anetCreateSocket_reports _) (fun _ _ => .pure _) fun _ hs =>
    .bindIte ((anetListen_reports _ _ _ _ _).mono fun _ => err_ne_ok) (fun _ _ => .pure _)
      fun _ _ => .pure hs

/-! ## Accepting and resolving -/

theorem anetGenericAccept_reports (s : Int) (fuel : Nat) :
    Reports (anetGenericAccept .buf s fuel) fun r => r.map Prod.fst = some ANET_ERR := by
  refine .after ((keepsMsg_accept _).retryEintr _) fun r => ?_
  rcases r with _ | ⟨fd, sa⟩
  · exact .pure nofun
  · exact .ite (fun _ => .setError _ _ (.pure _)) fun hfd =>
      .pure fun h => hfd (Option.some.inj h)

theorem anetTcpAccept_reports (s : Int) (ip_len fuel : Nat) :
    Reports (anetTcpAccept .buf s ip_len fuel) fun r => r.map Prod.fst = some ANET_ERR := by
  refine .bind (anetGenericAccept_reports _ _) (fun r hr => ?_) fun r _ => ?_
  · rcases r with _ | ⟨fd, sa⟩
    · exact .pure nofun
    · exact .ite (fun hfd => absurd (congrArg some hfd) hr) fun hfd =>
        .pure fun h => hfd (Option.some.inj h)
  · rcases r with _ | ⟨fd, sa⟩
    · exact .pure _
    · exact .ite (.pure _) (.pure _)

theorem anetUnixAccept_reports (s : Int) (fuel : Nat) :
    Reports (anetUnixAccept .buf s fuel) (· = some ANET_ERR) := by
  refine .bind (anetGenericAccept_reports _ _) (fun r hr => ?_) fun r _ => ?_
  · rcases r with _ | ⟨fd, sa⟩
    · exact .pure nofun
    · refine .pure fun h => hr (congrArg some ?_)
      by_cases hfd : fd = -1
      · exact hfd
      · exact absurd (Option.some.inj h) (by rw [if_neg hfd]; exact hfd)
  · rcases r with _ | ⟨fd, sa⟩ <;> exact .pure _

theorem anetResolve_reports (host : String) (ipbuf_len : Nat) (flags : Int) :
    Reports (anetResolve .buf host ipbuf_len flags) fun r => r.map Prod.fst = some ANET_ERR := by
  refine .after (keepsMsg_getaddrinfo _ _ _) fun r => ?_
  rcases r with rv | info
  · exact .setMsg _ _ (.pure _)
  · dsimp only
    split
    · exact .pure nofun
    · exact .after (keepsMsg_freeaddrinfo _) fun _ =>
        .pure fun h => absurd (Option.some.inj h) (by decide : ANET_OK ≠ ANET_ERR)

/-! ## The functions of anet.c that take `err` -/

/-- Given a buffer, every setter explains every result but `ANET_OK`, and none empties the
buffer. -/
theorem anet_setters_explain_failures (fd s non_block interval val ms : Int) :
    Reports (anetSetBlock .buf fd non_block) (· ≠ ANET_OK) ∧
      Reports (anetKeepAlive .buf fd interval) (· ≠ ANET_OK) ∧
      Reports (anetSetTcpNoDelay .buf fd val) (· ≠ ANET_OK) ∧
      Reports (anetSendTimeout .buf fd ms) (· ≠ ANET_OK) ∧
      Reports (anetRecvTimeout .buf fd ms) (· ≠ ANET_OK) ∧
      Reports (anetSetReuseAddr .buf fd) (· ≠ ANET_OK) ∧
      Reports (anetV6Only .buf s) (· ≠ ANET_OK) :=
  ⟨anetSetBlock_reports _ _, anetKeepAlive_reports _ _, setOption_reports _ _ _ _ _,
    setOption_reports _ _ _ _ _, setOption_reports _ _ _ _ _, setOption_reports _ _ _ _ _,
    setOption_reports _ _ _ _ _⟩

/-- Given a buffer, every function that creates a descriptor explains each `ANET_ERR` it
returns, also when every address failed or the best-effort retry ran. -/
theorem anet_creators_explain_failures (domain port flags af backlog : Int) (addr : String)
    (path : List UInt8) (stale : UInt8) (source_addr bindaddr : Option String) (perm : Nat) :
    Reports (anetCreateSocket .buf domain) (· = ANET_ERR) ∧
      Reports (anetTcpGenericConnect .buf addr port source_addr flags) (· = ANET_ERR) ∧
      Reports (anetUnixGenericConnect .buf path flags stale) (· = ANET_ERR) ∧
      Reports (_anetTcpServer .buf port bindaddr af backlog) (· = ANET_ERR) ∧
      Reports (anetUnixServer .buf path perm backlog) (· = ANET_ERR) :=
  ⟨anetCreateSocket_reports _, anetTcpGenericConnect_reports _ _ _ _,
    anetUnixGenericConnect_reports _ _ _, _anetTcpServer_reports _ _ _ _,
    anetUnixServer_reports _ _ _⟩

/-- Given a buffer, the accept functions explain each `ANET_ERR` they return, and
`anetResolve` each one it returns. -/
theorem anet_accepts_explain_failures (s flags : Int) (ip_len fuel ipbuf_len : Nat)
    (host : String) :
    Reports (anetTcpAccept .buf s ip_len fuel) (fun r => r.map Prod.fst = some ANET_ERR) ∧
      Reports (anetUnixAccept .buf s fuel) (· = some ANET_ERR) ∧
      Reports (anetResolve .buf host ipbuf_len flags) (fun r => r.map Prod.fst = some ANET_ERR) :=
  ⟨anetTcpAccept_reports _ _ _, anetUnixAccept_reports _ _, anetResolve_reports _ _ _⟩

end RedisAnet.Anet
