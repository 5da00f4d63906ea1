import RedisAnet.Anet.Connect

/-!
# Listening sockets

`anetListen` binds and listens on a descriptor it is given, and closes it itself when
either call fails; `_anetTcpServer` and `anetUnixServer` create the descriptor and must
not close it a second time.  `_anetTcpServer` walks the resolver's list until a socket
can be created, and jumps to `error` or `end` as `anetTcpGenericConnect` does.
-/

namespace RedisAnet.Anet

open RedisAnet.Kernel

def anetListen (err : ErrPtr) (s : Int) (sa : SockAddr) (len : Nat) (backlog : Int)
    (perm : Nat) : Os Int := do
  if (← bind s sa len) = -1 then
    anetSetError err "bind: %s" (.strerror (← getErrno))
    close s
    return ANET_ERR
  else
    let _ ← (if sa.family = AF_LOCAL ∧ perm ≠ 0 then chmod (cString sa.sunPath) perm
      else pure 0 : Os Int)
    if (← listen s backlog) = -1 then
      anetSetError err "listen: %s" (.strerror (← getErrno))
      close s
      return ANET_ERR
    else
      return ANET_OK

/-- `af == AF_INET6 && anetV6Only(err,s) == ANET_ERR`, with C's short-circuit. -/
def v6OnlyFails (err : ErrPtr) (s af : Int) : Os Bool :=
  if af = AF_INET6 then do return (← anetV6Only err s) = ANET_ERR
  else return false

/-- `for (p = servinfo; p != NULL; p = p->ai_next)` of `_anetTcpServer`. -/
def serverLoop (err : ErrPtr) (af backlog : Int) : List AddrInfo → Int → Os (Label × Int)
  | [], s => do
      anetSetError err "unable to bind socket, errno: %d" (.int (← getErrno))
      return (.toError, s)
  | p :: ps, _ => do
      let s ← socket p.family p.socktype p.protocol
      if s = -1 then
        serverLoop err af backlog ps s
      else if (← v6OnlyFails err s af) then
        return (.toError, s)
      else if (← anetSetReuseAddr err s) = ANET_ERR then
        return (.toError, s)
      else if (← anetListen err s p.addr p.addrlen backlog 0) = ANET_ERR then
        return (.toEnd, ANET_ERR)
      else
        return (.toEnd, s)

def _anetTcpServer (err : ErrPtr) (port : Int) (bindaddr : Option String) (af backlog : Int) :
    Os Int := do
  let hints : Hints := { flags := AI_PASSIVE, family := af, socktype := SOCK_STREAM }
  let bindaddr := if bindaddr = some "*" then none else bindaddr
  let bindaddr := if af = AF_INET6 ∧ bindaddr = some "::*" then none else bindaddr
  match ← getaddrinfo bindaddr (some (portString port)) hints with
  | .error rv =>
      anetSetError err "%s" (.gaiStrerror rv)
      return ANET_ERR
  | .ok servinfo =>
      let (label, s) ← serverLoop err af backlog servinfo.entries (-1)
      let s ← if label = .toError then do
          if s ≠ -1 then close s
          pure ANET_ERR
        else pure s
      freeaddrinfo servinfo
      return s

def anetTcpServer (err : ErrPtr) (port : Int) (bindaddr : Option String) (backlog : Int) :
    Os Int :=
  _anetTcpServer err port bindaddr AF_INET backlog

def anetTcp6Server (err : ErrPtr) (port : Int) (bindaddr : Option String) (backlog : Int) :
    Os Int :=
  _anetTcpServer err port bindaddr AF_INET6 backlog

/-- `sa` is cleared with `memset` before the path is copied. -/
def anetUnixServer (err : ErrPtr) (path : List UInt8) (perm : Nat) (backlog : Int) :
    Os Int := do
  let s ← anetCreateSocket err AF_LOCAL
  if s = ANET_ERR then
    return ANET_ERR
  else if (← anetListen err s (.unix (sunPath path 0)) sizeofSockaddrUn backlog perm) = ANET_ERR then
    return ANET_ERR
  else
    return s

/-! ## Contracts -/

theorem anetListen_spec (err : ErrPtr) (s : Int) (sa : SockAddr) (len : Nat) (backlog : Int)
    (perm : Nat) : Spec (anetListen err s sa len backlog perm) fun a r b =>
      (r = ANET_OK ∧ b = a) ∨ (r = ANET_ERR ∧ b = a.closeFd s) := by
  intro w
  simp only [anetListen, wp_bind, wp_getErrno, wp_close]
  refine wp_of_keeps (keeps_bind _ _ _) fun _ w₁ h₁ => ?_
  rw [wp_ite]
  split
  · simp only [wp_bind, wp_getErrno, wp_close]
    exact wp_of_keeps (preserves_anetSetError _ _ _) fun _ _ h => .inr ⟨rfl, by simp [h, h₁]⟩
  simp only [wp_bind, wp_getErrno, wp_close]
  refine wp_of_keeps (.ite (keeps_chmod _ _) (.pure _)) fun _ w₂ h₂ => ?_
  refine wp_of_keeps (keeps_listen _ _) fun _ w₃ h₃ => ?_
  rw [wp_ite]
  split
  · simp only [wp_bind, wp_getErrno, wp_close]
    exact wp_of_keeps (preserves_anetSetError _ _ _) fun _ _ h => .inr ⟨rfl, by simp [h, h₃, h₂, h₁]⟩
  · exact .inl ⟨rfl, h₃.trans (h₂.trans h₁)⟩

theorem keeps_v6OnlyFails (err : ErrPtr) (s af : Int) : Keeps (v6OnlyFails err s af) :=
  .ite ((keeps_setOption _ _ _ _ _ _).bind fun _ => .pure _) (.pure _)

theorem serverLoop_balanced (err : ErrPtr) (af backlog : Int) (ps : List AddrInfo) :
    Spec (serverLoop err af backlog ps (-1)) fun a r b => Balanced a r.2 b := by
  induction ps with
  | nil =>
      intro w
      simp only [serverLoop, wp_bind, wp_getErrno]
      exact wp_of_keeps (preserves_anetSetError _ _ _) fun _ _ h => .failed (.of_eq h)
  | cons p ps ih =>
      intro w
      simp only [serverLoop, wp_bind, wp_socket, wp_ite, wp_pure]
      split
      · have hfd := lowestFree_not_mem w.res.fds
        rw [if_neg (show ((lowestFree w.res.fds : Nat) : Int) ≠ -1 by omega)]
        refine wp_of_keeps (keeps_v6OnlyFails _ _ _) fun _ w₁ h₁ => ?_
        have held : Clean (w.res.openFd (lowestFree w.res.fds)) w₁.res :=
          .of_eq (by simpa using h₁)
        split_ifs
        · exact .opened hfd held
        refine wp_of_keeps (keeps_setOption _ _ _ _ _ _) fun _ w₂ h₂ => ?_
        replace held := held.trans (.of_eq h₂)
        split_ifs
        · exact .opened hfd held
        refine wp_of_spec (anetListen_spec _ _ _ _ _ _) fun _ w₃ h₃ => ?_
        rcases h₃ with ⟨rfl, h₃⟩ | ⟨rfl, h₃⟩
        · rw [if_neg (by decide)]
          exact .opened hfd (held.trans (.of_eq h₃))
        · rw [if_pos rfl]
          exact .failed ((held.closeFd hfd).trans (.of_eq h₃))
      · rw [if_pos trivial]
        exact wp_of_spec ih fun _ _ h => .of_clean (.of_eq rfl) h

theorem _anetTcpServer_balanced (err : ErrPtr) (port : Int) (bindaddr : Option String)
    (af backlog : Int) : Spec (_anetTcpServer err port bindaddr af backlog) Balanced := by
  intro w
  simp only [_anetTcpServer, wp_bind, wp_getaddrinfo]
  split
  · refine wp_of_spec (serverLoop_balanced _ _ _ _) fun ⟨label, s⟩ w₁ h₁ => ?_
    simp only [World.obtainList_res, World.next_res] at h₁
    simp only [wp_bind, wp_ite, wp_close, wp_pure, wp_freeaddrinfo]
    split_ifs with hl hs
    · simpa using (Balanced.failed (h₁.close hs)).bracket
    · obtain rfl : s = ANET_ERR := not_not.1 hs
      simpa using (Balanced.failed h₁.clean_of_err).bracket
    · simpa using h₁.bracket
  · exact wp_of_keeps (preserves_anetSetError _ _ _) fun _ _ h => .failed (.of_eq (by simpa using h))

theorem anetUnixServer_balanced (err : ErrPtr) (path : List UInt8) (perm : Nat) (backlog : Int) :
    Spec (anetUnixServer err path perm backlog) Balanced := by
  intro w
  simp only [anetUnixServer, wp_bind, wp_ite, wp_pure]
  refine wp_of_spec (anetCreateSocket_balanced _ _) fun s w₁ h₁ => ?_
  split_ifs with hs
  · exact hs ▸ h₁
  refine wp_of_spec (anetListen_spec _ _ _ _ _ _) fun _ w₂ h₂ => ?_
  rcases h₂ with ⟨rfl, h₂⟩ | ⟨rfl, h₂⟩
  · rw [if_neg (by decide)]
    exact h₁.clean (.of_eq h₂)
  · rw [if_pos rfl]
    exact .failed ((h₁.close hs).trans (.of_eq h₂))

end RedisAnet.Anet

namespace RedisAnet

open Kernel Anet

/-- The descriptor-creating functions of anet.c fail with the table as it was, or return
a descriptor that was free and is now the only one added; each releases every `addrinfo`
list it obtains exactly once and closes no descriptor that is not open. -/
theorem anet_creators_balanced :
    (∀ err domain, Spec (anetCreateSocket err domain) Balanced) ∧
    (∀ err addr port source_addr flags,
      Spec (anetTcpGenericConnect err addr port source_addr flags) Balanced) ∧
    (∀ err path flags stale, Spec (anetUnixGenericConnect err path flags stale) Balanced) ∧
    (∀ err port bindaddr af backlog,
      Spec (_anetTcpServer err port bindaddr af backlog) Balanced) ∧
    (∀ err path perm backlog, Spec (anetUnixServer err path perm backlog) Balanced) :=
  ⟨anetCreateSocket_balanced, anetTcpGenericConnect_balanced, anetUnixGenericConnect_balanced,
    _anetTcpServer_balanced, anetUnixServer_balanced⟩

end RedisAnet
