import RedisAnet.Anet.Options

/-!
# Creating and connecting sockets

`anetCreateSocket`, `anetTcpGenericConnect` with its two front ends, and
`anetUnixGenericConnect`, each `Balanced` from every world.  `anetTcpGenericConnect` has the
real control flow: a loop over the resolver's list (`connectLoop`, which returns the label it
jumps to and the value of `s` at the jump) that leaves by `continue`, `goto error` or
`goto end`, a nested resolution and `bind` loop for the source address, and one retry
without the source address when best-effort binding is asked for.
-/

namespace RedisAnet.Anet

open RedisAnet.Kernel

def ANET_CONNECT_NONE : Int := 0
def ANET_CONNECT_NONBLOCK : Int := 1
/-- Best effort binding. -/
def ANET_CONNECT_BE_BINDING : Int := 2

/-- `snprintf(portstr, sizeof(portstr), "%d", port)` with `char portstr[6]`. -/
def portString (port : Int) : String := (toString port).take 5

def anetCreateSocket (err : ErrPtr) (domain : Int) : Os Int := do
  let s ← socket domain SOCK_STREAM 0
  if s = -1 then
    anetSetError err "creating socket: %s" (.strerror (← getErrno))
    return ANET_ERR
  else if (← anetSetReuseAddr err s) = ANET_ERR then
    close s
    return ANET_ERR
  else
    return s

/-- The labels the `for` loop of `anetTcpGenericConnect` jumps to. -/
inductive Label where
  | toError
  | toEnd
  deriving DecidableEq, Repr

/-- `flags & ANET_CONNECT_NONBLOCK && anetNonBlock(err,s) != ANET_OK`, with C's
short-circuit. -/
def nonBlockFails (err : ErrPtr) (s flags : Int) : Os Bool :=
  if Int.land flags ANET_CONNECT_NONBLOCK ≠ 0 then do return (← anetNonBlock err s) ≠ ANET_OK
  else return false

/-- The loop over `bservinfo`: `true` as soon as one `bind` succeeds. -/
def bindFirst (s : Int) : List AddrInfo → Os Bool
  | [] => return false
  | b :: bs => do
      if (← bind s b.addr b.addrlen) ≠ -1 then return true
      else bindFirst s bs

/-- The `if (source_addr)` block of the loop body; `true` when it jumps to `error`. -/
def bindSourceFails (err : ErrPtr) (s : Int) (source_addr : Option String) (hints : Hints) :
    Os Bool :=
  match source_addr with
  | none => return false
  | some source_addr => do
      match ← getaddrinfo (some source_addr) none hints with
      | .error rv =>
          anetSetError err "%s" (.gaiStrerror rv)
          return true
      | .ok bservinfo =>
          let bound ← bindFirst s bservinfo.entries
          freeaddrinfo bservinfo
          if !bound then
            anetSetError err "bind: %s" (.strerror (← getErrno))
            return true
          else
            return false

/-- `for (p = servinfo; p != NULL; p = p->ai_next)`, entered with `s` as it stands.
Leaving the list sets the error and falls into `error`. -/
def connectLoop (err : ErrPtr) (source_addr : Option String) (hints : Hints) (flags : Int) :
    List AddrInfo → Int → Os (Label × Int)
  | [], s => do
      anetSetError err "creating socket: %s" (.strerror (← getErrno))
      return (.toError, s)
  | p :: ps, _ => do
      let s ← socket p.family p.socktype p.protocol
      if s = -1 then
        connectLoop err source_addr hints flags ps s
      else if (← anetSetReuseAddr err s) = ANET_ERR then
        return (.toError, s)
      else if (← nonBlockFails err s flags) then
        return (.toError, s)
      else if (← bindSourceFails err s source_addr hints) then
        return (.toError, s)
      else if (← connect s p.addr p.addrlen) = -1 then
        if (← getErrno) = EINPROGRESS ∧ Int.land flags ANET_CONNECT_NONBLOCK ≠ 0 then
          return (.toEnd, s)
        else
          close s
          connectLoop err source_addr hints flags ps ANET_ERR
      else
        return (.toEnd, s)

def anetTcpGenericConnect (err : ErrPtr) (addr : String) (port : Int)
    (source_addr : Option String) (flags : Int) : Os Int := do
  let hints : Hints := { family := AF_UNSPEC, socktype := SOCK_STREAM }
  match ← getaddrinfo (some addr) (some (portString port)) hints with
  | .error rv =>
      anetSetError err "%s" (.gaiStrerror rv)
      return ANET_ERR
  | .ok servinfo =>
      let (label, s) ← connectLoop err source_addr hints flags servinfo.entries ANET_ERR
      let s ← if label = .toError ∧ s ≠ ANET_ERR then do close s; pure ANET_ERR else pure s
      freeaddrinfo servinfo
      if _retry : s = ANET_ERR ∧ source_addr.isSome ∧ Int.land flags ANET_CONNECT_BE_BINDING ≠ 0 then
        anetTcpGenericConnect err addr port none flags
      else
        return s
termination_by source_addr.isSome.toNat
decreasing_by simp [_retry.2.1]

def anetTcpNonBlockConnect (err : ErrPtr) (addr : String) (port : Int) : Os Int :=
  anetTcpGenericConnect err addr port none ANET_CONNECT_NONBLOCK

def anetTcpNonBlockBestEffortBindConnect (err : ErrPtr) (addr : String) (port : Int)
    (source_addr : Option String) : Os Int :=
  anetTcpGenericConnect err addr port source_addr
    (Int.lor ANET_CONNECT_NONBLOCK ANET_CONNECT_BE_BINDING)

/-- `sa.sun_path` after `strncpy(sa.sun_path, path, sizeof(sa.sun_path)-1)` into Linux's
108-byte `sun_path`: the bytes of `path` cut or NUL-padded to 107, then the last byte as
it was, `last`. -/
def sunPath (path : List UInt8) (last : UInt8) : List UInt8 :=
  path.take 107 ++ List.replicate (107 - path.length) 0 ++ [last]

/-- `sizeof(struct sockaddr_un)` on Linux. -/
def sizeofSockaddrUn : Nat := 110

/-- `sa` is not cleared: `stale` is the byte the stack left in `sa.sun_path[107]`. -/
def anetUnixGenericConnect (err : ErrPtr) (path : List UInt8) (flags : Int) (stale : UInt8) :
    Os Int := do
  let s ← anetCreateSocket err AF_LOCAL
  if s = ANET_ERR then
    return ANET_ERR
  else if (← nonBlockFails err s flags) then
    close s
    return ANET_ERR
  else if (← connect s (.unix (sunPath path stale)) sizeofSockaddrUn) = -1 then
    if (← getErrno) = EINPROGRESS ∧ Int.land flags ANET_CONNECT_NONBLOCK ≠ 0 then
      return s
    else
      anetSetError err "connect: %s" (.strerror (← getErrno))
      close s
      return ANET_ERR
  else
    return s

/-- Without a source address the retry branch is never taken: the call is its body with the
best-effort retry left out, so the retry recurses at most once. -/
theorem anetTcpGenericConnect_none (err : ErrPtr) (addr : String) (port flags : Int) :
    anetTcpGenericConnect err addr port none flags = (do
      let hints : Hints := { family := AF_UNSPEC, socktype := SOCK_STREAM }
      match ← getaddrinfo (some addr) (some (portString port)) hints with
      | .error rv =>
          anetSetError err "%s" (.gaiStrerror rv)
          return ANET_ERR
      | .ok servinfo =>
          let (label, s) ← connectLoop err none hints flags servinfo.entries ANET_ERR
          let s ← if label = .toError ∧ s ≠ ANET_ERR then do close s; pure ANET_ERR else pure s
          freeaddrinfo servinfo
          return s) := by
  rw [anetTcpGenericConnect]
  simp

/-! ## Contracts -/

theorem anetCreateSocket_balanced (err : ErrPtr) (domain : Int) :
    Spec (anetCreateSocket err domain) Balanced := by
  intro w
  simp only [anetCreateSocket, wp_bind, wp_socket]
  split
  · have hfd := lowestFree_not_mem w.res.fds
    simp only [wp_ite, if_neg (show ((lowestFree w.res.fds : Nat) : Int) ≠ -1 by omega), wp_bind]
    refine wp_of_keeps (keeps_setOption _ _ _ _ _ _) fun _ w₁ h₁ => ?_
    have held : Clean (w.res.openFd (lowestFree w.res.fds)) w₁.res := .of_eq (by simpa using h₁)
    simp only [wp_ite, wp_bind, wp_close, wp_pure]
    split_ifs
    · exact .failed (held.closeFd hfd)
    · exact .opened hfd held
  · simp only [wp_ite, ite_true, wp_bind, wp_getErrno]
    exact wp_of_keeps (preserves_anetSetError _ _ _) fun _ _ h => .failed (.of_eq (by simpa using h))

theorem keeps_nonBlockFails (err : ErrPtr) (s flags : Int) : Keeps (nonBlockFails err s flags) :=
  .ite ((keeps_anetSetBlock _ _ _).bind fun _ => .pure _) (.pure _)

theorem keeps_bindFirst (s : Int) (bs : List AddrInfo) : Keeps (bindFirst s bs) := by
  induction bs with
  | nil => exact .pure _
  | cons b bs ih => exact (keeps_bind _ _ _).bind fun _ => .ite (.pure _) ih

theorem bindSourceFails_clean (err : ErrPtr) (s : Int) (source_addr : Option String)
    (hints : Hints) : Spec (bindSourceFails err s source_addr hints) fun a _ b => Clean a b := by
  intro w
  cases source_addr with
  | none => exact Clean.refl _
  | some source_addr =>
      simp only [bindSourceFails, wp_bind, wp_getaddrinfo]
      split
      · refine wp_of_keeps (keeps_bindFirst _ _) fun _ w₁ h₁ => ?_
        have done : Clean w.res (w₁.releaseList w.res.lists).res := by
          simpa [h₁] using (Clean.refl w.res.obtain).bracket
        simp only [wp_bind, wp_freeaddrinfo, wp_ite, wp_getErrno, wp_pure]
        split_ifs
        · exact wp_of_keeps (preserves_anetSetError _ _ _) fun _ _ h => done.trans (.of_eq h)
        · exact done
      · exact wp_of_keeps (preserves_anetSetError _ _ _) fun _ _ h => .of_eq (by simpa using h)

theorem connectLoop_balanced (err : ErrPtr) (source_addr : Option String) (hints : Hints)
    (flags : Int) (ps : List AddrInfo) :
    Spec (connectLoop err source_addr hints flags ps ANET_ERR) fun a r b => Balanced a r.2 b := by
  induction ps with
  | nil =>
      intro w
      simp only [connectLoop, wp_bind, wp_getErrno]
      exact wp_of_keeps (preserves_anetSetError _ _ _) fun _ _ h => .failed (.of_eq h)
  | cons p ps ih =>
      intro w
      simp only [connectLoop, wp_bind, wp_socket, wp_ite, wp_pure, wp_getErrno, wp_close]
      split
      · have hfd := lowestFree_not_mem w.res.fds
        rw [if_neg (show ((lowestFree w.res.fds : Nat) : Int) ≠ -1 by omega)]
        refine wp_of_keeps (keeps_setOption _ _ _ _ _ _) fun r w₁ h₁ => ?_
        have held : Clean (w.res.openFd (lowestFree w.res.fds)) w₁.res :=
          .of_eq (by simpa using h₁)
        by_cases hr : r = ANET_ERR
        · rw [if_pos hr]
          exact .opened hfd held
        rw [if_neg hr]
        refine wp_of_keeps (keeps_nonBlockFails _ _ _) fun nb w₂ h₂ => ?_
        replace held := held.trans (.of_eq h₂)
        cases nb with
        | true => exact .opened hfd held
        | false => ?_
        rw [if_neg (by decide)]
        refine wp_of_spec (bindSourceFails_clean _ _ _ _) fun bf w₃ h₃ => ?_
        replace held := held.trans h₃
        cases bf with
        | true => exact .opened hfd held
        | false => ?_
        rw [if_neg (by decide)]
        refine wp_of_keeps (keeps_connect _ _ _) fun c w₄ h₄ => ?_
        replace held := held.trans (.of_eq h₄)
        by_cases hc : c = -1
        · rw [if_pos hc]
          split_ifs
          · exact .opened hfd held
          · exact wp_of_spec ih fun _ _ h => .of_clean (held.closeFd hfd) h
        · rw [if_neg hc]
          exact .opened hfd held
      · rw [if_pos trivial]
        exact wp_of_spec ih fun _ _ h => .of_clean (.of_eq rfl) h

private theorem anetTcpGenericConnect_balanced_of_retry (err : ErrPtr) (addr : String)
    (port : Int) (source_addr : Option String) (flags : Int)
    (hretry : source_addr.isSome → Spec (anetTcpGenericConnect err addr port none flags) Balanced) :
    Spec (anetTcpGenericConnect err addr port source_addr flags) Balanced := by
  intro w
  rw [anetTcpGenericConnect]
  simp only [wp_bind, wp_getaddrinfo]
  split
  · refine wp_of_spec (connectLoop_balanced _ _ _ _ _) fun ⟨label, s⟩ w₁ h₁ => ?_
    simp only [World.obtainList_res, World.next_res] at h₁
    simp only [wp_bind, wp_ite, wp_close, wp_pure, wp_freeaddrinfo, wp_dite]
    by_cases hA : label = .toError ∧ s ≠ ANET_ERR
    · have done : Clean w.res ((w₁.closeFd s).releaseList w.res.lists).res := by
        simpa using (h₁.close hA.2).bracket
      rw [if_pos hA]
      split
      · next retry => exact wp_of_spec (hretry retry.2.1) fun _ _ h => .of_clean done h
      · exact .failed done
    · have done : Balanced w.res s (w₁.releaseList w.res.lists).res := by
        simpa using h₁.bracket
      rw [if_neg hA]
      split
      · next retry =>
          exact wp_of_spec (hretry retry.2.1) fun _ _ h =>
            .of_clean (retry.1 ▸ done).clean_of_err h
      · exact done
  · exact wp_of_keeps (preserves_anetSetError _ _ _) fun _ _ h => .failed (.of_eq (by simpa using h))

theorem anetTcpGenericConnect_balanced (err : ErrPtr) (addr : String) (port : Int)
    (source_addr : Option String) (flags : Int) :
    Spec (anetTcpGenericConnect err addr port source_addr flags) Balanced :=
  have hnone := anetTcpGenericConnect_balanced_of_retry err addr port none flags (by simp)
  anetTcpGenericConnect_balanced_of_retry err addr port source_addr flags fun _ => hnone

theorem anetUnixGenericConnect_balanced (err : ErrPtr) (path : List UInt8) (flags : Int)
    (stale : UInt8) : Spec (anetUnixGenericConnect err path flags stale) Balanced := by
  intro w
  simp only [anetUnixGenericConnect, wp_bind]
  refine wp_of_spec (anetCreateSocket_balanced _ _) fun s w₁ h₁ => ?_
  by_cases hs : s = ANET_ERR
  · rw [wp_ite, if_pos hs, wp_pure]
    exact hs ▸ h₁
  rw [wp_ite, if_neg hs, wp_bind]
  refine wp_of_keeps (keeps_nonBlockFails _ _ _) fun nb w₂ h₂ => ?_
  replace h₁ := h₁.clean (.of_eq h₂)
  cases nb with
  | true =>
    simp only [wp_ite, if_true, wp_bind, wp_close, wp_pure]
    exact .failed (h₁.close hs)
  | false => ?_
  rw [wp_ite, if_neg (by decide), wp_bind]
  refine wp_of_keeps (keeps_connect _ _ _) fun c w₃ h₃ => ?_
  replace h₁ := h₁.clean (.of_eq h₃)
  by_cases hc : c = -1
  · simp only [wp_ite, if_pos hc, wp_bind, wp_getErrno, wp_pure, wp_close]
    split_ifs
    · exact h₁
    · exact wp_of_keeps (preserves_anetSetError _ _ _) fun _ _ h =>
        .failed ((h₁.clean (.of_eq h)).close hs)
  · rw [wp_ite, if_neg hc, wp_pure]
    exact h₁

end RedisAnet.Anet
