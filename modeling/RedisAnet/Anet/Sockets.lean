import RedisAnet.Anet.Server
import RedisAnet.Anet.Accept
import RedisAnet.Anet.OptionEffects

/-!
# The sockets the creators return

What the kernel holds for a descriptor that a creator of anet.c returns: a server socket is
bound, listening, has `SO_REUSEADDR` and, for `AF_INET6`, `IPV6_V6ONLY`; a client socket has
`SO_REUSEADDR`, a peer (connected, or connecting when non-blocking) and `O_NONBLOCK` when it
was asked for.  The effect of each step is stated once, as an update of the one socket it
works on, and the properties of the results are composed from these.
-/

namespace RedisAnet.Anet

open RedisAnet.Kernel

/-- A socket as `_anetTcpServer` and `anetUnixServer` leave it. -/
structure Listening (af : Int) (so : Sock) : Prop where
  listening : so.listening = true
  bound : so.bound.isSome
  reuseAddr : so.opts (SOL_SOCKET, SO_REUSEADDR) = some (.int 1)
  v6Only : af = AF_INET6 → so.opts (IPPROTO_IPV6, IPV6_V6ONLY) = some (.int 1)

private theorem chmodStep_sock (c : Prop) [Decidable c] (path : List UInt8) (mode : Nat)
    (w : World) : wp (if c then chmod path mode else pure 0 : Os Int) (fun _ w' => w'.sock = w.sock) w := by
  rw [wp_ite]
  split
  · rw [wp_chmod]
    split <;> rfl
  · rfl

private theorem wp_failClose {Q : Int → World → Prop} (err : ErrPtr) (fmt : String) (s : Int)
    (w : World) (hQ : ∀ w', Q ANET_ERR w') :
    wp (do anetSetError err fmt (.strerror (← getErrno)); close s; return ANET_ERR) Q w := by
  simp only [wp_bind, wp_getErrno, wp_anetSetError, wp_close, wp_pure]
  exact hQ _

theorem anetListen_sock (err : ErrPtr) (s : Int) (sa : SockAddr) (len : Nat) (backlog : Int)
    (perm : Nat) (w : World) :
    wp (anetListen err s sa len backlog perm) (fun r w' =>
      (r = ANET_OK ∧ w'.sock =
        Function.update w.sock s { w.sock s with bound := some sa, listening := true }) ∨
      r = ANET_ERR) w := by
  rw [anetListen, wp_bind, wp_bind_call]
  split
  case h_2 =>
    rw [wp_ite, if_pos rfl]
    exact wp_failClose _ _ _ _ fun _ => .inr rfl
  rw [wp_ite, if_neg (by decide), wp_bind]
  refine wp_mono (chmodStep_sock _ _ _ _) fun _ w₂ h₂ => ?_
  rw [wp_bind, wp_listen]
  split
  case h_2 =>
    rw [wp_ite, if_pos rfl]
    exact wp_failClose _ _ _ _ fun _ => .inr rfl
  rw [wp_ite, if_neg (by decide), wp_pure]
  exact .inl ⟨rfl, by simp [h₂, Function.update_idem]⟩

theorem v6OnlyFails_sock (err : ErrPtr) (s af : Int) (w : World) :
    wp (v6OnlyFails err s af) (fun r w' => r = false →
      w'.sock = if af = AF_INET6 then Function.update w.sock s { w.sock s with
        opts := Function.update (w.sock s).opts (IPPROTO_IPV6, IPV6_V6ONLY) (some (.int 1)) }
      else w.sock) w := by
  rw [v6OnlyFails]
  split_ifs with h6
  · rw [wp_bind]
    refine wp_mono (setOption_spec _ _ _ _ _ _ w) ?_
    rintro _ w' (⟨rfl, hsock⟩ | ⟨rfl, -, -⟩) hr
    · exact hsock
    · simp at hr
  · exact fun _ => rfl

theorem serverLoop_listening (err : ErrPtr) (af backlog : Int) (ps : List AddrInfo) (s₀ : Int)
    (w : World) :
    wp (serverLoop err af backlog ps s₀) (fun r w' =>
      r.1 = .toEnd → r.2 ≠ ANET_ERR →
        Listening af (w'.sock r.2) ∧ ∃ q ∈ ps, (w'.sock r.2).bound = some q.addr) w := by
  induction ps generalizing s₀ w with
  | nil =>
      simp only [serverLoop, wp_bind, wp_getErrno, wp_anetSetError, wp_pure]
      exact fun h => Label.noConfusion h
  | cons p ps ih =>
      rw [serverLoop, wp_bind, wp_socket]
      split
      case h_2 =>
        rw [wp_ite, if_pos rfl]
        exact wp_mono (ih _ _) fun _ _ h he hs =>
          ⟨(h he hs).1, List.exists_mem_cons_of_exists (h he hs).2⟩
      rw [wp_ite, if_neg (by omega), wp_bind]
      refine wp_mono (v6OnlyFails_sock _ _ _ _) fun b w₁ h₁ => ?_
      cases b
      case true =>
        rw [wp_ite, if_pos rfl, wp_pure]
        exact fun h => Label.noConfusion h
      rw [wp_ite, if_neg (by decide), wp_bind]
      refine wp_mono (setOption_spec _ _ _ _ _ _ w₁) fun r w₂ h₂ => ?_
      rcases h₂ with ⟨rfl, h₂⟩ | ⟨rfl, -, -⟩
      · rw [wp_ite, if_neg (by decide), wp_bind]
        refine wp_mono (anetListen_sock _ _ _ _ _ _ w₂) fun r w₃ h₃ => ?_
        rcases h₃ with ⟨rfl, h₃⟩ | ⟨rfl, -⟩
        · rw [wp_ite, if_neg (by decide), wp_pure]
          intro _ _
          have hkey : (IPPROTO_IPV6, IPV6_V6ONLY) ≠ (SOL_SOCKET, SO_REUSEADDR) := by decide
          rw [h₃, h₂, h₁ rfl]
          split_ifs with h6 <;> simp only [Function.update_same, Function.update_noteq hkey]
          · exact ⟨⟨rfl, rfl, rfl, fun _ => rfl⟩, List.exists_mem_cons_of _ rfl⟩
          · exact ⟨⟨rfl, rfl, rfl, fun h => absurd h h6⟩, List.exists_mem_cons_of _ rfl⟩
        · rw [wp_ite, if_pos rfl]
          exact fun _ h => absurd rfl h
      · rw [wp_ite, if_pos rfl]
        exact fun h => Label.noConfusion h

theorem _anetTcpServer_listening (err : ErrPtr) (port : Int) (bindaddr : Option String)
    (af backlog : Int) (w : World) :
    wp (_anetTcpServer err port bindaddr af backlog) (fun r w' =>
      r ≠ ANET_ERR → Listening af (w'.sock r)) w := by
  rw [_anetTcpServer, wp_bind, wp_getaddrinfo]
  split
  · rw [wp_bind]
    refine wp_mono (serverLoop_listening _ _ _ _ _ _) ?_
    rintro ⟨label, s⟩ w₁ h₁
    simp only [wp_bind, wp_ite, wp_close, wp_pure, wp_freeaddrinfo]
    split_ifs with hl
    · exact fun h => absurd rfl h
    · exact fun h => absurd rfl h
    · have hend : label = .toEnd := by cases label <;> simp_all
      exact fun hs => by simpa using (h₁ hend hs).1
  · simp only [wp_bind, wp_anetSetError, wp_getErrno, wp_pure]
    exact fun h => absurd rfl h

theorem anetCreateSocket_sock (err : ErrPtr) (domain : Int) (w : World) :
    wp (anetCreateSocket err domain) (fun r w' => r ≠ ANET_ERR →
      w'.sock r = { opts := (Function.update (fun _ => none) (SOL_SOCKET, SO_REUSEADDR)
        (some (.int 1))) }) w := by
  rw [anetCreateSocket, wp_bind, wp_socket]
  split
  · rw [wp_ite, if_neg (by omega), wp_bind]
    refine wp_mono (setOption_spec _ _ _ _ _ _ _) ?_
    rintro _ w₁ (⟨rfl, h₁⟩ | ⟨rfl, -, -⟩)
    · rw [wp_ite, if_neg (by decide), wp_pure]
      exact fun _ => by simp [h₁]
    · rw [wp_ite, if_pos rfl]
      simp only [wp_bind, wp_close, wp_pure]
      exact fun h => absurd rfl h
  · rw [wp_ite, if_pos rfl]
    simp only [wp_bind, wp_getErrno, wp_anetSetError, wp_pure]
    exact fun h => absurd rfl h

theorem anetUnixServer_listening (err : ErrPtr) (path : List UInt8) (perm : Nat)
    (backlog : Int) (w : World) :
    wp (anetUnixServer err path perm backlog) (fun r w' => r ≠ ANET_ERR →
      Listening AF_LOCAL (w'.sock r) ∧ (w'.sock r).bound = some (.unix (sunPath path 0))) w := by
  rw [anetUnixServer, wp_bind]
  refine wp_mono (anetCreateSocket_sock _ _ _) fun s w₁ h₁ => ?_
  rw [wp_ite]
  split_ifs with hs
  · exact fun h => absurd rfl h
  rw [wp_bind]
  refine wp_mono (anetListen_sock _ _ _ _ _ _ _) ?_
  rintro _ w₂ (⟨rfl, h₂⟩ | ⟨rfl, -⟩)
  · rw [wp_ite, if_neg (by decide), wp_pure]
    intro _
    have hsock := h₁ hs
    simp only [h₂, Function.update_same, hsock]
    exact ⟨⟨rfl, rfl, by simp, fun h => absurd h (by decide)⟩, trivial⟩
  · rw [wp_ite, if_pos rfl]
    exact fun h => absurd rfl h

/-! ## Client sockets -/

/-- A socket as the connect functions return it: connected, or connecting when
non-blocking, with `SO_REUSEADDR`, and non-blocking when asked. -/
structure Connecting (flags : Int) (so : Sock) : Prop where
  peer : so.peer.isSome
  reuseAddr : so.opts (SOL_SOCKET, SO_REUSEADDR) = some (.int 1)
  nonBlock : Int.land flags ANET_CONNECT_NONBLOCK ≠ 0 → Int.land so.statusFlags O_NONBLOCK ≠ 0

theorem nonBlockFails_sock (err : ErrPtr) (s flags : Int) (w : World) :
    wp (nonBlockFails err s flags) (fun r w' => r = false → ∃ fl,
      w'.sock = Function.update w.sock s { w.sock s with statusFlags := fl } ∧
      (Int.land flags ANET_CONNECT_NONBLOCK ≠ 0 → Int.land fl O_NONBLOCK ≠ 0)) w := by
  rw [nonBlockFails]
  split_ifs with hf
  · rw [wp_bind]
    refine wp_mono (anetSetBlock_spec _ _ _ _) fun _ w' h => (wp_pure _).2 fun hr => ?_
    rcases h with ⟨rfl, fl, hsock, hbit⟩ | ⟨rfl, -⟩
    · exact ⟨fl, hsock, fun _ => by simpa using hbit⟩
    · exact absurd hr (by decide)
  · exact fun _ => ⟨_, (Function.update_eq_self _ _).symm, fun h => absurd h hf⟩

theorem bindFirst_sock (s : Int) (bs : List AddrInfo) (w : World) :
    wp (bindFirst s bs) (fun _ w' =>
      ∃ b, w'.sock = Function.update w.sock s { w.sock s with bound := b }) w := by
  induction bs generalizing w with
  | nil => exact ⟨_, (Function.update_eq_self _ _).symm⟩
  | cons b bs ih =>
      rw [bindFirst, wp_bind, wp_bind_call]
      split
      · rw [wp_ite, if_pos (by decide), wp_pure]
        exact ⟨_, rfl⟩
      · rw [wp_ite, if_neg (by simp)]
        exact wp_mono (ih _) fun _ _ ⟨b', h⟩ => ⟨b', by simp [h]⟩

theorem bindSourceFails_sock (err : ErrPtr) (s : Int) (source_addr : Option String)
    (hints : Hints) (w : World) :
    wp (bindSourceFails err s source_addr hints) (fun r w' => r = false →
      ∃ b, w'.sock = Function.update w.sock s { w.sock s with bound := b }) w := by
  cases source_addr with
  | none => exact fun _ => ⟨_, (Function.update_eq_self _ _).symm⟩
  | some source_addr =>
      rw [bindSourceFails, wp_bind, wp_getaddrinfo]
      split
      · rw [wp_bind]
        refine wp_mono (bindFirst_sock _ _ _) fun _ w₁ ⟨b, h₁⟩ => ?_
        simp only [wp_bind, wp_freeaddrinfo, wp_ite, wp_getErrno, wp_anetSetError, wp_pure]
        split_ifs
        · exact nofun
        · exact fun _ => ⟨b, by simpa using h₁⟩
      · simp only [wp_bind, wp_anetSetError, wp_getErrno, wp_pure]
        exact nofun

theorem connectLoop_connecting (err : ErrPtr) (source_addr : Option String) (hints : Hints)
    (flags : Int) (ps : List AddrInfo) (s₀ : Int) (w : World) :
    wp (connectLoop err source_addr hints flags ps s₀) (fun r w' =>
      r.1 = .toEnd →
        Connecting flags (w'.sock r.2) ∧ ∃ q ∈ ps, (w'.sock r.2).peer = some q.addr) w := by
  induction ps generalizing s₀ w with
  | nil =>
      simp only [connectLoop, wp_bind, wp_getErrno, wp_anetSetError, wp_pure]
      exact nofun
  | cons p ps ih =>
      rw [connectLoop, wp_bind, wp_socket]
      split
      case h_2 =>
        rw [wp_ite, if_pos rfl]
        exact wp_mono (ih _ _) fun _ _ h he => ⟨(h he).1, List.exists_mem_cons_of_exists (h he).2⟩
      rw [wp_ite, if_neg (by omega), wp_bind]
      refine wp_mono (setOption_spec _ _ _ _ _ _ _) ?_
      rintro _ w₁ (⟨rfl, h₁⟩ | ⟨rfl, -, -⟩)
      swap
      · rw [wp_ite, if_pos rfl, wp_pure]
        exact nofun
      rw [wp_ite, if_neg (by decide), wp_bind]
      refine wp_mono (nonBlockFails_sock _ _ _ _) fun nb w₂ h₂ => ?_
      cases nb
      case true =>
        rw [wp_ite, if_pos rfl, wp_pure]
        exact nofun
      obtain ⟨fl, h₂, hfl⟩ := h₂ rfl
      rw [wp_ite, if_neg (by decide), wp_bind]
      refine wp_mono (bindSourceFails_sock _ _ _ _ _) fun bf w₃ h₃ => ?_
      cases bf
      case true =>
        rw [wp_ite, if_pos rfl, wp_pure]
        exact nofun
      obtain ⟨b, h₃⟩ := h₃ rfl
      rw [wp_ite, if_neg (by decide)]
      -- whatever `connect` records as the peer, the socket is then as the result asks
      have hsock : ∀ peer, Connecting flags { w₃.sock (lowestFree w.res.fds) with peer := some peer } :=
        fun _ => ⟨rfl, by simp only [h₃, h₂, h₁, Function.update_same],
          by simpa only [h₃, h₂, Function.update_same] using hfl⟩
      rw [wp_bind, wp_connect]
      split
      · rw [wp_ite, if_neg (by decide), wp_pure]
        exact fun _ => ⟨by simpa using hsock p.addr, List.exists_mem_cons_of _ (by simp)⟩
      next e _ =>
      by_cases hin : e = EINPROGRESS
      · rw [if_pos hin, wp_ite, if_pos rfl, wp_bind, wp_getErrno, wp_ite]
        split_ifs
        · rw [wp_pure]
          exact fun _ => ⟨by simpa using hsock p.addr, List.exists_mem_cons_of _ (by simp)⟩
        · simp only [wp_bind, wp_close]
          exact wp_mono (ih _ _) fun _ _ h he => ⟨(h he).1, List.exists_mem_cons_of_exists (h he).2⟩
      · rw [if_neg hin, wp_ite, if_pos rfl, wp_bind, wp_getErrno, wp_ite]
        split_ifs with hin'
        · exact absurd hin'.1 hin
        · simp only [wp_bind, wp_close]
          exact wp_mono (ih _ _) fun _ _ h he => ⟨(h he).1, List.exists_mem_cons_of_exists (h he).2⟩

private theorem anetTcpGenericConnect_connecting_of_retry (err : ErrPtr) (addr : String)
    (port : Int) (source_addr : Option String) (flags : Int)
    (hretry : source_addr.isSome → ∀ w, wp (anetTcpGenericConnect err addr port none flags)
      (fun r w' => r ≠ ANET_ERR → Connecting flags (w'.sock r)) w) (w : World) :
    wp (anetTcpGenericConnect err addr port source_addr flags) (fun r w' =>
      r ≠ ANET_ERR → Connecting flags (w'.sock r)) w := by
  rw [anetTcpGenericConnect, wp_bind, wp_getaddrinfo]
  split
  · rw [wp_bind]
    refine wp_mono (connectLoop_connecting _ _ _ _ _ _ _) ?_
    rintro ⟨label, s⟩ w₁ h₁
    simp only [wp_bind, wp_ite, wp_close, wp_pure, wp_freeaddrinfo, wp_dite]
    by_cases hA : label = .toError ∧ s ≠ ANET_ERR
    · rw [if_pos hA]
      split
      · next retry => exact hretry retry.2.1 _
      · exact fun h => absurd rfl h
    · rw [if_neg hA]
      split
      · next retry => exact hretry retry.2.1 _
      · intro hs
        have hend : label = .toEnd := by
          cases label
          · exact absurd ⟨rfl, hs⟩ hA
          · rfl
        simpa using (h₁ hend).1
  · simp only [wp_bind, wp_anetSetError, wp_getErrno, wp_pure]
    exact fun h => absurd rfl h

theorem anetTcpGenericConnect_connecting (err : ErrPtr) (addr : String) (port : Int)
    (source_addr : Option String) (flags : Int) (w : World) :
    wp (anetTcpGenericConnect err addr port source_addr flags) (fun r w' =>
      r ≠ ANET_ERR → Connecting flags (w'.sock r)) w :=
  have hnone := anetTcpGenericConnect_connecting_of_retry err addr port none flags (by simp)
  anetTcpGenericConnect_connecting_of_retry err addr port source_addr flags (fun _ => hnone) w

theorem anetUnixGenericConnect_connecting (err : ErrPtr) (path : List UInt8) (flags : Int)
    (stale : UInt8) (w : World) :
    wp (anetUnixGenericConnect err path flags stale) (fun r w' => r ≠ ANET_ERR →
      Connecting flags (w'.sock r) ∧ (w'.sock r).peer = some (.unix (sunPath path stale))) w := by
  rw [anetUnixGenericConnect, wp_bind]
  refine wp_mono (anetCreateSocket_sock _ _ _) fun s w₁ h₁ => ?_
  by_cases hs : s = ANET_ERR
  · rw [wp_ite, if_pos hs, wp_pure]
    exact fun h => absurd rfl h
  rw [wp_ite, if_neg hs, wp_bind]
  refine wp_mono (nonBlockFails_sock _ _ _ _) fun nb w₂ h₂ => ?_
  cases nb with
  | true =>
    rw [wp_ite, if_pos rfl]
    simp only [wp_bind, wp_close, wp_pure]
    exact fun h => absurd rfl h
  | false => ?_
  obtain ⟨fl, h₂, hfl⟩ := h₂ rfl
  rw [wp_ite, if_neg (by decide)]
  have hsock : Connecting flags { w₂.sock s with peer := some (.unix (sunPath path stale)) } :=
    ⟨rfl, by simp only [h₂, h₁ hs, Function.update_same],
      by simpa only [h₂, Function.update_same] using hfl⟩
  rw [wp_bind, wp_connect]
  split
  · rw [wp_ite, if_neg (by decide), wp_pure]
    exact fun _ => by simpa using hsock
  next e _ =>
  by_cases hin : e = EINPROGRESS
  · rw [if_pos hin, wp_ite, if_pos rfl, wp_bind, wp_getErrno, wp_ite]
    split_ifs
    · rw [wp_pure]
      exact fun _ => by simpa using hsock
    · simp only [wp_bind, wp_getErrno, wp_anetSetError, wp_close, wp_pure]
      exact fun h => absurd rfl h
  · rw [if_neg hin, wp_ite, if_pos rfl, wp_bind, wp_getErrno, wp_ite]
    split_ifs with hin'
    · exact absurd hin'.1 hin
    · simp only [wp_bind, wp_getErrno, wp_anetSetError, wp_close, wp_pure]
      exact fun h => absurd rfl h

/-! ## Accepted sockets -/

private theorem accept_peer (s : Int) (w : World) :
    wp (accept s) (fun r w' =>
      ¬r.1 = -1 → ∃ peer, r.2 = some peer ∧ (w'.sock r.1).peer = some peer) w := by
  rw [wp_accept]
  split
  · exact fun _ => ⟨_, rfl, by simp⟩
  · exact fun h => absurd rfl h

theorem anetGenericAccept_peer (err : ErrPtr) (s : Int) (fuel : Nat) (w : World) :
    wp (anetGenericAccept err s fuel) (fun r w' => ∀ fd sa, r = some (fd, sa) → fd ≠ ANET_ERR →
      ∃ peer, sa = some peer ∧ (w'.sock fd).peer = some peer) w := by
  rw [anetGenericAccept, wp_bind]
  refine wp_mono (wp_retryEintr (accept_peer s) fuel w) ?_
  rintro (_ | ⟨fd, sa⟩) w₁ h₁
  · rw [wp_pure]
    exact fun _ _ h => Option.noConfusion h
  by_cases hfd : fd = -1
  · simp only [wp_ite, if_pos hfd, wp_bind, wp_getErrno, wp_anetSetError, wp_pure]
    rintro _ _ ⟨⟩ h
    exact absurd rfl h
  · rw [wp_ite, if_neg hfd, wp_pure]
    rintro _ _ ⟨⟩ -
    exact h₁ _ rfl hfd

theorem anetTcpAccept_peer (err : ErrPtr) (s : Int) (ip_len fuel : Nat) (w : World) :
    wp (anetTcpAccept err s ip_len fuel) (fun r w' => ∀ fd ip port, r = some (fd, ip, port) →
      fd ≠ ANET_ERR → ∃ peer, (w'.sock fd).peer = some peer ∧
        ip = inetNtop peer.host ip_len ∧ port = some peer.port) w := by
  rw [anetTcpAccept, wp_bind]
  refine wp_mono (anetGenericAccept_peer err s fuel w) ?_
  rintro (_ | ⟨fd, sa⟩) w₁ h₁
  · rw [wp_pure]
    exact fun _ _ _ h => Option.noConfusion h
  by_cases hfd : fd = -1
  · rw [wp_ite, if_pos hfd, wp_pure]
    rintro _ _ _ ⟨⟩ h
    exact absurd rfl h
  · rw [wp_ite, if_neg hfd, wp_pure]
    rintro _ _ _ ⟨⟩ -
    obtain ⟨peer, rfl, hpeer⟩ := h₁ fd sa rfl hfd
    exact ⟨peer, hpeer, rfl, rfl⟩

theorem anetUnixAccept_peer (err : ErrPtr) (s : Int) (fuel : Nat) (w : World) :
    wp (anetUnixAccept err s fuel) (fun r w' => ∀ fd, r = some fd → fd ≠ ANET_ERR →
      (w'.sock fd).peer.isSome) w := by
  rw [anetUnixAccept, wp_bind]
  refine wp_mono (anetGenericAccept_peer err s fuel w) ?_
  rintro (_ | ⟨fd, sa⟩) w₁ h₁
  · rw [wp_pure]
    exact fun _ h => Option.noConfusion h
  · rw [wp_pure]
    rintro _ ⟨⟩ hfd
    have hne : ¬fd = -1 := fun h => hfd (if_pos h)
    rw [if_neg hne]
    obtain ⟨peer, -, hpeer⟩ := h₁ fd sa rfl hne
    simp [hpeer]

/-! ## The creators' results -/

/-- What the servers return is a listening socket: bound (for `anetUnixServer`, to the
path copied into the cleared `sun_path`), listening, with `SO_REUSEADDR`, and with
`IPV6_V6ONLY` for `AF_INET6`. -/
theorem anet_servers_listening :
    (∀ err port bindaddr af backlog w, wp (_anetTcpServer err port bindaddr af backlog)
      (fun r w' => r ≠ ANET_ERR → Listening af (w'.sock r)) w) ∧
    (∀ err path perm backlog w, wp (anetUnixServer err path perm backlog)
      (fun r w' => r ≠ ANET_ERR →
        Listening AF_LOCAL (w'.sock r) ∧ (w'.sock r).bound = some (.unix (sunPath path 0))) w) :=
  ⟨_anetTcpServer_listening, anetUnixServer_listening⟩

/-- What the connect functions return is a socket with a peer (connected, or connecting
when non-blocking; for `anetUnixGenericConnect`, the `sun_path` it built, whose last byte
is whatever the stack held), with `SO_REUSEADDR`, and with `O_NONBLOCK` when
`ANET_CONNECT_NONBLOCK` is asked for. -/
theorem anet_connects_connecting :
    (∀ err addr port source_addr flags w,
      wp (anetTcpGenericConnect err addr port source_addr flags)
        (fun r w' => r ≠ ANET_ERR → Connecting flags (w'.sock r)) w) ∧
    (∀ err path flags stale w, wp (anetUnixGenericConnect err path flags stale) (fun r w' =>
      r ≠ ANET_ERR → Connecting flags (w'.sock r) ∧
        (w'.sock r).peer = some (.unix (sunPath path stale))) w) :=
  ⟨anetTcpGenericConnect_connecting, anetUnixGenericConnect_connecting⟩

end RedisAnet.Anet
