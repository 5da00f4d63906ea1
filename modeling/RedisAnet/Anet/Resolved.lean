import RedisAnet.Anet.Sockets

/-!
# Connected or bound where the resolver says

`anetTcpGenericConnect` asks `getaddrinfo` for `addr` and the text of `port`, and
`_anetTcpServer` for `bindaddr` (with `"*"`, and `"::*"` for IPv6, meaning any address) and
the port, and each walks the list returned: a descriptor the first returns has as its peer
one of the addresses the resolver returned for that very query during the call, also after
the best-effort retry made a second query, and one the second returns is bound to one of the
addresses of its query.  The retry reads its answer at a later tick, so the steps before it
must keep the environment and only move the clock forward (`KeepsEnv`).
-/


namespace RedisAnet.Anet

open RedisAnet.Kernel

/-- `w'` comes after `w` in the same environment. -/
def Later (w w' : World) : Prop := w'.env = w.env ∧ w.tick ≤ w'.tick

instance : Frame Later :=
  ⟨fun _ => ⟨rfl, le_rfl⟩, fun h₁ h₂ => ⟨h₂.1.trans h₁.1, h₁.2.trans h₂.2⟩,
    fun _ => ⟨rfl, Nat.le_succ _⟩, fun _ _ => ⟨rfl, le_rfl⟩, fun _ _ => ⟨rfl, le_rfl⟩⟩

/-- Every run of `x` ends later in the environment it started in. -/
def KeepsEnv {α : Type} (x : Os α) : Prop := Preserves Later x

/-! ## The calls the connect loop makes -/

theorem keepsEnv_socket (domain type protocol : Int) : KeepsEnv (socket domain type protocol) :=
  preserves_socket _ _ _ fun _ => ⟨rfl, le_rfl⟩

theorem keepsEnv_setsockopt (fd level name : Int) (val : OptVal) :
    KeepsEnv (setsockopt fd level name val) :=
  preserves_setsockopt _ _ _ _ fun _ => ⟨rfl, le_rfl⟩

theorem keepsEnv_fcntl (fd cmd arg : Int) : KeepsEnv (fcntl fd cmd arg) :=
  preserves_fcntl _ _ _ (fun _ => ⟨rfl, le_rfl⟩) fun _ => ⟨rfl, le_rfl⟩

theorem keepsEnv_getaddrinfo (node service : Option String) (hints : Hints) :
    KeepsEnv (getaddrinfo node service hints) :=
  preserves_getaddrinfo _ _ _ fun _ => ⟨rfl, le_rfl⟩

theorem keepsEnv_freeaddrinfo (l : AddrInfoList) : KeepsEnv (freeaddrinfo l) :=
  preserves_freeaddrinfo _ fun _ => ⟨rfl, le_rfl⟩

theorem keepsEnv_close (fd : Int) : KeepsEnv (close fd) := preserves_close _ fun _ => ⟨rfl, le_rfl⟩

theorem keepsEnv_bind (fd : Int) (addr : SockAddr) (len : Nat) : KeepsEnv (bind fd addr len) :=
  preserves_bind_call _ _ _ fun _ => ⟨rfl, le_rfl⟩

theorem keepsEnv_connect (fd : Int) (addr : SockAddr) (len : Nat) :
    KeepsEnv (connect fd addr len) :=
  preserves_connect _ _ _ fun _ => ⟨rfl, le_rfl⟩

theorem keepsEnv_setOption (err : ErrPtr) (fd level name : Int) (val : OptVal) (fmt : String) :
    KeepsEnv (setOption err fd level name val fmt) :=
  (keepsEnv_setsockopt _ _ _ _).bind fun _ => .ite (.setError _ _ _ (.pure _)) (.pure _)

theorem keepsEnv_nonBlockFails (err : ErrPtr) (s flags : Int) :
    KeepsEnv (nonBlockFails err s flags) :=
  .ite (((keepsEnv_fcntl _ _ _).bind fun _ => .ite (.setError _ _ _ (.pure _)) <|
    .ite (.pure _) <| (keepsEnv_fcntl _ _ _).bind fun _ =>
      .ite (.setError _ _ _ (.pure _)) (.pure _)).bind fun _ => .pure _) (.pure _)

theorem keepsEnv_bindFirst (s : Int) (bs : List AddrInfo) : KeepsEnv (bindFirst s bs) := by
  induction bs with
  | nil => exact .pure _
  | cons b bs ih => exact (keepsEnv_bind _ _ _).bind fun _ => .ite (.pure _) ih

theorem keepsEnv_bindSourceFails (err : ErrPtr) (s : Int) (source_addr : Option String)
    (hints : Hints) : KeepsEnv (bindSourceFails err s source_addr hints) := by
  cases source_addr with
  | none => exact .pure _
  | some source_addr =>
      refine (keepsEnv_getaddrinfo _ _ _).bind fun r => ?_
      rcases r with rv | bservinfo
      · exact (preserves_anetSetError _ _ _).bind fun _ => .pure _
      · exact (keepsEnv_bindFirst _ _).bind fun _ => (keepsEnv_freeaddrinfo _).bind fun _ =>
          .ite (.setError _ _ _ (.pure _)) (.pure _)

theorem keepsEnv_connectLoop (err : ErrPtr) (source_addr : Option String) (hints : Hints)
    (flags : Int) (ps : List AddrInfo) (s₀ : Int) :
    KeepsEnv (connectLoop err source_addr hints flags ps s₀) := by
  induction ps generalizing s₀ with
  | nil => exact .setError _ _ _ (.pure _)
  | cons p ps ih =>
      exact (keepsEnv_socket _ _ _).bind fun _ => .ite (ih _) <|
        (keepsEnv_setOption _ _ _ _ _ _).bind fun _ => .ite (.pure _) <|
        (keepsEnv_nonBlockFails _ _ _).bind fun _ => .ite (.pure _) <|
        (keepsEnv_bindSourceFails _ _ _ _).bind fun _ => .ite (.pure _) <|
        (keepsEnv_connect _ _ _).bind fun _ => .ite
          (preserves_getErrno.bind fun _ => .ite (.pure _) <| (keepsEnv_close _).bind fun _ => ih _)
          (.pure _)

/-! ## The addresses used are the resolver's -/

/-- `r`, unless `ANET_ERR`, has as its peer in `w'` an address the resolver `e` returned for
`addr` and the port's text at a tick from `t₀` on and before `w'`. -/
private def PeerResolved (addr : String) (port : Int) (e : Env) (t₀ : Nat) (r : Int)
    (w' : World) : Prop :=
  r ≠ ANET_ERR → ∃ t, t₀ ≤ t ∧ t < w'.tick ∧ ∃ entries,
    e.answer t (.getaddrinfo (some addr) (some (portString port))
      { family := AF_UNSPEC, socktype := SOCK_STREAM }) =
      (.ok entries : Except Int (List AddrInfo)) ∧
    ∃ p ∈ entries, (w'.sock r).peer = some p.addr

private theorem anetTcpGenericConnect_resolved_of_retry (err : ErrPtr) (addr : String)
    (port : Int) (source_addr : Option String) (flags : Int)
    (hretry : source_addr.isSome → ∀ w e t₀, w.env = e → t₀ ≤ w.tick →
      wp (anetTcpGenericConnect err addr port none flags) (PeerResolved addr port e t₀) w)
    (w : World) (e : Env) (t₀ : Nat) (he : w.env = e) (ht₀ : t₀ ≤ w.tick) :
    wp (anetTcpGenericConnect err addr port source_addr flags) (PeerResolved addr port e t₀) w := by
  subst he
  rw [anetTcpGenericConnect, wp_bind, wp_getaddrinfo]
  split
  · next entries heq =>
    rw [wp_bind]
    refine wp_mono (wp_and (connectLoop_connecting _ _ _ _ _ _ _) (keepsEnv_connectLoop _ _ _ _ _ _ _))
      ?_
    rintro ⟨label, s⟩ w₁ ⟨h₁, henv, htick⟩
    change w₁.env = w.env at henv
    change w.tick < w₁.tick at htick
    have hlate : t₀ ≤ w₁.tick := by omega
    simp only [wp_bind, wp_ite, wp_close, wp_pure, wp_freeaddrinfo, wp_dite]
    by_cases hA : label = .toError ∧ s ≠ ANET_ERR
    · rw [if_pos hA]
      split
      · next retry => exact hretry retry.2.1 _ _ _ henv hlate
      · exact fun h => absurd rfl h
    · rw [if_neg hA]
      split
      · next retry => exact hretry retry.2.1 _ _ _ henv hlate
      · intro hs
        have hend : label = .toEnd := by
          cases label
          · exact absurd ⟨rfl, hs⟩ hA
          · rfl
        exact ⟨w.tick, ht₀, htick, entries, heq, (h₁ hend).2⟩
  · simp only [wp_bind, wp_anetSetError, wp_getErrno, wp_pure]
    exact fun h => absurd rfl h

theorem anetTcpGenericConnect_resolved (err : ErrPtr) (addr : String) (port : Int)
    (source_addr : Option String) (flags : Int) (w : World) :
    wp (anetTcpGenericConnect err addr port source_addr flags)
      (fun r w' => r ≠ ANET_ERR → ∃ t, w.tick ≤ t ∧ t < w'.tick ∧ ∃ entries,
        w.env.answer t (.getaddrinfo (some addr) (some (portString port))
          { family := AF_UNSPEC, socktype := SOCK_STREAM }) =
          (.ok entries : Except Int (List AddrInfo)) ∧
        ∃ p ∈ entries, (w'.sock r).peer = some p.addr) w :=
  have hnone := anetTcpGenericConnect_resolved_of_retry err addr port none flags nofun
  anetTcpGenericConnect_resolved_of_retry err addr port source_addr flags (fun _ => hnone) w _ _
    rfl le_rfl

theorem _anetTcpServer_resolved (err : ErrPtr) (port : Int) (bindaddr : Option String)
    (af backlog : Int) (w : World) :
    wp (_anetTcpServer err port bindaddr af backlog) (fun r w' => r ≠ ANET_ERR →
      ∃ entries, w.env.answer w.tick (.getaddrinfo
          (if af = AF_INET6 ∧ (if bindaddr = some "*" then none else bindaddr) = some "::*"
            then none else if bindaddr = some "*" then none else bindaddr)
          (some (portString port)) { flags := AI_PASSIVE, family := af, socktype := SOCK_STREAM }) =
        (.ok entries : Except Int (List AddrInfo)) ∧
      ∃ p ∈ entries, (w'.sock r).bound = some p.addr) w := by
  rw [_anetTcpServer, wp_bind, wp_getaddrinfo]
  split
  · next entries heq =>
    rw [wp_bind]
    refine wp_mono (serverLoop_listening _ _ _ _ _ _) ?_
    rintro ⟨label, s⟩ w₁ h₁
    simp only [wp_bind, wp_ite, wp_close, wp_pure, wp_freeaddrinfo]
    by_cases hl : label = .toError
    · rw [if_pos hl]
      split <;> exact fun h => absurd rfl h
    · rw [if_neg hl]
      have hend : label = .toEnd := by
        cases label
        · exact absurd rfl hl
        · rfl
      exact fun hs => ⟨entries, heq, by simpa using (h₁ hend hs).2⟩
  · simp only [wp_bind, wp_anetSetError, wp_getErrno, wp_pure]
    exact fun h => absurd rfl h

/-- The TCP functions use the addresses the resolver gives: a descriptor the connect
functions return has as its peer an address `getaddrinfo` returned during the call for
`addr` and the port's text, and one the TCP servers return is bound to an address their
`getaddrinfo` call returned for the port and `bindaddr` as the code normalises it. -/
theorem anet_tcp_endpoints_resolved :
    (∀ err addr port source_addr flags w,
      wp (anetTcpGenericConnect err addr port source_addr flags)
        (fun r w' => r ≠ ANET_ERR → ∃ t, w.tick ≤ t ∧ t < w'.tick ∧ ∃ entries,
          w.env.answer t (.getaddrinfo (some addr) (some (portString port))
            { family := AF_UNSPEC, socktype := SOCK_STREAM }) =
            (.ok entries : Except Int (List AddrInfo)) ∧
          ∃ p ∈ entries, (w'.sock r).peer = some p.addr) w) ∧
    (∀ err port bindaddr af backlog w, wp (_anetTcpServer err port bindaddr af backlog)
      (fun r w' => r ≠ ANET_ERR → ∃ entries, w.env.answer w.tick (.getaddrinfo
          (if af = AF_INET6 ∧ (if bindaddr = some "*" then none else bindaddr) = some "::*"
            then none else if bindaddr = some "*" then none else bindaddr)
          (some (portString port)) { flags := AI_PASSIVE, family := af, socktype := SOCK_STREAM }) =
        (.ok entries : Except Int (List AddrInfo)) ∧
      ∃ p ∈ entries, (w'.sock r).bound = some p.addr) w) :=
  ⟨anetTcpGenericConnect_resolved, _anetTcpServer_resolved⟩

end RedisAnet.Anet
