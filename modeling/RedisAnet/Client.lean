import RedisAnet.Anet.Server
import RedisAnet.Anet.Accept
import RedisAnet.Anet.Address
import RedisAnet.Anet.Sockets
import RedisAnet.Anet.Frames

/-!
# Clients of anet.c

A client calls the interface of anet.c in any order with any arguments, keeps every
descriptor a call returns, passes descriptors it holds to later calls, and closes only
descriptors it holds; `Op` is one such call and `runAll` a whole run, which ends early when
`anetResolve` reads through its null pointer.  Over every run that has not crashed, from
every world, the table of open descriptors is the one it started with plus exactly the
descriptors the client holds, each held once and none open at the start, every `addrinfo`
list obtained has been released once and no descriptor that was not open has been closed
(`runAll_holds`), and every descriptor held is a bound listening socket or one with a peer
(`runAll_live`).
-/

namespace RedisAnet.Client

open Kernel Anet

/-- A call of the interface of anet.c with the arguments a client passes.  A descriptor
argument is the position of one the client holds; a position past the end passes `-1`.
`stale` is the byte `anetUnixGenericConnect` finds in the last place of `sun_path`. -/
inductive Op where
  | tcpNonBlockConnect (addr : String) (port : Int)
  | tcpNonBlockBestEffortBindConnect (addr : String) (port : Int) (source_addr : Option String)
  | unixGenericConnect (path : List UInt8) (flags : Int) (stale : UInt8)
  | tcpServer (port : Int) (bindaddr : Option String) (backlog : Int)
  | tcp6Server (port : Int) (bindaddr : Option String) (backlog : Int)
  | unixServer (path : List UInt8) (perm : Nat) (backlog : Int)
  | tcpAccept (i ip_len fuel : Nat)
  | unixAccept (i fuel : Nat)
  | nonBlock (i : Nat)
  | block (i : Nat)
  | cloexec (i fuel : Nat)
  | keepAlive (i : Nat) (interval : Int)
  | enableTcpNoDelay (i : Nat)
  | disableTcpNoDelay (i : Nat)
  | sendTimeout (i : Nat) (ms : Int)
  | recvTimeout (i : Nat) (ms : Int)
  | resolve (host : String) (ipbuf_len : Nat) (flags : Int)
  | fdToString (i ip_len : Nat) (fd_to_str_type : Int)
  | formatFdAddr (i buf_len : Nat) (fd_to_str_type : Int)
  | close (i : Nat)
  deriving Repr

/-- The descriptor at position `i` of those held, or `-1`. -/
def fdAt (held : List Int) (i : Nat) : Int := held.getD i (-1)

/-- A descriptor a call returned joins those held, unless the call failed. -/
def keepNew (held : List Int) (fd : Int) : List Int := if fd = ANET_ERR then held else fd :: held

/-- An accept out of fuel, still waiting in C, has returned nothing yet. -/
def keepAccepted {α : Type} (fd : α → Int) (held : List Int) : Option α → List Int
  | none => held
  | some r => keepNew held (fd r)

/-- One call; the result is the list of descriptors held afterwards, or `none` when the call
crashed the process. -/
def Op.run (err : ErrPtr) (held : List Int) : Op → Os (Option (List Int))
  | .tcpNonBlockConnect addr port => do
      return some (keepNew held (← anetTcpNonBlockConnect err addr port))
  | .tcpNonBlockBestEffortBindConnect addr port source_addr => do
      return some (keepNew held (← anetTcpNonBlockBestEffortBindConnect err addr port source_addr))
  | .unixGenericConnect path flags stale => do
      return some (keepNew held (← anetUnixGenericConnect err path flags stale))
  | .tcpServer port bindaddr backlog => do
      return some (keepNew held (← anetTcpServer err port bindaddr backlog))
  | .tcp6Server port bindaddr backlog => do
      return some (keepNew held (← anetTcp6Server err port bindaddr backlog))
  | .unixServer path perm backlog => do
      return some (keepNew held (← anetUnixServer err path perm backlog))
  | .tcpAccept i ip_len fuel => do
      return some (keepAccepted Prod.fst held (← anetTcpAccept err (fdAt held i) ip_len fuel))
  | .unixAccept i fuel => do
      return some (keepAccepted id held (← anetUnixAccept err (fdAt held i) fuel))
  | .nonBlock i => do
      let _ ← anetNonBlock err (fdAt held i)
      return some held
  | .block i => do
      let _ ← anetBlock err (fdAt held i)
      return some held
  | .cloexec i fuel => do
      let _ ← anetCloexec (fdAt held i) fuel
      return some held
  | .keepAlive i interval => do
      let _ ← anetKeepAlive err (fdAt held i) interval
      return some held
  | .enableTcpNoDelay i => do
      let _ ← anetEnableTcpNoDelay err (fdAt held i)
      return some held
  | .disableTcpNoDelay i => do
      let _ ← anetDisableTcpNoDelay err (fdAt held i)
      return some held
  | .sendTimeout i ms => do
      let _ ← anetSendTimeout err (fdAt held i) ms
      return some held
  | .recvTimeout i ms => do
      let _ ← anetRecvTimeout err (fdAt held i) ms
      return some held
  | .resolve host ipbuf_len flags => do
      let r ← anetResolve err host ipbuf_len flags
      return r.map fun _ => held
  | .fdToString i ip_len fd_to_str_type => do
      let _ ← anetFdToString (fdAt held i) ip_len fd_to_str_type
      return some held
  | .formatFdAddr i buf_len fd_to_str_type => do
      let _ ← anetFormatFdAddr (fdAt held i) buf_len fd_to_str_type
      return some held
  | .close i =>
      match held[i]? with
      | some fd => do
          Kernel.close fd
          return some (held.erase fd)
      | none => return some held

/-- The calls one after the other, until one crashes the process. -/
def runAll (err : ErrPtr) : List Int → List Op → Os (Option (List Int))
  | held, [] => return some held
  | held, op :: ops => do
      match ← op.run err held with
      | some held' => runAll err held' ops
      | none => return none

/-! ## The invariant of a run -/

/-- The state of a run that started at `a`, with `held` the descriptors the client holds. -/
structure Holds (a : Res) (held : List Int) (b : Res) : Prop where
  fds : b.fds = a.fds ∪ held.toFinset
  nodup : held.Nodup
  fresh : ∀ fd ∈ held, 0 ≤ fd ∧ fd ∉ a.fds
  lists : ListsDone a b
  badCloses : b.badCloses = a.badCloses

namespace Holds

variable {a b c : Res} {held : List Int}

theorem start (a : Res) : Holds a [] a :=
  ⟨by simp, .nil, by simp, .refl a, rfl⟩

theorem clean (h : Holds a held b) (hc : Clean b c) : Holds a held c :=
  ⟨hc.fds.trans h.fds, h.nodup, h.fresh, h.lists.trans hc.lists, hc.badCloses.trans h.badCloses⟩

theorem balanced {r : Int} (h : Holds a held b) (hc : Balanced b r c) :
    Holds a (keepNew held r) c := by
  obtain ⟨⟨rfl, hfds⟩ | ⟨hr, hfree, hfds⟩, hlists, hcl⟩ := hc
  · rw [keepNew, if_pos rfl]
    exact h.clean ⟨hfds, hlists, hcl⟩
  · have hnew : r ∉ held := fun hm => hfree (by simp [h.fds, hm])
    rw [keepNew, if_neg fun he => absurd (he ▸ hr) (by decide)]
    refine ⟨?_, .cons hnew h.nodup, ?_, h.lists.trans hlists, hcl.trans h.badCloses⟩
    · rw [hfds, h.fds, List.toFinset_cons, Finset.union_insert]
    · rintro fd (_ | ⟨_, hm⟩)
      · exact ⟨hr, fun ha => hfree (by simp [h.fds, ha])⟩
      · exact h.fresh fd hm

theorem accepted {α : Type} {fd : α → Int} {r : Option α} (h : Holds a held b)
    (hc : AcceptBalanced fd b r c) : Holds a (keepAccepted fd held r) c := by
  cases r with
  | none => exact h.clean (.of_eq hc)
  | some r => exact h.balanced hc

theorem close {fd : Int} (h : Holds a held b) (hfd : fd ∈ held) :
    Holds a (held.erase fd) (b.closeFd fd) := by
  have hopen : fd ∈ b.fds := by simp [h.fds, hfd]
  rw [Res.closeFd_of_mem _ hopen]
  refine ⟨?_, h.nodup.erase fd, fun fd' hm => h.fresh fd' (List.mem_of_mem_erase hm),
    h.lists, h.badCloses⟩
  ext fd'
  simp only [Res.fds, Finset.mem_erase, h.fds, Finset.mem_union, List.mem_toFinset,
    h.nodup.mem_erase_iff]
  constructor
  · rintro ⟨hne, ha | hm⟩
    · exact .inl ha
    · exact .inr ⟨hne, hm⟩
  · rintro (ha | ⟨hne, hm⟩)
    · exact ⟨fun he => (h.fresh fd hfd).2 (he ▸ ha), .inl ha⟩
    · exact ⟨hne, .inr hm⟩

theorem clean_of_nil (h : Holds a [] b) : Clean a b :=
  ⟨by simpa using h.fds, h.lists, h.badCloses⟩

end Holds

/-! ## Every call, every run -/

private theorem holds_of_keeps {α : Type} {x : Os α} (hx : Keeps x) {a : Res} {held : List Int}
    {w : World} (h : Holds a held w.res) :
    wp (do let _ ← x; return some held)
      (fun r w' => ∀ held', r = some held' → Holds a held' w'.res) w :=
  (wp_bind _ _).2 <| wp_of_keeps hx fun _ _ hres _ hr => Option.some.inj hr ▸ h.clean (.of_eq hres)

private theorem holds_of_balanced {x : Os Int} (hx : Spec x Balanced) {a : Res}
    {held : List Int} {w : World} (h : Holds a held w.res) :
    wp (do return some (keepNew held (← x)))
      (fun r w' => ∀ held', r = some held' → Holds a held' w'.res) w :=
  (wp_bind _ _).2 <| wp_of_spec hx fun _ _ hb _ hr => Option.some.inj hr ▸ h.balanced hb

private theorem holds_of_accept {α : Type} {x : Os (Option α)} {fd : α → Int}
    (hx : Spec x (AcceptBalanced fd)) {a : Res} {held : List Int} {w : World}
    (h : Holds a held w.res) :
    wp (do return some (keepAccepted fd held (← x)))
      (fun r w' => ∀ held', r = some held' → Holds a held' w'.res) w :=
  (wp_bind _ _).2 <| wp_of_spec hx fun _ _ hb _ hr => Option.some.inj hr ▸ h.accepted hb

theorem Op.run_holds (err : ErrPtr) (op : Op) {a : Res} {held : List Int} {w : World}
    (h : Holds a held w.res) :
    wp (op.run err held) (fun r w' => ∀ held', r = some held' → Holds a held' w'.res) w := by
  cases op with
  | tcpNonBlockConnect => exact holds_of_balanced (anetTcpGenericConnect_balanced _ _ _ _ _) h
  | tcpNonBlockBestEffortBindConnect =>
      exact holds_of_balanced (anetTcpGenericConnect_balanced _ _ _ _ _) h
  | unixGenericConnect => exact holds_of_balanced (anetUnixGenericConnect_balanced _ _ _ _) h
  | tcpServer => exact holds_of_balanced (_anetTcpServer_balanced _ _ _ _ _) h
  | tcp6Server => exact holds_of_balanced (_anetTcpServer_balanced _ _ _ _ _) h
  | unixServer => exact holds_of_balanced (anetUnixServer_balanced _ _ _ _) h
  | tcpAccept => exact holds_of_accept (anetTcpAccept_balanced _ _ _ _) h
  | unixAccept => exact holds_of_accept (anetUnixAccept_balanced _ _ _) h
  | nonBlock => exact holds_of_keeps (keeps_anetSetBlock _ _ _) h
  | block => exact holds_of_keeps (keeps_anetSetBlock _ _ _) h
  | cloexec => exact holds_of_keeps (keeps_anetCloexec _ _) h
  | keepAlive => exact holds_of_keeps (keeps_anetKeepAlive _ _ _) h
  | enableTcpNoDelay => exact holds_of_keeps (keeps_setOption _ _ _ _ _ _) h
  | disableTcpNoDelay => exact holds_of_keeps (keeps_setOption _ _ _ _ _ _) h
  | sendTimeout => exact holds_of_keeps (keeps_setOption _ _ _ _ _ _) h
  | recvTimeout => exact holds_of_keeps (keeps_setOption _ _ _ _ _ _) h
  | resolve =>
      refine (wp_bind _ _).2 <| wp_mono (anetResolve_cases _ _ _ _ w) fun _ _ hr _ heq => ?_
      rcases hr with ⟨rfl, -⟩ | ⟨-, hclean, v, rfl, -⟩
      · cases heq
      · cases heq
        exact h.clean hclean
  | fdToString => exact holds_of_keeps (keeps_anetFdToString _ _ _) h
  | formatFdAddr => exact holds_of_keeps (keeps_anetFormatFdAddr _ _ _) h
  | close i =>
      simp only [Op.run]
      split
      · rename_i fd hget
        simp only [wp_bind, wp_close, wp_pure]
        exact fun _ hr => Option.some.inj hr ▸ h.close (List.getElem?_mem hget)
      · exact fun _ hr => Option.some.inj hr ▸ h

theorem runAll_holds (err : ErrPtr) (ops : List Op) {a : Res} {held : List Int} {w : World}
    (h : Holds a held w.res) :
    wp (runAll err held ops) (fun r w' => ∀ held', r = some held' → Holds a held' w'.res) w := by
  induction ops generalizing held w with
  | nil => exact fun _ hr => Option.some.inj hr ▸ h
  | cons op ops ih =>
      refine (wp_bind _ _).2 <| wp_mono (op.run_holds err h) fun r _ h' => ?_
      cases r with
      | none => exact fun _ hr => Option.noConfusion hr
      | some held' => exact ih (h' held' rfl)

/-- Only `anetResolve` crashes the process. -/
theorem Op.run_isSome (err : ErrPtr) (op : Op) (held : List Int) (w : World)
    (hop : ∀ host ipbuf_len flags, op ≠ .resolve host ipbuf_len flags) :
    wp (op.run err held) (fun r _ => r.isSome) w := by
  cases op with
  | resolve host ipbuf_len flags => exact absurd rfl (hop host ipbuf_len flags)
  | close i =>
      simp only [Op.run]
      split
      · exact (wp_bind _ _).2 rfl
      · rfl
  | _ => exact (wp_bind _ _).2 rfl

theorem runAll_isSome (err : ErrPtr) (ops : List Op) (held : List Int) (w : World)
    (hops : ∀ op ∈ ops, ∀ host ipbuf_len flags, op ≠ .resolve host ipbuf_len flags) :
    wp (runAll err held ops) (fun r _ => r.isSome) w := by
  induction ops generalizing held w with
  | nil => rfl
  | cons op ops ih =>
      refine (wp_bind _ _).2 <| wp_mono (op.run_isSome err held w (hops op (.head _)))
        fun r _ hr => ?_
      obtain ⟨held', rfl⟩ := Option.isSome_iff_exists.1 hr
      exact ih held' _ fun op' hm => hops op' (.tail _ hm)

/-- Every run of every client, from every world, that has not crashed: the open descriptors
are those open at the start plus exactly the ones the client holds, each held once,
non-negative and not open at the start; every `addrinfo` list obtained was released once; no
descriptor that was not open was closed; and a client that holds nothing is back at the
table it started from. -/
theorem anet_clients_balanced (err : ErrPtr) (ops : List Op) (w : World) :
    wp (runAll err [] ops) (fun r w' => ∀ held, r = some held →
      Holds w.res held w'.res ∧ (held = [] → Clean w.res w'.res)) w :=
  wp_mono (runAll_holds err ops (.start w.res)) fun _ _ h held hr =>
    ⟨h held hr, fun hnil => (hnil ▸ h held hr).clean_of_nil⟩

/-! ## Every held descriptor is an endpoint -/

/-- A socket a client holds: bound and listening, or with a peer (connected, connecting or
accepted). -/
def Endpoint (so : Sock) : Prop := (so.listening = true ∧ so.bound.isSome) ∨ so.peer.isSome

/-- Every descriptor the client holds is an endpoint. -/
def Live (held : List Int) (w : World) : Prop := ∀ fd ∈ held, Endpoint (w.sock fd)

theorem Endpoint.of_same {so so' : Sock} (h : SameEndpoint so so') (he : Endpoint so) :
    Endpoint so' := by
  rw [Endpoint, h.listening, h.bound, h.peer]
  exact he

section Live

variable {held : List Int} {w w' : World}

theorem Live.untouched (hl : Live held w) (hopen : ∀ fd ∈ held, fd ∈ w.res.fds)
    (h : Untouched w w') : Live held w' :=
  fun fd hfd => (h fd (hopen fd hfd)).2 ▸ hl fd hfd

theorem Live.options {fd : Int} (hl : Live held w) (h : OptionsOnly fd w w') : Live held w' :=
  fun fd' hfd => (hl fd' hfd).of_same (h.sameEndpoint fd')

theorem Live.keepNew {r : Int} (hl : Live held w) (hr : r ≠ ANET_ERR → Endpoint (w.sock r)) :
    Live (keepNew held r) w := by
  rw [Client.keepNew]
  split
  · exact hl
  · rintro fd (_ | ⟨_, hfd⟩)
    · exact hr ‹_›
    · exact hl fd hfd

end Live

private theorem live_of_creator {x : Os Int} (hx : LeavesOpen x)
    (hnew : ∀ w, wp x (fun r w' => r ≠ ANET_ERR → Endpoint (w'.sock r)) w) {held : List Int}
    {w : World} (hl : Live held w) (hopen : ∀ fd ∈ held, fd ∈ w.res.fds) :
    wp (do return some (keepNew held (← x)))
      (fun r w' => ∀ held', r = some held' → Live held' w') w :=
  (wp_bind _ _).2 <| wp_mono (wp_and (hx w) (hnew w)) fun _ _ ⟨h, hr⟩ _ heq =>
    Option.some.inj heq ▸ (hl.untouched hopen h).keepNew hr

private theorem live_of_accept {α : Type} {x : Os (Option α)} {fd : α → Int} (hx : LeavesOpen x)
    (hnew : ∀ w, wp x (fun r w' => ∀ v, r = some v → fd v ≠ ANET_ERR → Endpoint (w'.sock (fd v))) w)
    {held : List Int} {w : World} (hl : Live held w) (hopen : ∀ fd ∈ held, fd ∈ w.res.fds) :
    wp (do return some (keepAccepted fd held (← x)))
      (fun r w' => ∀ held', r = some held' → Live held' w') w := by
  refine (wp_bind _ _).2 <| wp_mono (wp_and (hx w) (hnew w)) fun r _ ⟨h, hr⟩ _ heq => ?_
  cases heq
  cases r with
  | none => exact hl.untouched hopen h
  | some v => exact (hl.untouched hopen h).keepNew (hr v rfl)

private theorem live_of_setter {α : Type} {x : Os α} {fd : Int} (hx : ConfiguresOnly fd x)
    {held : List Int} {w : World} (hl : Live held w) :
    wp (do let _ ← x; return some held) (fun r w' => ∀ held', r = some held' → Live held' w') w :=
  (wp_bind _ _).2 <| wp_mono (hx w) fun _ _ h _ heq => Option.some.inj heq ▸ hl.options h

theorem Op.run_live (err : ErrPtr) (op : Op) {a : Res} {held : List Int} {w : World}
    (h : Holds a held w.res) (hl : Live held w) :
    wp (op.run err held) (fun r w' => ∀ held', r = some held' → Live held' w') w := by
  have hopen : ∀ fd ∈ held, fd ∈ w.res.fds := fun fd hfd => by simp [h.fds, hfd]
  have hconn : ∀ {flags : Int} {so : Sock}, Connecting flags so → Endpoint so := fun h => .inr h.peer
  have hlisten : ∀ {af : Int} {so : Sock}, Listening af so → Endpoint so :=
    fun h => .inl ⟨h.listening, h.bound⟩
  cases op with
  | tcpNonBlockConnect | tcpNonBlockBestEffortBindConnect =>
      exact live_of_creator (anetTcpGenericConnect_leavesOpen _ _ _ _ _) (fun w =>
        wp_mono (anetTcpGenericConnect_connecting _ _ _ _ _ w) fun _ _ h hr => hconn (h hr)) hl hopen
  | unixGenericConnect =>
      exact live_of_creator (anetUnixGenericConnect_leavesOpen _ _ _ _) (fun w =>
        wp_mono (anetUnixGenericConnect_connecting _ _ _ _ w) fun _ _ h hr => hconn (h hr).1) hl hopen
  | tcpServer | tcp6Server =>
      exact live_of_creator (_anetTcpServer_leavesOpen _ _ _ _ _) (fun w =>
        wp_mono (_anetTcpServer_listening _ _ _ _ _ w) fun _ _ h hr => hlisten (h hr)) hl hopen
  | unixServer =>
      exact live_of_creator (anetUnixServer_leavesOpen _ _ _ _) (fun w =>
        wp_mono (anetUnixServer_listening _ _ _ _ w) fun _ _ h hr => hlisten (h hr).1) hl hopen
  | tcpAccept =>
      exact live_of_accept (anetTcpAccept_leavesOpen _ _ _ _) (fun w =>
        wp_mono (anetTcpAccept_peer _ _ _ _ w) fun _ _ h ⟨fd, ip, port⟩ hr hfd => by
          obtain ⟨_, hpeer, -⟩ := h fd ip port hr hfd
          exact .inr (by simp [hpeer])) hl hopen
  | unixAccept =>
      exact live_of_accept (anetUnixAccept_leavesOpen _ _ _) (fun w =>
        wp_mono (anetUnixAccept_peer _ _ _ w) fun _ _ h fd hr hfd => .inr (h fd hr hfd)) hl hopen
  | nonBlock | block => exact live_of_setter (configuresOnly_anetSetBlock _ _ _) hl
  | cloexec => exact live_of_setter (configuresOnly_anetCloexec _ _) hl
  | keepAlive => exact live_of_setter (configuresOnly_anetKeepAlive _ _ _) hl
  | enableTcpNoDelay | disableTcpNoDelay | sendTimeout | recvTimeout =>
      exact live_of_setter (configuresOnly_setOption _ _ _ _ _ _) hl
  | resolve =>
      refine (wp_bind _ _).2 <| wp_mono (anetResolve_leavesOpen _ _ _ _ w) fun r _ h' _ heq => ?_
      cases r <;> cases heq
      exact hl.untouched hopen h'
  | fdToString => exact live_of_setter (configuresOnly_anetFdToString _ _ _) hl
  | formatFdAddr => exact live_of_setter (configuresOnly_anetFormatFdAddr _ _ _) hl
  | close i =>
      simp only [Op.run]
      split
      · simp only [wp_bind, wp_close, wp_pure]
        exact fun _ heq fd hfd => hl fd (List.mem_of_mem_erase (Option.some.inj heq ▸ hfd))
      · exact fun _ heq => Option.some.inj heq ▸ hl

theorem runAll_live (err : ErrPtr) (ops : List Op) {a : Res} {held : List Int} {w : World}
    (h : Holds a held w.res) (hl : Live held w) :
    wp (runAll err held ops)
      (fun r w' => ∀ held', r = some held' → Holds a held' w'.res ∧ Live held' w') w := by
  induction ops generalizing held w with
  | nil => exact fun _ hr => Option.some.inj hr ▸ ⟨h, hl⟩
  | cons op ops ih =>
      refine (wp_bind _ _).2 <| wp_mono (wp_and (op.run_holds err h) (op.run_live err h hl))
        fun r _ ⟨h', hl'⟩ => ?_
      cases r with
      | none => exact fun _ hr => Option.noConfusion hr
      | some held' => exact ih (h' held' rfl) (hl' held' rfl)

/-- Every run of every client, from every world, that has not crashed: each descriptor the
client holds is an endpoint, a bound and listening server socket or a socket with a peer,
whichever calls succeed or fail and whatever setters, accepts and closes come in between. -/
theorem anet_clients_hold_endpoints (err : ErrPtr) (ops : List Op) (w : World) :
    wp (runAll err [] ops) (fun r w' => ∀ held, r = some held → ∀ fd ∈ held, Endpoint (w'.sock fd)) w :=
  wp_mono (runAll_live err ops (.start w.res) nofun) fun _ _ h held hr => (h held hr).2

end RedisAnet.Client
