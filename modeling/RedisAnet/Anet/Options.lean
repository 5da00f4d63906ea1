import RedisAnet.Kernel.Resources

/-!
# Descriptor options

The functions of anet.c that configure a descriptor they are given: blocking mode,
close-on-exec, TCP keepalive, `TCP_NODELAY`, the send and receive timeouts, `SO_REUSEADDR`
and `IPV6_V6ONLY`.  They neither open, close nor resolve anything (`keeps_*`); most of them
are one `setsockopt` followed, on failure, by a message naming the option, which is
`setOption` at the function's own option, value and message.
-/

namespace RedisAnet.Anet

open RedisAnet.Kernel

/-- `vsnprintf(err, ANET_ERR_LEN, fmt, ap)`, unless `err` is `NULL`. -/
def anetSetError (err : ErrPtr) (fmt : String) (arg : FmtArg) : Os Unit :=
  match err with
  | .null => pure ()
  | .buf => modify fun w => { w with err := some ⟨fmt, arg⟩ }

def anetSetBlock (err : ErrPtr) (fd non_block : Int) : Os Int := do
  let flags ← fcntl fd F_GETFL 0
  if flags = -1 then
    anetSetError err "fcntl(F_GETFL): %s" (.strerror (← getErrno))
    return ANET_ERR
  else if (Int.land flags O_NONBLOCK != 0) == (non_block != 0) then
    return ANET_OK
  else
    let flags :=
      if non_block ≠ 0 then Int.lor flags O_NONBLOCK else Int.land flags (Int.lnot O_NONBLOCK)
    if (← fcntl fd F_SETFL flags) = -1 then
      anetSetError err "fcntl(F_SETFL,O_NONBLOCK): %s" (.strerror (← getErrno))
      return ANET_ERR
    else
      return ANET_OK

def anetNonBlock (err : ErrPtr) (fd : Int) : Os Int := anetSetBlock err fd 1

def anetBlock (err : ErrPtr) (fd : Int) : Os Int := anetSetBlock err fd 0

/-- `do r = call; while (r == -1 && errno == EINTR);`, where `failed r` is `r == -1`,
with at most `fuel` tries; `none` when every try was interrupted. -/
def retryEintr {α : Type} (call : Os α) (failed : α → Prop) [DecidablePred failed] :
    Nat → Os (Option α)
  | 0 => pure none
  | fuel + 1 => do
      let r ← call
      if failed r ∧ (← getErrno) = EINTR then retryEintr call failed fuel else pure (some r)

/-- Both retry loops get the same `fuel`. -/
def anetCloexec (fd : Int) (fuel : Nat) : Os (Option Int) := do
  match ← retryEintr (fcntl fd F_GETFD 0) (· = -1) fuel with
  | none => return none
  | some r =>
      if r = -1 ∨ Int.land r FD_CLOEXEC ≠ 0 then
        return some r
      else
        let flags := Int.lor r FD_CLOEXEC
        retryEintr (fcntl fd F_SETFD flags) (· = -1) fuel

/-- The Linux branch of `anetKeepAlive`. -/
def anetKeepAlive (err : ErrPtr) (fd interval : Int) : Os Int := do
  if (← setsockopt fd SOL_SOCKET SO_KEEPALIVE (.int 1)) = -1 then
    anetSetError err "setsockopt SO_KEEPALIVE: %s" (.strerror (← getErrno))
    return ANET_ERR
  else if (← setsockopt fd IPPROTO_TCP TCP_KEEPIDLE (.int interval)) < 0 then
    anetSetError err "setsockopt TCP_KEEPIDLE: %s\n" (.strerror (← getErrno))
    return ANET_ERR
  else
    let val := if interval.tdiv 3 = 0 then 1 else interval.tdiv 3
    if (← setsockopt fd IPPROTO_TCP TCP_KEEPINTVL (.int val)) < 0 then
      anetSetError err "setsockopt TCP_KEEPINTVL: %s\n" (.strerror (← getErrno))
      return ANET_ERR
    else if (← setsockopt fd IPPROTO_TCP TCP_KEEPCNT (.int 3)) < 0 then
      anetSetError err "setsockopt TCP_KEEPCNT: %s\n" (.strerror (← getErrno))
      return ANET_ERR
    else
      return ANET_OK

/-- One `setsockopt`, and on failure the message `fmt` with `strerror(errno)`. -/
def setOption (err : ErrPtr) (fd level name : Int) (val : OptVal) (fmt : String) : Os Int := do
  if (← setsockopt fd level name val) = -1 then
    anetSetError err fmt (.strerror (← getErrno))
    return ANET_ERR
  else
    return ANET_OK

def anetSetTcpNoDelay (err : ErrPtr) (fd val : Int) : Os Int :=
  setOption err fd IPPROTO_TCP TCP_NODELAY (.int val) "setsockopt TCP_NODELAY: %s"

def anetEnableTcpNoDelay (err : ErrPtr) (fd : Int) : Os Int := anetSetTcpNoDelay err fd 1

def anetDisableTcpNoDelay (err : ErrPtr) (fd : Int) : Os Int := anetSetTcpNoDelay err fd 0

/-- `tv.tv_sec = ms/1000; tv.tv_usec = (ms%1000)*1000;`, C division truncating. -/
def msTimeval (ms : Int) : OptVal := .timeval (ms.tdiv 1000) (ms.tmod 1000 * 1000)

def anetSendTimeout (err : ErrPtr) (fd ms : Int) : Os Int :=
  setOption err fd SOL_SOCKET SO_SNDTIMEO (msTimeval ms) "setsockopt SO_SNDTIMEO: %s"

def anetRecvTimeout (err : ErrPtr) (fd ms : Int) : Os Int :=
  setOption err fd SOL_SOCKET SO_RCVTIMEO (msTimeval ms) "setsockopt SO_RCVTIMEO: %s"

def anetSetReuseAddr (err : ErrPtr) (fd : Int) : Os Int :=
  setOption err fd SOL_SOCKET SO_REUSEADDR (.int 1) "setsockopt SO_REUSEADDR: %s"

def anetV6Only (err : ErrPtr) (s : Int) : Os Int :=
  setOption err s IPPROTO_IPV6 IPV6_V6ONLY (.int 1) "setsockopt: %s"

/-! ## Frames -/

@[simp] theorem wp_anetSetError {Q : Unit → World → Prop} {w : World} (err : ErrPtr)
    (fmt : String) (arg : FmtArg) :
    wp (anetSetError err fmt arg) Q w ↔
      Q () (match err with
        | .null => w
        | .buf => { w with err := some ⟨fmt, arg⟩ }) := by
  cases err <;> rfl

end RedisAnet.Anet

namespace RedisAnet.Kernel

section Frames

variable {R : World → World → Prop} [Frame R] {α β : Type}

theorem preserves_anetSetError (err : ErrPtr) (fmt : String) (arg : FmtArg) :
    Preserves R (Anet.anetSetError err fmt arg) := by
  cases err
  · exact fun w => Frame.refl (R := R) w
  · exact fun w => Frame.setErr w _

theorem Preserves.setError {k : Os β} (err : ErrPtr) (fmt : String) (arg : Nat → FmtArg)
    (hk : Preserves R k) : Preserves R (do Anet.anetSetError err fmt (arg (← getErrno)); k) :=
  preserves_getErrno.bind fun _ => (preserves_anetSetError _ _ _).bind fun _ => hk

theorem Preserves.retryEintr {call : Os α} {failed : α → Prop} [DecidablePred failed]
    (hcall : Preserves R call) (fuel : Nat) : Preserves R (Anet.retryEintr call failed fuel) := by
  induction fuel with
  | zero => exact .pure _
  | succ fuel ih => exact hcall.bind fun _ => preserves_getErrno.bind fun _ => .ite ih (.pure _)

end Frames

end RedisAnet.Kernel

namespace RedisAnet.Anet

open RedisAnet.Kernel

theorem keeps_setOption (err : ErrPtr) (fd level name : Int) (val : OptVal) (fmt : String) :
    Keeps (setOption err fd level name val fmt) :=
  (keeps_setsockopt fd level name val).bind fun _ => .ite (.setError _ _ _ (.pure _)) (.pure _)

theorem keeps_anetSetBlock (err : ErrPtr) (fd non_block : Int) :
    Keeps (anetSetBlock err fd non_block) :=
  (keeps_fcntl _ _ _).bind fun _ => .ite (.setError _ _ _ (.pure _)) <| .ite (.pure _) <|
    (keeps_fcntl _ _ _).bind fun _ => .ite (.setError _ _ _ (.pure _)) (.pure _)

theorem keeps_anetKeepAlive (err : ErrPtr) (fd interval : Int) :
    Keeps (anetKeepAlive err fd interval) :=
  (keeps_setsockopt _ _ _ _).bind fun _ => .ite (.setError _ _ _ (.pure _)) <|
    (keeps_setsockopt _ _ _ _).bind fun _ => .ite (.setError _ _ _ (.pure _)) <|
    (keeps_setsockopt _ _ _ _).bind fun _ => .ite (.setError _ _ _ (.pure _)) <|
    (keeps_setsockopt _ _ _ _).bind fun _ => .ite (.setError _ _ _ (.pure _)) (.pure _)

/-! ## The `EINTR` retry loops -/

section Retry

variable {α : Type} {call : Os α} {failed : α → Prop} [DecidablePred failed]

theorem retryEintr_succ_run (fuel : Nat) (w : World) :
    (retryEintr call failed (fuel + 1)).run w =
      if failed (call.run w).1 ∧ (call.run w).2.errno = EINTR then
        (retryEintr call failed fuel).run (call.run w).2
      else (some (call.run w).1, (call.run w).2) := by
  show (if failed (call.run w).1 ∧ (call.run w).2.errno = EINTR then
    retryEintr call failed fuel else pure (some (call.run w).1)).run (call.run w).2 = _
  split <;> rfl

theorem retryEintr_spec {P : Res → α → Res → Prop}
    (hcall : Spec call fun a r b => if failed r then b = a else P a r b) (fuel : Nat) :
    Spec (retryEintr call failed fuel) fun a r b =>
      match r with
      | none => b = a
      | some r => if failed r then b = a else P a r b := by
  induction fuel with
  | zero => exact fun _ => rfl
  | succ fuel ih =>
      intro w
      simp only [retryEintr, wp_bind, wp_getErrno, wp_ite, wp_pure]
      refine wp_of_spec hcall fun r w₁ h₁ => ?_
      by_cases hretry : failed r ∧ w₁.errno = EINTR
      · rw [if_pos hretry]
        rw [if_pos hretry.1] at h₁
        exact wp_of_spec ih fun _ _ h₂ => h₁ ▸ h₂
      · rw [if_neg hretry]
        exact h₁

end Retry

theorem keeps_anetCloexec (fd : Int) (fuel : Nat) : Keeps (anetCloexec fd fuel) :=
  ((keeps_fcntl _ _ _).retryEintr fuel).bind fun
    | none => .pure _
    | some _ => .ite (.pure _) ((keeps_fcntl _ _ _).retryEintr fuel)

end RedisAnet.Anet
