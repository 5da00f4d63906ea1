import RedisAnet.Anet.Options

/-!
# What the option setters leave on the socket

When a setter of anet.c reports `ANET_OK`, the kernel's state of the socket is as it
asked: the option holds the value passed, `O_NONBLOCK` agrees with the mode asked for
(so a second `anetSetBlock` makes no `F_SETFL` call), and `FD_CLOEXEC` is set.  When it
reports `ANET_ERR`, the caller's buffer names the option that failed.  The timeout and
keepalive values are the conversions the source comments describe.
-/

namespace RedisAnet.Anet

open RedisAnet.Kernel

/-! ## Bits of the flag words -/

private theorem testBit_zero_int (k : Nat) : Int.testBit 0 k = false := Nat.zero_testBit k

theorem land_lor_ne_zero (x m : Int) {k : Nat} (hk : m.testBit k = true) :
    Int.land (Int.lor x m) m ≠ 0 := fun h => by
  have := congrArg (Int.testBit · k) h
  simp only [Int.testBit_land, Int.testBit_lor, hk, Bool.or_true, Bool.and_self,
    testBit_zero_int] at this
  exact Bool.noConfusion this

theorem land_land_lnot_eq_zero (x : Int) (m : Nat) :
    Int.land (Int.land x (Int.lnot m)) m = 0 := by
  cases x with
  | ofNat n =>
      show ((Nat.ldiff n m &&& m : Nat) : Int) = 0
      rw [Nat.cast_eq_zero]
      exact Nat.eq_of_testBit_eq fun i => by
        cases hm : m.testBit i <;> simp [Nat.testBit_ldiff, hm]
  | negSucc n =>
      show ((Nat.ldiff m (n ||| m) : Nat) : Int) = 0
      rw [Nat.cast_eq_zero]
      exact Nat.eq_of_testBit_eq fun i => by
        cases hm : m.testBit i <;> simp [Nat.testBit_ldiff, hm]

/-- `b` has every bit of `a` outside the mask `m`. -/
def SameOutside (m a b : Int) : Prop := ∀ k, m.testBit k = false → b.testBit k = a.testBit k

theorem SameOutside.refl (m a : Int) : SameOutside m a a := fun _ _ => rfl

theorem sameOutside_lor (x m : Int) : SameOutside m x (Int.lor x m) := fun k hk => by
  rw [Int.testBit_lor, hk, Bool.or_false]

theorem sameOutside_land_lnot (x m : Int) : SameOutside m x (Int.land x (Int.lnot m)) :=
  fun k hk => by rw [Int.testBit_land, Int.testBit_lnot, hk, Bool.not_false, Bool.and_true]

/-! ## `setOption` and its members -/

theorem setOption_spec (err : ErrPtr) (fd level name : Int) (val : OptVal) (fmt : String)
    (w : World) :
    wp (setOption err fd level name val fmt) (fun r w' =>
      (r = ANET_OK ∧ w'.sock = Function.update w.sock fd
        { w.sock fd with opts := Function.update (w.sock fd).opts (level, name) (some val) }) ∨
      (r = ANET_ERR ∧ w'.sock = w.sock ∧
        (err = .buf → w'.err = some ⟨fmt, .strerror w'.errno⟩))) w := by
  simp only [setOption, wp_bind, wp_setsockopt, wp_ite, wp_getErrno, wp_anetSetError, wp_pure]
  split
  · rw [if_neg (by decide)]
    exact .inl ⟨trivial, rfl⟩
  · rw [if_pos trivial]
    cases err <;> exact .inr ⟨trivial, rfl, by simp⟩

theorem wp_failReturn {Q : Int → World → Prop} (err : ErrPtr) (fmt : String) (w : World)
    (hQ : ∀ w', w'.sock = w.sock ∧ w'.tick = w.tick → Q ANET_ERR w') :
    wp (do anetSetError err fmt (.strerror (← getErrno)); return ANET_ERR) Q w := by
  simp only [wp_bind, wp_getErrno, wp_anetSetError, wp_pure]
  cases err <;> exact hQ _ ⟨rfl, rfl⟩

theorem anetSetBlock_writes (err : ErrPtr) (fd non_block : Int) (w : World) :
    wp (anetSetBlock err fd non_block) (fun r w' =>
      (r = ANET_OK ∧ ((Int.land (w.sock fd).statusFlags O_NONBLOCK != 0) == (non_block != 0)) = true ∧
        w'.sock = w.sock) ∨
      (r = ANET_OK ∧ w'.sock = Function.update w.sock fd { w.sock fd with statusFlags :=
        (if non_block ≠ 0 then Int.lor (w.sock fd).statusFlags O_NONBLOCK
          else Int.land (w.sock fd).statusFlags (Int.lnot O_NONBLOCK)) }) ∨
      (r = ANET_ERR ∧ w'.sock = w.sock)) w := by
  rw [anetSetBlock, wp_bind, wp_fcntl]
  split
  case h_1 =>
    rw [wp_ite, if_pos rfl]
    exact wp_failReturn _ _ _ fun _ h => .inr (.inr ⟨rfl, h.1⟩)
  rw [if_pos rfl, wp_ite]
  split
  · exact wp_failReturn _ _ _ fun _ h => .inr (.inr ⟨rfl, h.1⟩)
  rw [wp_ite]
  split
  next htest => exact .inl ⟨rfl, htest, rfl⟩
  rw [wp_bind, wp_fcntl]
  split
  case h_1 =>
    rw [wp_ite, if_pos rfl]
    exact wp_failReturn _ _ _ fun _ h => .inr (.inr ⟨rfl, h.1⟩)
  rw [if_neg (by decide), if_pos rfl, wp_ite, if_neg (by decide), wp_pure]
  exact .inr (.inl ⟨rfl, rfl⟩)

theorem anetSetBlock_spec (err : ErrPtr) (fd non_block : Int) (w : World) :
    wp (anetSetBlock err fd non_block) (fun r w' =>
      (r = ANET_OK ∧ ∃ flags, w'.sock = Function.update w.sock fd { w.sock fd with statusFlags := flags } ∧
        ((Int.land flags O_NONBLOCK != 0) == (non_block != 0)) = true) ∨
      (r = ANET_ERR ∧ w'.sock = w.sock)) w := by
  refine wp_mono (anetSetBlock_writes err fd non_block w) ?_
  rintro r w' (⟨rfl, htest, hsock⟩ | ⟨rfl, hsock⟩ | hfail)
  · exact .inl ⟨rfl, _, hsock.trans (Function.update_eq_self _ _).symm, htest⟩
  · refine .inl ⟨rfl, _, hsock, ?_⟩
    by_cases hnb : non_block = 0
    · -- the bit is cleared with `flags & ~O_NONBLOCK`
      have hclear : Int.land (Int.land (w.sock fd).statusFlags (Int.lnot O_NONBLOCK)) O_NONBLOCK =
          0 := land_land_lnot_eq_zero _ 2048
      simp [hnb, hclear]
    · -- the bit is set with `flags | O_NONBLOCK`
      have hset : (Int.land (Int.lor (w.sock fd).statusFlags O_NONBLOCK) O_NONBLOCK != 0) =
          true := bne_iff_ne.2 <| land_lor_ne_zero _ _ (show O_NONBLOCK.testBit 11 = true by decide)
      simp [hnb, hset]
  · exact .inr hfail

/-- After `anetSetBlock` reports `ANET_OK` the descriptor's `O_NONBLOCK` bit is the one
asked for: its own test `!!(flags & O_NONBLOCK) == !!non_block` passes, so a second call
returns at once. -/
theorem anetSetBlock_ok (err : ErrPtr) (fd non_block : Int) (w : World) :
    wp (anetSetBlock err fd non_block) (fun r w' => r = ANET_OK →
      ((Int.land (w'.sock fd).statusFlags O_NONBLOCK != 0) == (non_block != 0)) = true) w := by
  refine wp_mono (anetSetBlock_spec err fd non_block w) ?_
  rintro r w' (⟨-, flags, hsock, hbit⟩ | ⟨rfl, -⟩) hok
  · simpa [hsock] using hbit
  · exact absurd hok (by decide)

/-- Setting the same mode again after `ANET_OK` makes one system call, the `F_GETFL`, and
changes no socket: the second call finds the bit as asked and returns before `F_SETFL`, or
fails at `F_GETFL`.  The clock counts the calls the environment answers. -/
theorem anetSetBlock_idempotent (err : ErrPtr) (fd non_block : Int) (w : World) :
    wp (anetSetBlock err fd non_block) (fun r w₁ => r = ANET_OK →
      wp (anetSetBlock err fd non_block)
        (fun _ w₂ => w₂.sock = w₁.sock ∧ w₂.tick = w₁.tick + 1) w₁) w := by
  refine wp_mono (anetSetBlock_spec err fd non_block w) ?_
  rintro r w₁ (⟨-, flags, hsock, hbit⟩ | ⟨rfl, -⟩) hok
  swap
  · exact absurd hok (by decide)
  rw [anetSetBlock, wp_bind, wp_fcntl]
  split
  case h_1 =>
    rw [wp_ite, if_pos rfl]
    exact wp_failReturn _ _ _ fun _ h => h
  rw [if_pos rfl, wp_ite]
  split
  · exact wp_failReturn _ _ _ fun _ h => h
  rw [wp_ite, if_pos (by simpa [hsock] using hbit), wp_pure]
  exact ⟨rfl, rfl⟩

/-! ## Keep-alive -/

private theorem keepIntvl_bounds {interval : Int} (h : 0 ≤ interval) :
    1 ≤ (if interval.tdiv 3 = 0 then 1 else interval.tdiv 3) ∧
      interval ≤ 3 * (if interval.tdiv 3 = 0 then 1 else interval.tdiv 3) + 2 ∧
      3 * (if interval.tdiv 3 = 0 then 1 else interval.tdiv 3) ≤ max interval 3 := by
  rw [Int.tdiv_eq_ediv h (by decide)]
  split_ifs <;> omega

/-- After `anetKeepAlive` reports `ANET_OK` the socket has keep-alive on, the idle time
`interval`, three probes, and a probe interval that spreads them over `interval`. -/
theorem anetKeepAlive_ok (err : ErrPtr) (fd interval : Int) (w : World) :
    wp (anetKeepAlive err fd interval) (fun r w' => r = ANET_OK →
      (w'.sock fd).opts (SOL_SOCKET, SO_KEEPALIVE) = some (.int 1) ∧
      (w'.sock fd).opts (IPPROTO_TCP, TCP_KEEPIDLE) = some (.int interval) ∧
      (w'.sock fd).opts (IPPROTO_TCP, TCP_KEEPCNT) = some (.int 3) ∧
      ∃ v, (w'.sock fd).opts (IPPROTO_TCP, TCP_KEEPINTVL) = some (.int v) ∧
        (0 ≤ interval → 1 ≤ v ∧ interval ≤ 3 * v + 2 ∧ 3 * v ≤ max interval 3)) w := by
  -- each of the four calls either fails, and the function reports `ANET_ERR`, or goes on
  rw [anetKeepAlive, wp_bind, wp_setsockopt]
  split
  case h_2 =>
    rw [wp_ite, if_pos rfl]
    exact wp_failReturn _ _ _ fun _ _ h => absurd h (by decide)
  rw [wp_ite, if_neg (by decide), wp_bind, wp_setsockopt]
  split
  case h_2 =>
    rw [wp_ite, if_pos (by decide)]
    exact wp_failReturn _ _ _ fun _ _ h => absurd h (by decide)
  rw [wp_ite, if_neg (by decide), wp_bind, wp_setsockopt]
  split
  case h_2 =>
    rw [wp_ite, if_pos (by decide)]
    exact wp_failReturn _ _ _ fun _ _ h => absurd h (by decide)
  rw [wp_ite, if_neg (by decide), wp_bind, wp_setsockopt]
  split
  case h_2 =>
    rw [wp_ite, if_pos (by decide)]
    exact wp_failReturn _ _ _ fun _ _ h => absurd h (by decide)
  rw [wp_ite, if_neg (by decide), wp_pure]
  intro _
  refine ⟨?_, ?_, ?_, _, ?_, keepIntvl_bounds⟩ <;>
    simp [Function.update_apply, SOL_SOCKET, IPPROTO_TCP, SO_KEEPALIVE, TCP_KEEPIDLE,
      TCP_KEEPINTVL, TCP_KEEPCNT]

/-! ## Close-on-exec -/

section Retry

variable {α : Type} {call : Os α} {failed : α → Prop} [DecidablePred failed]

theorem wp_retryEintr {Q : α → World → Prop} (hcall : ∀ w, wp call (fun r w' => ¬failed r → Q r w') w)
    (fuel : Nat) (w : World) :
    wp (retryEintr call failed fuel) (fun r w' => ∀ v, r = some v → ¬failed v → Q v w') w := by
  induction fuel generalizing w with
  | zero => exact fun _ h => Option.noConfusion h
  | succ fuel ih =>
      simp only [retryEintr, wp_bind, wp_getErrno, wp_ite, wp_pure]
      refine wp_mono (hcall w) fun r w₁ h₁ => ?_
      split
      · exact ih w₁
      · rintro v ⟨⟩
        exact h₁

theorem retryEintr_inv {I : World → Prop} (hcall : ∀ w, I w → wp call (fun _ w' => I w') w)
    (fuel : Nat) (w : World) (hw : I w) :
    wp (retryEintr call failed fuel) (fun _ w' => I w') w := by
  induction fuel generalizing w with
  | zero => exact hw
  | succ fuel ih =>
      simp only [retryEintr, wp_bind, wp_getErrno, wp_ite, wp_pure]
      refine wp_mono (hcall w hw) fun r w₁ h₁ => ?_
      split
      · exact ih w₁ h₁
      · exact h₁

end Retry

theorem fcntl_getfd_reads (fd : Int) (w : World) :
    wp (fcntl fd F_GETFD 0) (fun r w' => ¬r = -1 → r = (w'.sock fd).fdFlags) w := by
  simp only [wp_fcntl]
  split
  · exact fun h => (h trivial).elim
  · simp [F_GETFD, F_GETFL, F_SETFL]

theorem fcntl_setfd_writes (fd arg : Int) (w : World) :
    wp (fcntl fd F_SETFD arg) (fun r w' => ¬r = -1 → (w'.sock fd).fdFlags = arg) w := by
  simp only [wp_fcntl]
  split
  · exact fun h => (h trivial).elim
  · simp [F_GETFD, F_GETFL, F_SETFL, F_SETFD]

theorem fcntl_getfd_sock (fd : Int) (w : World) :
    wp (fcntl fd F_GETFD 0) (fun _ w' => w'.sock = w.sock) w := by
  simp only [wp_fcntl]
  split
  · rfl
  · simp [F_GETFD, F_GETFL, F_SETFL]

theorem fcntl_setfd_sets (fd arg : Int) (w : World) :
    wp (fcntl fd F_SETFD arg) (fun _ w' => w'.sock fd = w.sock fd ∨ (w'.sock fd).fdFlags = arg) w := by
  simp only [wp_fcntl]
  split
  · exact .inl rfl
  · simp [F_GETFD, F_GETFL, F_SETFL, F_SETFD]

/-- When `anetCloexec` returns something other than `-1`, the descriptor has
`FD_CLOEXEC` set: either it had it already, or the `F_SETFD` call set it. -/
theorem anetCloexec_sets (fd : Int) (fuel : Nat) (w : World) :
    wp (anetCloexec fd fuel) (fun r w' => ∀ v, r = some v → v ≠ -1 →
      Int.land (w'.sock fd).fdFlags FD_CLOEXEC ≠ 0) w := by
  simp only [anetCloexec, wp_bind]
  refine wp_mono (wp_retryEintr (fcntl_getfd_reads fd) fuel w) fun r w₁ h₁ => ?_
  rcases r with _ | r
  · exact fun _ h => Option.noConfusion h
  dsimp only
  split_ifs with hdone
  · rw [wp_pure]
    rintro v ⟨⟩ hv
    rw [← h₁ r rfl hv]
    exact hdone.resolve_left hv
  · refine wp_mono (wp_retryEintr (fcntl_setfd_writes fd _) fuel w₁) fun r' w₂ h₂ v hv hne => ?_
    rw [h₂ v hv hne]
    exact land_lor_ne_zero _ _ (show FD_CLOEXEC.testBit 0 = true by decide)

/-! ## The other flags -/

theorem anetSetBlock_sameOutside (err : ErrPtr) (fd non_block : Int) (w : World) :
    wp (anetSetBlock err fd non_block) (fun _ w' =>
      SameOutside O_NONBLOCK (w.sock fd).statusFlags (w'.sock fd).statusFlags) w := by
  refine wp_mono (anetSetBlock_writes err fd non_block w) ?_
  rintro _ w' (⟨-, -, hsock⟩ | ⟨-, hsock⟩ | ⟨-, hsock⟩)
  · exact hsock ▸ .refl _ _
  · rw [hsock, Function.update_same]
    dsimp only
    split
    · exact sameOutside_lor _ _
    · exact sameOutside_land_lnot _ _
  · exact hsock ▸ .refl _ _

theorem anetCloexec_sameOutside (fd : Int) (fuel : Nat) (w : World) :
    wp (anetCloexec fd fuel) (fun _ w' =>
      SameOutside FD_CLOEXEC (w.sock fd).fdFlags (w'.sock fd).fdFlags) w := by
  simp only [anetCloexec, wp_bind]
  have hget : ∀ w', w'.sock = w.sock → wp (fcntl fd F_GETFD 0) (fun _ w'' => w''.sock = w.sock) w' :=
    fun w' hw => wp_mono (fcntl_getfd_sock fd w') fun _ _ h => h.trans hw
  refine wp_mono (wp_and (wp_retryEintr (fcntl_getfd_reads fd) fuel w) (retryEintr_inv hget fuel w rfl))
    fun r w₁ ⟨h₁, hsock⟩ => ?_
  rcases r with _ | r
  · exact hsock ▸ .refl _ _
  dsimp only
  split_ifs with hdone
  · exact hsock ▸ .refl _ _
  · -- the read gave the flags as they were, and every successful `F_SETFD` writes them with the bit
    have hr : r = (w.sock fd).fdFlags := hsock ▸ h₁ r rfl (not_or.1 hdone).1
    refine retryEintr_inv (fun w₂ hw₂ => wp_mono (fcntl_setfd_sets fd _ w₂) ?_) fuel w₁
      (hsock ▸ .refl _ _)
    rintro _ w₃ (h | h)
    · rwa [h]
    · rw [h, hr]
      exact sameOutside_lor _ _

/-- The flag setters change their own bit only: every run of `anetSetBlock` keeps every
status flag of the descriptor but `O_NONBLOCK`, and every run of `anetCloexec` every
descriptor flag but `FD_CLOEXEC`, whether they succeed, fail or are interrupted. -/
theorem anet_flag_setters_keep_other_bits :
    (∀ err fd non_block w, wp (anetSetBlock err fd non_block) (fun _ w' =>
      SameOutside O_NONBLOCK (w.sock fd).statusFlags (w'.sock fd).statusFlags) w) ∧
    (∀ fd fuel w, wp (anetCloexec fd fuel) (fun _ w' =>
      SameOutside FD_CLOEXEC (w.sock fd).fdFlags (w'.sock fd).fdFlags) w) :=
  ⟨anetSetBlock_sameOutside, anetCloexec_sameOutside⟩

end RedisAnet.Anet
