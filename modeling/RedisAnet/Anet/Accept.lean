import RedisAnet.Anet.Options

/-!
# Accepting connections

`anetGenericAccept` retries `accept` for as long as it is interrupted by a signal
(`while(1)` with `continue` on `EINTR`), so it is modelled with fuel: `none` means that every
one of the `fuel` tries was interrupted and the C loop would still be running, and the run
ends exactly when some try within the fuel is not interrupted.  Whatever the outcome, the
accept functions are balanced: they return `ANET_ERR` with the table as it was, or a
descriptor that was free and is now the only one added.
-/

namespace RedisAnet.Anet

open RedisAnet.Kernel

/-- `inet_ntop(af, src, dst, size)`: the address text when its bytes fit with the NUL;
otherwise it fails with `ENOSPC` and leaves `dst` as it was (`none`). -/
def inetNtop (text : List UInt8) (size : Nat) : Option (List UInt8) :=
  if text.length < size then some text else none

def anetGenericAccept (err : ErrPtr) (s : Int) (fuel : Nat) :
    Os (Option (Int × Option SockAddr)) := do
  match ← retryEintr (accept s) (fun r => r.1 = -1) fuel with
  | none => return none
  | some (fd, sa) =>
      if fd = -1 then
        anetSetError err "accept: %s" (.strerror (← getErrno))
        return some (ANET_ERR, sa)
      else
        return some (fd, sa)

/-- The descriptor, and what is written to `ip` and `*port` (`none`: left as it was). -/
def anetTcpAccept (err : ErrPtr) (s : Int) (ip_len : Nat) (fuel : Nat) :
    Os (Option (Int × Option (List UInt8) × Option Nat)) := do
  match ← anetGenericAccept err s fuel with
  | none => return none
  | some (fd, sa) =>
      if fd = -1 then
        return some (ANET_ERR, none, none)
      else
        let sa := sa.getD (.other AF_UNSPEC)
        return some (fd, inetNtop sa.host ip_len, some sa.port)

def anetUnixAccept (err : ErrPtr) (s : Int) (fuel : Nat) : Os (Option Int) := do
  match ← anetGenericAccept err s fuel with
  | none => return none
  | some (fd, _) => return some (if fd = -1 then ANET_ERR else fd)

/-! ## Contracts -/

/-- The contract of an accept function with fuel: out of fuel nothing changed. -/
def AcceptBalanced {α : Type} (fd : α → Int) (a : Res) (r : Option α) (b : Res) : Prop :=
  match r with
  | none => b = a
  | some r => Balanced a (fd r) b

theorem accept_spec (s : Int) :
    Spec (accept s) fun a r b => if r.1 = -1 then b = a else Balanced a r.1 b := by
  intro w
  rw [wp_accept]
  split <;> dsimp only
  · have hfd := lowestFree_not_mem w.res.fds
    rw [if_neg (show ((lowestFree w.res.fds : Nat) : Int) ≠ -1 by omega)]
    exact .opened hfd (.refl _)
  · rw [if_pos rfl]
    rfl

theorem anetGenericAccept_balanced (err : ErrPtr) (s : Int) (fuel : Nat) :
    Spec (anetGenericAccept err s fuel) (AcceptBalanced Prod.fst) := by
  intro w
  simp only [anetGenericAccept, wp_bind]
  refine wp_of_spec (retryEintr_spec (accept_spec s) fuel) fun r w₁ h₁ => ?_
  rcases r with _ | ⟨fd, sa⟩
  · exact h₁
  · simp only [wp_bind, wp_getErrno, wp_ite, wp_pure, AcceptBalanced] at h₁ ⊢
    split_ifs at h₁ ⊢
    · exact wp_of_keeps (preserves_anetSetError _ _ _) fun _ _ h => .failed (.of_eq (h.trans h₁))
    · exact h₁

theorem anetTcpAccept_balanced (err : ErrPtr) (s : Int) (ip_len fuel : Nat) :
    Spec (anetTcpAccept err s ip_len fuel) (AcceptBalanced Prod.fst) := by
  intro w
  simp only [anetTcpAccept, wp_bind]
  refine wp_of_spec (anetGenericAccept_balanced err s fuel) fun r w₁ h₁ => ?_
  rcases r with _ | ⟨fd, sa⟩
  · exact h₁
  · simp only [wp_ite, wp_pure, AcceptBalanced] at h₁ ⊢
    split_ifs with hfd
    · subst hfd
      exact h₁
    · exact h₁

theorem anetUnixAccept_balanced (err : ErrPtr) (s : Int) (fuel : Nat) :
    Spec (anetUnixAccept err s fuel) (AcceptBalanced id) := by
  intro w
  simp only [anetUnixAccept, wp_bind]
  refine wp_of_spec (anetGenericAccept_balanced err s fuel) fun r w₁ h₁ => ?_
  rcases r with _ | ⟨fd, sa⟩
  · exact h₁
  · simp only [wp_pure, AcceptBalanced, id] at h₁ ⊢
    split_ifs with hfd
    · subst hfd
      exact h₁
    · exact h₁

/-! ## When the retry loop ends -/

private theorem retryAccept_isSome (s : Int) (fuel : Nat) (w : World) :
    ((retryEintr (accept s) (fun r => r.1 = -1) fuel).run w).1.isSome ↔
      ∃ i < fuel, w.env.answer (w.tick + i) (.accept s) ≠ (.error EINTR : Except Nat SockAddr) := by
  induction fuel generalizing w with
  | zero => exact iff_of_false (fun h => by cases h) (by simp)
  | succ fuel ih =>
      rw [retryEintr_succ_run]
      cases h : w.env.answer w.tick (.accept s) with
      | ok peer =>
          have hfd : ((lowestFree w.res.fds : Nat) : Int) ≠ -1 := by omega
          simp only [StateT.run, accept, World.reply, h, hfd, false_and, if_false]
          exact iff_of_true rfl ⟨0, by omega, by simp [h]⟩
      | error e =>
          simp only [StateT.run, accept, World.reply, h, true_and, World.next, World.fail]
          split_ifs with he
          · subst he
            refine (ih _).trans ⟨?_, ?_⟩
            · rintro ⟨i, hi, hne⟩
              exact ⟨i + 1, by omega, by simpa [Nat.add_assoc, Nat.add_comm 1] using hne⟩
            · rintro ⟨_ | i, hi, hne⟩
              · exact absurd h hne
              · exact ⟨i, by omega, by simpa [Nat.add_assoc, Nat.add_comm 1] using hne⟩
          · exact iff_of_true rfl
              ⟨0, by omega, by rw [Nat.add_zero, h]; exact fun hc => he (Except.error.inj hc)⟩

/-- `anetGenericAccept` returns within `fuel` tries exactly when one of the `accept` calls
it makes is not interrupted by a signal. -/
theorem anetGenericAccept_returns_iff (err : ErrPtr) (s : Int) (fuel : Nat) (w : World) :
    ((anetGenericAccept err s fuel).run w).1.isSome ↔
      ∃ i < fuel, w.env.answer (w.tick + i) (.accept s) ≠ (.error EINTR : Except Nat SockAddr) := by
  rw [← retryAccept_isSome]
  change wp (anetGenericAccept err s fuel) (fun r _ => r.isSome = true) w ↔ _
  simp only [anetGenericAccept, wp_bind]
  unfold wp
  generalize (retryEintr (accept s) (fun r => r.1 = -1) fuel).run w = p
  obtain ⟨_ | ⟨fd, sa⟩, w'⟩ := p
  · rfl
  · simp only [wp_bind, wp_getErrno, wp_ite, wp_pure]
    split_ifs <;> simp [wp, preserves_anetSetError]

end RedisAnet.Anet

namespace RedisAnet

open Kernel Anet

end RedisAnet
