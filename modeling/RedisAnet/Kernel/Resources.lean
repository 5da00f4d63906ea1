import RedisAnet.Kernel.Footprints

/-!
# Resource discipline

What a run of anet.c may do to the process's resources, as relations between the resources
before and after it: `ListsDone a b` (every `addrinfo` list handed out in between was freed
exactly once in between, and no other list was), `Clean a b` (moreover the same descriptors
are open and no descriptor that was not open was closed) and `Balanced a r b`, the contract
of a function that creates a descriptor (it returns `ANET_ERR` and is clean, or a descriptor
that was not open, and the table afterwards is the one before plus that descriptor).
`Spec x R` says that every run of `x` relates the resources by `R`.
-/

namespace RedisAnet.Kernel

def ListsDone (a b : Res) : Prop :=
  a.lists ≤ b.lists ∧
    ∀ h, b.released h = a.released h + if a.lists ≤ h ∧ h < b.lists then 1 else 0

namespace ListsDone

theorem refl (a : Res) : ListsDone a a :=
  ⟨le_rfl, fun h => by rw [if_neg (by omega)]; rfl⟩

theorem trans {a b c : Res} (hab : ListsDone a b) (hbc : ListsDone b c) : ListsDone a c := by
  refine ⟨hab.1.trans hbc.1, fun h => ?_⟩
  rw [hbc.2, hab.2]
  have := hab.1
  have := hbc.1
  split_ifs <;> omega

theorem bracket {a b : Res} (hb : ListsDone a.obtain b) : ListsDone a (b.release a.lists) := by
  obtain ⟨hle, hrel⟩ := hb
  simp only [Res.obtain_lists, Res.obtain_released] at hle hrel
  refine ⟨by simp only [Res.release_lists]; omega, fun h => ?_⟩
  simp only [Res.release_released, Res.release_lists]
  by_cases hh : h = a.lists
  · subst hh
    rw [Function.update_same, hrel, if_neg (by omega), if_pos (by omega)]
  · rw [Function.update_noteq hh, hrel]
    split_ifs <;> omega

end ListsDone

/-- Nothing held and nothing leaked: the same descriptors are open, every list obtained
was released once, and no descriptor that was not open was closed. -/
structure Clean (a b : Res) : Prop where
  fds : b.fds = a.fds
  lists : ListsDone a b
  badCloses : b.badCloses = a.badCloses

namespace Clean

theorem refl (a : Res) : Clean a a := ⟨rfl, .refl a, rfl⟩

theorem of_eq {a b : Res} (h : b = a) : Clean a b := h ▸ refl a

theorem trans {a b c : Res} (hab : Clean a b) (hbc : Clean b c) : Clean a c :=
  ⟨hbc.fds.trans hab.fds, hab.lists.trans hbc.lists, hbc.badCloses.trans hab.badCloses⟩

theorem bracket {a b : Res} (hb : Clean a.obtain b) : Clean a (b.release a.lists) :=
  ⟨hb.fds, hb.lists.bracket, hb.badCloses⟩

theorem closeFd {a b : Res} {fd : Int} (hfd : fd ∉ a.fds) (hb : Clean (a.openFd fd) b) :
    Clean a (b.closeFd fd) := by
  have hmem : fd ∈ b.fds := by simp [hb.fds]
  rw [Res.closeFd_of_mem _ hmem]
  exact ⟨by simp [hb.fds, hfd], hb.lists, hb.badCloses⟩

end Clean

/-- The contract of a descriptor-creating function of anet.c, run from `a` to `b` with
result `r`. -/
structure Balanced (a : Res) (r : Int) (b : Res) : Prop where
  fds : (r = ANET_ERR ∧ b.fds = a.fds) ∨ (0 ≤ r ∧ r ∉ a.fds ∧ b.fds = insert r a.fds)
  lists : ListsDone a b
  badCloses : b.badCloses = a.badCloses

namespace Balanced

theorem failed {a b : Res} (h : Clean a b) : Balanced a ANET_ERR b :=
  ⟨.inl ⟨rfl, h.fds⟩, h.lists, h.badCloses⟩

theorem opened {a b : Res} {fd : Nat} (hfd : (fd : Int) ∉ a.fds) (h : Clean (a.openFd fd) b) :
    Balanced a fd b :=
  ⟨.inr ⟨Int.natCast_nonneg fd, hfd, h.fds⟩, h.lists, h.badCloses⟩

theorem of_clean {a b c : Res} {r : Int} (hab : Clean a b) (hbc : Balanced b r c) :
    Balanced a r c := by
  obtain ⟨hfds, hlists, hcl⟩ := hbc
  refine ⟨?_, hab.lists.trans hlists, hcl.trans hab.badCloses⟩
  simpa only [hab.fds] using hfds

theorem clean {a b c : Res} {r : Int} (hab : Balanced a r b) (hbc : Clean b c) :
    Balanced a r c := by
  obtain ⟨hfds, hlists, hcl⟩ := hab
  refine ⟨?_, hlists.trans hbc.lists, hbc.badCloses.trans hcl⟩
  simpa only [hbc.fds] using hfds

theorem bracket {a b : Res} {r : Int} (h : Balanced a.obtain r b) :
    Balanced a r (b.release a.lists) :=
  ⟨by simpa using h.fds, h.lists.bracket, h.badCloses⟩

theorem clean_of_err {a b : Res} (h : Balanced a ANET_ERR b) : Clean a b := by
  obtain ⟨⟨-, hfds⟩ | ⟨hneg, -⟩, hlists, hcl⟩ := h
  · exact ⟨hfds, hlists, hcl⟩
  · exact absurd hneg (by decide)

theorem fresh {a b : Res} {r : Int} (h : Balanced a r b) (hr : r ≠ ANET_ERR) : r ∉ a.fds := by
  obtain ⟨⟨heq, -⟩ | ⟨-, hfd, -⟩, -, -⟩ := h
  · exact absurd heq hr
  · exact hfd

theorem close {a b : Res} {r : Int} (h : Balanced a r b) (hr : r ≠ ANET_ERR) :
    Clean a (b.closeFd r) := by
  obtain ⟨⟨heq, -⟩ | ⟨-, hfd, hfds⟩, hlists, hcl⟩ := h
  · exact absurd heq hr
  · exact Clean.closeFd hfd ⟨hfds, hlists, hcl⟩

end Balanced

/-! ## Contracts of programs -/

/-- Every run of `x`, from every world, relates the resources before and after by `R`. -/
def Spec {α : Type} (x : Os α) (R : Res → α → Res → Prop) : Prop :=
  ∀ w, wp x (fun a w' => R w.res a w'.res) w

def SameRes (w w' : World) : Prop := w'.res = w.res

instance : Frame SameRes :=
  ⟨fun _ => rfl, fun h₁ h₂ => h₂.trans h₁, fun _ => rfl, fun _ _ => rfl, fun _ _ => rfl⟩

/-- `x` leaves the resources as they are. -/
def Keeps {α : Type} (x : Os α) : Prop := Preserves SameRes x

section Rules

variable {α : Type} {x : Os α} {R : Res → α → Res → Prop} {Q : α → World → Prop} {w : World}

theorem wp_of_spec (hx : Spec x R) (h : ∀ a w', R w.res a w'.res → Q a w') : wp x Q w :=
  wp_mono (hx w) h

theorem wp_of_keeps (hx : Keeps x) (h : ∀ a w', w'.res = w.res → Q a w') : wp x Q w :=
  wp_mono (hx w) h

end Rules

theorem keeps_getErrno : Keeps getErrno := preserves_getErrno

theorem keeps_setsockopt (fd level name : Int) (val : OptVal) :
    Keeps (setsockopt fd level name val) :=
  preserves_setsockopt _ _ _ _ fun _ => rfl

theorem keeps_fcntl (fd cmd arg : Int) : Keeps (fcntl fd cmd arg) :=
  preserves_fcntl _ _ _ (fun _ => rfl) fun _ => rfl

theorem keeps_bind (fd : Int) (addr : SockAddr) (len : Nat) : Keeps (bind fd addr len) :=
  preserves_bind_call _ _ _ fun _ => rfl

theorem keeps_connect (fd : Int) (addr : SockAddr) (len : Nat) : Keeps (connect fd addr len) :=
  preserves_connect _ _ _ fun _ => rfl

theorem keeps_listen (fd backlog : Int) : Keeps (listen fd backlog) :=
  preserves_listen _ _ fun _ => rfl

theorem keeps_chmod (path : List UInt8) (mode : Nat) : Keeps (chmod path mode) :=
  preserves_chmod _ _

theorem keeps_getpeername (fd : Int) : Keeps (getpeername fd) := preserves_getpeername _

theorem keeps_getsockname (fd : Int) : Keeps (getsockname fd) := preserves_getsockname _

end RedisAnet.Kernel
