import ShellcodeVM.Lib.PageWalk
import ShellcodeVM.Lib.AccessLog

/-!
Byte accesses on flat memory and through page tables. A program that keeps to a linear
block sees the same bytes both ways, as long as its stores do not reach the tables that
map the block.
-/
namespace Machine

/-- A byte access, with the byte that a store leaves. -/
inductive MemOp where
  | store (a : Nat) (b : UInt8)
  | copy (src dst : Nat)
deriving DecidableEq, Repr

namespace MemOp

def access : MemOp → Access
  | store a _ => .store a
  | copy src dst => .copy src dst

/-- The address stored to. -/
def target : MemOp → Nat
  | store a _ => a
  | copy _ dst => dst

/-- The access on flat memory. -/
def flat (m : Memory) : MemOp → Memory
  | store a b => write8 m a b
  | copy src dst => write8 m dst (m src)

/-- The access on a processor with paging on. -/
def run (u : Mmu) : MemOp → Option Mmu
  | store a b => u.store8 a b
  | copy src dst => do
      let b ← u.load8 src
      u.store8 dst b

end MemOp

/-- A 32-bit load at a linear address whose word lies in one page. -/
def Mmu.load32 (u : Mmu) (va : Nat) : Option Nat :=
  (walk u.mem u.dir va).map fun t => read32 u.mem t.address

/-- Only the byte behind the target changes. -/
theorem MemOp.run_spec {u u' : Mmu} {op : MemOp} (h : op.run u = some u') :
    u'.dir = u.dir ∧ ∃ t, walk u.mem u.dir op.target = some t ∧
      ∀ x, x ≠ t.address → u'.mem x = u.mem x := by
  have hstore : ∀ {a : Nat} {b : UInt8}, u.store8 a b = some u' →
      u'.dir = u.dir ∧ ∃ t, walk u.mem u.dir a = some t ∧
        ∀ x, x ≠ t.address → u'.mem x = u.mem x := by
    intro a b hrun
    obtain ⟨t, hwalk, rfl⟩ := Option.map_eq_some_iff.mp hrun
    exact ⟨rfl, t, hwalk, fun x hx => write8_of_ne _ _ _ hx⟩
  cases op with
  | store a b => exact hstore h
  | copy src dst =>
      obtain ⟨b, -, hrun⟩ := Option.bind_eq_some_iff.mp h
      exact hstore hrun

def Mmu.runOps (u : Mmu) (ops : List MemOp) : Option Mmu := ops.foldlM MemOp.run u

/-! ### What a recorded program did -/

/-- `r'` is `r` after the accesses `ops`. -/
structure Ram.Traced (r r' : Ram) (ops : List MemOp) : Prop where
  log : r'.log = (ops.map MemOp.access).reverse ++ r.log
  bytes : r'.bytes = ops.foldl MemOp.flat r.bytes

namespace Ram

theorem Traced.refl (r : Ram) : Traced r r [] := ⟨rfl, rfl⟩

theorem Traced.trans {r r₁ r₂ : Ram} {ops ops' : List MemOp} (h : Traced r r₁ ops)
    (h' : Traced r₁ r₂ ops') : Traced r r₂ (ops ++ ops') := by
  refine ⟨?_, ?_⟩
  · rw [h'.log, h.log, List.map_append, List.reverse_append, List.append_assoc]
  · rw [h'.bytes, h.bytes, List.foldl_append]

theorem Traced.store (r : Ram) (a : Nat) (b : UInt8) :
    Traced r (r.store a b) [.store (a % 2 ^ 32) b] := ⟨rfl, rfl⟩

theorem Traced.copyByte (r : Ram) (dst src : Nat) :
    Traced r (r.copyByte dst src) [.copy (src % 2 ^ 32) (dst % 2 ^ 32)] := ⟨rfl, rfl⟩

theorem Traced.memcpy (r : Ram) (dst src n : Nat) : ∃ ops, Traced r (r.memcpy dst src n) ops := by
  induction n with
  | zero =>
      rw [memcpy_zero]
      exact ⟨[], Traced.refl r⟩
  | succ n ih =>
      obtain ⟨ops, h⟩ := ih
      rw [memcpy_succ]
      exact ⟨_, h.trans (Traced.copyByte _ _ _)⟩

/-- A confined program makes its accesses within the distance. -/
theorem Traced.within {r r' : Ram} {ops : List MemOp} {base size : Nat} (h : Traced r r' ops)
    (hc : Confined base size r r') : ∀ op ∈ ops, ∀ a ∈ op.access.addrs, Within base size a := by
  intro op hop
  obtain ⟨new, hlog, hnew⟩ := hc.log
  have hsame : (ops.map MemOp.access).reverse = new :=
    List.append_cancel_right (h.log.symm.trans hlog)
  apply hnew
  rw [← hsame, List.mem_reverse]
  exact List.mem_map_of_mem hop

end Ram

/-! ### A linear block -/

/-- The linear bytes from `va` on are the physical bytes from `pa` on, and no change to
these moves a walk. -/
structure MapsBlock (m : Memory) (dir va pa size : Nat) : Prop where
  fits : va + size ≤ 2 ^ 32
  maps : ∀ i, i < size → ∃ t, walk m dir (va + i) = some t ∧ t.address = pa + i
  stable : ∀ m', (∀ x, x < pa ∨ pa + size ≤ x → m' x = m x) →
    ∀ v, v < 2 ^ 32 → walk m' dir v = walk m dir v

/-- `u'` is `u` with the bytes of a block replaced by those that `view` has from `va` on. -/
structure ShowsBlock (u u' : Mmu) (view : Memory) (va pa size : Nat) : Prop where
  dir : u'.dir = u.dir
  stores : u'.stores = u.stores
  outside : ∀ x, x < pa ∨ pa + size ≤ x → u'.mem x = u.mem x
  inside : ∀ i, i < size → u'.mem (pa + i) = view (va + i)

section
variable {u u' : Mmu} {view : Memory} {va pa size : Nat}

theorem ShowsBlock.walk_eq (h : ShowsBlock u u' view va pa size)
    (hm : MapsBlock u.mem u.dir va pa size) {v : Nat} (hv : v < 2 ^ 32) :
    walk u'.mem u'.dir v = walk u.mem u.dir v := by
  rw [h.dir]
  exact hm.stable u'.mem h.outside v hv

theorem ShowsBlock.load8 (h : ShowsBlock u u' view va pa size)
    (hm : MapsBlock u.mem u.dir va pa size) {i : Nat} (hi : i < size) :
    u'.load8 (va + i) = some (view (va + i)) := by
  obtain ⟨t, hwalk, haddr⟩ := hm.maps i hi
  have hfits := hm.fits
  rw [Mmu.load8, h.walk_eq hm (by omega), hwalk, Option.map_some, haddr, h.inside i hi]

theorem ShowsBlock.store8 (h : ShowsBlock u u' view va pa size)
    (hm : MapsBlock u.mem u.dir va pa size) {i : Nat} (hi : i < size) (b : UInt8) :
    ∃ u'', u'.store8 (va + i) b = some u'' ∧
      ShowsBlock u u'' (write8 view (va + i) b) va pa size := by
  obtain ⟨t, hwalk, haddr⟩ := hm.maps i hi
  have hfits := hm.fits
  refine ⟨{ u' with mem := write8 u'.mem (pa + i) b }, ?_, h.dir, h.stores, ?_, ?_⟩
  · rw [Mmu.store8, h.walk_eq hm (by omega), hwalk, Option.map_some, haddr]
  · intro x hx
    dsimp only
    rw [write8_of_ne _ _ _ (by omega)]
    exact h.outside x hx
  · intro j hj
    by_cases hij : j = i
    · simp [hij, write8]
    · dsimp only
      rw [write8_of_ne _ _ _ (by omega), write8_of_ne _ _ _ (by omega), h.inside j hj]

theorem ShowsBlock.run (h : ShowsBlock u u' view va pa size)
    (hm : MapsBlock u.mem u.dir va pa size) {op : MemOp}
    (hop : ∀ a ∈ op.access.addrs, va ≤ a ∧ a < va + size) :
    ∃ u'', op.run u' = some u'' ∧ ShowsBlock u u'' (op.flat view) va pa size := by
  cases op with
  | store a b =>
      obtain ⟨hlo, hhi⟩ := hop a (List.mem_singleton.mpr rfl)
      obtain ⟨i, rfl⟩ := Nat.exists_eq_add_of_le hlo
      exact h.store8 hm (by omega) b
  | copy src dst =>
      obtain ⟨hlo, hhi⟩ := hop src (by simp [MemOp.access, Access.addrs])
      obtain ⟨hlo', hhi'⟩ := hop dst (by simp [MemOp.access, Access.addrs])
      obtain ⟨i, rfl⟩ := Nat.exists_eq_add_of_le hlo
      obtain ⟨j, rfl⟩ := Nat.exists_eq_add_of_le hlo'
      obtain ⟨u'', hrun, hshow⟩ := h.store8 hm (i := j) (by omega) (view (va + i))
      refine ⟨u'', ?_, hshow⟩
      rw [MemOp.run, h.load8 hm (by omega), Option.bind_eq_bind, Option.bind_some, hrun]

/-- A program that keeps to the block never faults and sees flat memory. -/
theorem ShowsBlock.runOps (h : ShowsBlock u u' view va pa size)
    (hm : MapsBlock u.mem u.dir va pa size) {ops : List MemOp}
    (hops : ∀ op ∈ ops, ∀ a ∈ op.access.addrs, va ≤ a ∧ a < va + size) :
    ∃ u'', u'.runOps ops = some u'' ∧ ShowsBlock u u'' (ops.foldl MemOp.flat view) va pa size := by
  induction ops generalizing u' view with
  | nil => exact ⟨u', rfl, h⟩
  | cons op ops ih =>
      rw [List.forall_mem_cons] at hops
      obtain ⟨u₁, hrun, h₁⟩ := h.run hm hops.1
      obtain ⟨u₂, hrest, h₂⟩ := ih h₁ hops.2
      refine ⟨u₂, ?_, h₂⟩
      rw [Mmu.runOps, List.foldlM_cons, hrun, Option.bind_eq_bind, Option.bind_some]
      exact hrest

end
end Machine
