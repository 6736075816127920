import Mathlib.Tactic

/-!
Flat byte memory with little-endian 32-bit words.
Addresses are natural numbers; a program that computes them in a machine type
reduces them before it gets here. Every store has one lemma for the bytes it
sets and one for the bytes it leaves alone.
-/
namespace Machine

abbrev Memory := Nat → UInt8

def write8 (m : Memory) (a : Nat) (b : UInt8) : Memory :=
  fun x => if x = a then b else m x

def read32 (m : Memory) (a : Nat) : Nat :=
  (m a).toNat + (m (a + 1)).toNat * 2 ^ 8 + (m (a + 2)).toNat * 2 ^ 16 +
    (m (a + 3)).toNat * 2 ^ 24

def write32 (m : Memory) (a v : Nat) : Memory :=
  write8 (write8 (write8 (write8 m a (UInt8.ofNat v))
    (a + 1) (UInt8.ofNat (v / 2 ^ 8)))
    (a + 2) (UInt8.ofNat (v / 2 ^ 16)))
    (a + 3) (UInt8.ofNat (v / 2 ^ 24))

/-- `for (i = 0; i < size; i++) mem[i] = val`. -/
def memset (m : Memory) (a : Nat) (b : UInt8) : Nat → Memory
  | 0 => m
  | n + 1 => write8 (memset m a b n) (a + n) b

/-- `memcpy(mem + a, src, size)`, from a source that is no part of the memory. -/
def memcpy (m : Memory) (a : Nat) (src : Memory) : Nat → Memory
  | 0 => m
  | n + 1 => write8 (memcpy m a src n) (a + n) (src n)

/-- The memory seen through a window that starts at a base address. -/
def window (m : Memory) (base : Nat) : Memory :=
  fun x => m (base + x)

theorem write8_of_ne (m : Memory) (a : Nat) (b : UInt8) {x : Nat} (h : x ≠ a) :
    write8 m a b x = m x := by
  simp [write8, h]

theorem read32_lt (m : Memory) (a : Nat) : read32 m a < 2 ^ 32 := by
  have h0 := (m a).toNat_lt
  have h1 := (m (a + 1)).toNat_lt
  have h2 := (m (a + 2)).toNat_lt
  have h3 := (m (a + 3)).toNat_lt
  simp only [read32]
  omega

/-- The first byte of a word is its lowest. -/
theorem read32_mod (m : Memory) (a : Nat) : read32 m a % 2 ^ 8 = (m a).toNat := by
  have h := (m a).toNat_lt
  simp only [read32]
  omega

/-- A word depends only on its own four bytes. -/
theorem read32_congr {m m' : Memory} {a a' : Nat}
    (h : ∀ i, i < 4 → m' (a' + i) = m (a + i)) : read32 m' a' = read32 m a := by
  have h0 := h 0 (by norm_num)
  have h1 := h 1 (by norm_num)
  have h2 := h 2 (by norm_num)
  have h3 := h 3 (by norm_num)
  simp only [Nat.add_zero] at h0
  simp only [read32, h0, h1, h2, h3]

theorem write32_of_disjoint (m : Memory) (a v : Nat) {x : Nat}
    (h : x < a ∨ a + 4 ≤ x) : write32 m a v x = m x := by
  simp only [write32]
  rw [write8_of_ne _ _ _ (by omega), write8_of_ne _ _ _ (by omega),
    write8_of_ne _ _ _ (by omega), write8_of_ne _ _ _ (by omega)]

theorem read32_write32_same (m : Memory) (a v : Nat) :
    read32 (write32 m a v) a = v % 2 ^ 32 := by
  have h0 : write32 m a v a = UInt8.ofNat v := by simp [write32, write8]
  have h1 : write32 m a v (a + 1) = UInt8.ofNat (v / 2 ^ 8) := by simp [write32, write8]
  have h2 : write32 m a v (a + 2) = UInt8.ofNat (v / 2 ^ 16) := by simp [write32, write8]
  have h3 : write32 m a v (a + 3) = UInt8.ofNat (v / 2 ^ 24) := by simp [write32, write8]
  simp only [read32, h0, h1, h2, h3, UInt8.toNat_ofNat']
  omega

theorem read32_write32_of_disjoint (m : Memory) (a v : Nat) {b : Nat}
    (h : b + 4 ≤ a ∨ a + 4 ≤ b) : read32 (write32 m a v) b = read32 m b := by
  apply read32_congr
  intro i hi
  exact write32_of_disjoint m a v (by omega)

theorem memset_apply (m : Memory) (a : Nat) (b : UInt8) (n x : Nat) :
    memset m a b n x = if a ≤ x ∧ x < a + n then b else m x := by
  induction n with
  | zero =>
      rw [if_neg (by omega)]
      rfl
  | succ n ih =>
      simp only [memset, write8, ih]
      split_ifs <;> first | rfl | omega

theorem memset_inside (m : Memory) {a n x : Nat} (b : UInt8) (h : a ≤ x ∧ x < a + n) :
    memset m a b n x = b := by
  rw [memset_apply, if_pos h]

theorem memset_outside (m : Memory) {a n x : Nat} (b : UInt8) (h : x < a ∨ a + n ≤ x) :
    memset m a b n x = m x := by
  rw [memset_apply, if_neg (by omega)]

/-- Clearing what is clear already. -/
theorem memset_zero_same {m : Memory} {a n : Nat} (h : ∀ x, a ≤ x ∧ x < a + n → m x = 0) :
    memset m a 0 n = m := by
  funext x
  rw [memset_apply]
  split_ifs with hx
  · exact (h x hx).symm
  · rfl

theorem read32_memset_zero (m : Memory) {a n x : Nat} (h : a ≤ x ∧ x + 4 ≤ a + n) :
    read32 (memset m a 0 n) x = 0 := by
  simp only [read32]
  rw [memset_inside m 0 (by omega), memset_inside m 0 (by omega),
    memset_inside m 0 (by omega), memset_inside m 0 (by omega)]
  rfl

theorem read32_memset_outside (m : Memory) {a n x : Nat} (b : UInt8)
    (h : x + 4 ≤ a ∨ a + n ≤ x) : read32 (memset m a b n) x = read32 m x := by
  apply read32_congr
  intro i hi
  exact memset_outside m b (by omega)

/-- Aligned words do not overlap in part. -/
theorem read32_write32_aligned (m : Memory) {a x : Nat} (v : Nat) (ha : a % 4 = 0)
    (hx : x % 4 = 0) :
    read32 (write32 m a v) x = if x = a then v % 2 ^ 32 else read32 m x := by
  split_ifs with h
  · rw [h, read32_write32_same]
  · exact read32_write32_of_disjoint m a v (by omega)

theorem read32_memset_aligned (m : Memory) {a n x : Nat} (ha : a % 4 = 0) (hn : n % 4 = 0)
    (hx : x % 4 = 0) :
    read32 (memset m a 0 n) x = 0 ∨ read32 (memset m a 0 n) x = read32 m x := by
  by_cases h : a ≤ x ∧ x + 4 ≤ a + n
  · exact .inl (read32_memset_zero m h)
  · exact .inr (read32_memset_outside m 0 (by omega))

theorem memcpy_apply (m : Memory) (a : Nat) (src : Memory) (n x : Nat) :
    memcpy m a src n x = if a ≤ x ∧ x < a + n then src (x - a) else m x := by
  induction n with
  | zero =>
      rw [if_neg (by omega)]
      rfl
  | succ n ih =>
      simp only [memcpy, write8]
      by_cases hx : x = a + n
      · rw [if_pos hx, if_pos (by omega), hx, Nat.add_sub_cancel_left]
      · rw [if_neg hx, ih]
        split_ifs <;> first | rfl | omega

/-- Equal words have equal bytes. -/
theorem read32_inj {m m' : Memory} {a a' : Nat} (h : read32 m a = read32 m' a') {i : Nat}
    (hi : i < 4) : m (a + i) = m' (a' + i) := by
  have h0 := (m a).toNat_lt
  have h1 := (m (a + 1)).toNat_lt
  have h2 := (m (a + 2)).toNat_lt
  have h3 := (m (a + 3)).toNat_lt
  have h0' := (m' a').toNat_lt
  have h1' := (m' (a' + 1)).toNat_lt
  have h2' := (m' (a' + 2)).toNat_lt
  have h3' := (m' (a' + 3)).toNat_lt
  simp only [read32] at h
  apply UInt8.toNat_inj.mp
  have hcases : i = 0 ∨ i = 1 ∨ i = 2 ∨ i = 3 := by omega
  rcases hcases with rfl | rfl | rfl | rfl
  · change (m a).toNat = (m' a').toNat
    omega
  · omega
  · omega
  · omega

/-- A store keeps two memories equal at an address, and makes them so inside its word. -/
theorem write32_congr {m m' : Memory} (v : Nat) {a x : Nat}
    (h : x < a ∨ a + 4 ≤ x → m x = m' x) : write32 m a v x = write32 m' a v x := by
  by_cases hx : x < a ∨ a + 4 ≤ x
  · rw [write32_of_disjoint m a v hx, write32_of_disjoint m' a v hx, h hx]
  · obtain ⟨i, hi, rfl⟩ : ∃ i, i < 4 ∧ x = a + i := ⟨x - a, by omega, by omega⟩
    apply read32_inj _ hi
    rw [read32_write32_same, read32_write32_same]

theorem read32_window (m : Memory) (base a : Nat) :
    read32 (window m base) a = read32 m (base + a) :=
  read32_congr fun i _ => by simp only [window, Nat.add_assoc]

/-- The memory with a window replaced by another content. -/
def replaceWindow (m : Memory) (base : Nat) (w : Memory) : Memory :=
  fun x => if base ≤ x then w (x - base) else m x

theorem window_replaceWindow (m : Memory) (base : Nat) (w : Memory) :
    window (replaceWindow m base w) base = w := by
  funext x
  simp [window, replaceWindow]

theorem window_write8 (m : Memory) (base a : Nat) (b : UInt8) :
    window (write8 m (base + a) b) base = write8 (window m base) a b := by
  funext x
  simp [window, write8]

theorem window_write32 (m : Memory) (base a v : Nat) :
    window (write32 m (base + a) v) base = write32 (window m base) a v := by
  simp only [write32, Nat.add_assoc, window_write8]

theorem window_memset (m : Memory) (base a : Nat) (b : UInt8) (n : Nat) :
    window (memset m (base + a) b n) base = memset (window m base) a b n := by
  induction n with
  | zero => rfl
  | succ n ih => simp only [memset, Nat.add_assoc, window_write8, ih]

end Machine
