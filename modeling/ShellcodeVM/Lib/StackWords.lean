import Mathlib.Tactic

/-!
Byte memory behind 32-bit pointers, which wrap, and the words that lie one after the
other from a pointer on. A stack that grows down is such a list with its top first.
-/
namespace Machine

abbrev Memory32 := UInt32 → UInt8

def load32 (m : Memory32) (a : UInt32) : UInt32 :=
  UInt32.ofNat ((m a).toNat + (m (a + 1)).toNat * 2 ^ 8 + (m (a + 2)).toNat * 2 ^ 16 +
    (m (a + 3)).toNat * 2 ^ 24)

/-- The byte at distance `k` from the pointer is byte `k` of the word. -/
def store32 (m : Memory32) (a w : UInt32) : Memory32 :=
  fun x => if (x - a).toNat < 4 then UInt8.ofNat (w.toNat / 2 ^ (8 * (x - a).toNat)) else m x

def load16 (m : Memory32) (a : UInt32) : UInt16 :=
  UInt16.ofNat ((m a).toNat + (m (a + 1)).toNat * 2 ^ 8)

def store16 (m : Memory32) (a : UInt32) (w : UInt16) : Memory32 :=
  fun x => if (x - a).toNat < 2 then UInt8.ofNat (w.toNat / 2 ^ (8 * (x - a).toNat)) else m x

theorem add_sub_self_left (a b : UInt32) : a + b - a = b := by
  rw [UInt32.add_comm, UInt32.add_sub_cancel]

theorem load32_congr {m m' : Memory32} {a : UInt32}
    (h : ∀ k : UInt32, k.toNat < 4 → m' (a + k) = m (a + k)) : load32 m' a = load32 m a := by
  have h0 := h 0 (by decide)
  have h1 := h 1 (by decide)
  have h2 := h 2 (by decide)
  have h3 := h 3 (by decide)
  rw [UInt32.add_zero] at h0
  rw [load32, load32, h0, h1, h2, h3]

theorem load32_store32_same (m : Memory32) (a w : UInt32) : load32 (store32 m a w) a = w := by
  have hbyte : ∀ k : UInt32, k.toNat < 4 →
      store32 m a w (a + k) = UInt8.ofNat (w.toNat / 2 ^ (8 * k.toNat)) := by
    intro k hk
    rw [store32, add_sub_self_left, if_pos hk]
  have h0 : store32 m a w (a + 0) = UInt8.ofNat w.toNat := by
    rw [hbyte 0 (by decide)]
    exact congrArg UInt8.ofNat (Nat.div_one w.toNat)
  have h1 : store32 m a w (a + 1) = UInt8.ofNat (w.toNat / 2 ^ 8) := hbyte 1 (by decide)
  have h2 : store32 m a w (a + 2) = UInt8.ofNat (w.toNat / 2 ^ 16) := hbyte 2 (by decide)
  have h3 : store32 m a w (a + 3) = UInt8.ofNat (w.toNat / 2 ^ 24) := hbyte 3 (by decide)
  have hw := w.toNat_lt
  rw [UInt32.add_zero] at h0
  rw [load32, h0, h1, h2, h3]
  apply UInt32.toNat_inj.mp
  simp only [UInt8.toNat_ofNat', UInt32.toNat_ofNat']
  omega

/-- A store leaves a word alone that starts four or more bytes away on either side. -/
theorem load32_store32_apart (m : Memory32) {a b : UInt32} (w : UInt32) (h : 4 ≤ (b - a).toNat)
    (h' : (b - a).toNat + 4 ≤ 2 ^ 32) : load32 (store32 m a w) b = load32 m b := by
  apply load32_congr
  intro k hk
  have hdist : (b + k - a).toNat = (b - a).toNat + k.toNat := by
    have ha := a.toNat_lt
    have hb := b.toNat_lt
    simp only [UInt32.toNat_sub, UInt32.toNat_add] at h h' ⊢
    omega
  rw [store32, if_neg (by omega)]

/-- The words from a pointer on. -/
def Holds (m : Memory32) : UInt32 → List UInt32 → Prop
  | _, [] => True
  | a, w :: ws => load32 m a = w ∧ Holds m (a + 4) ws

theorem holds_iff (m : Memory32) (a : UInt32) (ws : List UInt32) :
    Holds m a ws ↔ ∀ i (h : i < ws.length), load32 m (a + UInt32.ofNat (4 * i)) = ws[i] := by
  induction ws generalizing a with
  | nil => exact ⟨fun _ i h => absurd h (Nat.not_lt_zero i), fun _ => trivial⟩
  | cons w ws ih =>
      have hnext : ∀ i, a + 4 + UInt32.ofNat (4 * i) = a + UInt32.ofNat (4 * (i + 1)) := by
        intro i
        apply UInt32.toNat_inj.mp
        simp only [UInt32.toNat_add, UInt32.toNat_ofNat', UInt32.toNat_ofNat]
        omega
      rw [Holds, ih]
      constructor
      · rintro ⟨hw, hws⟩ i hi
        cases i with
        | zero => simpa using hw
        | succ i =>
            rw [← hnext]
            exact hws i (Nat.lt_of_succ_lt_succ hi)
      · intro h
        refine ⟨by simpa using h 0 (Nat.succ_pos _), ?_⟩
        intro i hi
        rw [hnext]
        exact h (i + 1) (Nat.succ_lt_succ hi)

theorem Holds.drop {m : Memory32} {a : UInt32} {ws : List UInt32} (h : Holds m a ws) (n : Nat) :
    Holds m (a + UInt32.ofNat (4 * n)) (ws.drop n) := by
  rw [holds_iff] at h ⊢
  intro i hi
  rw [List.length_drop] at hi
  have haddr : a + UInt32.ofNat (4 * n) + UInt32.ofNat (4 * i) =
      a + UInt32.ofNat (4 * (n + i)) := by
    apply UInt32.toNat_inj.mp
    simp only [UInt32.toNat_add, UInt32.toNat_ofNat']
    omega
  rw [haddr, List.getElem_drop]
  exact h (n + i) (by omega)

theorem Holds.left {m : Memory32} {a : UInt32} {ws vs : List UInt32} (h : Holds m a (ws ++ vs)) :
    Holds m a ws := by
  induction ws generalizing a with
  | nil => trivial
  | cons w ws ih => exact ⟨h.1, ih h.2⟩

/-- Words depend only on the bytes of their own range. -/
theorem Holds.congr {m m' : Memory32} {a : UInt32} {ws : List UInt32} (h : Holds m a ws)
    (hlen : 4 * ws.length ≤ 2 ^ 32)
    (hsame : ∀ k : UInt32, k.toNat < 4 * ws.length → m' (a + k) = m (a + k)) :
    Holds m' a ws := by
  rw [holds_iff] at h ⊢
  intro i hi
  rw [← h i hi]
  apply load32_congr
  intro k hk
  have hoffset : (UInt32.ofNat (4 * i) + k).toNat < 4 * ws.length := by
    simp only [UInt32.toNat_add, UInt32.toNat_ofNat']
    omega
  rw [UInt32.add_assoc]
  exact hsame _ hoffset

/-- A word pushed in front of the others. -/
theorem Holds.push {m : Memory32} {a : UInt32} {ws : List UInt32} (w : UInt32) (h : Holds m a ws)
    (hlen : 4 * (ws.length + 1) ≤ 2 ^ 32) : Holds (store32 m (a - 4) w) (a - 4) (w :: ws) := by
  refine ⟨load32_store32_same m _ w, ?_⟩
  rw [UInt32.sub_add_cancel]
  rw [holds_iff] at h ⊢
  intro i hi
  rw [← h i hi]
  have hdist : (a + UInt32.ofNat (4 * i) - (a - 4)).toNat = 4 * i + 4 := by
    have ha := a.toNat_lt
    simp only [UInt32.toNat_sub, UInt32.toNat_add, UInt32.toNat_ofNat', UInt32.toNat_ofNat]
    omega
  exact load32_store32_apart m w (by omega) (by omega)

end Machine
