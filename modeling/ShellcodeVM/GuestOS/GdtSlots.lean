import ShellcodeVM.GuestOS.Gdt

/-!
Slots of the GDT over runs of `add_..` calls. A slot is free while its eight bytes
are zero; no encoder of a valid call leaves them so, and from this the invariant
that the non-zero slots are those of `Init` and of the selectors returned.
-/
namespace ShellcodeVM.GuestOS
open Machine

inductive GdtCall where
  | gdtEntry (base limit attr : Nat)
  | ldtEntry (base limit attr : Nat)
  | tssEntry (base limit : Nat)
  | callGate (handler : Nat) (argc : Int)

namespace GdtCall

/-- The low byte of the attribute, where the caller passes one, is not zero. -/
def Valid : GdtCall → Prop
  | .gdtEntry _ _ attr | .ldtEntry _ _ attr => attr &&& 0xFF ≠ 0
  | .tssEntry _ _ | .callGate _ _ => True

def perform (gdt : Gdt) : GdtCall → Nat × Gdt
  | .gdtEntry base limit attr => gdt.addGdtEntry base limit attr
  | .ldtEntry base limit attr => gdt.addLdtEntry base limit attr
  | .tssEntry base limit => gdt.addTssEntry base limit
  | .callGate handler argc => gdt.addCallGate handler argc

/-- The descriptor that a call installs. -/
def image : GdtCall → Nat
  | .gdtEntry base limit attr | .ldtEntry base limit attr => (segmentDesc base limit attr).image
  | .tssEntry base limit => (tssDesc base limit).image
  | .callGate handler argc => (callGateDesc handler argc).image

theorem perform_eq (gdt : Gdt) (call : GdtCall) : call.perform gdt = gdt.addEntry call.image := by
  cases call with
  | gdtEntry base limit attr => rfl
  | ldtEntry base limit attr => rfl
  | tssEntry base limit => rfl
  | callGate handler argc => rfl

theorem segmentDesc_image_ne_zero (base limit : Nat) {attr : Nat} (h : attr &&& 0xFF ≠ 0) :
    (segmentDesc base limit attr).image ≠ 0 := by
  apply SegmentDesc.image_pos
  change (attr &&& 0xFF) % 2 ^ 8 ≠ 0
  have hlt : attr &&& 0xFF < 2 ^ 8 := Nat.and_lt_two_pow attr (by norm_num)
  rwa [Nat.mod_eq_of_lt hlt]

/-- Every encoder leaves a non-zero image, the overlaid gate included. -/
theorem image_ne_zero {call : GdtCall} (h : call.Valid) : call.image ≠ 0 := by
  cases call with
  | gdtEntry base limit attr => exact segmentDesc_image_ne_zero base limit h
  | ldtEntry base limit attr => exact segmentDesc_image_ne_zero base limit h
  | tssEntry base limit => exact SegmentDesc.image_pos (by decide : (UInt8.ofNat da386Tss).toNat ≠ 0)
  | callGate handler argc =>
      exact GateDesc.image_pos (by decide : (UInt8.ofNat (da386CGate ||| daDpl3)).toNat ≠ 0)

end GdtCall

/-- What a call does: it fills the lowest free slot, or none is free. -/
theorem Gdt.addEntry_cases (gdt : Gdt) (image : Nat) :
    (∃ k, 1 ≤ k ∧ k < maxGdtNum ∧ gdt.mGdt k = 0 ∧
      gdt.addEntry image = (k * 8, gdt.store k image)) ∨
    ((∀ i, 1 ≤ i → i < maxGdtNum → gdt.mGdt i ≠ 0) ∧ gdt.addEntry image = (0, gdt)) := by
  cases hfind : firstFree (fun i => gdt.mGdt i = 0) (maxGdtNum - 1) 1 with
  | none =>
      right
      refine ⟨fun i hi hlt => firstFree_none_iff.mp hfind i hi hlt, ?_⟩
      rw [addEntry, findFreeGdtEntry, hfind]
      rfl
  | some k =>
      left
      obtain ⟨hle, hlt, hzero, -⟩ := firstFree_some hfind
      have hpos : ¬ k = 0 := by omega
      refine ⟨k, hle, hlt, hzero, ?_⟩
      rw [addEntry, findFreeGdtEntry, hfind]
      exact if_neg hpos

/-- `Init` on a zeroed table, then the calls: the selectors returned and the table. -/
def runGdtCalls (calls : List GdtCall) : List Nat × Gdt :=
  calls.foldl (fun s call => (s.1 ++ [(call.perform s.2).1], (call.perform s.2).2))
    ([], Gdt.zeroed.init)

theorem runGdtCalls_append (calls : List GdtCall) (call : GdtCall) :
    runGdtCalls (calls ++ [call]) =
      ((runGdtCalls calls).1 ++ [(call.perform (runGdtCalls calls).2).1],
        (call.perform (runGdtCalls calls).2).2) := by
  rw [runGdtCalls, List.foldl_append]
  rfl

/-- A slot that `Init` fills or that belongs to a selector returned by a call. -/
def Occupied (sels : List Nat) (i : Nat) : Prop :=
  1 ≤ i ∧ i ≤ gdtUserFs ∨ 1 ≤ i ∧ i * 8 ∈ sels

/-- The non-zero slots are the occupied ones. -/
def SlotsMatch (s : List Nat × Gdt) : Prop :=
  ∀ i, 1 ≤ i → i < maxGdtNum → (s.2.mGdt i ≠ 0 ↔ Occupied s.1 i)

theorem init_slot {i : Nat} (hi : 1 ≤ i) :
    Gdt.zeroed.init.mGdt i ≠ 0 ↔ i ≤ gdtUserFs := by
  by_cases h : i ≤ 6
  · have hcases : i = 1 ∨ i = 2 ∨ i = 3 ∨ i = 4 ∨ i = 5 ∨ i = 6 := by omega
    rcases hcases with rfl | rfl | rfl | rfl | rfl | rfl <;> decide
  · have hzero : Gdt.zeroed.init.mGdt i = 0 := by
      simp only [Gdt.init, Gdt.setGdtEntry, gdtKernelCode, gdtKernelData, gdtUserCode,
        gdtUserData, gdtKernelFs, gdtUserFs, maxGdtNum]
      simp only [Gdt.store, Gdt.zeroed, reduceIte, Nat.reduceEqDiff, Nat.reduceLeDiff, or_self]
      repeat rw [if_neg (by omega)]
    rw [hzero, gdtUserFs]
    exact ⟨fun h => absurd rfl h, fun hle => absurd hle h⟩

/-- A call keeps the match: a filled slot is not zero, and its selector is returned. -/
theorem SlotsMatch.step {s : List Nat × Gdt} (h : SlotsMatch s) {call : GdtCall}
    (hvalid : call.Valid) :
    SlotsMatch (s.1 ++ [(call.perform s.2).1], (call.perform s.2).2) := by
  rw [GdtCall.perform_eq]
  intro i hi hlt
  have hoccupied := h i hi hlt
  rcases s.2.addEntry_cases call.image with ⟨k, hk, hklt, hzero, hadd⟩ | ⟨_, hadd⟩
  · simp only [hadd, Occupied, List.mem_append, List.mem_singleton] at hoccupied ⊢
    by_cases hik : i = k
    · rw [hik, Gdt.store_same]
      exact ⟨fun _ => .inr ⟨hk, .inr rfl⟩, fun _ => GdtCall.image_ne_zero hvalid⟩
    · have hne : ¬ i * 8 = k * 8 := by omega
      rw [Gdt.store_of_ne s.2 _ hik, hoccupied]
      simp only [hne, or_false]
  · have hne : ¬ i * 8 = 0 := by omega
    simp only [hadd, Occupied, List.mem_append, List.mem_singleton, hne, or_false]
    exact hoccupied

theorem runGdtCalls_slotsMatch {calls : List GdtCall} (h : ∀ call ∈ calls, call.Valid) :
    SlotsMatch (runGdtCalls calls) := by
  induction calls using List.reverseRecOn with
  | nil =>
      intro i hi _
      have hnone : i * 8 ∉ ([] : List Nat) := List.not_mem_nil
      simp only [runGdtCalls, List.foldl_nil, init_slot hi, Occupied, hnone, and_false, or_false, hi,
        true_and]
  | append_singleton calls call ih =>
      rw [runGdtCalls_append]
      apply SlotsMatch.step
      · exact ih fun c hc => h c (List.mem_append_left _ hc)
      · exact h call (List.mem_append_right _ (List.mem_singleton.mpr rfl))

/-- A call after a run gets a selector of its own, or the table is full. -/
structure TakesOwnSlot (s : List Nat × Gdt) (call : GdtCall) : Prop where
  selector : (call.perform s.2).1 ≠ 0 →
    8 ∣ (call.perform s.2).1 ∧ 0x38 ≤ (call.perform s.2).1 ∧ (call.perform s.2).1 ≤ 0xF8 ∧
      (call.perform s.2).1 ∉ s.1
  stored : (call.perform s.2).1 ≠ 0 →
    (call.perform s.2).2.mGdt ((call.perform s.2).1 / 8) = call.image
  others : ∀ i, i ≠ (call.perform s.2).1 / 8 → (call.perform s.2).2.mGdt i = s.2.mGdt i
  installed : ∀ i, i < maxGdtNum → Occupied s.1 i → (call.perform s.2).2.mGdt i = s.2.mGdt i
  full : (call.perform s.2).1 = 0 ↔ ∀ i, 1 ≤ i → i < maxGdtNum → Occupied s.1 i
  unchanged : (call.perform s.2).1 = 0 → (call.perform s.2).2 = s.2

/-- A call that fills slot `k`, which was free and so is nobody's. -/
theorem SlotsMatch.takes_slot {s : List Nat × Gdt} (h : SlotsMatch s) {call : GdtCall} {k : Nat}
    (hk : 1 ≤ k) (hklt : k < maxGdtNum) (hzero : s.2.mGdt k = 0)
    (hperform : call.perform s.2 = (k * 8, s.2.store k call.image)) : TakesOwnSlot s call := by
  have hfresh : ¬ Occupied s.1 k := fun hocc => (h k hk hklt).mpr hocc hzero
  have hdiv : k * 8 / 8 = k := Nat.mul_div_cancel k (by norm_num)
  have hkuser : gdtUserFs < k := by
    by_contra hle
    exact hfresh (.inl ⟨hk, by omega⟩)
  rw [gdtUserFs] at hkuser
  have hklt' := hklt
  rw [maxGdtNum] at hklt'
  constructor
  · rw [hperform]
    intro _
    refine ⟨Nat.dvd_mul_left 8 k, ?_, ?_, fun hmem => hfresh (.inr ⟨hk, hmem⟩)⟩
    · change 0x38 ≤ k * 8
      omega
    · change k * 8 ≤ 0xF8
      omega
  · rw [hperform]
    intro _
    change (s.2.store k call.image).mGdt (k * 8 / 8) = call.image
    rw [hdiv, Gdt.store_same]
  · rw [hperform]
    intro i hi
    change i ≠ k * 8 / 8 at hi
    rw [hdiv] at hi
    exact Gdt.store_of_ne s.2 _ hi
  · rw [hperform]
    intro i _ hocc
    apply Gdt.store_of_ne s.2 _
    intro hik
    exact hfresh (hik ▸ hocc)
  · rw [hperform]
    change k * 8 = 0 ↔ _
    refine ⟨fun hsel => absurd hsel (by omega), ?_⟩
    intro hall
    exact absurd (hall k hk hklt) hfresh
  · rw [hperform]
    intro hsel
    change k * 8 = 0 at hsel
    omega

/-- A call that finds no free slot. -/
theorem SlotsMatch.finds_none {s : List Nat × Gdt} (h : SlotsMatch s) {call : GdtCall}
    (hfull : ∀ i, 1 ≤ i → i < maxGdtNum → s.2.mGdt i ≠ 0)
    (hperform : call.perform s.2 = (0, s.2)) : TakesOwnSlot s call := by
  constructor
  · rw [hperform]
    exact fun hsel => absurd rfl hsel
  · rw [hperform]
    exact fun hsel => absurd rfl hsel
  · rw [hperform]
    exact fun _ _ => rfl
  · rw [hperform]
    exact fun _ _ _ => rfl
  · rw [hperform]
    exact ⟨fun _ i hi hlt => (h i hi hlt).mp (hfull i hi hlt), fun _ => rfl⟩
  · rw [hperform]
    exact fun _ => rfl

theorem SlotsMatch.takesOwnSlot {s : List Nat × Gdt} (h : SlotsMatch s) (call : GdtCall) :
    TakesOwnSlot s call := by
  have hperform := call.perform_eq s.2
  rcases s.2.addEntry_cases call.image with ⟨k, hk, hklt, hzero, hadd⟩ | ⟨hfull, hadd⟩
  · exact h.takes_slot hk hklt hzero (hperform.trans hadd)
  · exact h.finds_none hfull (hperform.trans hadd)

/-- Over any run of valid calls the slots are given out without collision. -/
theorem gdtSlots_disjoint (calls : List GdtCall) (call : GdtCall)
    (hcalls : ∀ c ∈ calls, c.Valid) :
    TakesOwnSlot (runGdtCalls calls) call :=
  (runGdtCalls_slotsMatch hcalls).takesOwnSlot call

/-- A gate after a TSS. -/
theorem gdtSlots_disjoint_gateAfterTss :
    TakesOwnSlot (runGdtCalls [.tssEntry 0x80001000 0x67]) (.callGate 0x80002000 2) := by
  apply gdtSlots_disjoint [.tssEntry 0x80001000 0x67] (.callGate 0x80002000 2)
  intro c hc
  rw [List.mem_singleton.mp hc]
  trivial

end ShellcodeVM.GuestOS
