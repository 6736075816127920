import ShellcodeVM.GuestOS.GdtSegments
import ShellcodeVM.GuestOS.Idt

/-!
The descriptors that the encoders of `gdt.cpp` and `idt.cpp` write, read back as the
processor reads them. A segment descriptor holds its base and limit in parts, with
four flag bits next to the upper part of the limit; a gate uses the same eight bytes
for an offset, a selector and a parameter count.
-/
namespace ShellcodeVM.GuestOS
open Machine

/-- The access byte, which both layouts have at bits 40-47. -/
structure Access where
  type : Nat
  codeOrData : Bool
  dpl : Nat
  present : Bool
deriving DecidableEq, Repr

def decodeAccess (b : Nat) : Access where
  type := b % 2 ^ 4
  codeOrData := b / 2 ^ 4 % 2 = 1
  dpl := b / 2 ^ 5 % 2 ^ 2
  present := b / 2 ^ 7 % 2 = 1

/-- A segment descriptor as the processor reads it. -/
structure SegmentView where
  base : Nat
  limit : Nat
  access : Access
  available : Bool
  longMode : Bool
  big : Bool
  granularity : Bool
deriving DecidableEq, Repr

def decodeSegment (w : Nat) : SegmentView where
  base := descBase w
  limit := descLimit w
  access := decodeAccess (w / 2 ^ 40 % 2 ^ 8)
  available := w / 2 ^ 52 % 2 = 1
  longMode := w / 2 ^ 53 % 2 = 1
  big := w / 2 ^ 54 % 2 = 1
  granularity := descGranularity w

/-- A gate descriptor as the processor reads it; the three bits above the parameter
count are reserved. -/
structure GateView where
  offset : Nat
  selector : Nat
  paramCount : Nat
  reserved : Nat
  access : Access
deriving DecidableEq, Repr

def decodeGate (w : Nat) : GateView where
  offset := w % 2 ^ 16 + w / 2 ^ 48 % 2 ^ 16 * 2 ^ 16
  selector := w / 2 ^ 16 % 2 ^ 16
  paramCount := w / 2 ^ 32 % 2 ^ 5
  reserved := w / 2 ^ 37 % 2 ^ 3
  access := decodeAccess (w / 2 ^ 40 % 2 ^ 8)

/-- What the caller of a segment encoder asks for. -/
def askedSegment (base limit attr : UInt32) : SegmentView where
  base := base.toNat
  limit := limit.toNat % 2 ^ 20
  access := decodeAccess (attr.toNat % 2 ^ 8)
  available := attr.toNat / 2 ^ 12 % 2 = 1
  longMode := attr.toNat / 2 ^ 13 % 2 = 1
  big := attr.toNat / 2 ^ 14 % 2 = 1
  granularity := attr.toNat / 2 ^ 15 % 2 = 1

/-- An available 32-bit TSS with byte granularity. -/
def askedTss (base limit : UInt32) : SegmentView where
  base := base.toNat
  limit := limit.toNat % 2 ^ 20
  access := ⟨0x9, false, 0, true⟩
  available := false
  longMode := false
  big := false
  granularity := false

/-- A 32-bit call gate that ring 3 may use. -/
def askedCallGate (handler : UInt32) (paramCount : Nat) : GateView where
  offset := handler.toNat
  selector := selKernelCode
  paramCount := paramCount
  reserved := 0
  access := ⟨0xC, false, 3, true⟩

/-- A gate of the IDT of the type asked for; it takes no parameters. -/
def askedIdtGate (handler : UInt32) (descType : Nat) : GateView where
  offset := handler.toNat
  selector := selKernelCode
  paramCount := 0
  reserved := 0
  access := decodeAccess descType

/-! The layouts: every field is read from where it is stored. -/

theorem decodeSegment_image (desc : SegmentDesc) :
    decodeSegment desc.image =
      { base := desc.baseLow.toNat + desc.baseMid.toNat * 2 ^ 16 + desc.baseHigh.toNat * 2 ^ 24
        limit := desc.limitLow.toNat + desc.limitHighAttr2.toNat % 2 ^ 4 * 2 ^ 16
        access := decodeAccess desc.attr1.toNat
        available := desc.limitHighAttr2.toNat / 2 ^ 4 % 2 = 1
        longMode := desc.limitHighAttr2.toNat / 2 ^ 5 % 2 = 1
        big := desc.limitHighAttr2.toNat / 2 ^ 6 % 2 = 1
        granularity := desc.limitHighAttr2.toNat / 2 ^ 7 % 2 = 1 } := by
  have h0 := desc.limitLow.toNat_lt
  have h1 := desc.baseLow.toNat_lt
  have h2 := desc.baseMid.toNat_lt
  have h3 := desc.attr1.toNat_lt
  have h4 := desc.limitHighAttr2.toNat_lt
  have h5 := desc.baseHigh.toNat_lt
  have haccess : desc.image / 2 ^ 40 % 2 ^ 8 = desc.attr1.toNat := by
    rw [SegmentDesc.image]
    omega
  -- The byte that the upper limit bits share with the flags.
  have hshared : ∀ k, k < 8 →
      desc.image / 2 ^ (48 + k) % 2 = desc.limitHighAttr2.toNat / 2 ^ k % 2 := by
    intro k hk
    have hbyte : desc.image / 2 ^ 48 % 2 ^ 8 = desc.limitHighAttr2.toNat := by
      rw [SegmentDesc.image]
      omega
    rw [Nat.pow_add, ← Nat.div_div_eq_div_mul, ← hbyte]
    interval_cases k <;> omega
  rw [decodeSegment, haccess]
  simp only [SegmentView.mk.injEq, decide_eq_decide, true_and]
  refine ⟨?_, ?_, ?_, ?_, ?_, ?_⟩
  · simp only [descBase, SegmentDesc.image]
    omega
  · simp only [descLimit, SegmentDesc.image]
    omega
  · rw [hshared 4 (by norm_num)]
  · rw [hshared 5 (by norm_num)]
  · rw [hshared 6 (by norm_num)]
  · rw [descGranularity, decide_eq_decide, hshared 7 (by norm_num)]

theorem decodeGate_image (desc : GateDesc) :
    decodeGate desc.image =
      { offset := desc.offsetLow.toNat + desc.offsetHigh.toNat * 2 ^ 16
        selector := desc.selector.toNat
        paramCount := desc.dcount.toNat % 2 ^ 5
        reserved := desc.dcount.toNat / 2 ^ 5
        access := decodeAccess desc.attr.toNat } := by
  have h0 := desc.offsetLow.toNat_lt
  have h1 := desc.selector.toNat_lt
  have h2 := desc.dcount.toNat_lt
  have h3 := desc.attr.toNat_lt
  have h4 := desc.offsetHigh.toNat_lt
  have haccess : desc.image / 2 ^ 40 % 2 ^ 8 = desc.attr.toNat := by
    rw [GateDesc.image]
    omega
  rw [decodeGate, haccess]
  simp only [GateView.mk.injEq, GateDesc.image, and_true]
  refine ⟨?_, ?_, ?_, ?_⟩ <;> omega

/-! The bytes that the encoders store, as parts of their arguments. -/

theorem low16_toNat (x : Nat) : (UInt16.ofNat (x &&& 0xFFFF)).toNat = x % 2 ^ 16 := by
  change (x &&& (2 ^ 16 - 1)) % 2 ^ 16 = _
  rw [and_mask, Nat.mod_mod]

theorem low8_toNat (x : Nat) : (UInt8.ofNat (x &&& 0xFF)).toNat = x % 2 ^ 8 := by
  change (x &&& (2 ^ 8 - 1)) % 2 ^ 8 = _
  rw [and_mask, Nat.mod_mod]

theorem ofInt_toNat (x : Int) : (UInt8.ofInt x).toNat = (x % 2 ^ 8).toNat := by
  change (x % 2 ^ 8).toNat % 2 ^ 8 = _
  omega

theorem segmentDesc_limitHighAttr2 (base limit attr : Nat) :
    (segmentDesc base limit attr).limitHighAttr2.toNat =
      limit / 2 ^ 16 % 2 ^ 4 + attr / 2 ^ 12 % 2 ^ 4 * 2 ^ 4 := by
  have hlow : (limit >>> 16) &&& 0x0F = limit / 2 ^ 16 % 2 ^ 4 := by
    rw [shiftRight_eq_div]
    exact and_mask _ 4
  have hhigh : (attr >>> 8) &&& 0xF0 = attr / 2 ^ 8 / 2 ^ 4 % 2 ^ 4 * 2 ^ 4 := by
    rw [shiftRight_eq_div]
    exact and_shiftedMask _ 4 4
  have hlt : limit / 2 ^ 16 % 2 ^ 4 < 2 ^ 4 := Nat.mod_lt _ (by norm_num)
  change (((limit >>> 16) &&& 0x0F) ||| ((attr >>> 8) &&& 0xF0)) % 2 ^ 8 = _
  rw [hlow, hhigh, or_field _ hlt]
  omega

/-- The TSS encoder is the segment encoder at the attribute of a TSS. -/
theorem tssDesc_eq (base limit : Nat) : tssDesc base limit = segmentDesc base limit da386Tss := by
  have hhigh : ((limit >>> 16) &&& 0x0F) ||| ((da386Tss >>> 8) &&& 0xF0) = (limit >>> 16) &&& 0x0F :=
    Nat.or_zero _
  rw [tssDesc, segmentDesc, hhigh]
  rfl

theorem decode_segmentDesc (base limit attr : UInt32) :
    decodeSegment (segmentDesc base.toNat limit.toNat attr.toNat).image =
      askedSegment base limit attr := by
  have hbase := base.toNat_lt
  rw [decodeSegment_image, segmentDesc_limitHighAttr2]
  simp only [segmentDesc, low16_toNat, low8_toNat, askedSegment, SegmentView.mk.injEq,
    decide_eq_decide, true_and]
  refine ⟨?_, ?_, ?_, ?_, ?_, ?_⟩ <;> omega

theorem decode_tssDesc (base limit : UInt32) :
    decodeSegment (tssDesc base.toNat limit.toNat).image = askedTss base limit := by
  have hdecode := decode_segmentDesc base limit (UInt32.ofNat da386Tss)
  rw [tssDesc_eq]
  exact hdecode

theorem decode_callGateDesc (handler : UInt32) (argc : Int) :
    decodeGate (callGateDesc handler.toNat argc).image =
      { askedCallGate handler (argc % 2 ^ 5).toNat with
        reserved := (argc / 2 ^ 5 % 2 ^ 3).toNat } := by
  have hhandler := handler.toNat_lt
  rw [decodeGate_image]
  simp only [callGateDesc, low16_toNat, ofInt_toNat, askedCallGate,
    GateView.mk.injEq]
  refine ⟨?_, rfl, ?_, ?_, rfl⟩ <;> omega

theorem decode_idtDesc (descType : Int) (handler : UInt32) :
    decodeGate (idtDesc descType handler.toNat).image =
      askedIdtGate handler (descType % 2 ^ 8).toNat := by
  have hhandler := handler.toNat_lt
  rw [decodeGate_image]
  simp only [idtDesc, low16_toNat, ofInt_toNat, askedIdtGate, GateView.mk.injEq]
  refine ⟨?_, rfl, rfl, rfl, trivial⟩
  omega

/-- The eight bytes that the selector returned by an `add_..` call names. -/
def Gdt.named (r : Nat × Gdt) : Nat := r.2.mGdt (r.1 / 8)

theorem Gdt.addEntry_named (gdt : Gdt) (image : Nat) (h : (gdt.addEntry image).1 ≠ 0) :
    Gdt.named (gdt.addEntry image) = image := by
  rcases gdt.addEntry_cases image with ⟨k, -, -, -, hadd⟩ | ⟨-, hadd⟩
  · rw [hadd]
    change (gdt.store k image).mGdt (k * 8 / 8) = image
    rw [Nat.mul_div_cancel k (by norm_num), store_same]
  · rw [hadd] at h
    exact absurd rfl h

/-- The eight bytes that an encoder stores decode to what its caller asked for. -/
structure EncodersInverted : Prop where
  setGdtEntry : ∀ (gdt : Gdt) (vector base limit attr : UInt32),
    vector.toNat ≠ 0 → vector.toNat < maxGdtNum →
      decodeSegment
        ((gdt.setGdtEntry vector.toNat base.toNat limit.toNat attr.toNat).2.mGdt vector.toNat) =
          askedSegment base limit attr
  addGdtEntry : ∀ (gdt : Gdt) (base limit attr : UInt32),
    (gdt.addGdtEntry base.toNat limit.toNat attr.toNat).1 ≠ 0 →
      decodeSegment (Gdt.named (gdt.addGdtEntry base.toNat limit.toNat attr.toNat)) =
        askedSegment base limit attr
  addLdtEntry : ∀ (gdt : Gdt) (base limit attr : UInt32),
    (gdt.addLdtEntry base.toNat limit.toNat attr.toNat).1 ≠ 0 →
      decodeSegment (Gdt.named (gdt.addLdtEntry base.toNat limit.toNat attr.toNat)) =
        askedSegment base limit attr
  addTssEntry : ∀ (gdt : Gdt) (base limit : UInt32),
    (gdt.addTssEntry base.toNat limit.toNat).1 ≠ 0 →
      decodeSegment (Gdt.named (gdt.addTssEntry base.toNat limit.toNat)) = askedTss base limit
  addCallGate : ∀ (gdt : Gdt) (handler : UInt32) (argc : Int),
    (gdt.addCallGate handler.toNat argc).1 ≠ 0 → 0 ≤ argc → argc < 32 →
      decodeGate (Gdt.named (gdt.addCallGate handler.toNat argc)) =
        askedCallGate handler argc.toNat
  setIdtEntry : ∀ (idt : Idt) (vector : Nat) (descType : Int) (handler : UInt32),
    vector < maxIdtNum →
      decodeGate ((idt.setIdtEntry vector descType handler.toNat).mIdt vector) =
        askedIdtGate handler (descType % 2 ^ 8).toNat

theorem encoders_inverted : EncodersInverted where
  setGdtEntry gdt vector base limit attr hpos hlt := by
    rw [Gdt.setGdtEntry, if_neg (by omega)]
    change decodeSegment ((gdt.store vector.toNat _).mGdt vector.toNat) = _
    rw [Gdt.store_same]
    exact decode_segmentDesc base limit attr
  addGdtEntry gdt base limit attr h := by
    rw [Gdt.addGdtEntry, gdt.addEntry_named _ h]
    exact decode_segmentDesc base limit attr
  addLdtEntry gdt base limit attr h := by
    rw [Gdt.addLdtEntry, gdt.addEntry_named _ h]
    exact decode_segmentDesc base limit attr
  addTssEntry gdt base limit h := by
    rw [Gdt.addTssEntry, gdt.addEntry_named _ h]
    exact decode_tssDesc base limit
  addCallGate gdt handler argc h hpos hlt := by
    have hcount : argc % 2 ^ 5 = argc := Int.emod_eq_of_lt hpos hlt
    have hreserved : argc / 2 ^ 5 % 2 ^ 3 = 0 := by omega
    rw [Gdt.addCallGate, gdt.addEntry_named _ h, decode_callGateDesc, hcount, hreserved]
    rfl
  setIdtEntry idt vector descType handler _ := by
    rw [Idt.setIdtEntry_same]
    exact decode_idtDesc descType handler

end ShellcodeVM.GuestOS
