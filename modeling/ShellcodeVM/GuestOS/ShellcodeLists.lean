import ShellcodeVM.GuestOS.Shellcode

/-!
The module lists that `clone_PEB_Module_list` makes are rings through the head and the
five clones, and the clones are copies of the last `kernel32.dll` that the search sees.
-/
namespace ShellcodeVM.GuestOS
open Machine

/-! ### The name -/

/-- The UTF-16 units of a name. -/
def wideName (m : Memory32) : UInt32 → Nat → List Nat
  | _, 0 => []
  | a, n + 1 => (load16 m a).toNat :: wideName m (a + 2) n

/-- A module is named `kernel32.dll`, in capitals or not. -/
def IsKernel32 (m : Memory32) (pModule : UInt32) : Prop :=
  (nameLength m pModule).toNat = 2 * kernel32Name.length ∧
    (wideName m (nameBuffer m pModule) kernel32Name.length).map toLower = kernel32Name

instance (m : Memory32) (pModule : UInt32) : Decidable (IsKernel32 m pModule) :=
  inferInstanceAs (Decidable (_ ∧ _))

theorem load16_toNat (m : Memory32) (a : UInt32) :
    (load16 m a).toNat = (m a).toNat + (m (a + 1)).toNat * 2 ^ 8 := by
  have hlow := (m a).toNat_lt
  have hhigh := (m (a + 1)).toNat_lt
  rw [load16, UInt16.toNat_ofNat']
  omega

theorem toLower_eq_zero_iff (c : Nat) : toLower c = 0 ↔ c = 0 := by
  rw [toLower]
  by_cases h : 0x41 ≤ c ∧ c ≤ 0x5A
  · rw [if_pos h]
    omega
  · rw [if_neg h]

/-- A small letter with a zero byte behind it, byte by byte or as one character. -/
theorem toLower_wide_iff {low high c : Nat} (hc : c < 128) :
    toLower low = c ∧ toLower high = 0 ↔ toLower (low + high * 2 ^ 8) = c := by
  rw [toLower_eq_zero_iff]
  constructor
  · rintro ⟨h, rfl⟩
    rwa [Nat.zero_mul, Nat.add_zero]
  · intro h
    have hhigh : high = 0 := by
      rw [toLower] at h
      split_ifs at h <;> omega
    subst hhigh
    rw [Nat.zero_mul, Nat.add_zero] at h
    exact ⟨h, rfl⟩

/-- The comparison of the bytes ignores the case of the characters. -/
theorem memicmp_wideBytes (m : Memory32) (a : UInt32) {name : List Nat}
    (hname : ∀ c ∈ name, c < 128 ∧ toLower c = c) :
    memicmp m a (wideBytes name) = 0 ↔ (wideName m a name.length).map toLower = name := by
  induction name generalizing a with
  | nil => exact ⟨fun _ => rfl, fun _ => rfl⟩
  | cons c name ih =>
      obtain ⟨hc, hsmall⟩ := hname c List.mem_cons_self
      have hrest := ih (a + 2) fun c' h' => hname c' (List.mem_cons_of_mem c h')
      have hunit : toLower (m a).toNat = c ∧ toLower (m (a + 1)).toNat = 0 ↔
          toLower ((m a).toNat + (m (a + 1)).toNat * 2 ^ 8) = c := toLower_wide_iff hc
      have hnext : a + 1 + 1 = a + 2 := by grind
      have hzero : toLower 0 = 0 := rfl
      rw [← load16_toNat] at hunit
      change memicmp m a (c :: 0 :: wideBytes name) = 0 ↔
        toLower (load16 m a).toNat :: (wideName m (a + 2) name.length).map toLower = c :: name
      rw [memicmp, memicmp, hnext, hsmall, hzero, List.cons.injEq, ← hunit, ← hrest]
      by_cases hlow : toLower (m a).toNat = c
      · rw [if_pos hlow]
        by_cases hhigh : toLower (m (a + 1)).toNat = 0
        · rw [if_pos hhigh]
          exact ⟨fun h => ⟨⟨hlow, hhigh⟩, h⟩, fun h => h.2⟩
        · rw [if_neg hhigh]
          constructor
          · omega
          · exact fun h => absurd h.1.2 hhigh
      · rw [if_neg hlow]
        constructor
        · omega
        · exact fun h => absurd h.1.1 hlow

theorem matchesKernel32_iff (m : Memory32) (pModule : UInt32) :
    matchesKernel32 m pModule = true ↔ IsKernel32 m pModule := by
  have hname : ∀ c ∈ kernel32Name, c < 128 ∧ toLower c = c := by decide
  rw [matchesKernel32, decide_eq_true_iff, memicmp_wideBytes m _ hname]
  rfl

/-! ### The search -/

/-- The modules before the first one without a name, in memory order. -/
def namedModules (m : Memory32) (links : List UInt32) : List UInt32 :=
  (links.map containingModule).takeWhile fun pModule => nameBuffer m pModule ≠ 0

/-- The last of them that is a `kernel32.dll`. -/
def lastKernel32 (m : Memory32) (links : List UInt32) : Option UInt32 :=
  ((namedModules m links).filter fun pModule => IsKernel32 m pModule).getLast?

theorem lastKernel32_isSome {m : Memory32} {links : List UInt32}
    (h : ∃ pModule ∈ namedModules m links, IsKernel32 m pModule) :
    ∃ pModule, lastKernel32 m links = some pModule := by
  obtain ⟨pModule, hmem, hname⟩ := h
  have hfound : pModule ∈ (namedModules m links).filter fun p => IsKernel32 m p :=
    List.mem_filter.mpr ⟨hmem, decide_eq_true hname⟩
  exact Option.isSome_iff_exists.mp (List.getLast?_isSome.mpr (List.ne_nil_of_mem hfound))

/-- The search keeps the last match, and what it began with when there is none. -/
theorem visitAll_modules (m : Memory32) (found : Option UInt32) (links : List UInt32) :
    visitAll (visitModule m) found links = (lastKernel32 m links).or found := by
  induction links generalizing found with
  | nil => rfl
  | cons pLink links ih =>
      rw [visitAll, visitModule]
      by_cases hnull : nameBuffer m (containingModule pLink) = 0
      · have hnone : namedModules m (pLink :: links) = [] := by
          rw [namedModules, List.map_cons, List.takeWhile_cons_of_neg (by simpa using hnull)]
        rw [if_pos hnull, lastKernel32, hnone]
        rfl
      · have hnamed : namedModules m (pLink :: links) =
            containingModule pLink :: namedModules m links := by
          rw [namedModules, List.map_cons, List.takeWhile_cons_of_pos (by simpa using hnull)]
          rfl
        rw [if_neg hnull]
        change visitAll (visitModule m) _ links = _
        rw [ih, lastKernel32, lastKernel32, hnamed]
        by_cases hname : IsKernel32 m (containingModule pLink)
        · rw [if_pos ((matchesKernel32_iff m _).mpr hname),
            List.filter_cons_of_pos (by simpa using hname), List.getLast?_cons]
          cases List.getLast? _ <;> rfl
        · rw [if_neg (mt (matchesKernel32_iff m _).mp hname),
            List.filter_cons_of_neg (by simpa using hname)]

/-! ### The clones -/

theorem cloneModule_eq (moduleKernel32 : LdrModule) (modules : Fin 5 → LdrModule) (i : Fin 5) :
    cloneModule moduleKernel32 modules i =
      Function.update modules i (clonedModule moduleKernel32 i) := by
  rw [cloneModule]
  simp only [Function.update_self, Function.update_idem]
  rfl

/-- Each pass fills its own module, and no later pass changes it. -/
theorem cloneModules_eq (moduleKernel32 : LdrModule) (indices : List (Fin 5)) {i : Fin 5}
    (modules : Fin 5 → LdrModule)
    (h : i ∈ indices ∨ modules i = clonedModule moduleKernel32 i) :
    indices.foldl (cloneModule moduleKernel32) modules i = clonedModule moduleKernel32 i := by
  induction indices generalizing modules with
  | nil =>
      rcases h with h | h
      · exact absurd h List.not_mem_nil
      · exact h
  | cons j indices ih =>
      rw [List.foldl_cons, cloneModule_eq]
      apply ih
      by_cases hij : i = j
      · subst hij
        exact .inr (Function.update_self _ _ _)
      · rw [Function.update_of_ne hij]
        rcases h with h | h
        · exact .inl ((List.mem_cons.mp h).resolve_left hij)
        · exact .inr h

theorem fillModuleList_modules (m : Memory32) (pPeb moduleKernel32 : UInt32) (i : Fin 5) :
    (fillModuleList m pPeb moduleKernel32).kernel32Modules i =
      clonedModule (LdrModule.read m moduleKernel32) i :=
  cloneModules_eq _ _ _ (.inl (List.mem_finRange i))

/-! ### The rings -/

def ModuleLinks.entry (links : ModuleLinks) : ModuleOrder → ListEntry
  | .load => links.inLoadOrderModuleList
  | .memory => links.inMemoryOrderModuleList
  | .initialization => links.inInitializationOrderModuleList

/-- The list entry that a pointer points to, inside the object. -/
def DummyPebModuleList.entry (d : DummyPebModuleList) : Ptr → Option ListEntry
  | .head order => some (d.pebLdrData.links.entry order)
  | .clone i order => some ((d.kernel32Modules i).links.entry order)
  | _ => none

def DummyPebModuleList.flink (d : DummyPebModuleList) (p : Ptr) : Option Ptr :=
  (d.entry p).map ListEntry.flink

def DummyPebModuleList.blink (d : DummyPebModuleList) (p : Ptr) : Option Ptr :=
  (d.entry p).map ListEntry.blink

/-- The nodes of a list: the head, and the clones in order. -/
def listNode (order : ModuleOrder) (j : Fin 6) : Ptr :=
  Fin.cases (.head order) (fun i => .clone i order) j

section
variable (links : ModuleLinks) (forward back : ModuleOrder → Ptr) (order : ModuleOrder)

theorem flink_setFlinks : ((links.setFlinks forward).entry order).flink = forward order := by
  cases order <;> rfl

theorem blink_setFlinks :
    ((links.setFlinks forward).entry order).blink = (links.entry order).blink := by
  cases order <;> rfl

theorem blink_setBlinks : ((links.setBlinks back).entry order).blink = back order := by
  cases order <;> rfl

theorem flink_setBlinks :
    ((links.setBlinks back).entry order).flink = (links.entry order).flink := by
  cases order <;> rfl

end

section
variable (m : Memory32) (pPeb moduleKernel32 : UInt32) (order : ModuleOrder)

theorem flink_head :
    (fillModuleList m pPeb moduleKernel32).flink (.head order) = some (.clone 0 order) := by
  rw [DummyPebModuleList.flink, DummyPebModuleList.entry, fillModuleList, Option.map_some,
    flink_setBlinks, flink_setFlinks]

theorem blink_head :
    (fillModuleList m pPeb moduleKernel32).blink (.head order) = some (.clone 4 order) := by
  rw [DummyPebModuleList.blink, DummyPebModuleList.entry, fillModuleList, Option.map_some,
    blink_setBlinks]

theorem flink_clone (i : Fin 5) :
    (fillModuleList m pPeb moduleKernel32).flink (.clone i order) =
      some ((if i = 4 then Ptr.head else Ptr.clone (i + 1)) order) := by
  rw [DummyPebModuleList.flink, DummyPebModuleList.entry, fillModuleList_modules, clonedModule,
    Option.map_some, flink_setFlinks]

theorem blink_clone (i : Fin 5) :
    (fillModuleList m pPeb moduleKernel32).blink (.clone i order) =
      some ((if i = 0 then Ptr.head else Ptr.clone (i - 1)) order) := by
  rw [DummyPebModuleList.blink, DummyPebModuleList.entry, fillModuleList_modules, clonedModule,
    Option.map_some, blink_setFlinks, blink_setBlinks]

theorem fillModuleList_ring :
    Ring (fillModuleList m pPeb moduleKernel32).flink (fillModuleList m pPeb moduleKernel32).blink
      (listNode order) where
  next_node j := by
    cases j using Fin.cases with
    | zero => exact flink_head m pPeb moduleKernel32 order
    | succ i =>
        refine (flink_clone m pPeb moduleKernel32 order i).trans ?_
        fin_cases i <;> rfl
  prev_node j := by
    fin_cases j
    · exact blink_clone m pPeb moduleKernel32 order 0
    · exact blink_clone m pPeb moduleKernel32 order 1
    · exact blink_clone m pPeb moduleKernel32 order 2
    · exact blink_clone m pPeb moduleKernel32 order 3
    · exact blink_clone m pPeb moduleKernel32 order 4
    · exact blink_head m pPeb moduleKernel32 order

end

/-- The object holds three rings, of clones of one module. -/
structure ClonedFrom (m : Memory32) (moduleKernel32 : UInt32) (d : DummyPebModuleList) : Prop where
  rings : ∀ order, Ring d.flink d.blink (listNode order)
  inverse : ∀ order j, (d.flink (listNode order j)).bind d.blink = some (listNode order j) ∧
    (d.blink (listNode order j)).bind d.flink = some (listNode order j)
  data : ∀ i, (d.kernel32Modules i).data = LdrModuleData.read m moduleKernel32

/-- The address that the process has its list head at. -/
def processHead (m : Memory32) (teb : UInt32) : UInt32 := memoryOrderHead m (load32 m (teb + 0x30))

/-- On a list that comes back to its head and has a `kernel32.dll` before the first module
without a name, the function ends with clones of the last such module. -/
theorem clonePebModuleList_wellFormed (m : Memory32) (teb : UInt32) {links : List UInt32}
    (hlist : Chain (load32 m) (processHead m teb) (load32 m (processHead m teb)) links)
    (hnamed : ∃ pModule ∈ namedModules m links, IsKernel32 m pModule) :
    ∃ moduleKernel32 d, lastKernel32 m links = some moduleKernel32 ∧
      (∀ n, links.length < n → clonePebModuleList m teb n = some d) ∧
      ClonedFrom m moduleKernel32 d := by
  obtain ⟨moduleKernel32, hlast⟩ := lastKernel32_isSome hnamed
  refine ⟨moduleKernel32, fillModuleList m (load32 m (teb + 0x30)) moduleKernel32, hlast, ?_, ?_⟩
  · intro n hn
    have hfound : findKernel32 m (load32 m (teb + 0x30)) n = some (some moduleKernel32) := by
      have hloop : iterate (followStep (load32 m) (processHead m teb) (visitModule m)) n
          (load32 m (processHead m teb), none) = some (visitAll (visitModule m) none links) :=
        iterate_followStep hlist none hn
      rw [visitAll_modules, hlast, Option.some_or] at hloop
      exact hloop
    rw [clonePebModuleList, hfound]
    rfl
  · have hrings := fillModuleList_ring m (load32 m (teb + 0x30)) moduleKernel32
    refine ⟨hrings, fun order j => ⟨(hrings order).prev_next j, (hrings order).next_prev j⟩, ?_⟩
    intro i
    rw [fillModuleList_modules, clonedModule]
    rfl

/-- A process with two modules, `KERNEL32.dll` at 0x4000 and `kernel32.dll` at 0x6000. -/
def twoModuleProcess : Memory32 :=
  [(0x1030, 0x2000), (0x200C, 0x3000), (0x3014, 0x4008), (0x4008, 0x6008), (0x6008, 0x3014),
    (0x402C, 0x001A0018), (0x4030, 0x5000), (0x602C, 0x001A0018), (0x6030, 0x7000),
    (0x5000, 0x0045004B), (0x5004, 0x004E0052), (0x5008, 0x004C0045), (0x500C, 0x00320033),
    (0x5010, 0x0064002E), (0x5014, 0x006C006C), (0x7000, 0x0065006B), (0x7004, 0x006E0072),
    (0x7008, 0x006C0065), (0x700C, 0x00320033), (0x7010, 0x0064002E), (0x7014, 0x006C006C)].foldl
    (fun m (w : UInt32 × UInt32) => store32 m w.1 w.2) fun _ => 0

/-- The second module is the one that is cloned. -/
theorem twoModuleProcess_cloned :
    ∃ d, lastKernel32 twoModuleProcess [0x4008, 0x6008] = some 0x6000 ∧
      (∀ n, [(0x4008 : UInt32), 0x6008].length < n →
        clonePebModuleList twoModuleProcess 0x1000 n = some d) ∧
      ClonedFrom twoModuleProcess 0x6000 d := by
  have hhead : processHead twoModuleProcess 0x1000 = 0x3014 := by decide +kernel
  have hfirst : load32 twoModuleProcess 0x3014 = 0x4008 := by decide +kernel
  have hnext : load32 twoModuleProcess 0x4008 = 0x6008 := by decide +kernel
  have hend : load32 twoModuleProcess 0x6008 = 0x3014 := by decide +kernel
  have hlist : Chain (load32 twoModuleProcess) (processHead twoModuleProcess 0x1000)
      (load32 twoModuleProcess (processHead twoModuleProcess 0x1000)) [0x4008, 0x6008] := by
    rw [hhead, hfirst]
    exact ⟨rfl, by decide, hnext, by decide, hend⟩
  have hnamed : ∃ pModule ∈ namedModules twoModuleProcess [0x4008, 0x6008],
      IsKernel32 twoModuleProcess pModule := ⟨0x6000, by decide +kernel, by decide +kernel⟩
  have hsecond : lastKernel32 twoModuleProcess [0x4008, 0x6008] = some 0x6000 := by decide +kernel
  obtain ⟨moduleKernel32, d, hlast, hcall, hclones⟩ :=
    clonePebModuleList_wellFormed twoModuleProcess 0x1000 hlist hnamed
  cases hlast.symm.trans hsecond
  exact ⟨d, hlast, hcall, hclones⟩

end ShellcodeVM.GuestOS
