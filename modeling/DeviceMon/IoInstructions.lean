import DeviceMon.ExitDiscipline
import DeviceMon.PciAccessors
import Mathlib.Data.List.Iterate
import Mathlib.Tactic.Ring

/-!
# IN, OUT, INS and OUTS

`IoInstruction.exec` is the instruction in 64-bit mode with 64-bit addresses : a string instruction
moves one element at RSI or RDI and steps the register by RFLAGS.DF, and REP repeats that while RCX
is not zero. What it does to memory and the ports is a fold over the addresses of the elements
(`repeated_eq`).

`VmmpHandleIoPort` moves a string in one block, upwards from the register, with a count of 32 bits,
and writes the value of an IN over the low bytes of RAX. `ioPort_exact_iff` says when this is what
the instruction does.
-/

namespace DeviceMon

/-! ## The instructions -/

/-- The registers and memory, and what was done to the ports and to strings in memory. -/
structure IoState where
  regs : GpRegisters
  memory : BitVec 64 → BitVec 8
  /-- RFLAGS.DF. -/
  df : Bool
  accesses : List CpuEvent

/-- IN or OUT, or INS or OUTS. -/
structure IoInstruction where
  isIn : Bool
  isString : Bool
  isRep : Bool
  size : ℕ
  port : BitVec 16

namespace IoInstruction

variable (portValue : List CpuEvent → BitVec 16 → ℕ → BitVec 32) (i : IoInstruction)

/-- The register with the address : RDI or RSI. -/
def pointer (regs : GpRegisters) : BitVec 64 :=
  if i.isIn then regs.di else regs.si

def setPointer (value : BitVec 64) (regs : GpRegisters) : GpRegisters :=
  if i.isIn then { regs with di := value } else { regs with si := value }

/-- The distance from one element to the next. -/
def stride (df : Bool) : BitVec 64 :=
  if df then -BitVec.ofNat 64 i.size else BitVec.ofNat 64 i.size

/-- What moving the element at an address leaves in memory, with the accesses. -/
def transfer (t : (BitVec 64 → BitVec 8) × List CpuEvent) (address : BitVec 64) :
    (BitVec 64 → BitVec 8) × List CpuEvent :=
  if i.isIn then
    (storeBytes t.1 address i.size ((portValue t.2 i.port i.size).setWidth 64),
      t.2 ++ [.portIn i.port i.size, .stringStore address i.size])
  else
    (t.1, t.2 ++ [.stringLoad address i.size,
      .portOut i.port i.size ((loadBytes t.1 address i.size).setWidth 32)])

/-- INS or OUTS without REP. -/
def element (g : IoState) : IoState :=
  let address := i.pointer g.regs
  let t := i.transfer portValue (g.memory, g.accesses) address
  { g with
    regs := i.setPointer (address + i.stride g.df) g.regs
    memory := t.1
    accesses := t.2 }

/-- The processor counts an element in RCX. -/
def countDown (g : IoState) : IoState :=
  { g with regs := { g.regs with cx := g.regs.cx - 1 } }

@[simp] theorem setPointer_cx (value : BitVec 64) (regs : GpRegisters) :
    (i.setPointer value regs).cx = regs.cx := by
  rw [setPointer]
  split_ifs
  · rfl
  · rfl

theorem toNat_sub_one {cx : BitVec 64} (h : cx ≠ 0) : (cx - 1).toNat + 1 = cx.toNat := by
  have hzero : cx.toNat ≠ 0 := fun hcx => h (BitVec.eq_of_toNat_eq hcx)
  have hone : (1 : BitVec 64).toNat = 1 := rfl
  have hcx := cx.isLt
  rw [BitVec.toNat_sub, hone]
  omega

/-- INS or OUTS with REP : one element after another while RCX is not zero. -/
def repeated (g : IoState) : IoState :=
  if g.regs.cx = 0 then g
  else repeated (countDown (i.element portValue g))
termination_by g.regs.cx.toNat
decreasing_by
  rename_i hcx
  have hcount : (countDown (i.element portValue g)).regs.cx = g.regs.cx - 1 :=
    congrArg (· - 1) (setPointer_cx i _ _)
  rw [hcount, ← toNat_sub_one hcx]
  exact Nat.lt_succ_self _

/-- The instruction. REP means nothing to IN and OUT. A result of 32 bits clears the upper half of
RAX. -/
def exec (g : IoState) : IoState :=
  if i.isString then
    if i.isRep then i.repeated portValue g else i.element portValue g
  else if i.isIn then
    { g with
      regs := { g.regs with
        ax := AsmState.setLowBytes i.size (portValue g.accesses i.port i.size) g.regs.ax }
      accesses := g.accesses ++ [.portIn i.port i.size] }
  else
    { g with
      accesses := g.accesses ++
        [.portOut i.port i.size (AsmState.lowBytes i.size g.regs.ax)] }

/-! ## Strings as folds -/

/-- The addresses of `n` elements. -/
def elements (g : IoState) (n : ℕ) : List (BitVec 64) :=
  List.iterate (· + i.stride g.df) (i.pointer g.regs) n

/-- The elements at some addresses are moved, and the registers get their values. -/
def moved (addresses : List (BitVec 64)) (value cx : BitVec 64) (g : IoState) : IoState :=
  let t := addresses.foldl (i.transfer portValue) (g.memory, g.accesses)
  { g with
    regs := { i.setPointer value g.regs with cx := cx }
    memory := t.1
    accesses := t.2 }

@[simp] theorem pointer_moved (addresses : List (BitVec 64)) (value cx : BitVec 64) (g : IoState) :
    i.pointer (i.moved portValue addresses value cx g).regs = value := by
  unfold moved pointer setPointer
  cases i.isIn with
  | true => rfl
  | false => rfl

theorem moved_moved (addresses addresses' : List (BitVec 64)) (value value' cx cx' : BitVec 64)
    (g : IoState) :
    i.moved portValue addresses' value' cx' (i.moved portValue addresses value cx g) =
      i.moved portValue (addresses ++ addresses') value' cx' g := by
  have hregs : ({ i.setPointer value' { i.setPointer value g.regs with cx := cx } with
      cx := cx' } : GpRegisters) = { i.setPointer value' g.regs with cx := cx' } := by
    unfold setPointer
    cases i.isIn with
    | true => rfl
    | false => rfl
  unfold moved
  simp only [hregs, List.foldl_append]

theorem moved_nil (g : IoState) :
    i.moved portValue [] (i.pointer g.regs) g.regs.cx g = g := by
  have hregs : ({ i.setPointer (i.pointer g.regs) g.regs with cx := g.regs.cx } : GpRegisters) =
      g.regs := by
    unfold setPointer pointer
    cases i.isIn with
    | true => rfl
    | false => rfl
  unfold moved
  simp only [hregs, List.foldl_nil]

/-- One element. -/
theorem element_eq (g : IoState) : i.element portValue g =
    i.moved portValue [i.pointer g.regs] (i.pointer g.regs + i.stride g.df) g.regs.cx g := by
  have hregs : ({ i.setPointer (i.pointer g.regs + i.stride g.df) g.regs with
      cx := g.regs.cx } : GpRegisters) =
      i.setPointer (i.pointer g.regs + i.stride g.df) g.regs := by
    unfold setPointer
    cases i.isIn with
    | true => rfl
    | false => rfl
  unfold element moved
  simp only [hregs, List.foldl_cons, List.foldl_nil]

/-- REP moves RCX elements. -/
theorem repeated_eq (g : IoState) : i.repeated portValue g =
    i.moved portValue (i.elements g g.regs.cx.toNat)
      (i.pointer g.regs + g.regs.cx * i.stride g.df) 0 g := by
  induction hn : g.regs.cx.toNat generalizing g with
  | zero =>
    have hcx : g.regs.cx = 0 := BitVec.eq_of_toNat_eq hn
    have hvalue : i.pointer g.regs + g.regs.cx * i.stride g.df = i.pointer g.regs := by
      simp [hcx]
    rw [repeated, if_pos hcx, hvalue, ← hcx]
    exact (moved_nil portValue i g).symm
  | succ n ih =>
    have hcx : g.regs.cx ≠ 0 := fun hcx => by
      rw [hcx] at hn
      cases hn
    have hfirst : countDown (i.element portValue g) = i.moved portValue [i.pointer g.regs]
        (i.pointer g.regs + i.stride g.df) (g.regs.cx - 1) g := by
      rw [element_eq]
      rfl
    have hleft : (g.regs.cx - 1).toNat = n := by
      have hsub := toNat_sub_one hcx
      omega
    have hvalue : i.pointer g.regs + i.stride g.df + (g.regs.cx - 1) * i.stride g.df =
        i.pointer g.regs + g.regs.cx * i.stride g.df := by
      rw [BitVec.add_assoc]
      ring
    have helements : i.pointer g.regs :: i.elements (i.moved portValue [i.pointer g.regs]
        (i.pointer g.regs + i.stride g.df) (g.regs.cx - 1) g) n = i.elements g (n + 1) := by
      rw [elements, pointer_moved]
      rfl
    rw [repeated, if_neg hcx, hfirst, ih _ hleft, pointer_moved, moved_moved,
      List.singleton_append, helements]
    exact congrArg (fun value => i.moved portValue _ value 0 g) hvalue

end IoInstruction

namespace CpuEvent

/-- An access to a port or to a string. -/
def isAccess : CpuEvent → Bool
  | .portIn _ _ => true
  | .portOut _ _ _ => true
  | .stringLoad _ _ => true
  | .stringStore _ _ => true
  | _ => false

/-- The address of an access to a string. -/
def stringAddress : CpuEvent → Option (BitVec 64)
  | .stringLoad address _ => some address
  | .stringStore address _ => some address
  | _ => none

end CpuEvent

namespace IoInstruction

variable (portValue : List CpuEvent → BitVec 16 → ℕ → BitVec 32) (i : IoInstruction)

/-- Moving elements does nothing but accesses. -/
theorem filter_transfer (addresses : List (BitVec 64))
    (t : (BitVec 64 → BitVec 8) × List CpuEvent) (h : t.2.filter CpuEvent.isAccess = t.2) :
    (addresses.foldl (i.transfer portValue) t).2.filter CpuEvent.isAccess =
      (addresses.foldl (i.transfer portValue) t).2 := by
  induction addresses generalizing t with
  | nil => exact h
  | cons address addresses ih =>
    refine ih _ ?_
    unfold transfer
    split_ifs
    · simp [List.filter_append, h, CpuEvent.isAccess]
    · simp [List.filter_append, h, CpuEvent.isAccess]

/-- The elements that were moved are read off the accesses. -/
theorem stringAddress_transfer (addresses : List (BitVec 64))
    (t : (BitVec 64 → BitVec 8) × List CpuEvent) :
    (addresses.foldl (i.transfer portValue) t).2.filterMap CpuEvent.stringAddress =
      t.2.filterMap CpuEvent.stringAddress ++ addresses := by
  induction addresses generalizing t with
  | nil => exact (List.append_nil _).symm
  | cons address addresses ih =>
    have hfirst : (i.transfer portValue t address).2.filterMap CpuEvent.stringAddress =
        t.2.filterMap CpuEvent.stringAddress ++ [address] := by
      unfold transfer
      split_ifs
      · rw [List.filterMap_append]
        rfl
      · rw [List.filterMap_append]
        rfl
    rw [List.foldl_cons, ih, hfirst, List.append_assoc, List.singleton_append]

end IoInstruction

namespace ExitState

variable {B C : Type} {m : ExitMachine B} {s s' : ExitState B C}

/-! ## The handler -/

/-- The instruction of the exit. -/
def ioInstruction (s : ExitState B C) : IoInstruction where
  isIn := IoInstQualification.direction (s.vmcs .exitQualification)
  isString := IoInstQualification.stringInstruction (s.vmcs .exitQualification)
  isRep := IoInstQualification.repPrefixed (s.vmcs .exitQualification)
  size := sizeOfAccess (s.vmcs .exitQualification)
  port := IoInstQualification.portNumber (s.vmcs .exitQualification)

/-- The state of the instruction as the handler finds it. -/
def ioState (s : ExitState B C) : IoState where
  regs := s.gpRegs
  memory := s.memory
  df := FlagRegister.df (s.vmcs .guestRflags)
  accesses := s.trace

/-- The addresses of the block the handler moves. The count is a `ULONG`. -/
def blockAddresses (s : ExitState B C) : List (BitVec 64) :=
  if s.ioInstruction.isString then
    List.iterate (· + BitVec.ofNat 64 s.ioInstruction.size) (s.ioInstruction.pointer s.gpRegs)
      (if s.ioInstruction.isRep then s.gpRegs.cx.setWidth 32 else 1).toNat
  else []

/-- What the handler that ends in `s` did. -/
def ioEffect (s : ExitState B C) : IoState where
  regs := s.gpRegs
  memory := s.memory
  df := FlagRegister.df (s.vmcs .guestRflags)
  accesses := s.trace.filter CpuEvent.isAccess

/-- A state with other memory and another trace. -/
def withTransfer (t : (BitVec 64 → BitVec 8) × List CpuEvent) (s : ExitState B C) :
    ExitState B C :=
  { s with memory := t.1, trace := t.2 }

theorem portInString_eq (m : ExitMachine B) {i : IoInstruction} (hin : i.isIn = true)
    (address : BitVec 64) (s : ExitState B C) (n : ℕ) :
    portInString m i.port i.size address s n = s.withTransfer
      ((List.iterate (· + BitVec.ofNat 64 i.size) address n).foldl (i.transfer m.portValue)
        (s.memory, s.trace)) := by
  induction n generalizing address s with
  | zero => rfl
  | succ n ih =>
    have hevents : ∀ events : List CpuEvent,
        events ++ [.portIn i.port i.size] ++ [.stringStore address i.size] =
          events ++ [.portIn i.port i.size, .stringStore address i.size] :=
      fun events => List.append_assoc ..
    rw [portInString, List.iterate, List.foldl_cons, IoInstruction.transfer, if_pos hin,
      ← hevents]
    exact ih _ _

theorem portOutString_eq {i : IoInstruction} (hin : i.isIn = false)
    (portValue : List CpuEvent → BitVec 16 → ℕ → BitVec 32) (address : BitVec 64)
    (s : ExitState B C) (n : ℕ) :
    portOutString i.port i.size address s n = s.withTransfer
      ((List.iterate (· + BitVec.ofNat 64 i.size) address n).foldl (i.transfer portValue)
        (s.memory, s.trace)) := by
  induction n generalizing address s with
  | zero => rfl
  | succ n ih =>
    have hevents : ∀ (events : List CpuEvent) (value : BitVec 32),
        events ++ [.stringLoad address i.size] ++ [.portOut i.port i.size value] =
          events ++ [.stringLoad address i.size, .portOut i.port i.size value] :=
      fun events value => List.append_assoc ..
    rw [portOutString, List.iterate, List.foldl_cons, IoInstruction.transfer,
      if_neg (Bool.eq_false_iff.1 hin), ← hevents]
    exact ih _ _

/-- The block of a string instruction. -/
theorem ioWrapper_string (m : ExitMachine B) {i : IoInstruction} (hsize : i.size ≠ 0)
    (address : BitVec 64) (count : BitVec 32) (s : ExitState B C) :
    vmmpIoWrapper m i.isIn true i.size i.port address count s = s.withTransfer
      ((List.iterate (· + BitVec.ofNat 64 i.size) address count.toNat).foldl
        (i.transfer m.portValue) (s.memory, s.trace)) := by
  unfold vmmpIoWrapper withGuestCr3
  cases hin : i.isIn with
  | true =>
    simp only [if_neg hsize, if_true, portInString_eq m hin]
    rfl
  | false =>
    simp only [if_neg hsize, if_true, Bool.false_eq_true, if_false,
      portOutString_eq hin m.portValue]
    rfl

/-- Advancing the guest is no access, and leaves RFLAGS. -/
theorem ioEffect_adjust (s : ExitState B C) :
    (vmmpAdjustGuestInstructionPointer s).ioEffect = s.ioEffect := by
  have hwrite {f : VmcsField} (hf : f ≠ .guestRflags) (value : BitVec 64) (s : ExitState B C) :
      (utilVmWrite f value s).ioEffect = s.ioEffect := by
    have haccesses : (utilVmWrite f value s).trace.filter CpuEvent.isAccess =
        s.trace.filter CpuEvent.isAccess := by
      simp [utilVmWrite, log, lift, CpuEvent.isAccess]
    rw [ioEffect, haccesses, vmcs_utilVmWrite, if_neg (Ne.symm hf)]
    rfl
  rw [adjust_eq]
  split_ifs
  · rw [hwrite (by decide), hwrite (by decide), hwrite (by decide)]
  · rw [hwrite (by decide)]

theorem sub_mul_eq (register count : BitVec 64) (size : ℕ) :
    register - count * BitVec.ofNat 64 size = register + count * -BitVec.ofNat 64 size := by
  ring

/-- The registers after a string instruction. -/
theorem gpRegs_updateStringRegisters (i : IoInstruction) (s : ExitState B C) :
    (updateStringRegisters i.isIn i.isRep i.size s).gpRegs =
      { i.setPointer (i.pointer s.gpRegs + (if i.isRep then s.gpRegs.cx else 1) *
          i.stride (FlagRegister.df s.flagReg)) s.gpRegs with
        cx := if i.isRep then 0 else s.gpRegs.cx } := by
  unfold updateStringRegisters IoInstruction.setPointer IoInstruction.pointer IoInstruction.stride
  cases hdf : FlagRegister.df s.flagReg with
  | true =>
    simp only [if_true, sub_mul_eq]
    cases i.isIn with
    | true => rfl
    | false => rfl
  | false =>
    simp only [Bool.false_eq_true, if_false]
    cases i.isIn with
    | true => rfl
    | false => rfl

/-- The handler in terms of the instruction. -/
theorem handleIoPort_eq (m : ExitMachine B) (s : ExitState B C) : vmmpHandleIoPort m s =
    vmmpAdjustGuestInstructionPointer
      (if s.ioInstruction.isString then
        updateStringRegisters s.ioInstruction.isIn s.ioInstruction.isRep s.ioInstruction.size
          (vmmpIoWrapper m s.ioInstruction.isIn s.ioInstruction.isString s.ioInstruction.size
            s.ioInstruction.port (s.ioInstruction.pointer s.gpRegs)
            (if s.ioInstruction.isRep then s.gpRegs.cx.setWidth 32 else 1) s)
      else
        vmmpIoWrapper m s.ioInstruction.isIn s.ioInstruction.isString s.ioInstruction.size
          s.ioInstruction.port (s.ioInstruction.pointer s.gpRegs)
          (if s.ioInstruction.isRep then s.gpRegs.cx.setWidth 32 else 1) s) :=
  rfl

/-! ### Strings -/

theorem ioString_effect (m : ExitMachine B) (hstring : s.ioInstruction.isString = true)
    (hsize : s.ioInstruction.size ≠ 0) (htrace : s.trace = []) :
    (vmmpHandleIoPort m s).ioEffect = s.ioInstruction.moved m.portValue s.blockAddresses
      (s.ioInstruction.pointer s.gpRegs + (if s.ioInstruction.isRep then s.gpRegs.cx else 1) *
        s.ioInstruction.stride (FlagRegister.df s.flagReg))
      (if s.ioInstruction.isRep then 0 else s.gpRegs.cx) s.ioState := by
  have hhandler : vmmpHandleIoPort m s = vmmpAdjustGuestInstructionPointer
      (updateStringRegisters s.ioInstruction.isIn s.ioInstruction.isRep s.ioInstruction.size
        (s.withTransfer (s.blockAddresses.foldl (s.ioInstruction.transfer m.portValue)
          (s.memory, s.trace)))) := by
    have hblock := ioWrapper_string m hsize (s.ioInstruction.pointer s.gpRegs)
      (if s.ioInstruction.isRep then s.gpRegs.cx.setWidth 32 else 1) s
    rw [blockAddresses, if_pos hstring, ← hblock, handleIoPort_eq, if_pos hstring, hstring]
  have haccesses := IoInstruction.filter_transfer m.portValue s.ioInstruction s.blockAddresses
    (s.memory, s.trace) (by rw [htrace]; rfl)
  rw [hhandler, ioEffect_adjust, ioEffect, gpRegs_updateStringRegisters]
  unfold IoInstruction.moved
  exact congrArg (IoState.mk _ _ _) haccesses

theorem exec_string (portValue : List CpuEvent → BitVec 16 → ℕ → BitVec 32) (i : IoInstruction)
    (hstring : i.isString = true) (g : IoState) : i.exec portValue g =
      i.moved portValue (i.elements g (if i.isRep then g.regs.cx.toNat else 1))
        (i.pointer g.regs + (if i.isRep then g.regs.cx else 1) * i.stride g.df)
        (if i.isRep then 0 else g.regs.cx) g := by
  rw [IoInstruction.exec, if_pos hstring]
  cases i.isRep with
  | true => exact IoInstruction.repeated_eq portValue i g
  | false =>
    have hone : 1 * i.stride g.df = i.stride g.df := one_mul _
    simp only [Bool.false_eq_true, if_false]
    rw [hone]
    exact IoInstruction.element_eq portValue i g

theorem iterate_add_eq_iff {a d d' : BitVec 64} {c n : ℕ} :
    List.iterate (· + d) a c = List.iterate (· + d') a n ↔ c = n ∧ (n ≤ 1 ∨ d = d') := by
  constructor
  · intro h
    have hlength := congrArg List.length h
    rw [List.length_iterate, List.length_iterate] at hlength
    subst hlength
    refine ⟨rfl, ?_⟩
    by_cases hn : c ≤ 1
    · exact Or.inl hn
    · obtain ⟨n, rfl⟩ := Nat.exists_eq_add_of_le' (Nat.lt_of_not_le hn)
      refine Or.inr ?_
      injection h with _ h
      injection h with h _
      exact add_left_cancel h
  · rintro ⟨rfl, hn | rfl⟩
    · interval_cases c
      · rfl
      · rfl
    · rfl

theorem sizeOfAccess_cases (q : BitVec 64) :
    sizeOfAccess q = 0 ∨ sizeOfAccess q = 1 ∨ sizeOfAccess q = 2 ∨ sizeOfAccess q = 4 := by
  unfold sizeOfAccess
  split
  · exact Or.inr (Or.inl rfl)
  · exact Or.inr (Or.inr (Or.inl rfl))
  · exact Or.inr (Or.inr (Or.inr rfl))
  · exact Or.inl rfl

/-- The block has the elements of the instruction. -/
theorem blockAddresses_eq_iff (hstring : s.ioInstruction.isString = true)
    (hsize : s.ioInstruction.size ≠ 0) :
    s.blockAddresses = s.ioInstruction.elements s.ioState
        (if s.ioInstruction.isRep then s.gpRegs.cx.toNat else 1) ↔
      (s.ioInstruction.isRep = true → s.gpRegs.cx.toNat < 2 ^ 32 ∧
        (s.gpRegs.cx.toNat ≤ 1 ∨ FlagRegister.df (s.vmcs .guestRflags) = false)) := by
  have hstride : BitVec.ofNat 64 s.ioInstruction.size =
      s.ioInstruction.stride (FlagRegister.df (s.vmcs .guestRflags)) ↔
        FlagRegister.df (s.vmcs .guestRflags) = false := by
    unfold IoInstruction.stride
    cases FlagRegister.df (s.vmcs .guestRflags) with
    | false => exact iff_of_true rfl rfl
    | true =>
      refine iff_of_false ?_ (by decide)
      rcases sizeOfAccess_cases (s.vmcs .exitQualification) with h | h | h | h
      · exact (hsize h).elim
      all_goals
        have hsize' : s.ioInstruction.size = _ := h
        rw [hsize']
        decide
  rw [blockAddresses, if_pos hstring]
  refine iterate_add_eq_iff.trans ?_
  cases s.ioInstruction.isRep with
  | false =>
    refine iff_of_true ⟨rfl, Or.inl (by simp)⟩ fun h => (Bool.false_ne_true h).elim
  | true =>
    have hcount : (s.gpRegs.cx.setWidth 32).toNat = s.gpRegs.cx.toNat ↔
        s.gpRegs.cx.toNat < 2 ^ 32 := by
      rw [BitVec.toNat_setWidth]
      exact Nat.mod_eq_iff_lt (by decide)
    simp only [if_true, true_imp_iff]
    rw [hcount]
    exact and_congr_right fun _ => or_congr_right hstride

/-- The handler loads or stores the elements of the instruction, and only these, exactly
when. -/
theorem ioString_exact_iff (m : ExitMachine B) (hstring : s.ioInstruction.isString = true)
    (hsize : s.ioInstruction.size ≠ 0) (htrace : s.trace = [])
    (hflags : s.flagReg = s.vmcs .guestRflags) :
    (vmmpHandleIoPort m s).ioEffect = s.ioInstruction.exec m.portValue s.ioState ↔
      (s.ioInstruction.isRep = true → s.gpRegs.cx.toNat < 2 ^ 32 ∧
        (s.gpRegs.cx.toNat ≤ 1 ∨ FlagRegister.df (s.vmcs .guestRflags) = false)) := by
  rw [ioString_effect m hstring hsize htrace, exec_string m.portValue _ hstring, hflags,
    ← blockAddresses_eq_iff hstring hsize]
  refine ⟨fun h => ?_, fun h => by rw [h]; rfl⟩
  -- the accesses of the two sides name the elements
  have haccesses := congrArg (fun g => g.accesses.filterMap CpuEvent.stringAddress) h
  have hmoved (addresses : List (BitVec 64)) (value cx : BitVec 64) :
      (s.ioInstruction.moved m.portValue addresses value cx
        s.ioState).accesses.filterMap CpuEvent.stringAddress = addresses := by
    refine (IoInstruction.stringAddress_transfer m.portValue s.ioInstruction addresses
      (s.memory, s.trace)).trans ?_
    rw [htrace]
    rfl
  exact (hmoved _ _ _).symm.trans (haccesses.trans (hmoved _ _ _))

/-! ### Single accesses -/

/-- RAX with the low bytes of a value, and as IN leaves it. -/
theorem mergeLowBytes_eq_iff {size : ℕ} (value : BitVec 32) (rax : BitVec 64) :
    (rax &&& ~~~BitVec.ofNat 64 (2 ^ (8 * size) - 1)) |||
        (value.setWidth 64 &&& BitVec.ofNat 64 (2 ^ (8 * size) - 1)) =
      AsmState.setLowBytes size value rax ↔ (size = 4 → rax.toNat < 2 ^ 32) := by
  rw [AsmState.setLowBytes]
  split_ifs with hsize
  · subst hsize
    have hmerged : (rax &&& ~~~BitVec.ofNat 64 (2 ^ (8 * 4) - 1)) |||
        (value.setWidth 64 &&& BitVec.ofNat 64 (2 ^ (8 * 4) - 1)) =
          rax.extractLsb' 32 32 ++ value := by
      refine BitVec.eq_of_getLsbD_eq fun j hj => ?_
      simp only [BitVec.getLsbD_or, BitVec.getLsbD_and, BitVec.getLsbD_not, BitVec.getLsbD_append,
        BitVec.getLsbD_extractLsb', BitVec.getLsbD_setWidth, BitVec.getLsbD_ofNat,
        Nat.testBit_two_pow_sub_one]
      by_cases hlow : j < 32
      · simp [hlow, hj]
      · have hsum : 32 + (j - 32) = j := by omega
        simp [hlow, hj, hsum, show j - 32 < 32 by omega]
    have hrax := rax.isLt
    have hvalue := value.isLt
    rw [hmerged, ← BitVec.toNat_inj, BitVec.toNat_append, BitVec.toNat_setWidth, toNat_high,
      ← Nat.shiftLeft_add_eq_or_of_lt hvalue, Nat.shiftLeft_eq]
    simp only [true_imp_iff]
    omega
  · exact iff_of_true rfl fun h => (hsize h).elim

/-- IN and OUT : the handler moves the value as the instruction does, up to the upper half of
RAX. -/
theorem ioSingle_exact_iff (m : ExitMachine B) (hstring : s.ioInstruction.isString = false)
    (hsize : s.ioInstruction.size ≠ 0) (htrace : s.trace = []) :
    (vmmpHandleIoPort m s).ioEffect = s.ioInstruction.exec m.portValue s.ioState ↔
      (s.ioInstruction.isIn = true → s.ioInstruction.size = 4 → s.gpRegs.ax.toNat < 2 ^ 32) := by
  have hstring' : ¬s.ioInstruction.isString = true := Bool.eq_false_iff.1 hstring
  rw [handleIoPort_eq, if_neg hstring', IoInstruction.exec, if_neg hstring', ioEffect_adjust,
    ioEffect, vmmpIoWrapper, withGuestCr3]
  simp only [if_neg hsize, hstring]
  cases hin : s.ioInstruction.isIn with
  | true =>
    rw [← mergeLowBytes_eq_iff (m.portValue s.trace s.ioInstruction.port s.ioInstruction.size)]
    simp [portIn, log, lift, ioState, htrace, CpuEvent.isAccess]
  | false => simp [portOut, log, ioState, htrace, CpuEvent.isAccess, AsmState.lowBytes]

/-- **When port accesses are emulated exactly.** At every exit for an I/O instruction of 1, 2 or 4
bytes the handler returns. It does what the instruction does, to the ports and to the elements of
strings in their order, to memory and to the registers, exactly when : a 4-byte IN finds the upper
half of RAX zero; a string instruction with REP has RCX below 2^32, and RFLAGS.DF clear unless RCX
is at most 1. -/
theorem ioPort_exact_iff {B C : Type} (m : ExitMachine B) (s : ExitState B C)
    (h : s.exitReason = some .ioInstruction)
    (hsize : sizeOfAccess (s.vmcs .exitQualification) ≠ 0) :
    ∃ s', vmmVmExitHandler m s = some s' ∧
      (s'.ioEffect =
          s.ioInstruction.exec m.portValue s.captureGuestContext.ioState ↔
        if s.ioInstruction.isString then
          s.ioInstruction.isRep = true → s.gpRegs.cx.toNat < 2 ^ 32 ∧
            (s.gpRegs.cx.toNat ≤ 1 ∨ FlagRegister.df (s.vmcs .guestRflags) = false)
        else
          s.ioInstruction.isIn = true → s.ioInstruction.size = 4 →
            s.gpRegs.ax.toNat < 2 ^ 32) := by
  have hexit : vmmVmExitHandler m s =
      some (vmmpHandleIoPort m s.captureGuestContext).restoreGuestContext := by
    have hreason : s.captureGuestContext.exitReason = some .ioInstruction := h
    rw [vmmVmExitHandler, vmmpHandleVmExit, hreason]
    rfl
  refine ⟨_, hexit, ?_⟩
  cases hstring : s.ioInstruction.isString with
  | true => exact ioString_exact_iff m (s := s.captureGuestContext) hstring hsize rfl rfl
  | false => exact ioSingle_exact_iff m (s := s.captureGuestContext) hstring hsize rfl

end ExitState

/-- The guest reads a doubleword from port 0x608, with RAX as given. -/
def inExit (ax : BitVec 64) : ExitState (BitVec 32) Unit where
  toVmmState := { userState 0 bootEpt with
    gpRegs := { (userState 0 bootEpt).gpRegs with ax := ax }
    vmcs := fun
      | .vmExitReason => 30
      | .exitQualification => 0x0608000B
      | .vmExitInstructionLen => 1
      | .guestRip => 0x401000
      | _ => 0 }
  cr8 := 0
  irql := 0
  cpu := ⟨fun _ => 0, 0, 0, 0, fun _ => 0, fun _ => 0⟩
  trace := []

/-- With the upper half of RAX zero. -/
theorem ioPort_exact_iff_in :
    ∃ s', ExitState.vmmVmExitHandler idleMachine (inExit 0) = some s' ∧
      s'.ioEffect = (inExit 0).ioInstruction.exec idleMachine.portValue
        (inExit 0).captureGuestContext.ioState := by
  obtain ⟨s', hhandled, hexact⟩ := ExitState.ioPort_exact_iff idleMachine (inExit 0) rfl
    (by decide)
  exact ⟨s', hhandled, hexact.2 fun _ _ => by decide⟩

/-- With the upper half of RAX set, IN leaves it there. -/
theorem inExit_keeps_upper_half : ¬∀ (m : ExitMachine (BitVec 32))
    (s : ExitState (BitVec 32) Unit), s.exitReason = some .ioInstruction →
      ExitState.sizeOfAccess (s.vmcs .exitQualification) ≠ 0 →
      ∃ s', ExitState.vmmVmExitHandler m s = some s' ∧ s'.ioEffect =
        s.ioInstruction.exec m.portValue s.captureGuestContext.ioState := by
  intro hall
  obtain ⟨s', hhandled, hexact⟩ := hall idleMachine (inExit 0xFFFFFFFF00000000) rfl (by decide)
  obtain rfl := Option.some.inj hhandled
  have hlow := (ExitState.ioSingle_exact_iff idleMachine
    (s := (inExit 0xFFFFFFFF00000000).captureGuestContext) rfl (by decide) rfl).1 hexact
  exact absurd (hlow rfl rfl) (by decide)

end DeviceMon
