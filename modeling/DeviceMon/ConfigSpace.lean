import DeviceMon.MonitorCfg
import Mathlib.Tactic.IntervalCases

/-!
# Configuration space behind the ports

The host bridge has the address word that was last written to port `0xCF8`, and a data port reads or
writes the register the word names (`CfgRegister.ofAddress`). Registers are independent and behave
as they like (`RegisterKind`). `PciHost.bus` is the configuration space of such a machine.

`ReadPCICfg` and `WritePCICfg` form the address word of the register meant, and different registers
have different words (`pciAddr_eq_iff`). `DmGetDeviceBarSize` returns the size a memory BAR decodes,
and leaves every register reading as before (`dmGetDeviceBarSize_restores`).
-/

namespace DeviceMon

/-! ## Registers -/

/-- Four bytes of configuration space. -/
structure CfgRegister where
  bus : BitVec 8
  device : BitVec 5
  function : BitVec 3
  dword : BitVec 6
deriving DecidableEq

/-- The register an address word names, if its enable bit is set. -/
def CfgRegister.ofAddress (address : BitVec 32) : Option CfgRegister :=
  if address.getLsbD 31 then
    some ⟨address.extractLsb' 16 8, address.extractLsb' 11 5, address.extractLsb' 8 3,
      address.extractLsb' 2 6⟩
  else none

/-- The register at an offset of a function. -/
def cfgRegister (bus dev fn off : BitVec 8) : CfgRegister :=
  ⟨bus, dev.setWidth 5, fn.setWidth 3, off.extractLsb' 2 6⟩

/-- The address word of a register. -/
def CfgRegister.address (reg : CfgRegister) : BitVec 32 :=
  1#1 ++ 0#7 ++ reg.bus ++ reg.device ++ reg.function ++ reg.dword ++ 0#2

@[simp] theorem CfgRegister.ofAddress_address (reg : CfgRegister) :
    ofAddress reg.address = some reg := by
  have henable : reg.address.getLsbD 31 = true := by
    simp only [address, BitVec.getLsbD_append, Nat.reduceLT, Nat.reduceSub, if_false]
    rfl
  have hbus : reg.address.extractLsb' 16 8 = reg.bus := by
    simp (disch := decide) only [address, BitVec.extractLsb'_append_eq_of_le,
      BitVec.extractLsb'_append_eq_of_add_le, Nat.reduceSub, BitVec.extractLsb'_eq_self]
  have hdevice : reg.address.extractLsb' 11 5 = reg.device := by
    simp (disch := decide) only [address, BitVec.extractLsb'_append_eq_of_le,
      BitVec.extractLsb'_append_eq_of_add_le, Nat.reduceSub, BitVec.extractLsb'_eq_self]
  have hfunction : reg.address.extractLsb' 8 3 = reg.function := by
    simp (disch := decide) only [address, BitVec.extractLsb'_append_eq_of_le,
      BitVec.extractLsb'_append_eq_of_add_le, Nat.reduceSub, BitVec.extractLsb'_eq_self]
  have hdword : reg.address.extractLsb' 2 6 = reg.dword := by
    simp (disch := decide) only [address, BitVec.extractLsb'_append_eq_of_le,
      BitVec.extractLsb'_append_eq_of_add_le, Nat.reduceSub, BitVec.extractLsb'_eq_self]
  rw [ofAddress, if_pos henable, hbus, hdevice, hfunction, hdword]

/-- The bits from `k` on of a small number are clear. -/
theorem getLsbD_of_toNat_lt {w : ℕ} {x : BitVec w} {k j : ℕ} (h : x.toNat < 2 ^ k) (hj : k ≤ j) :
    x.getLsbD j = false :=
  Nat.testBit_lt_two_pow (h.trans_le (Nat.pow_le_pow_right (by decide) hj))

/-- `ReadPCICfg` and `WritePCICfg` form the address word of the register. -/
theorem pciAddr_eq (bus dev fn off len : BitVec 8) (hdev : dev.toNat < 32) (hfn : fn.toNat < 8) :
    (cfgAccess bus dev fn off len).pciAddr = (cfgRegister bus dev fn off).address := by
  have hdev5 : ∀ j (h : j < 8), 5 ≤ j → dev[j] = false := fun j _ => getLsbD_of_toNat_lt hdev
  have hfn3 : ∀ j (h : j < 8), 3 ≤ j → fn[j] = false := fun j _ => getLsbD_of_toNat_lt hfn
  refine BitVec.eq_of_getLsbD_eq fun j hj => ?_
  simp only [cfgAccess, cfgRegister, CfgRegister.address, BitVec.getLsbD_or,
    BitVec.getLsbD_and, BitVec.getLsbD_not, BitVec.getLsbD_shiftLeft, BitVec.getLsbD_setWidth,
    BitVec.getLsbD_append, BitVec.getLsbD_extractLsb']
  interval_cases j
  all_goals simp [hdev5, hfn3]

/-- Registers of different functions or offsets are different. -/
theorem cfgRegister_eq_iff {bus dev fn off bus' dev' fn' off' : BitVec 8} (hdev : dev.toNat < 32)
    (hfn : fn.toNat < 8) (hdev' : dev'.toNat < 32) (hfn' : fn'.toNat < 8) :
    cfgRegister bus dev fn off = cfgRegister bus' dev' fn' off' ↔
      bus = bus' ∧ dev = dev' ∧ fn = fn' ∧ off.toNat / 4 = off'.toNat / 4 := by
  have hoff := off.isLt
  have hoff' := off'.isLt
  simp only [cfgRegister, CfgRegister.mk.injEq, ← BitVec.toNat_inj, BitVec.toNat_setWidth,
    BitVec.extractLsb'_toNat, Nat.shiftRight_eq_div_pow]
  omega

/-- **Addresses.** Different registers have different address words. -/
theorem pciAddr_eq_iff {bus dev fn off len bus' dev' fn' off' len' : BitVec 8}
    (hdev : dev.toNat < 32) (hfn : fn.toNat < 8) (hdev' : dev'.toNat < 32) (hfn' : fn'.toNat < 8) :
    (cfgAccess bus dev fn off len).pciAddr = (cfgAccess bus' dev' fn' off' len').pciAddr ↔
      bus = bus' ∧ dev = dev' ∧ fn = fn' ∧ off.toNat / 4 = off'.toNat / 4 := by
  rw [← cfgRegister_eq_iff hdev hfn hdev' hfn', pciAddr_eq _ _ _ _ _ hdev hfn,
    pciAddr_eq _ _ _ _ _ hdev' hfn']
  refine ⟨fun h => ?_, congrArg _⟩
  have hsome := congrArg CfgRegister.ofAddress h
  rw [CfgRegister.ofAddress_address, CfgRegister.ofAddress_address] at hsome
  exact Option.some.inj hsome

/-! ## The host bridge -/

/-- How a register behaves. An access says which of the four bytes it is for. -/
structure RegisterKind (S : Type) where
  read : BitVec 4 → S → BitVec 32 × S
  write : BitVec 4 → BitVec 32 → S → S

/-- The address word and the registers. -/
structure PciHost (S : Type) where
  configAddress : BitVec 32
  registers : CfgRegister → S

namespace PciHost

variable {S : Type} (kind : CfgRegister → RegisterKind S)

/-- The first byte a data port is for. -/
def lane (port : BitVec 16) : ℕ :=
  port.toNat % 4

/-- The bytes of an access. -/
def byteEnables (port : BitVec 16) (size : ℕ) : BitVec 4 :=
  BitVec.ofNat 4 (2 ^ size - 1) <<< lane port

/-- A double word written to port `0xCF8`. -/
def setAddress (address : BitVec 32) (host : PciHost S) : PciHost S :=
  { host with configAddress := address }

/-- A read of a data port. A register that is not there answers all ones. -/
def inData (port : BitVec 16) (size : ℕ) (host : PciHost S) : BitVec 32 × PciHost S :=
  match CfgRegister.ofAddress host.configAddress with
  | some reg =>
    let (value, s) := (kind reg).read (byteEnables port size) (host.registers reg)
    (value >>> (8 * lane port) &&& BitVec.ofNat 32 (2 ^ (8 * size) - 1),
      { host with registers := Function.update host.registers reg s })
  | none => (BitVec.ofNat 32 (2 ^ (8 * size) - 1), host)

/-- A write of a data port. -/
def outData (port : BitVec 16) (size : ℕ) (value : BitVec 32) (host : PciHost S) : PciHost S :=
  match CfgRegister.ofAddress host.configAddress with
  | some reg =>
    let s := (kind reg).write (byteEnables port size) (value <<< (8 * lane port))
      (host.registers reg)
    { host with registers := Function.update host.registers reg s }
  | none => host

/-- Configuration space : an access writes the address word and goes through the data port. -/
def bus : PciBus (PciHost S) where
  read access host := (host.setAddress access.pciAddr).inData kind access.cfgDataPort
    access.len.toNat
  write access value host := (host.setAddress access.pciAddr).outData kind access.cfgDataPort
    access.len.toNat value

variable {kind} {b d f o : BitVec 8} {host : PciHost S}

/-- The data port of a double word. -/
theorem cfgDataPort_aligned (len : BitVec 8) (hoff : o.toNat % 4 = 0) :
    (cfgAccess b d f o len).cfgDataPort = 0xCFC := by
  have hlow : o.setWidth 16 &&& 0x3 = 0 := by
    have hmask : (0x3 : BitVec 16).toNat = 2 ^ 2 - 1 := rfl
    rw [← BitVec.toNat_inj, BitVec.toNat_and, hmask, Nat.and_two_pow_sub_one_eq_mod,
      BitVec.toNat_setWidth, Nat.mod_mod_of_dvd _ (by decide)]
    exact hoff
  rw [cfgAccess, hlow]
  rfl

/-- A double word is read from its register. -/
theorem run_readPCICfg (hdev : d.toNat < 32) (hfn : f.toNat < 8) (hoff : o.toNat % 4 = 0) :
    (readPCICfg b d f o 4).run (bus kind) host =
      (((kind (cfgRegister b d f o)).read 0xF (host.registers (cfgRegister b d f o))).1,
        ⟨(cfgRegister b d f o).address, Function.update host.registers (cfgRegister b d f o)
          ((kind (cfgRegister b d f o)).read 0xF (host.registers (cfgRegister b d f o))).2⟩) := by
  have hones : BitVec.ofNat 32 (2 ^ (8 * 4) - 1) = BitVec.allOnes 32 := rfl
  have hread : (readPCICfg b d f o 4).run (bus kind) host =
      (host.setAddress (cfgAccess b d f o 4).pciAddr).inData kind
        (cfgAccess b d f o 4).cfgDataPort 4 := rfl
  rw [hread, cfgDataPort_aligned _ hoff, pciAddr_eq _ _ _ _ _ hdev hfn, inData, setAddress]
  simp only [CfgRegister.ofAddress_address, hones, BitVec.and_allOnes]
  rfl

/-- A double word is written to its register. -/
theorem run_writePCICfg (hdev : d.toNat < 32) (hfn : f.toNat < 8) (hoff : o.toNat % 4 = 0)
    (value : BitVec 32) : (writePCICfg b d f o 4 value).run (bus kind) host =
      ((), ⟨(cfgRegister b d f o).address, Function.update host.registers (cfgRegister b d f o)
        ((kind (cfgRegister b d f o)).write 0xF value
          (host.registers (cfgRegister b d f o)))⟩) := by
  have hwrite : (writePCICfg b d f o 4 value).run (bus kind) host =
      ((), (host.setAddress (cfgAccess b d f o 4).pciAddr).outData kind
        (cfgAccess b d f o 4).cfgDataPort 4 value) := rfl
  have hshift : value <<< (8 * lane 0xCFC) = value := BitVec.shiftLeft_zero _
  rw [hwrite, cfgDataPort_aligned _ hoff, pciAddr_eq _ _ _ _ _ hdev hfn, outData, setAddress]
  simp only [CfgRegister.ofAddress_address, hshift]
  rfl

end PciHost

/-! ## Memory BARs -/

/-- A register that reads as the value written to it, up to the bits the BAR does not decode, and
as its flags below. -/
structure IsMemoryBar {S : Type} (kind : RegisterKind S) (value : S → BitVec 32)
    (mask flags : BitVec 32) : Prop where
  read : ∀ enables s, (kind.read enables s).1 = value s &&& mask ||| flags
  kept : ∀ enables s, value (kind.read enables s).2 = value s
  write : ∀ v s, value (kind.write 0xF v s) = v

/-- The mask of a BAR that decodes a size : the bits from 31 to `n`, or none. -/
inductive BarDecodes : BitVec 32 → BitVec 32 → Prop where
  | none : BarDecodes 0 0
  | size {n : ℕ} (low : 4 ≤ n) (high : n ≤ 31) : BarDecodes (BitVec.allOnes 32 <<< n)
      (BitVec.ofNat 32 (2 ^ n))

/-- The mask, seen through the flags, gives the size. -/
theorem BarDecodes.size_eq {mask size flags : BitVec 32} (h : BarDecodes mask size)
    (hflags : flags &&& 0xFFFFFFF0 = 0) :
    ~~~((BitVec.allOnes 32 &&& mask ||| flags) &&& 0xFFFFFFF0) + 1 = size := by
  have hmask : mask &&& 0xFFFFFFF0 = mask ∧ ~~~mask + 1 = size := by
    cases h with
    | none => decide
    | @size n low high =>
      interval_cases n
      all_goals decide
  have hdistrib : (mask ||| flags) &&& 0xFFFFFFF0 = mask := by
    rw [BitVec.and_comm, BitVec.and_or_distrib_left, BitVec.and_comm _ mask, hmask.1,
      BitVec.and_comm _ flags, hflags]
    exact BitVec.or_zero
  rw [BitVec.allOnes_and, hdistrib, hmask.2]

/-- What was read reads the same when it is written. -/
theorem readBack (v mask flags : BitVec 32) :
    (v &&& mask ||| flags) &&& mask ||| flags = v &&& mask ||| flags := by
  refine BitVec.eq_of_getLsbD_eq fun j _ => ?_
  simp only [BitVec.getLsbD_or, BitVec.getLsbD_and]
  cases v.getLsbD j <;> cases mask.getLsbD j <;> cases flags.getLsbD j <;> rfl

section Sizing

variable {S : Type} {kind : CfgRegister → RegisterKind S} {value : S → BitVec 32}
  {b d f o : BitVec 8} {mask size flags : BitVec 32} {host host' : PciHost S}

/-- The run of `DmGetDeviceBarSize` : its answer is the size, and of all registers only that of the
BAR may change, to one that reads the same. -/
theorem run_dmGetDeviceBarSize (hdev : d.toNat < 32) (hfn : f.toNat < 8) (hoff : o.toNat % 4 = 0)
    (hbar : IsMemoryBar (kind (cfgRegister b d f o)) value mask flags)
    (hmask : BarDecodes mask size) (hflags : flags &&& 0xFFFFFFF0 = 0) (host : PciHost S) :
    ((dmGetDeviceBarSize b d f o).run (PciHost.bus kind) host).1 = size ∧
      ∃ s, value s = value (host.registers (cfgRegister b d f o)) &&& mask ||| flags ∧
        ((dmGetDeviceBarSize b d f o).run (PciHost.bus kind) host).2.registers =
          Function.update host.registers (cfgRegister b d f o) s := by
  simp only [dmGetDeviceBarSize, IoProg.run_bind, PciHost.run_readPCICfg hdev hfn hoff,
    PciHost.run_writePCICfg hdev hfn hoff, IoProg.run_pure, Function.update_self,
    Function.update_idem, hbar.read]
  refine ⟨?_, _, hbar.write _ _, rfl⟩
  rw [hbar.write]
  exact hmask.size_eq hflags

/-- What `ReadPCICfg` returns depends on the register alone. -/
theorem run_readPCICfg_congr (hregisters : ∀ reg enables,
      ((kind reg).read enables (host'.registers reg)).1 =
        ((kind reg).read enables (host.registers reg)).1) (b d f o len : BitVec 8) :
    ((readPCICfg b d f o len).run (PciHost.bus kind) host').1 =
      ((readPCICfg b d f o len).run (PciHost.bus kind) host).1 := by
  have hdata : ∀ (access : CfgAccess), ((PciHost.bus kind).read access host').1 =
      ((PciHost.bus kind).read access host).1 := fun access => by
    simp only [PciHost.bus, PciHost.inData, PciHost.setAddress]
    cases CfgRegister.ofAddress access.pciAddr with
    | none => rfl
    | some reg => simp only [hregisters]
  unfold readPCICfg
  split_ifs
  · exact congrArg (· &&& 0xFF) (hdata _)
  · exact congrArg (· &&& 0xFFFF) (hdata _)
  · exact hdata _
  · rfl

/-- **Sizing a BAR.** For a memory BAR of any function, with any address, `DmGetDeviceBarSize`
returns the size the BAR decodes. After it every register reads as before, and the others are as
they were. `ReadPCICfg` and `WritePCICfg` form address words that name the register meant, and
different registers have different words. -/
theorem dmGetDeviceBarSize_restores {S : Type} (kind : CfgRegister → RegisterKind S)
    (value : S → BitVec 32) (mask size flags : BitVec 32) (bus dev fn off : BitVec 8)
    (hdev : dev.toNat < 32) (hfn : fn.toNat < 8) (hoff : off.toNat % 4 = 0)
    (hbar : IsMemoryBar (kind (cfgRegister bus dev fn off)) value mask flags)
    (hmask : BarDecodes mask size) (hflags : flags &&& 0xFFFFFFF0 = 0) (host : PciHost S) :
    ((dmGetDeviceBarSize bus dev fn off).run (PciHost.bus kind) host).1 = size ∧
      (∀ bus' dev' fn' off' len' : BitVec 8,
        ((readPCICfg bus' dev' fn' off' len').run (PciHost.bus kind)
          ((dmGetDeviceBarSize bus dev fn off).run (PciHost.bus kind) host).2).1 =
        ((readPCICfg bus' dev' fn' off' len').run (PciHost.bus kind) host).1) ∧
      (∀ reg, reg ≠ cfgRegister bus dev fn off →
        ((dmGetDeviceBarSize bus dev fn off).run (PciHost.bus kind) host).2.registers reg =
          host.registers reg) ∧
      ∀ bus dev fn off len : BitVec 8, dev.toNat < 32 → fn.toNat < 8 →
        CfgRegister.ofAddress (cfgAccess bus dev fn off len).pciAddr =
            some (cfgRegister bus dev fn off) ∧
          ∀ bus' dev' fn' off' len' : BitVec 8, dev'.toNat < 32 → fn'.toNat < 8 →
            ((cfgAccess bus dev fn off len).pciAddr = (cfgAccess bus' dev' fn' off' len').pciAddr ↔
              bus = bus' ∧ dev = dev' ∧ fn = fn' ∧ off.toNat / 4 = off'.toNat / 4) := by
  obtain ⟨hsize, s, hs, hrun⟩ := run_dmGetDeviceBarSize hdev hfn hoff hbar hmask hflags host
  refine ⟨hsize, run_readPCICfg_congr fun reg enables => ?_, fun reg hreg => ?_,
    fun bus dev fn off len hdev hfn => ⟨?_, fun bus' dev' fn' off' len' hdev' hfn' =>
      pciAddr_eq_iff hdev hfn hdev' hfn'⟩⟩
  · rw [hrun]
    by_cases hreg : reg = cfgRegister bus dev fn off
    · rw [hreg, Function.update_self, hbar.read, hbar.read, hs, readBack]
    · rw [Function.update_of_ne hreg]
  · rw [hrun, Function.update_of_ne hreg]
  · rw [pciAddr_eq _ _ _ _ _ hdev hfn, CfgRegister.ofAddress_address]

end Sizing

/-- A BAR of 4 KiB, below which every access of the others is ignored. -/
def pageBar : RegisterKind (BitVec 32) where
  read _ v := (v &&& 0xFFFFF000 ||| 0x8, v)
  write enables v old := if enables = 0xF then v else old

theorem dmGetDeviceBarSize_restores_page :
    ((dmGetDeviceBarSize 0 31 5 0x10).run (PciHost.bus fun _ => pageBar)
      ⟨0, fun _ => 0xFE010000⟩).1 = 0x1000 :=
  (dmGetDeviceBarSize_restores (fun _ => pageBar) id 0xFFFFF000 0x1000 0x8 0 31 5 0x10 (by decide)
    (by decide) (by decide) ⟨fun _ _ => rfl, fun _ _ => rfl, fun _ _ => rfl⟩
    (BarDecodes.size (n := 12) (by decide) (by decide)) (by decide) ⟨0, fun _ => 0xFE010000⟩).1

end DeviceMon
