import DeviceMon.Processor

/-!
# The configuration accessors

The six procedures of `x64.asm` that access configuration space, as lists of instructions. Each
writes the address word to port `0xCF8` and moves a value through the data port, between a CLI and
an STI. What they do to ports and the interrupt flag is `cfgEvents`
(`readPCI_run`, `writePCI_run`).

The STI does not ask how the flag was at the call : an accessor returns with interrupts enabled
(`interruptFlag_writePCI`, `interruptFlag_readPCI`).
-/

namespace DeviceMon

/-! ## The interrupt flag -/

/-- RFLAGS.IF after an event. -/
def CpuEvent.interruptFlag (flag : Bool) : CpuEvent → Bool
  | .cli => false
  | .sti => true
  | _ => flag

/-- RFLAGS.IF after the events of a VM exit, which clears it. -/
def interruptFlag (trace : List CpuEvent) : Bool :=
  trace.foldl CpuEvent.interruptFlag false

theorem interruptFlag_concat (trace : List CpuEvent) (event : CpuEvent) :
    interruptFlag (trace ++ [event]) = event.interruptFlag (interruptFlag trace) := by
  rw [interruptFlag, List.foldl_append]
  rfl

/-! ## Instructions -/

/-- The registers of the accessors. -/
inductive AsmRegister where
  | rax
  | rcx
  | rdx
  | r8
deriving DecidableEq

/-- The instructions of the accessors. The port of `out` and `in` is in `dx`, the value in `al`,
`ax` or `eax`. -/
inductive AsmInstruction where
  | push (register : AsmRegister)
  | pop (register : AsmRegister)
  | mov (register source : AsmRegister)
  | movDx (value : BitVec 16)
  | xor (register source : AsmRegister)
  | portOut (size : ℕ)
  | portIn (size : ℕ)
  | cli
  | sti
  | ret
deriving DecidableEq

/-- A processor in an accessor, with what was done since the exit. -/
@[ext]
structure AsmState where
  register : AsmRegister → BitVec 64
  /-- The stack, its top first. -/
  stack : List (BitVec 64)
  rip : BitVec 64
  trace : List CpuEvent

namespace AsmState

def setRegister (register : AsmRegister) (value : BitVec 64) (s : AsmState) : AsmState :=
  { s with register := Function.update s.register register value }

/-- The low `size` bytes. -/
def lowBytes (size : ℕ) (value : BitVec 64) : BitVec 32 :=
  value.setWidth 32 &&& BitVec.ofNat 32 (2 ^ (8 * size) - 1)

/-- `al`, `ax` or `eax` takes a value. A write of `eax` clears the rest of `rax`. -/
def setLowBytes (size : ℕ) (value : BitVec 32) (rax : BitVec 64) : BitVec 64 :=
  let mask := BitVec.ofNat 64 (2 ^ (8 * size) - 1)
  if size = 4 then value.setWidth 64 else (rax &&& ~~~mask) ||| (value.setWidth 64 &&& mask)

/-- One instruction; `portValue` is what a port answers. -/
def step (portValue : BitVec 16 → ℕ → BitVec 32) (s : AsmState) : AsmInstruction → AsmState
  | .push register => { s with stack := s.register register :: s.stack }
  | .pop register => { s.setRegister register (s.stack.headD 0) with stack := s.stack.tail }
  | .mov register source => s.setRegister register (s.register source)
  | .movDx value => s.setRegister .rdx ((s.register .rdx).extractLsb' 16 48 ++ value)
  | .xor register source => s.setRegister register (s.register register ^^^ s.register source)
  | .portOut size =>
    { s with trace := s.trace ++
        [.portOut ((s.register .rdx).setWidth 16) size (lowBytes size (s.register .rax))] }
  | .portIn size =>
    let port := (s.register .rdx).setWidth 16
    { s.setRegister .rax (setLowBytes size (portValue port size) (s.register .rax)) with
      trace := s.trace ++ [.portIn port size] }
  | .cli => { s with trace := s.trace ++ [.cli] }
  | .sti => { s with trace := s.trace ++ [.sti] }
  | .ret => { s with rip := s.stack.headD 0, stack := s.stack.tail }

/-- A procedure from its first instruction on. -/
def run (portValue : BitVec 16 → ℕ → BitVec 32) (instructions : List AsmInstruction)
    (s : AsmState) : AsmState :=
  instructions.foldl (step portValue) s

end AsmState

/-! ## Procedures -/

/-- The body of the accessors that write; they differ in the width. -/
def writePCI (size : ℕ) : List AsmInstruction :=
  [.push .rax, .push .rdx, .cli, .mov .rax .rcx, .movDx 0xCF8, .portOut 4,
    .mov .rax .r8, .pop .rdx, .portOut size, .sti, .pop .rax, .ret]

/-- The body of the accessors that read; they differ in the width. -/
def readPCI (size : ℕ) : List AsmInstruction :=
  [.push .rdx, .cli, .mov .rax .rcx, .movDx 0xCF8, .portOut 4,
    .xor .rax .rax, .pop .rdx, .portIn size, .sti, .ret]

/-- `WritePCIByte`. -/
def writePCIByte : List AsmInstruction :=
  writePCI 1

/-- `WritePCIWord`. -/
def writePCIWord : List AsmInstruction :=
  writePCI 2

/-- `WritePCIDword`. -/
def writePCIDword : List AsmInstruction :=
  writePCI 4

/-- `ReadPCIByte`. -/
def readPCIByte : List AsmInstruction :=
  readPCI 1

/-- `ReadPCIWord`. -/
def readPCIWord : List AsmInstruction :=
  readPCI 2

/-- `ReadPCIDword`. -/
def readPCIDword : List AsmInstruction :=
  readPCI 4

/-! ## Runs -/

section Runs

open AsmState

variable (portValue : BitVec 16 → ℕ → BitVec 32) (size : ℕ) (s : AsmState)

theorem setWidth_movDx (rdx : BitVec 48) (port : BitVec 16) : (rdx ++ port).setWidth 16 = port := by
  rw [BitVec.setWidth_append, dif_pos le_rfl, BitVec.setWidth_eq]

/-- A write changes no register, and returns. -/
theorem writePCI_run : run portValue (writePCI size) s =
    { s with
      stack := s.stack.tail
      rip := s.stack.headD 0
      trace := s.trace ++
        [.cli, .portOut 0xCF8 4 (lowBytes 4 (s.register .rcx)),
          .portOut ((s.register .rdx).setWidth 16) size (lowBytes size (s.register .r8)),
          .sti] } := by
  refine AsmState.ext ?_ rfl rfl ?_
  · funext register
    cases register <;> rfl
  · simp [run, writePCI, step, AsmState.setRegister, setWidth_movDx]

/-- A read changes no register but `rax`, and returns. -/
theorem readPCI_run : run portValue (readPCI size) s =
    { s with
      register := Function.update s.register .rax
        (setLowBytes size (portValue ((s.register .rdx).setWidth 16) size) 0)
      stack := s.stack.tail
      rip := s.stack.headD 0
      trace := s.trace ++ [.cli, .portOut 0xCF8 4 (lowBytes 4 (s.register .rcx)),
        .portIn ((s.register .rdx).setWidth 16) size, .sti] } := by
  refine AsmState.ext ?_ rfl rfl ?_
  · funext register
    cases register with
    | rax => simp [run, readPCI, step, AsmState.setRegister]
    | rcx => rfl
    | rdx => rfl
    | r8 => rfl
  · simp [run, readPCI, step, AsmState.setRegister, setWidth_movDx]

/-! ### Accesses -/

/-- The arguments of an accessor for an access. -/
structure Passes (access : CfgAccess) (s : AsmState) : Prop where
  pciReg : (s.register .rcx).setWidth 32 = access.pciAddr
  cfgDataPort : (s.register .rdx).setWidth 16 = access.cfgDataPort

variable {s} {access : CfgAccess} {value : BitVec 32}

theorem lowBytes_dword (value : BitVec 64) : lowBytes 4 value = value.setWidth 32 := by
  have hmask : BitVec.ofNat 32 (2 ^ (8 * 4) - 1) = BitVec.allOnes 32 := rfl
  rw [lowBytes, hmask, BitVec.and_allOnes]

/-- What a write does to ports and the flag. -/
theorem trace_writePCI (h : Passes access s)
    (hvalue : lowBytes access.len.toNat (s.register .r8) = value) :
    (run portValue (writePCI access.len.toNat) s).trace =
      s.trace ++ ExitState.cfgEvents (.write access value) := by
  rw [writePCI_run, lowBytes_dword, h.pciReg, h.cfgDataPort, hvalue]
  rfl

/-- What a read does to ports and the flag. -/
theorem trace_readPCI (h : Passes access s) :
    (run portValue (readPCI access.len.toNat) s).trace =
      s.trace ++ ExitState.cfgEvents (.read access value) := by
  rw [readPCI_run, lowBytes_dword, h.pciReg, h.cfgDataPort]
  rfl

/-- Interrupts are enabled after a write, whatever the flag was. -/
theorem interruptFlag_writePCI (s : AsmState) :
    interruptFlag (run portValue (writePCI size) s).trace = true := by
  rw [writePCI_run, interruptFlag, List.foldl_append]
  rfl

/-- Interrupts are enabled after a read, whatever the flag was. -/
theorem interruptFlag_readPCI (s : AsmState) :
    interruptFlag (run portValue (readPCI size) s).trace = true := by
  rw [readPCI_run, interruptFlag, List.foldl_append]
  rfl

end Runs

end DeviceMon
