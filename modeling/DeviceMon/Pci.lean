import DeviceMon.IoProg
import Mathlib.Data.BitVec

/-!
# PCI configuration space

`ReadPCICfg` and `WritePCICfg` of `util.cpp`. One access writes an address word to port
`0xCF8` and moves 1, 2 or 4 bytes through a data port; `CfgAccess` is such an access and
a `CfgProg` a program of them. What a register answers is up to the machine (`PciBus`).
-/

namespace DeviceMon

/-- The address word, the data port and the width of a configuration access. -/
structure CfgAccess where
  pciAddr : BitVec 32
  cfgDataPort : BitVec 16
  len : BitVec 8
deriving DecidableEq

/-- Code that talks to configuration space. -/
abbrev CfgProg : Type → Type :=
  IoProg CfgAccess (BitVec 32)

/-- A machine's configuration space. -/
abbrev PciBus (B : Type) :=
  IoProg.Device CfgAccess (BitVec 32) B

/-- The access of `len` bytes at offset `off` of a function. -/
def cfgAccess (bus dev fn off len : BitVec 8) : CfgAccess where
  pciAddr := 0x80000000 ||| bus.setWidth 32 <<< 16 ||| dev.setWidth 32 <<< 11 |||
    fn.setWidth 32 <<< 8 ||| (off.setWidth 32 &&& ~~~3#32)
  cfgDataPort := 0xCFC + (off.setWidth 16 &&& 0x3)
  len := len

/-- `ReadPCICfg` : a width other than 1, 2 and 4 reads nothing and answers 0. -/
def readPCICfg (bus dev fn off len : BitVec 8) : CfgProg (BitVec 32) :=
  let access := cfgAccess bus dev fn off len
  if len = 1 then .read access fun result => pure (result &&& 0xFF)
  else if len = 2 then .read access fun result => pure (result &&& 0xFFFF)
  else if len = 4 then .read access pure
  else pure 0

/-- `WritePCICfg`. -/
def writePCICfg (bus dev fn off len : BitVec 8) (val : BitVec 32) : CfgProg Unit :=
  let access := cfgAccess bus dev fn off len
  if len = 1 then .write access (val &&& 0xFF) (pure ())
  else if len = 2 then .write access (val &&& 0xFFFF) (pure ())
  else if len = 4 then .write access val (pure ())
  else pure ()

end DeviceMon
