import DeviceMon.Radix
import DeviceMon.RadixFrames
import DeviceMon.Ledger
import DeviceMon.IoProg
import DeviceMon.Interleaving
import DeviceMon.Probing
import DeviceMon.Tally
import DeviceMon.TranslationCache
import DeviceMon.Stages
import DeviceMon.X64
import DeviceMon.Paging
import DeviceMon.Ia32
import DeviceMon.Mtrr
import DeviceMon.Scan
import DeviceMon.Bitmap
import DeviceMon.MemoryType
import DeviceMon.MtrrEntries
import DeviceMon.MtrrReread
import DeviceMon.MtrrResolution
import DeviceMon.Ept
import DeviceMon.EptTree
import DeviceMon.EptPages
import DeviceMon.EptStart
import DeviceMon.ConstructWalk
import DeviceMon.InitialMap
import DeviceMon.EptOwnership
import DeviceMon.Pci
import DeviceMon.MonitorCfg
import DeviceMon.ConfigSpace
import DeviceMon.ProbeRace
import DeviceMon.BarInfo
import DeviceMon.DevMon
import DeviceMon.Dispatch
import DeviceMon.PageLoops
import DeviceMon.BarCoverage
import DeviceMon.MonitorCalls
import DeviceMon.AbsentDevice
import DeviceMon.Vmm
import DeviceMon.Hypercall
import DeviceMon.LeafInvariant
import DeviceMon.VmmRun
import DeviceMon.Progress
import DeviceMon.SingleStep
import DeviceMon.Misconfiguration
import DeviceMon.Tlb
import DeviceMon.EptLocality
import DeviceMon.ExitInfo
import DeviceMon.Processor
import DeviceMon.VmcsSetup
import DeviceMon.SegmentDescriptors
import DeviceMon.Vm
import DeviceMon.Installation
import DeviceMon.Hotplug
import DeviceMon.Processors
import DeviceMon.MonitoredProcessors
import DeviceMon.PowerCycles
import DeviceMon.PhysicalMemory
import DeviceMon.CString
import DeviceMon.DoubleBuffer
import DeviceMon.Log
import DeviceMon.Logging
import DeviceMon.LogPut
import DeviceMon.LogPrints
import DeviceMon.KernelObjects
import DeviceMon.Driver
import DeviceMon.PciAccessors
import DeviceMon.ExitHandlers
import DeviceMon.ExitDiscipline
import DeviceMon.ExitRefinement
import DeviceMon.ProcessorControls
import DeviceMon.MonitorTrap
import DeviceMon.DrAccess
import DeviceMon.GuestRegisters
import DeviceMon.Asm
import DeviceMon.AsmExit
import DeviceMon.AsmVmcall
import DeviceMon.AsmStart
import DeviceMon.MsrAccess
import DeviceMon.MsrBitmap
import DeviceMon.InterruptFlag
import DeviceMon.IoInstructions
import DeviceMon.OperandAddress
import DeviceMon.SegmentRegisters
import DeviceMon.Fuzzer
import DeviceMon.PageTables
import DeviceMon.MemMem
import DeviceMon.PerfCollector
import DeviceMon.MonitorTrap
