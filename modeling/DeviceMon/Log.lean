import DeviceMon.CString
import DeviceMon.DoubleBuffer
import Mathlib.Logic.Function.Basic

/-!
# Logging

The functions of `log.cpp` behind `LogpPrint`, from `LogpPut` on, for any number of threads.
A `LogThread` is where a thread is in them, and `LogStep` is what it does next : the section
under the spin lock is one step, and so are taking and giving back the resource, a round of
the loop in `LogpFlushLogBuffer` up to its `DbgPrint`, the `DbgPrint`, and each other write to
the file. Between any two steps the other threads take theirs.

`file` has the arguments of `ZwWriteFile`, which succeeds and appends, and `dbgPrints` those of
`DbgPrintEx`. A step says with its `LogEvent` what an observer sees. Any thread may flush at any
time, as the flush thread does.

An array of characters is a list. The messages are those of `LogpMakePrefix` : no NUL, no
character above 0x7f in front, CR LF at the end.
-/

namespace DeviceMon

/-! ## Buffers -/

/-- `log_buffer1` and `log_buffer2`. -/
inductive LogBuffer where
  | logBuffer1
  | logBuffer2
deriving DecidableEq

/-- `kLogpBufferSize`, 16 pages. -/
def kLogpBufferSize : ℕ :=
  0x10000

/-- `kLogpBufferUsableSize`. -/
def kLogpBufferUsableSize : ℕ :=
  kLogpBufferSize - 1

/-- `LogBufferInfo`, with the memory of the buffers. A pointer into them is a buffer and an
offset. -/
structure LogBufferInfo where
  bytes : LogBuffer → List (BitVec 8)
  logBufferHead : LogBuffer
  logBufferTail : LogBuffer × ℕ
  logMaxUsage : ℕ
  /-- Whether `log_buffer1` is allocated. -/
  logFileEnabled : Bool
  bufferFlushThreadShouldBeAlive : Bool

/-- A buffer as `LogpInitializeBufferInfo` fills it. -/
def initialBuffer : List (BitVec 8) :=
  0 :: (List.replicate (kLogpBufferSize - 2) 0xFF ++ [0])

/-- After `LogpInitializeBufferInfo`, before the log file is activated. -/
def logpInitializeBufferInfo : LogBufferInfo where
  bytes _ := initialBuffer
  logBufferHead := .logBuffer1
  logBufferTail := (.logBuffer1, 0)
  logMaxUsage := 0
  logFileEnabled := true
  bufferFlushThreadShouldBeAlive := false

/-- A change of one buffer. -/
def LogBufferInfo.modify (info : LogBufferInfo) (b : LogBuffer)
    (f : List (BitVec 8) → List (BitVec 8)) : LogBufferInfo :=
  { info with bytes := Function.update info.bytes b (f (info.bytes b)) }

/-! ## Strings -/

/-- The results of `RtlStringCchCopyA`. -/
inductive CopyStatus where
  | success
  | invalidParameter
  | bufferOverflow
deriving DecidableEq

/-- `RtlStringCchCopyA` : copies as much as fits, and the NUL. -/
def rtlStringCchCopyA (p cchDest : ℕ) (src dest : List (BitVec 8)) :
    CopyStatus × List (BitVec 8) :=
  let s := CString.get src 0
  if cchDest = 0 then (.invalidParameter, dest)
  else (if s.length < cchDest then .success else .bufferOverflow,
    CString.put p (s.take (cchDest - 1) ++ [0]) dest)

/-- `strlen`. -/
def strlen (message : List (BitVec 8)) (p : ℕ) : ℕ :=
  (CString.get message p).length

/-- Marks the message as it is already printed out, or clears the printed bit. -/
def logpSetPrintedBit (on : Bool) (p : ℕ) (message : List (BitVec 8)) : List (BitVec 8) :=
  message.modify p fun c => if on then c ||| 0x80 else c &&& 0x7F

/-- Tests if the printed bit is on. -/
def logpIsPrinted (message : List (BitVec 8)) (p : ℕ) : Bool :=
  message.getD p 0 &&& 0x80 ≠ 0

/-- Calls `DbgPrintEx` while converting CR LF to LF NUL. The text is none if no `DbgPrint` is
needed. -/
def logpDoDbgPrint (isDbgPrintNeeded : Bool) (p : ℕ) (message : List (BitVec 8)) :
    Option (List (BitVec 8)) × List (BitVec 8) :=
  if !isDbgPrintNeeded then (none, message)
  else
    let locationOfCr := p + (strlen message p - 2)
    let message := (message.set locationOfCr 0x0A).set (locationOfCr + 1) 0
    (some (CString.get message p), message)

/-! ## Messages and flushes -/

/-- Buffers the log entry. The tail points into the buffer of the head, and `used_buffer_size`
is at most `kLogpBufferUsableSize`. -/
def logpBufferMessage (message : List (BitVec 8)) (info : LogBufferInfo) :
    CopyStatus × LogBufferInfo :=
  let tail := info.logBufferTail
  let usedBufferSize := tail.2
  let r := rtlStringCchCopyA tail.2 (kLogpBufferUsableSize - usedBufferSize) message
    (info.bytes tail.1)
  let info := info.modify tail.1 fun _ => r.2
  let info :=
    if r.1 = .success then
      let messageLength := strlen message 0 + 1
      let usedBufferSize := usedBufferSize + messageLength
      { info with
        logBufferTail := (tail.1, tail.2 + messageLength)
        logMaxUsage := if usedBufferSize > info.logMaxUsage then usedBufferSize
          else info.logMaxUsage }
    else { info with logMaxUsage := kLogpBufferSize }
  (r.1, info.modify info.logBufferTail.1 fun bytes => bytes.set info.logBufferTail.2 0)

/-- The other buffer. -/
def LogBuffer.other (b : LogBuffer) : LogBuffer :=
  if b = .logBuffer1 then .logBuffer2 else .logBuffer1

/-- What `LogpFlushLogBuffer` does under the spin lock. -/
def switchLogBuffer (info : LogBufferInfo) : LogBufferInfo :=
  let head := info.logBufferHead.other
  let info := info.modify head fun bytes => bytes.set 0 0
  { info with logBufferHead := head, logBufferTail := (head, 0) }

/-! ## Threads -/

/-- `kLogpLevelOptSafe`. -/
def kLogpLevelOptSafe : BitVec 32 :=
  0x1

/-- `PASSIVE_LEVEL`. -/
def passiveLevel : ℕ :=
  0

/-- `CLOCK_LEVEL` on x64. -/
def clockLevel : ℕ :=
  13

/-- A call of `LogpPut` with what it asks the system. -/
structure PutCall where
  /-- The message up to its NUL. -/
  message : List (BitVec 8)
  logAttribute : BitVec 32
  irql : ℕ
  areAllApcsDisabled : Bool

/-- `do_DbgPrint`. -/
def PutCall.doDbgPrint (call : PutCall) : Bool :=
  call.logAttribute &&& kLogpLevelOptSafe = 0 && call.irql < clockLevel

/-- What the messages of `LogpMakePrefix` are like. -/
structure IsLogMessage (message : List (BitVec 8)) : Prop where
  noNul : 0 ∉ message
  crlf : ∃ text, message = text ++ [0x0D, 0x0A]
  ascii : ∀ c ∈ message.head?, c.toNat < 0x80

/-- Where a thread is. The buffer of a message is its own. -/
inductive LogThread where
  | idle
  /-- `LogpPut` before `LogpBufferMessage`. -/
  | buffering (message : List (BitVec 8)) (doDbgPrint : Bool)
  /-- `LogpPut` before `LogpWriteMessageToFile`. -/
  | writing (message : List (BitVec 8)) (doDbgPrint : Bool)
  /-- `LogpPut` before `LogpDoDbgPrint`. -/
  | printing (message : List (BitVec 8)) (doDbgPrint : Bool)
  /-- `LogpFlushLogBuffer` before it has the resource; `next` is what follows the flush. -/
  | entering (next : LogThread)
  /-- It has the resource. -/
  | switching (next : LogThread)
  /-- At the loop condition, with `current_log_entry` at `p`. -/
  | flushing (next : LogThread) (oldLogBuffer : LogBuffer) (p : ℕ)
  /-- After `ZwWriteFile`. -/
  | flushed (next : LogThread) (oldLogBuffer : LogBuffer) (p : ℕ) (currentLogEntryLength : ℕ)
      (printedOut : Bool)

/-- `LogpPut` up to the call it decides on. -/
def logpPut (call : PutCall) (info : LogBufferInfo) : LogThread :=
  let message := call.message ++ [0]
  let doDbgPrint := call.doDbgPrint
  if info.logFileEnabled then
    if call.logAttribute &&& kLogpLevelOptSafe = 0 ∧ call.irql = passiveLevel ∧
        info.bufferFlushThreadShouldBeAlive = true then
      if !call.areAllApcsDisabled then .entering (.writing message doDbgPrint)
      else .printing message doDbgPrint
    else .buffering message doDbgPrint
  else .printing message doDbgPrint

/-- All threads, and what they share. -/
structure LogSystem (T : Type) where
  info : LogBufferInfo
  /-- The owner of the resource. -/
  resource : Option T
  threads : T → LogThread
  file : List (List (BitVec 8))
  dbgPrints : List (List (BitVec 8))

/-- What an observer sees of a step. -/
inductive LogEvent (T : Type) where
  /-- A call of `LogpPut`, and whether it is going to print. -/
  | put (t : T) (message : List (BitVec 8)) (doDbgPrint : Bool)
  /-- `LogpBufferMessage` succeeded, with the printed bit. -/
  | buffered (t : T) (message : List (BitVec 8)) (printed : Bool)
  /-- A flush switched the buffers. -/
  | switched (t : T)
  /-- A flush wrote an entry. -/
  | flushed (t : T) (entry : List (BitVec 8))
  /-- A flush printed an entry. -/
  | flushPrinted (t : T) (text : List (BitVec 8))
  /-- `LogpWriteMessageToFile`. -/
  | written (t : T) (message : List (BitVec 8))
  /-- `LogpPut` printed its message. -/
  | printed (t : T) (text : List (BitVec 8))

section Steps

variable {T : Type} [DecidableEq T]

/-- A thread goes on. -/
def LogSystem.goto (s : LogSystem T) (t : T) (next : LogThread) : LogSystem T :=
  { s with threads := Function.update s.threads t next }

/-- One step of thread `t`, or the activation of the log file. -/
inductive LogStep (isDbgPrintNeeded : Bool) (s : LogSystem T) :
    List (LogEvent T) → LogSystem T → Prop where
  /-- `LogpPut` is called. -/
  | put {t : T} {call : PutCall} (here : s.threads t = .idle) (ok : IsLogMessage call.message) :
      LogStep isDbgPrintNeeded s [.put t call.message call.doDbgPrint]
        (s.goto t (logpPut call s.info))
  /-- `LogpFlushLogBuffer` is called. -/
  | flush {t : T} (here : s.threads t = .idle) :
      LogStep isDbgPrintNeeded s [] (s.goto t (.entering .idle))
  /-- `LogpBufferMessage` succeeds. The printed bit is set for the call and cleared after it. -/
  | buffer {t : T} {message marked : List (BitVec 8)} {doDbgPrint : Bool} {info : LogBufferInfo}
      (here : s.threads t = .buffering message doDbgPrint)
      (mark : marked = if doDbgPrint then logpSetPrintedBit true 0 message else message)
      (call : logpBufferMessage marked s.info = (.success, info)) :
      LogStep isDbgPrintNeeded s [.buffered t (CString.get message 0) doDbgPrint]
        ({ s with info := info }.goto t
          (.printing (logpSetPrintedBit false 0 marked) doDbgPrint))
  /-- `LogpBufferMessage` fails. -/
  | refuse {t : T} {message marked : List (BitVec 8)} {doDbgPrint : Bool} {status : CopyStatus}
      {info : LogBufferInfo} (here : s.threads t = .buffering message doDbgPrint)
      (mark : marked = if doDbgPrint then logpSetPrintedBit true 0 message else message)
      (call : logpBufferMessage marked s.info = (status, info)) (fail : status ≠ .success) :
      LogStep isDbgPrintNeeded s []
        ({ s with info := info }.goto t
          (.printing (logpSetPrintedBit false 0 marked) doDbgPrint))
  /-- The resource is acquired. -/
  | enter {t : T} {next : LogThread} (here : s.threads t = .entering next)
      (free : s.resource = none) :
      LogStep isDbgPrintNeeded s [] ({ s with resource := some t }.goto t (.switching next))
  /-- The buffers are switched under the spin lock. -/
  | switch {t : T} {next : LogThread} (here : s.threads t = .switching next) :
      LogStep isDbgPrintNeeded s [.switched t]
        ({ s with info := switchLogBuffer s.info }.goto t
          (.flushing next s.info.logBufferHead 0))
  /-- An entry is written, without its printed bit. -/
  | write {t : T} {next : LogThread} {old : LogBuffer} {p : ℕ} {bytes : List (BitVec 8)}
      (here : s.threads t = .flushing next old p) (more : (s.info.bytes old).getD p 0 ≠ 0)
      (clear : bytes = logpSetPrintedBit false p (s.info.bytes old)) :
      LogStep isDbgPrintNeeded s [.flushed t (CString.get bytes p)]
        ({ s with
          info := s.info.modify old fun _ => bytes
          file := s.file ++ [CString.get bytes p] }.goto t
          (.flushed next old p (strlen bytes p) (logpIsPrinted (s.info.bytes old) p)))
  /-- A written entry is printed unless it was. -/
  | next {t : T} {next : LogThread} {old : LogBuffer} {p length : ℕ} {printedOut : Bool}
      {text : Option (List (BitVec 8))} {bytes : List (BitVec 8)}
      (here : s.threads t = .flushed next old p length printedOut)
      (print : (text, bytes) = if !printedOut then
        logpDoDbgPrint isDbgPrintNeeded p (s.info.bytes old) else (none, s.info.bytes old)) :
      LogStep isDbgPrintNeeded s (text.toList.map (.flushPrinted t))
        ({ s with
          info := s.info.modify old fun _ => bytes
          dbgPrints := s.dbgPrints ++ text.toList }.goto t (.flushing next old (p + length + 1)))
  /-- The loop ends, and the resource is released. -/
  | leave {t : T} {next : LogThread} {old : LogBuffer} {p : ℕ}
      (here : s.threads t = .flushing next old p) (done : (s.info.bytes old).getD p 0 = 0) :
      LogStep isDbgPrintNeeded s []
        ({ s with
          info := s.info.modify old fun bytes => bytes.set 0 0
          resource := none }.goto t next)
  /-- `LogpWriteMessageToFile`. -/
  | direct {t : T} {message : List (BitVec 8)} {doDbgPrint : Bool}
      (here : s.threads t = .writing message doDbgPrint) :
      LogStep isDbgPrintNeeded s [.written t (CString.get message 0)]
        ({ s with file := s.file ++ [CString.get message 0] }.goto t
          (.printing message doDbgPrint))
  /-- `LogpPut` prints its message if it is to, and returns. -/
  | print {t : T} {message : List (BitVec 8)} {doDbgPrint : Bool} {text : Option (List (BitVec 8))}
      (here : s.threads t = .printing message doDbgPrint)
      (print : text = if doDbgPrint then (logpDoDbgPrint isDbgPrintNeeded 0 message).1 else none) :
      LogStep isDbgPrintNeeded s (text.toList.map (.printed t))
        ({ s with dbgPrints := s.dbgPrints ++ text.toList }.goto t .idle)
  /-- `LogpInitializeLogFile` activates the log file. -/
  | activate : LogStep isDbgPrintNeeded s []
      { s with info := { s.info with bufferFlushThreadShouldBeAlive := true } }

/-- A run with its trace. -/
inductive LogRun (isDbgPrintNeeded : Bool) (s₀ : LogSystem T) :
    List (LogEvent T) → LogSystem T → Prop where
  | refl : LogRun isDbgPrintNeeded s₀ [] s₀
  | tail {trace events : List (LogEvent T)} {s s' : LogSystem T}
      (run : LogRun isDbgPrintNeeded s₀ trace s) (step : LogStep isDbgPrintNeeded s events s') :
      LogRun isDbgPrintNeeded s₀ (trace ++ events) s'

/-- No thread logs, and nothing was logged. -/
def logStart (T : Type) : LogSystem T where
  info := logpInitializeBufferInfo
  resource := none
  threads _ := .idle
  file := []
  dbgPrints := []

end Steps

end DeviceMon
