import DeviceMon.Logging

/-!
# The status of `LogpPut`

One call of `LogpPut`, when the file system may fail : `FileOutcome` has the statuses it answers
with. A call on an enabled log file buffers its message, or flushes the buffer and writes the
message to the file (`PutCall.WritesToFile`).

A call that succeeds has appended or written its message, unless it was to write to the file and
all APCs are disabled, or `ZwWriteFile` failed and `ZwFlushBuffersFile` did not
(`logpPut_success_kept_iff`).

Where the file system succeeds and the other threads stand still, a call is a run of its thread
(`logpPut_run`).
-/

namespace DeviceMon

/-! ## Statuses -/

/-- `NT_SUCCESS`. -/
def ntSuccess (status : BitVec 32) : Bool :=
  !status.msb

/-- `STATUS_SUCCESS`. -/
def statusSuccess : BitVec 32 :=
  0

/-- The results of `RtlStringCchCopyA` : `STATUS_INVALID_PARAMETER` and `STATUS_BUFFER_OVERFLOW`
are failures. -/
def CopyStatus.ntStatus : CopyStatus → BitVec 32
  | success => statusSuccess
  | invalidParameter => 0xC000000D
  | bufferOverflow => 0x80000005

theorem CopyStatus.ntSuccess_iff (status : CopyStatus) :
    ntSuccess status.ntStatus = true ↔ status = .success := by
  cases status <;> decide

/-- What the file system answers during a call : to `ZwWriteFile` of the entry at a place of the
buffer, to that of the message, and to `ZwFlushBuffersFile`. -/
structure FileOutcome where
  entry : ℕ → BitVec 32
  message : BitVec 32
  flush : BitVec 32

/-! ## The call -/

/-- A part of the file, with what wrote it. -/
inductive FileWrite where
  /-- `LogpFlushLogBuffer`. -/
  | flushed (entry : List (BitVec 8))
  /-- `LogpWriteMessageToFile`. -/
  | direct (message : List (BitVec 8))

/-- What a call works on. -/
structure LogState where
  info : LogBufferInfo
  file : List FileWrite
  dbgPrints : List (List (BitVec 8))

/-- `ZwWriteFile`. -/
def zwWriteFile (status : BitVec 32) (data : FileWrite) (s : LogState) : LogState :=
  if ntSuccess status then { s with file := s.file ++ [data] } else s

/-- `DbgPrintEx`, if there is a text. -/
def LogState.dbgPrint (text : Option (List (BitVec 8))) (s : LogState) : LogState :=
  { s with dbgPrints := s.dbgPrints ++ text.toList }

@[simp] theorem info_zwWriteFile (status : BitVec 32) (data : FileWrite) (s : LogState) :
    (zwWriteFile status data s).info = s.info := by
  unfold zwWriteFile
  split_ifs
  · rfl
  · rfl

theorem length_logpDoDbgPrint (isDbgPrintNeeded : Bool) (p : ℕ) (message : List (BitVec 8)) :
    (logpDoDbgPrint isDbgPrintNeeded p message).2.length = message.length := by
  cases isDbgPrintNeeded with
  | false => rfl
  | true => simp [logpDoDbgPrint]

/-- The old buffer after the entry at `p`, with what is printed. -/
def flushEntry (isDbgPrintNeeded : Bool) (p : ℕ) (bytes : List (BitVec 8)) :
    Option (List (BitVec 8)) × List (BitVec 8) :=
  let printedOut := logpIsPrinted bytes p
  let bytes := logpSetPrintedBit false p bytes
  if !printedOut then logpDoDbgPrint isDbgPrintNeeded p bytes else (none, bytes)

theorem length_flushEntry (isDbgPrintNeeded : Bool) (p : ℕ) (bytes : List (BitVec 8)) :
    (flushEntry isDbgPrintNeeded p bytes).2.length = bytes.length := by
  have hclear : (logpSetPrintedBit false p bytes).length = bytes.length := List.length_modify _ _ _
  simp only [flushEntry]
  split_ifs
  · rw [length_logpDoDbgPrint, hclear]
  · exact hclear

/-- The loop of `LogpFlushLogBuffer`, with `current_log_entry` at `p`. -/
def flushEntries (isDbgPrintNeeded : Bool) (outcome : FileOutcome) (oldLogBuffer : LogBuffer)
    (p : ℕ) (status : BitVec 32) (s : LogState) : BitVec 32 × LogState :=
  let bytes := s.info.bytes oldLogBuffer
  if bytes.getD p 0 ≠ 0 then
    let currentLogEntry := CString.get (logpSetPrintedBit false p bytes) p
    let currentLogEntryLength := currentLogEntry.length
    let status := outcome.entry p
    let r := flushEntry isDbgPrintNeeded p bytes
    flushEntries isDbgPrintNeeded outcome oldLogBuffer (p + currentLogEntryLength + 1) status
      ({ zwWriteFile status (.flushed currentLogEntry) s with
        info := s.info.modify oldLogBuffer fun _ => r.2 }.dbgPrint r.1)
  else (status, s)
termination_by (s.info.bytes oldLogBuffer).length - p
decreasing_by
  rename_i hmore
  have hp : p < (s.info.bytes oldLogBuffer).length := by
    by_contra hge
    have hnone := List.getElem?_eq_none (Nat.le_of_not_lt hge)
    exact hmore (by rw [List.getD_eq_getElem?_getD, hnone]; rfl)
  simp only [LogState.dbgPrint, LogBufferInfo.bytes_modify_self, length_flushEntry]
  omega

/-- `LogpFlushLogBuffer`. -/
def logpFlushLogBuffer (isDbgPrintNeeded : Bool) (outcome : FileOutcome) (s : LogState) :
    BitVec 32 × LogState :=
  let oldLogBuffer := s.info.logBufferHead
  let s := { s with info := switchLogBuffer s.info }
  let (status, s) := flushEntries isDbgPrintNeeded outcome oldLogBuffer 0 statusSuccess s
  (status, { s with info := s.info.modify oldLogBuffer fun bytes => bytes.set 0 0 })

/-- `LogpWriteMessageToFile`. -/
def logpWriteMessageToFile (outcome : FileOutcome) (message : List (BitVec 8)) (s : LogState) :
    BitVec 32 × LogState :=
  let s := zwWriteFile outcome.message (.direct (CString.get message 0)) s
  (outcome.flush, s)

/-- Whether `LogpPut` takes the message to the file. -/
def PutCall.WritesToFile (call : PutCall) (info : LogBufferInfo) : Prop :=
  call.logAttribute &&& kLogpLevelOptSafe = 0 ∧ call.irql = passiveLevel ∧
    info.bufferFlushThreadShouldBeAlive = true

instance (call : PutCall) (info : LogBufferInfo) : Decidable (call.WritesToFile info) :=
  inferInstanceAs (Decidable (_ ∧ _ ∧ _))

/-- `LogpPut` up to `LogpDoDbgPrint`, with the message then. -/
def logpPutMessage (isDbgPrintNeeded : Bool) (outcome : FileOutcome) (call : PutCall)
    (s : LogState) : BitVec 32 × List (BitVec 8) × LogState :=
  let message := call.message ++ [0]
  if s.info.logFileEnabled then
    if call.WritesToFile s.info then
      if !call.areAllApcsDisabled then
        let s := (logpFlushLogBuffer isDbgPrintNeeded outcome s).2
        let (status, s) := logpWriteMessageToFile outcome message s
        (status, message, s)
      else (statusSuccess, message, s)
    else
      let message := if call.doDbgPrint then logpSetPrintedBit true 0 message else message
      let (status, info) := logpBufferMessage message s.info
      (status.ntStatus, logpSetPrintedBit false 0 message, { s with info := info })
  else (statusSuccess, message, s)

/-- `LogpPut`. -/
def LogState.logpPut (isDbgPrintNeeded : Bool) (outcome : FileOutcome) (call : PutCall)
    (s : LogState) : BitVec 32 × LogState :=
  let (status, message, s) := logpPutMessage isDbgPrintNeeded outcome call s
  if call.doDbgPrint then (status, s.dbgPrint (logpDoDbgPrint isDbgPrintNeeded 0 message).1)
  else (status, s)

/-! ## What a call keeps -/

/-- The tail lies in the buffer of the head, in front of its last character. -/
structure LogBufferInfo.WellFormed (info : LogBufferInfo) : Prop where
  buffer : info.logBufferTail.1 = info.logBufferHead
  tail_le : info.logBufferTail.2 ≤ kLogpBufferUsableSize
  length : ∀ b, (info.bytes b).length = kLogpBufferSize

/-- The buffered entries : the active buffer up to the tail. -/
def LogBufferInfo.activeLog (info : LogBufferInfo) : List (BitVec 8) :=
  (info.bytes info.logBufferHead).take info.logBufferTail.2

section Kept

variable {T : Type} {q : DoubleBuffer (LogEntry T)} {info info' : LogBufferInfo}
  {isDbgPrintNeeded : Bool} {outcome : FileOutcome} {call : PutCall} {s : LogState}

theorem BufferInv.wellFormed (h : BufferInv q info) : info.WellFormed :=
  ⟨by rw [h.tail], h.tail_le, h.length⟩

/-- In every run of the threads the tail is in place. -/
theorem LogRun.wellFormed [DecidableEq T] {trace : List (LogEvent T)} {s : LogSystem T}
    (hr : LogRun isDbgPrintNeeded (logStart T) trace s) : s.info.WellFormed :=
  (LogInv.run hr).buffers.wellFormed

/-- `LogpBufferMessage` appends the message, or keeps what is buffered. -/
theorem LogBufferInfo.WellFormed.bufferMessage (h : info.WellFormed) {message : List (BitVec 8)}
    (hmessage : 0 ∉ message) :
    (logpBufferMessage (message ++ [0]) info).2.WellFormed ∧
      (logpBufferMessage (message ++ [0]) info).2.logBufferHead = info.logBufferHead ∧
      ((logpBufferMessage (message ++ [0]) info).1 = .success →
        (logpBufferMessage (message ++ [0]) info).2.activeLog =
          info.activeLog ++ (message ++ [0])) := by
  obtain ⟨hbuffer, htail, hlength⟩ := h
  have hsize := hlength info.logBufferHead
  have hused : info.activeLog.length = info.logBufferTail.2 := by
    rw [LogBufferInfo.activeLog, List.length_take, hsize]
    exact Nat.min_eq_left (Nat.le_trans htail (Nat.sub_le _ _))
  have hsplit : info.activeLog ++ (info.bytes info.logBufferHead).drop info.logBufferTail.2 =
      info.bytes info.logBufferHead := List.take_append_drop _ _
  have hrest : ((info.bytes info.logBufferHead).drop info.logBufferTail.2).length =
      kLogpBufferSize - info.logBufferTail.2 := by rw [List.length_drop, hsize]
  generalize (info.bytes info.logBufferHead).drop info.logBufferTail.2 = rest at hsplit hrest
  have hroom : kLogpBufferUsableSize - info.logBufferTail.2 < rest.length := by
    rw [hrest, kLogpBufferUsableSize]
    have hpos : 0 < kLogpBufferSize := by decide
    rw [kLogpBufferUsableSize] at htail
    omega
  obtain ⟨rest', hcopy, hlen, hok⟩ :=
    rtlStringCchCopyA_spec info.activeLog hmessage (Nat.le_of_lt hroom)
  have hget : strlen (message ++ [0]) 0 = message.length :=
    congrArg List.length (CString.get_zero [] hmessage)
  obtain ⟨hst, hhead', htail', hbytes, hother⟩ := logpBufferMessage_fields (message ++ [0])
    (Prod.ext hbuffer rfl : info.logBufferTail = (info.logBufferHead, info.logBufferTail.2))
    (r := rtlStringCchCopyA info.activeLog.length (kLogpBufferUsableSize - info.logBufferTail.2)
      (message ++ [0]) (info.activeLog ++ rest)) (by rw [hsplit, hused]) rfl
  rw [hget] at htail' hbytes
  rw [hcopy] at hbytes
  have hlengths : ∀ b, ((logpBufferMessage (message ++ [0]) info).2.bytes b).length =
      kLogpBufferSize := fun b => by
    by_cases hb : b = info.logBufferHead
    · rw [hb, hbytes, List.length_set, List.length_append, hlen, hused, hrest]
      exact Nat.add_sub_cancel' (Nat.le_trans htail (Nat.sub_le _ _))
    · rw [hother b hb, hlength]
  rw [← hst] at hok htail' hbytes
  by_cases hsuccess : (logpBufferMessage (message ++ [0]) info).1 = .success
  · obtain ⟨hfits, rfl⟩ := hok hsuccess
    rw [if_pos hsuccess] at htail' hbytes
    refine ⟨⟨?_, ?_, hlengths⟩, hhead', fun _ => ?_⟩
    · rw [htail', hhead']
    · rw [htail']
      simp only
      omega
    · have hend : info.logBufferTail.2 + (message.length + 1) =
          (info.activeLog ++ (message ++ [0])).length := by
        simp [hused]
      have happended : info.activeLog ++ (message ++ 0 :: rest.drop (message.length + 1)) =
          info.activeLog ++ (message ++ [0]) ++ rest.drop (message.length + 1) := by
        simp
      rw [LogBufferInfo.activeLog, hhead', htail', hbytes, List.take_set_of_le (Nat.le_refl _)]
      simp only [hend, happended, List.take_left']
  · rw [if_neg hsuccess] at htail'
    refine ⟨⟨?_, ?_, hlengths⟩, hhead', fun h => (hsuccess h).elim⟩
    · rw [htail', hhead']
    · rw [htail']
      exact htail

/-- A change of one buffer that keeps its length. -/
theorem length_modify (info : LogBufferInfo) (b : LogBuffer)
    (f : List (BitVec 8) → List (BitVec 8))
    (hlength : (f (info.bytes b)).length = (info.bytes b).length) (b' : LogBuffer) :
    ((info.modify b f).bytes b').length = (info.bytes b').length := by
  by_cases hb : b' = b
  · rw [hb, LogBufferInfo.bytes_modify_self, hlength]
  · rw [LogBufferInfo.bytes_modify_of_ne hb]

/-- What a flush does to the rest of the state. -/
structure Flushes (s s' : LogState) : Prop where
  file : ∃ entries : List (List (BitVec 8)), s'.file = s.file ++ entries.map .flushed
  length : ∀ b, (s'.info.bytes b).length = (s.info.bytes b).length
  head : s'.info.logBufferHead = s.info.logBufferHead
  tail : s'.info.logBufferTail = s.info.logBufferTail

theorem Flushes.trans {s' s'' : LogState} (h : Flushes s s') (h' : Flushes s' s'') :
    Flushes s s'' := by
  obtain ⟨entries, hfile⟩ := h.file
  obtain ⟨entries', hfile'⟩ := h'.file
  refine ⟨⟨entries ++ entries', ?_⟩, fun b => (h'.length b).trans (h.length b),
    h'.head.trans h.head, h'.tail.trans h.tail⟩
  rw [hfile', hfile, List.map_append, List.append_assoc]

/-- An entry is written, or not. -/
theorem flushes_entry (status : BitVec 32) (entry : List (BitVec 8)) (b : LogBuffer)
    {bytes : List (BitVec 8)} (hlength : bytes.length = (s.info.bytes b).length)
    (text : Option (List (BitVec 8))) :
    Flushes s ({ zwWriteFile status (.flushed entry) s with
      info := s.info.modify b fun _ => bytes }.dbgPrint text) := by
  refine ⟨?_, length_modify s.info b (fun _ => bytes) hlength, rfl, rfl⟩
  · cases hstatus : ntSuccess status with
    | false => exact ⟨[], by simp [LogState.dbgPrint, zwWriteFile, hstatus]⟩
    | true => exact ⟨[entry], by simp [LogState.dbgPrint, zwWriteFile, hstatus]⟩

theorem flushes_flushEntries (isDbgPrintNeeded : Bool) (outcome : FileOutcome)
    (oldLogBuffer : LogBuffer) (p : ℕ) (status : BitVec 32) (s : LogState) :
    Flushes s (flushEntries isDbgPrintNeeded outcome oldLogBuffer p status s).2 := by
  fun_induction flushEntries isDbgPrintNeeded outcome oldLogBuffer p status s with
  | case1 p status s bytes hmore entry length status' r ih =>
    exact (flushes_entry _ _ _ (length_flushEntry _ _ _) _).trans ih
  | case2 p status s bytes hdone =>
    exact ⟨⟨[], (List.append_nil _).symm⟩, fun _ => rfl, rfl, rfl⟩

/-- A flush leaves the tail at the start of the other buffer. -/
theorem flushLogBuffer_spec (isDbgPrintNeeded : Bool) (outcome : FileOutcome)
    (h : s.info.WellFormed) :
    (∃ entries : List (List (BitVec 8)),
      (logpFlushLogBuffer isDbgPrintNeeded outcome s).2.file =
        s.file ++ entries.map .flushed) ∧
    (logpFlushLogBuffer isDbgPrintNeeded outcome s).2.info.WellFormed ∧
    (logpFlushLogBuffer isDbgPrintNeeded outcome s).2.info.logBufferHead =
      s.info.logBufferHead.other := by
  have hflush := flushes_flushEntries isDbgPrintNeeded outcome s.info.logBufferHead 0
    statusSuccess { s with info := switchLogBuffer s.info }
  refine ⟨hflush.file, ⟨?_, ?_, fun b => ?_⟩, hflush.head⟩
  · exact (congrArg Prod.fst hflush.tail).trans hflush.head.symm
  · have htail := congrArg Prod.snd hflush.tail
    exact Nat.le_trans (Nat.le_of_eq htail) (Nat.zero_le _)
  · have hleft := length_modify (flushEntries isDbgPrintNeeded outcome
      s.info.logBufferHead 0 statusSuccess { s with info := switchLogBuffer s.info }).2.info
      s.info.logBufferHead (fun bytes => bytes.set 0 0) List.length_set b
    have hswitch := length_modify s.info s.info.logBufferHead.other
      (fun bytes => bytes.set 0 0) List.length_set b
    exact hleft.trans ((hflush.length b).trans (hswitch.trans (h.length b)))

/-- `LogpDoDbgPrint` changes neither the buffers nor the file. -/
theorem logpPut_eq (isDbgPrintNeeded : Bool) (outcome : FileOutcome) (call : PutCall)
    (s : LogState) :
    (s.logpPut isDbgPrintNeeded outcome call).1 =
        (logpPutMessage isDbgPrintNeeded outcome call s).1 ∧
      (s.logpPut isDbgPrintNeeded outcome call).2.info =
        (logpPutMessage isDbgPrintNeeded outcome call s).2.2.info ∧
      (s.logpPut isDbgPrintNeeded outcome call).2.file =
        (logpPutMessage isDbgPrintNeeded outcome call s).2.2.file := by
  simp only [LogState.logpPut]
  split_ifs
  · exact ⟨rfl, rfl, rfl⟩
  · exact ⟨rfl, rfl, rfl⟩

/-- The call wrote the message to the file. -/
def Written (message : List (BitVec 8)) (s s' : LogState) : Prop :=
  ∃ writes, s'.file = s.file ++ writes ∧ .direct message ∈ writes

/-- The call appended the message to the active buffer, maybe with the printed bit. -/
def Appended (message : List (BitVec 8)) (printed : Bool) (s s' : LogState) : Prop :=
  s'.info.logBufferHead = s.info.logBufferHead ∧
    s'.info.activeLog = s.info.activeLog ++
      ((if printed then logpSetPrintedBit true 0 message else message) ++ [0])

theorem written_append_iff {message : List (BitVec 8)} {s' : LogState} {writes : List FileWrite}
    (hfile : s'.file = s.file ++ writes) : Written message s s' ↔ .direct message ∈ writes := by
  constructor
  · rintro ⟨writes', hfile', hmem⟩
    rw [hfile] at hfile'
    rwa [List.append_cancel_left hfile']
  · exact fun hmem => ⟨writes, hfile, hmem⟩

/-- Where neither the file nor the buffers change, no message is kept. -/
theorem not_kept_of_unchanged {message : List (BitVec 8)} {printed : Bool} {s' : LogState}
    (hinfo : s'.info = s.info) (hfile : s'.file = s.file) :
    ¬(Written message s s' ∨ Appended message printed s s') := by
  rintro (hwritten | ⟨-, happended⟩)
  · rw [written_append_iff (by rw [hfile, List.append_nil])] at hwritten
    exact List.not_mem_nil hwritten
  · rw [hinfo] at happended
    exact List.append_ne_nil_of_right_ne_nil _ (List.cons_ne_nil _ _)
      (List.self_eq_append_right.1 happended)

/-- A call that buffers its message. -/
theorem logpPutMessage_buffer (isDbgPrintNeeded : Bool) (outcome : FileOutcome)
    (henabled : s.info.logFileEnabled = true)
    (hmessage : IsLogMessage call.message) (hbuffer : ¬call.WritesToFile s.info) :
    (logpPutMessage isDbgPrintNeeded outcome call s).1 = (logpBufferMessage
        ((⟨(), call.message, call.doDbgPrint⟩ : LogEntry Unit).stored ++ [0]) s.info).1.ntStatus ∧
      (logpPutMessage isDbgPrintNeeded outcome call s).2.2.info = (logpBufferMessage
        ((⟨(), call.message, call.doDbgPrint⟩ : LogEntry Unit).stored ++ [0]) s.info).2 := by
  have hmarked := (hmessage.marked () call.doDbgPrint).1
  simp only [logpPutMessage, henabled, hbuffer, if_true, if_false, hmarked]
  exact ⟨trivial, trivial⟩

/-- Buffering succeeds only with the message. -/
theorem buffer_appended (h : s.info.WellFormed) (henabled : s.info.logFileEnabled = true)
    (hmessage : IsLogMessage call.message) (hbuffer : ¬call.WritesToFile s.info)
    (hsuccess : ntSuccess (s.logpPut isDbgPrintNeeded outcome call).1 = true) :
    Appended call.message call.doDbgPrint s (s.logpPut isDbgPrintNeeded outcome call).2 := by
  obtain ⟨hstatus, hinfo, -⟩ := logpPut_eq isDbgPrintNeeded outcome call s
  have hput := logpPutMessage_buffer isDbgPrintNeeded outcome henabled hmessage hbuffer
  rw [hstatus, hput.1, CopyStatus.ntSuccess_iff] at hsuccess
  obtain ⟨-, hhead, happended⟩ := h.bufferMessage (LogEntry.stored_noNul
    (e := ⟨(), call.message, call.doDbgPrint⟩) hmessage)
  rw [Appended, hinfo, hput.2]
  exact ⟨hhead, happended hsuccess⟩

/-- Every call leaves the tail in place. -/
theorem LogBufferInfo.WellFormed.logpPut (h : s.info.WellFormed)
    (hmessage : IsLogMessage call.message) :
    (s.logpPut isDbgPrintNeeded outcome call).2.info.WellFormed := by
  rw [(logpPut_eq isDbgPrintNeeded outcome call s).2.1]
  by_cases henabled : s.info.logFileEnabled
  · by_cases hfile : call.WritesToFile s.info
    · simp only [logpPutMessage, henabled, hfile, if_true]
      split_ifs
      · rw [logpWriteMessageToFile, info_zwWriteFile]
        exact (flushLogBuffer_spec isDbgPrintNeeded outcome h).2.1
      · exact h
    · rw [(logpPutMessage_buffer isDbgPrintNeeded outcome henabled hmessage hfile).2]
      exact (h.bufferMessage (LogEntry.stored_noNul
        (e := ⟨(), call.message, call.doDbgPrint⟩) hmessage)).1
  · rw [logpPutMessage, if_neg henabled]
    exact h

/-- A dropped message. -/
theorem apcsDisabled_dropped (isDbgPrintNeeded : Bool) (outcome : FileOutcome)
    (call : PutCall) (s : LogState) (henabled : s.info.logFileEnabled = true)
    (hfile : call.WritesToFile s.info) (hapcs : call.areAllApcsDisabled = true) :
    (s.logpPut isDbgPrintNeeded outcome call).1 = statusSuccess ∧
      (s.logpPut isDbgPrintNeeded outcome call).2.info = s.info ∧
      (s.logpPut isDbgPrintNeeded outcome call).2.file = s.file := by
  obtain ⟨hstatus, hinfo, hwrites⟩ := logpPut_eq isDbgPrintNeeded outcome call s
  rw [hstatus, hinfo, hwrites]
  simp only [logpPutMessage, henabled, hfile, hapcs, if_true, Bool.not_true, Bool.false_eq_true,
    if_false]
  exact ⟨trivial, trivial, trivial⟩

/-- A message that goes to the file. -/
theorem direct_written (isDbgPrintNeeded : Bool) (outcome : FileOutcome)
    (h : s.info.WellFormed) (henabled : s.info.logFileEnabled = true)
    (hmessage : IsLogMessage call.message) (hfile : call.WritesToFile s.info)
    (hapcs : call.areAllApcsDisabled = false) :
    (s.logpPut isDbgPrintNeeded outcome call).1 = outcome.flush ∧
      (s.logpPut isDbgPrintNeeded outcome call).2.info.logBufferHead =
        s.info.logBufferHead.other ∧
      (Written call.message s (s.logpPut isDbgPrintNeeded outcome call).2 ↔
        ntSuccess outcome.message = true) := by
  obtain ⟨hstatus, hinfo, hwrites⟩ := logpPut_eq isDbgPrintNeeded outcome call s
  obtain ⟨⟨entries, hflushed⟩, -, hhead⟩ := flushLogBuffer_spec isDbgPrintNeeded outcome h
  have hput : logpPutMessage isDbgPrintNeeded outcome call s =
      (outcome.flush, call.message ++ [0], zwWriteFile outcome.message
        (.direct (CString.get (call.message ++ [0]) 0))
        (logpFlushLogBuffer isDbgPrintNeeded outcome s).2) := by
    simp only [logpPutMessage, henabled, hfile, hapcs, if_true, Bool.not_false,
      logpWriteMessageToFile]
  rw [hput, CString.get_zero [] hmessage.noNul] at hstatus hinfo hwrites
  refine ⟨hstatus, ?_, ?_⟩
  · rw [hinfo, info_zwWriteFile, hhead]
  · have hnot : ∀ message, FileWrite.direct message ∉ entries.map .flushed := by
      simp
    cases hwrite : ntSuccess outcome.message with
    | true =>
      refine iff_of_true ⟨entries.map .flushed ++ [.direct call.message], ?_, by simp⟩ rfl
      rw [hwrites, zwWriteFile, if_pos hwrite, hflushed, List.append_assoc]
    | false =>
      refine iff_of_false ?_ (by decide)
      have hkept : (s.logpPut isDbgPrintNeeded outcome call).2.file =
          s.file ++ entries.map .flushed := by
        rw [hwrites, zwWriteFile, if_neg (by simp [hwrite]), hflushed]
      rw [written_append_iff hkept]
      exact hnot _

/-- **Successful log calls.** With the log file enabled, a successful `LogpPut` has written the
message to the file or appended it to the active buffer exactly when : it was not to write to the
file, or not all APCs were disabled, and `ZwWriteFile` succeeded or `ZwFlushBuffersFile` failed. -/
theorem logpPut_success_kept_iff (isDbgPrintNeeded : Bool) (outcome : FileOutcome)
    (call : PutCall) (s : LogState) (h : s.info.WellFormed)
    (henabled : s.info.logFileEnabled = true) (hmessage : IsLogMessage call.message) :
    (ntSuccess (s.logpPut isDbgPrintNeeded outcome call).1 = true →
      Written call.message s (s.logpPut isDbgPrintNeeded outcome call).2 ∨
      Appended call.message call.doDbgPrint s (s.logpPut isDbgPrintNeeded outcome call).2) ↔
    (call.WritesToFile s.info → call.areAllApcsDisabled = false ∧
      (ntSuccess outcome.message = true ∨ ntSuccess outcome.flush = false)) := by
  by_cases hfile : call.WritesToFile s.info
  · simp only [hfile, true_imp_iff]
    cases hapcs : call.areAllApcsDisabled with
    | true =>
      obtain ⟨hstatus, hinfo, hwrites⟩ := apcsDisabled_dropped isDbgPrintNeeded outcome call s
        henabled hfile hapcs
      refine iff_of_false (fun hkept => ?_) (fun h => Bool.noConfusion h.1)
      exact not_kept_of_unchanged hinfo hwrites (hkept (by rw [hstatus]; rfl))
    | false =>
      obtain ⟨hstatus, hhead, hwritten⟩ :=
        direct_written isDbgPrintNeeded outcome h henabled hmessage hfile hapcs
      have hnot : ¬Appended call.message call.doDbgPrint s
          (s.logpPut isDbgPrintNeeded outcome call).2 := fun happended =>
        LogBuffer.other_ne _ (hhead.symm.trans happended.1)
      rw [hstatus, hwritten, or_iff_left hnot]
      cases ntSuccess outcome.flush with
      | true => simp
      | false => simp
  · exact iff_of_true
      (fun hsuccess => Or.inr (buffer_appended h henabled hmessage hfile hsuccess))
      (fun h => (hfile h).elim)

end Kept

/-! ## A call alone -/

/-- What is written. -/
def FileWrite.text : FileWrite → List (BitVec 8)
  | .flushed entry => entry
  | .direct message => message

section Alone

variable {T : Type} [DecidableEq T] {isDbgPrintNeeded : Bool} {outcome : FileOutcome} {t : T}
  {threads : T → LogThread} {resource : Option T} {s₀ s s' : LogSystem T} {next : LogThread}

/-- The state of a call with the threads. -/
def LogState.system (v : LogState) (threads : T → LogThread) (resource : Option T) :
    LogSystem T where
  info := v.info
  resource := resource
  threads := threads
  file := v.file.map FileWrite.text
  dbgPrints := v.dbgPrints

/-- Thread `t` is at `l`, and the others stand still. -/
abbrev LogState.alone (v : LogState) (threads : T → LogThread) (resource : Option T) (t : T)
    (l : LogThread) : LogSystem T :=
  v.system (Function.update threads t l) resource

/-- There is a run from one state to the other. -/
def Reaches (isDbgPrintNeeded : Bool) (s s' : LogSystem T) : Prop :=
  ∃ trace, LogRun isDbgPrintNeeded s trace s'

theorem Reaches.step {events : List (LogEvent T)} {s'' : LogSystem T}
    (h : Reaches isDbgPrintNeeded s₀ s) (hstep : LogStep isDbgPrintNeeded s events s')
    (heq : s' = s'') : Reaches isDbgPrintNeeded s₀ s'' := by
  obtain ⟨trace, hrun⟩ := h
  exact ⟨trace ++ events, heq ▸ hrun.tail hstep⟩

@[simp] theorem LogState.threads_alone (v : LogState) (l : LogThread) :
    (v.alone threads resource t l).threads t = l :=
  Function.update_self _ _ _

/-- A round of the loop of a flush. -/
theorem Reaches.round {v : LogState} {b : LogBuffer} {p : ℕ} {status : BitVec 32}
    (h : Reaches isDbgPrintNeeded s₀ (v.alone threads resource t (.flushing next b p)))
    (hmore : (v.info.bytes b).getD p 0 ≠ 0) (hok : ntSuccess status = true) :
    let entry := CString.get (logpSetPrintedBit false p (v.info.bytes b)) p
    let r := flushEntry isDbgPrintNeeded p (v.info.bytes b)
    Reaches isDbgPrintNeeded s₀ (({ zwWriteFile status (.flushed entry) v with
      info := v.info.modify b fun _ => r.2 }.dbgPrint r.1).alone threads resource t
        (.flushing next b (p + entry.length + 1))) := by
  intro entry r
  have hwritten : Reaches isDbgPrintNeeded s₀ (LogSystem.goto { v.alone threads resource t
      (.flushing next b p) with
        info := v.info.modify b fun _ => logpSetPrintedBit false p (v.info.bytes b)
        file := v.file.map FileWrite.text ++ [entry] } t
      (.flushed next b p entry.length (logpIsPrinted (v.info.bytes b) p))) :=
    h.step (.write (v.threads_alone _) hmore rfl) rfl
  have hprint : (r.1, r.2) = if !logpIsPrinted (v.info.bytes b) p then
      logpDoDbgPrint isDbgPrintNeeded p ((v.info.modify b
        fun _ => logpSetPrintedBit false p (v.info.bytes b)).bytes b)
      else (none, (v.info.modify b
        fun _ => logpSetPrintedBit false p (v.info.bytes b)).bytes b) := by
    rw [LogBufferInfo.bytes_modify_self]
    rfl
  refine hwritten.step (.next (Function.update_self _ _ _) hprint) ?_
  simp [LogState.system, LogSystem.goto, LogState.dbgPrint, zwWriteFile, hok, FileWrite.text,
    LogBufferInfo.modify, entry]

/-- The loop of a flush runs to its end. -/
theorem Reaches.flushEntries {v : LogState} {b : LogBuffer}
    (hok : ∀ p, ntSuccess (outcome.entry p) = true) (p : ℕ) (status : BitVec 32)
    (h : Reaches isDbgPrintNeeded s₀ (v.alone threads resource t (.flushing next b p))) :
    ∃ p', Reaches isDbgPrintNeeded s₀ ((flushEntries isDbgPrintNeeded outcome b p status v).2.alone
        threads resource t (.flushing next b p')) ∧
      ((flushEntries isDbgPrintNeeded outcome b p status v).2.info.bytes b).getD p' 0 = 0 := by
  fun_induction DeviceMon.flushEntries isDbgPrintNeeded outcome b p status v with
  | case1 p status v bytes hmore entry length status' r ih =>
    exact ih (h.round hmore (hok p))
  | case2 p status v bytes hdone => exact ⟨p, h, not_not.1 hdone⟩

/-- A flush that finds the resource free. -/
theorem Reaches.flush {v : LogState} (hok : ∀ p, ntSuccess (outcome.entry p) = true)
    (h : Reaches isDbgPrintNeeded s₀ (v.alone threads none t (.entering next))) :
    Reaches isDbgPrintNeeded s₀
      ((logpFlushLogBuffer isDbgPrintNeeded outcome v).2.alone threads none t next) := by
  have hentered : Reaches isDbgPrintNeeded s₀ (v.alone threads (some t) t (.switching next)) :=
    h.step (.enter (v.threads_alone _) rfl) (by simp [LogState.system, LogSystem.goto])
  have hswitched : Reaches isDbgPrintNeeded s₀
      (LogState.alone { v with info := switchLogBuffer v.info } threads (some t) t
        (.flushing next v.info.logBufferHead 0)) :=
    hentered.step (.switch (v.threads_alone _)) (by simp [LogState.system, LogSystem.goto])
  obtain ⟨p, hwritten, hdone⟩ := hswitched.flushEntries hok 0 statusSuccess
  refine hwritten.step (.leave (LogState.threads_alone _ _) hdone) ?_
  simp [LogState.system, LogSystem.goto, logpFlushLogBuffer]

/-- The end of a call. -/
theorem Reaches.print {v : LogState} {message : List (BitVec 8)} {doDbgPrint : Bool}
    (h : Reaches isDbgPrintNeeded s₀ (v.alone threads none t (.printing message doDbgPrint))) :
    Reaches isDbgPrintNeeded s₀ ((if doDbgPrint then
      v.dbgPrint (logpDoDbgPrint isDbgPrintNeeded 0 message).1
      else v).alone threads none t .idle) := by
  refine h.step (.print (v.threads_alone _) rfl) ?_
  cases doDbgPrint with
  | false => simp [LogState.system, LogSystem.goto]
  | true => simp [LogState.system, LogSystem.goto, LogState.dbgPrint]

/-- `LogpBufferMessage` in a call, whether it succeeds or not. -/
theorem Reaches.buffer {v : LogState} {message : List (BitVec 8)} {doDbgPrint : Bool}
    (h : Reaches isDbgPrintNeeded s₀ (v.alone threads none t (.buffering message doDbgPrint))) :
    let marked := if doDbgPrint then logpSetPrintedBit true 0 message else message
    Reaches isDbgPrintNeeded s₀
      (LogState.alone { v with info := (logpBufferMessage marked v.info).2 } threads none t
        (.printing (logpSetPrintedBit false 0 marked) doDbgPrint)) := by
  intro marked
  have hgoto : ({ v.alone threads none t (.buffering message doDbgPrint) with
        info := (logpBufferMessage marked v.info).2 } : LogSystem T).goto t
      (.printing (logpSetPrintedBit false 0 marked) doDbgPrint) =
        LogState.alone { v with info := (logpBufferMessage marked v.info).2 } threads none t
          (.printing (logpSetPrintedBit false 0 marked) doDbgPrint) := by
    simp [LogState.system, LogSystem.goto]
  by_cases hstatus : (logpBufferMessage marked v.info).1 = .success
  · exact h.step (.buffer (v.threads_alone _) rfl (Prod.ext hstatus rfl)) hgoto
  · exact h.step (.refuse (v.threads_alone _) rfl rfl hstatus) hgoto

theorem logpPut_thread (call : PutCall) (info : LogBufferInfo) : logpPut call info =
    if info.logFileEnabled then
      if call.WritesToFile info then
        if !call.areAllApcsDisabled then .entering (.writing (call.message ++ [0]) call.doDbgPrint)
        else .printing (call.message ++ [0]) call.doDbgPrint
      else .buffering (call.message ++ [0]) call.doDbgPrint
    else .printing (call.message ++ [0]) call.doDbgPrint :=
  rfl

/-- A call up to `LogpDoDbgPrint`. -/
theorem Reaches.putMessage {call : PutCall} {v : LogState}
    (hok : ∀ p, ntSuccess (outcome.entry p) = true) (hwrite : ntSuccess outcome.message = true)
    (h : Reaches isDbgPrintNeeded s₀ (v.alone threads none t (logpPut call v.info))) :
    Reaches isDbgPrintNeeded s₀
      ((logpPutMessage isDbgPrintNeeded outcome call v).2.2.alone threads none t
        (.printing (logpPutMessage isDbgPrintNeeded outcome call v).2.1 call.doDbgPrint)) := by
  rw [logpPut_thread] at h
  by_cases henabled : v.info.logFileEnabled
  · rw [if_pos henabled] at h
    by_cases hfile : call.WritesToFile v.info
    · rw [if_pos hfile] at h
      cases hapcs : call.areAllApcsDisabled with
      | true => simpa [logpPutMessage, henabled, hfile, hapcs] using h
      | false =>
        rw [hapcs, Bool.not_false, if_pos rfl] at h
        refine (h.flush hok).step (.direct (LogState.threads_alone _ _)) ?_
        simp [logpPutMessage, henabled, hfile, hapcs, logpWriteMessageToFile, zwWriteFile, hwrite,
          LogState.system, LogSystem.goto, FileWrite.text]
    · rw [if_neg hfile] at h
      simpa [logpPutMessage, henabled, hfile] using h.buffer
  · rw [if_neg henabled] at h
    simpa [logpPutMessage, henabled] using h

/-- **A call alone.** While the other threads stand still and the file system succeeds, a call of
`LogpPut` is a run of its thread. -/
theorem logpPut_run {call : PutCall} (v : LogState) (hidle : threads t = .idle)
    (hmessage : IsLogMessage call.message) (hok : ∀ p, ntSuccess (outcome.entry p) = true)
    (hwrite : ntSuccess outcome.message = true) : ∃ trace,
      LogRun isDbgPrintNeeded (v.system threads none) trace
        ((v.logpPut isDbgPrintNeeded outcome call).2.system threads none) := by
  have halone : ∀ v : LogState, v.alone threads none t .idle = v.system threads none := fun v => by
    rw [LogState.alone, ← hidle, Function.update_eq_self]
  have hput : Reaches isDbgPrintNeeded (v.alone threads none t .idle)
      (v.alone threads none t (logpPut call v.info)) :=
    .step ⟨[], .refl⟩ (.put (v.threads_alone _) hmessage)
      (by simp [LogState.system, LogSystem.goto])
  have hend := (hput.putMessage hok hwrite).print
  rw [halone, halone] at hend
  have hprinted : (v.logpPut isDbgPrintNeeded outcome call).2 = if call.doDbgPrint then
      (logpPutMessage isDbgPrintNeeded outcome call v).2.2.dbgPrint (logpDoDbgPrint
        isDbgPrintNeeded 0 (logpPutMessage isDbgPrintNeeded outcome call v).2.1).1
      else (logpPutMessage isDbgPrintNeeded outcome call v).2.2 :=
    apply_ite Prod.snd _ _ _
  rw [hprinted]
  exact hend

end Alone

theorem logpInitializeBufferInfo_wellFormed : logpInitializeBufferInfo.WellFormed :=
  (LogInv.start (T := Unit)).buffers.wellFormed

/-- A call at `PASSIVE_LEVEL`. -/
def passiveCall (areAllApcsDisabled : Bool) : PutCall :=
  ⟨[0x69, 0x0D, 0x0A], 0, 0, areAllApcsDisabled⟩

theorem passiveCall_isLogMessage (areAllApcsDisabled : Bool) :
    IsLogMessage (passiveCall areAllApcsDisabled).message :=
  ⟨show (0 : BitVec 8) ∉ [0x69, 0x0D, 0x0A] by decide, ⟨[0x69], rfl⟩,
    show ∀ c ∈ some (0x69 : BitVec 8), c.toNat < 0x80 by simp⟩

/-- The log file is activated, and nothing was logged. -/
def activatedLog : LogState :=
  ⟨{ logpInitializeBufferInfo with bufferFlushThreadShouldBeAlive := true }, [], []⟩

theorem activatedLog_wellFormed : activatedLog.info.WellFormed :=
  ⟨rfl, logpInitializeBufferInfo_wellFormed.tail_le, logpInitializeBufferInfo_wellFormed.length⟩

theorem logpPut_success_kept_iff_passive :
    Written [0x69, 0x0D, 0x0A] activatedLog
        (activatedLog.logpPut true ⟨fun _ => 0, 0, 0⟩ (passiveCall false)).2 ∨
      Appended [0x69, 0x0D, 0x0A] true activatedLog
        (activatedLog.logpPut true ⟨fun _ => 0, 0, 0⟩ (passiveCall false)).2 :=
  (logpPut_success_kept_iff true ⟨fun _ => 0, 0, 0⟩ (passiveCall false) activatedLog
    activatedLog_wellFormed rfl (passiveCall_isLogMessage false)).2
    (fun _ => ⟨rfl, Or.inl rfl⟩) rfl

/-- With all APCs disabled the message is gone. -/
theorem apcsDisabled_not_kept : ¬∀ (isDbgPrintNeeded : Bool) (outcome : FileOutcome)
    (call : PutCall) (s : LogState), s.info.WellFormed → s.info.logFileEnabled = true →
      IsLogMessage call.message →
      ntSuccess (s.logpPut isDbgPrintNeeded outcome call).1 = true →
      Written call.message s (s.logpPut isDbgPrintNeeded outcome call).2 ∨
        Appended call.message call.doDbgPrint s
          (s.logpPut isDbgPrintNeeded outcome call).2 := by
  intro hall
  obtain ⟨hstatus, hinfo, hfile⟩ := apcsDisabled_dropped true ⟨fun _ => 0, 0, 0⟩
    (passiveCall true) activatedLog rfl ⟨rfl, rfl, rfl⟩ rfl
  exact not_kept_of_unchanged hinfo hfile (hall true ⟨fun _ => 0, 0, 0⟩ (passiveCall true)
    activatedLog activatedLog_wellFormed rfl (passiveCall_isLogMessage true)
    (by rw [hstatus]; rfl))

end DeviceMon
