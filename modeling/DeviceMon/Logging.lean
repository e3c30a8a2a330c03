import DeviceMon.Log

/-!
# Logging keeps the messages

The trace of a run is a trace of a double buffer (`LogEvent.action`), where a successful
`LogpBufferMessage` pushes an entry, a flush swaps and drains, and a direct write goes to the
output. `BufferInv` ties the memory to the double buffer : the buffer of the head has the
entries of the front one after another, up to the tail. `ThreadInv` is what each thread relies
on, and `LogInv` is the invariant of the runs.
-/

namespace DeviceMon

open DoubleBuffer (Action)

/-! ## Messages -/

/-- A message with its thread, and whether `LogpPut` prints it. -/
structure LogEntry (T : Type) where
  thread : T
  message : List (BitVec 8)
  printed : Bool

/-- What `DbgPrint` gets : LF in place of CR LF. -/
def printedText (message : List (BitVec 8)) : List (BitVec 8) :=
  message.take (message.length - 2) ++ [0x0A]

/-- The entry in the buffer, with its printed bit. -/
def LogEntry.stored {T : Type} (e : LogEntry T) : List (BitVec 8) :=
  if e.printed then logpSetPrintedBit true 0 e.message else e.message

theorem printed_bit : ∀ c : BitVec 8, c.toNat < 0x80 → (c ||| 0x80) &&& 0x7F = c ∧
    c &&& 0x7F = c ∧ (c ||| 0x80) &&& 0x80 ≠ 0 ∧ c &&& 0x80 = 0 ∧ c ||| 0x80 ≠ 0 := by
  decide

section Messages

variable {T : Type} {m : List (BitVec 8)} {e : LogEntry T}

theorem IsLogMessage.cons (h : IsLogMessage m) : ∃ c rest, m = c :: rest ∧ c.toNat < 0x80 := by
  cases m with
  | nil =>
    obtain ⟨text, htext⟩ := h.crlf
    simp at htext
  | cons c rest => exact ⟨c, rest, rfl, h.ascii c rfl⟩

/-- A stored message as its first character and the rest. -/
theorem LogEntry.stored_cons (h : IsLogMessage e.message) : ∃ c rest,
    e.message = c :: rest ∧ c.toNat < 0x80 ∧
      e.stored = (if e.printed then c ||| 0x80 else c) :: rest := by
  obtain ⟨c, rest, heq, hc⟩ := h.cons
  refine ⟨c, rest, heq, hc, ?_⟩
  rw [stored, heq]
  cases e.printed <;> rfl

theorem LogEntry.length_stored (h : IsLogMessage e.message) :
    e.stored.length = e.message.length := by
  obtain ⟨c, rest, heq, -, hst⟩ := stored_cons h
  rw [heq, hst]
  rfl

theorem LogEntry.stored_noNul (h : IsLogMessage e.message) : 0 ∉ e.stored := by
  obtain ⟨c, rest, heq, hc, hst⟩ := stored_cons h
  have hno := h.noNul
  rw [heq, List.mem_cons, not_or] at hno
  rw [hst, List.mem_cons, not_or]
  refine ⟨?_, hno.2⟩
  cases e.printed with
  | false => exact hno.1
  | true => exact (printed_bit c hc).2.2.2.2.symm

/-- The flush sees the printed bit and clears it. -/
theorem LogEntry.flush_stored (h : IsLogMessage e.message) (pre rest : List (BitVec 8)) :
    (pre ++ (e.stored ++ rest)).getD pre.length 0 ≠ 0 ∧
      logpIsPrinted (pre ++ (e.stored ++ rest)) pre.length = e.printed ∧
      logpSetPrintedBit false pre.length (pre ++ (e.stored ++ rest)) =
        pre ++ (e.message ++ rest) := by
  have hno := stored_noNul h
  obtain ⟨c, cs, heq, hc, hst⟩ := stored_cons h
  obtain ⟨hclear, hkeep, hset, hunset, -⟩ := printed_bit c hc
  rw [hst, List.mem_cons, not_or] at hno
  have hget : (pre ++ (e.stored ++ rest)).getD pre.length 0 =
      if e.printed then c ||| 0x80 else c := by
    rw [hst]
    simp
  refine ⟨by rw [hget]; exact fun h0 => hno.1 h0.symm, ?_, ?_⟩
  · rw [logpIsPrinted, hget]
    cases e.printed with
    | false => simpa using hunset
    | true => simpa using hset
  · rw [logpSetPrintedBit, heq, hst, List.cons_append, List.cons_append, CString.modify_append]
    cases e.printed with
    | false => exact congrArg (fun c => pre ++ c :: (cs ++ rest)) hkeep
    | true => exact congrArg (fun c => pre ++ c :: (cs ++ rest)) hclear

/-- `LogpSetPrintedBit` around `LogpBufferMessage`. -/
theorem IsLogMessage.marked (h : IsLogMessage m) (t : T) (printed : Bool) :
    (if printed then logpSetPrintedBit true 0 (m ++ [0]) else m ++ [0]) =
        (⟨t, m, printed⟩ : LogEntry T).stored ++ [0] ∧
      logpSetPrintedBit false 0 ((⟨t, m, printed⟩ : LogEntry T).stored ++ [0]) = m ++ [0] := by
  have hflush := LogEntry.flush_stored (e := ⟨t, m, printed⟩) h [] [0]
  refine ⟨?_, hflush.2.2⟩
  obtain ⟨c, rest, rfl, -⟩ := h.cons
  cases printed <;> rfl

/-- Printing a message replaces CR LF by LF NUL. -/
theorem IsLogMessage.doDbgPrint (h : IsLogMessage m) (pre rest : List (BitVec 8)) :
    ∃ m', m'.length = m.length ∧
      logpDoDbgPrint true pre.length (pre ++ (m ++ 0 :: rest)) =
        (some (printedText m), pre ++ (m' ++ 0 :: rest)) := by
  have hlen : strlen (pre ++ (m ++ 0 :: rest)) pre.length = m.length := by
    rw [strlen, CString.get_append _ _ h.noNul]
  obtain ⟨text, rfl⟩ := h.crlf
  have hno : (0 : BitVec 8) ∉ text ++ [0x0A] := by
    have hnul := h.noNul
    simp only [List.mem_append, List.mem_cons, not_or] at hnul ⊢
    exact ⟨hnul.1, by decide, List.not_mem_nil⟩
  have hlf : (pre ++ (text ++ [0x0D, 0x0A] ++ 0 :: rest)).set (pre.length + text.length) 0x0A =
      pre ++ (text ++ [0x0A]) ++ 0x0A :: 0 :: rest := by
    simp
  have hnul : (pre ++ (text ++ [0x0A]) ++ 0x0A :: 0 :: rest).set (pre.length + text.length + 1) 0 =
      pre ++ ((text ++ [0x0A]) ++ 0 :: (0 :: rest)) := by
    simp [Nat.add_assoc]
  refine ⟨text ++ [0x0A, 0], by simp, ?_⟩
  have hp : pre.length + ((text ++ [0x0D, 0x0A]).length - 2) = pre.length + text.length := by
    simp
  simp only [logpDoDbgPrint, hlen, hp, hlf, hnul, Bool.not_true, Bool.false_eq_true, if_false]
  rw [CString.get_append _ _ hno]
  simp [printedText]

end Messages

/-! ## The memory -/

section Memory

variable {T : Type} {q q' : DoubleBuffer (LogEntry T)} {info info' : LogBufferInfo}

/-- How entries lie in a buffer. -/
def storedEntries (entries : List (LogEntry T)) : List (BitVec 8) :=
  CString.packed (entries.map LogEntry.stored)

theorem storedEntries_append (entries : List (LogEntry T)) (e : LogEntry T) :
    storedEntries (entries ++ [e]) = storedEntries entries ++ (e.stored ++ [0]) := by
  simp [storedEntries]

/-- The buffer of the head has the front, up to the tail and a NUL. -/
structure BufferInv (q : DoubleBuffer (LogEntry T)) (info : LogBufferInfo) : Prop where
  messages : ∀ e ∈ q.back ++ q.front, IsLogMessage e.message
  tail : info.logBufferTail = (info.logBufferHead, (storedEntries q.front).length)
  head : ∃ rest, info.bytes info.logBufferHead = storedEntries q.front ++ 0 :: rest
  length : ∀ b, (info.bytes b).length = kLogpBufferSize

/-- The tail stays inside the buffer. -/
theorem BufferInv.tail_le (h : BufferInv q info) :
    info.logBufferTail.2 ≤ kLogpBufferUsableSize := by
  obtain ⟨rest, hhead⟩ := h.head
  have hlen := h.length info.logBufferHead
  rw [hhead, List.length_append, List.length_cons] at hlen
  rw [h.tail, kLogpBufferUsableSize]
  simp only
  omega

@[simp] theorem LogBufferInfo.bytes_modify_self (info : LogBufferInfo) (b : LogBuffer)
    (f : List (BitVec 8) → List (BitVec 8)) : (info.modify b f).bytes b = f (info.bytes b) :=
  Function.update_self _ _ _

@[simp] theorem LogBufferInfo.bytes_modify_of_ne {b b' : LogBuffer} (h : b' ≠ b)
    (f : List (BitVec 8) → List (BitVec 8)) : (info.modify b f).bytes b' = info.bytes b' :=
  Function.update_of_ne h _ _

@[simp] theorem LogBuffer.other_ne (b : LogBuffer) : b.other ≠ b := by
  cases b <;> decide

@[simp] theorem LogBuffer.other_other (b : LogBuffer) : b.other.other = b := by
  cases b <;> rfl

/-- The copy overwrites the memory after the entries, all of it on success. -/
theorem rtlStringCchCopyA_spec (pre : List (BitVec 8)) {s rest : List (BitVec 8)} {cchDest : ℕ}
    (hs : 0 ∉ s)
    (hroom : cchDest ≤ rest.length) : ∃ rest',
      (rtlStringCchCopyA pre.length cchDest (s ++ [0]) (pre ++ rest)).2 = pre ++ rest' ∧
      rest'.length = rest.length ∧
      ((rtlStringCchCopyA pre.length cchDest (s ++ [0]) (pre ++ rest)).1 = .success →
        s.length < cchDest ∧ rest' = s ++ 0 :: rest.drop (s.length + 1)) := by
  unfold rtlStringCchCopyA
  rw [CString.get_zero [] hs]
  by_cases h0 : cchDest = 0
  · rw [if_pos h0]
    exact ⟨rest, rfl, rfl, fun h => by cases h⟩
  · rw [if_neg h0]
    set copied := s.take (cchDest - 1) ++ [0] with hcopied
    have hlen : copied.length = min (cchDest - 1) s.length + 1 := by
      rw [hcopied, List.length_append, List.length_take, List.length_singleton]
    have hput := CString.put_append (s := copied) pre (rest.drop copied.length)
      (show _ = (rest.take copied.length).length by rw [List.length_take]; omega)
    rw [List.take_append_drop] at hput
    refine ⟨copied ++ rest.drop copied.length, hput, ?_, fun hok => ?_⟩
    · rw [List.length_append, List.length_drop]
      omega
    · have hfits : s.length < cchDest := by
        by_contra hge
        simp [hge] at hok
      have htake : copied = s ++ [0] := by
        rw [hcopied, List.take_of_length_le (by omega)]
      rw [htake]
      exact ⟨hfits, by simp⟩

/-- `LogpBufferMessage` as its copy, the new tail and the NUL there. -/
theorem logpBufferMessage_fields (message : List (BitVec 8)) {b : LogBuffer} {used used' : ℕ}
    {r : CopyStatus × List (BitVec 8)} (htail : info.logBufferTail = (b, used))
    (hr : rtlStringCchCopyA used (kLogpBufferUsableSize - used) message (info.bytes b) = r)
    (hused : used' = if r.1 = .success then used + (strlen message 0 + 1) else used) :
    (logpBufferMessage message info).1 = r.1 ∧
      (logpBufferMessage message info).2.logBufferHead = info.logBufferHead ∧
      (logpBufferMessage message info).2.logBufferTail = (b, used') ∧
      (logpBufferMessage message info).2.bytes b = r.2.set used' 0 ∧
      ∀ b', b' ≠ b → (logpBufferMessage message info).2.bytes b' = info.bytes b' := by
  have htwice : ∀ (tail : ℕ) (b' : LogBuffer), b' ≠ b → Function.update
      (Function.update info.bytes b r.2) b (r.2.set tail 0) b' = info.bytes b' := by
    intro tail b' hb
    rw [Function.update_of_ne hb, Function.update_of_ne hb]
  unfold logpBufferMessage
  simp only [htail, hr]
  by_cases hst : r.1 = .success
  · simp only [hst, if_true] at hused ⊢
    subst hused
    exact ⟨trivial, rfl, rfl, by simp [LogBufferInfo.modify],
      fun b' hb => by simpa [LogBufferInfo.modify] using htwice _ b' hb⟩
  · simp only [if_neg hst] at hused ⊢
    subst hused
    exact ⟨trivial, rfl, htail, by simp [LogBufferInfo.modify, htail],
      fun b' hb => by simpa [LogBufferInfo.modify, htail] using htwice _ b' hb⟩

/-- `LogpBufferMessage` appends the entry, or leaves the entries as they are. -/
theorem BufferInv.bufferMessage (h : BufferInv q info) {e : LogEntry T}
    (he : IsLogMessage e.message) {status : CopyStatus}
    (hcall : logpBufferMessage (e.stored ++ [0]) info = (status, info')) :
    info'.logBufferHead = info.logBufferHead ∧
      info'.bytes info.logBufferHead.other = info.bytes info.logBufferHead.other ∧
      (status = .success → BufferInv { q with front := q.front ++ [e] } info') ∧
      (status ≠ .success → BufferInv q info') := by
  have hno := LogEntry.stored_noNul he
  obtain ⟨rest, hhead⟩ := h.head
  have hsize := h.length info.logBufferHead
  rw [hhead, List.length_append] at hsize
  set used := (storedEntries q.front).length with hused
  have hroom : kLogpBufferUsableSize - used < (0 :: rest).length := by
    rw [kLogpBufferUsableSize]
    simp only [List.length_cons] at hsize ⊢
    omega
  obtain ⟨rest', hcopy, hlen, hok⟩ :=
    rtlStringCchCopyA_spec (storedEntries q.front) hno (Nat.le_of_lt hroom)
  have hget : strlen (e.stored ++ [0]) 0 = e.stored.length :=
    congrArg List.length (CString.get_zero [] hno)
  obtain ⟨hst, hhead', htail', hbytes, hother⟩ := logpBufferMessage_fields (e.stored ++ [0])
    h.tail (r := rtlStringCchCopyA used (kLogpBufferUsableSize - used) (e.stored ++ [0])
      (storedEntries q.front ++ 0 :: rest)) (by rw [hhead]) rfl
  rw [hcall, hget] at htail'
  rw [hcall] at hst hhead' hother
  rw [hcall, hget, hcopy] at hbytes
  simp only at hst hhead' htail' hbytes hother
  rw [← hst] at hok htail' hbytes
  have hlength : ∀ b, b ≠ info.logBufferHead → (info'.bytes b).length = kLogpBufferSize :=
    fun b hb => by rw [hother b hb]; exact h.length b
  refine ⟨hhead', hother _ info.logBufferHead.other_ne, fun hsuccess => ?_, fun hfail => ?_⟩
  · obtain ⟨hfits, rfl⟩ := hok hsuccess
    rw [if_pos hsuccess] at htail' hbytes
    have hne : (0 :: rest).drop (e.stored.length + 1) ≠ [] := fun hnil => by
      have hlen := congrArg List.length hnil
      rw [List.length_drop, List.length_nil] at hlen
      omega
    have hend : (storedEntries (q.front ++ [e])).length = used + (e.stored.length + 1) := by
      rw [storedEntries_append]
      simp [hused]
    have hnew : info'.bytes info.logBufferHead = storedEntries (q.front ++ [e]) ++
        0 :: ((0 :: rest).drop (e.stored.length + 1)).tail := by
      have hsplit : storedEntries q.front ++
          (e.stored ++ 0 :: (0 :: rest).drop (e.stored.length + 1)) =
            storedEntries (q.front ++ [e]) ++ (0 :: rest).drop (e.stored.length + 1) := by
        rw [storedEntries_append]
        simp only [List.append_assoc, List.singleton_append]
      rw [hbytes, hsplit, show (storedEntries q.front).length + _ = _ from hend.symm,
        CString.set_append 0 _ hne]
    refine ⟨fun e' he' => ?_, ?_, ?_, fun b => ?_⟩
    · simp only [List.mem_append, List.mem_singleton] at he'
      rcases he' with hback | hfront | rfl
      · exact h.messages e' (List.mem_append_left _ hback)
      · exact h.messages e' (List.mem_append_right _ hfront)
      · exact he
    · rw [htail', hhead']
      simp only [hend, hused]
    · rw [hhead']
      exact ⟨_, hnew⟩
    · by_cases hb : b = info.logBufferHead
      · rw [hb, hbytes, List.length_set, List.length_append, hlen]
        exact hsize
      · exact hlength b hb
  · rw [if_neg hfail] at htail' hbytes
    have hne : rest' ≠ [] := fun hnil => by
      rw [hnil, List.length_nil, List.length_cons] at hlen
      omega
    rw [CString.set_append 0 _ hne] at hbytes
    refine ⟨h.messages, by rw [htail', hhead'], by rw [hhead']; exact ⟨_, hbytes⟩, fun b => ?_⟩
    by_cases hb : b = info.logBufferHead
    · rw [hb, hbytes, ← CString.set_append 0 _ hne, List.length_set, List.length_append, hlen]
      exact hsize
    · exact hlength b hb

/-- The switch makes the front the back. -/
theorem BufferInv.switch (h : BufferInv q info) (hback : q.back = []) :
    BufferInv (q.act .swap) (switchLogBuffer info) ∧
      (switchLogBuffer info).logBufferHead = info.logBufferHead.other ∧
      (switchLogBuffer info).bytes info.logBufferHead = info.bytes info.logBufferHead := by
  have hlen := h.length info.logBufferHead.other
  have hold : (switchLogBuffer info).bytes info.logBufferHead = info.bytes info.logBufferHead :=
    Function.update_of_ne info.logBufferHead.other_ne.symm _ _
  have hnew : (switchLogBuffer info).bytes info.logBufferHead.other =
      (info.bytes info.logBufferHead.other).set 0 0 :=
    Function.update_self _ _ _
  refine ⟨⟨?_, rfl, ?_, fun b => ?_⟩, rfl, hold⟩
  · simpa [DoubleBuffer.act, hback] using h.messages
  · rw [show (switchLogBuffer info).logBufferHead = info.logBufferHead.other from rfl, hnew]
    generalize info.bytes info.logBufferHead.other = bytes at hlen
    cases bytes with
    | nil => exact absurd hlen (by decide)
    | cons c rest => exact ⟨rest, rfl⟩
  · by_cases hb : b = info.logBufferHead.other
    · rw [hb, hnew, List.length_set, hlen]
    · rw [show (switchLogBuffer info).bytes b = info.bytes b from Function.update_of_ne hb _ _]
      exact h.length b

/-- A change of the old buffer. -/
theorem BufferInv.modifyOld (h : BufferInv q info) {bytes : List (BitVec 8)}
    (hlen : bytes.length = (info.bytes info.logBufferHead.other).length)
    (hfront : q'.front = q.front) (hback : ∀ e ∈ q'.back, e ∈ q.back) :
    BufferInv q' (info.modify info.logBufferHead.other fun _ => bytes) := by
  refine ⟨fun e he => ?_, ?_, ?_, fun b => ?_⟩
  · rw [hfront] at he
    refine h.messages e (List.mem_append.2 ?_)
    exact (List.mem_append.1 he).imp_left (hback e)
  · rw [hfront]
    exact h.tail
  · rw [hfront]
    obtain ⟨rest, hhead⟩ := h.head
    refine ⟨rest, ?_⟩
    rw [← hhead]
    exact LogBufferInfo.bytes_modify_of_ne info.logBufferHead.other_ne.symm _
  · by_cases hb : b = info.logBufferHead.other
    · rw [hb, LogBufferInfo.bytes_modify_self, hlen]
      exact h.length _
    · rw [LogBufferInfo.bytes_modify_of_ne hb]
      exact h.length b

end Memory

/-! ## The threads -/

namespace LogThread

/-- The thread has the resource. -/
def Owns : LogThread → Prop
  | switching _ | flushing _ _ _ | flushed _ _ _ _ _ => True
  | _ => False

/-- What follows a flush. -/
def IsNext (next : LogThread) : Prop :=
  next = .idle ∨ ∃ m doDbgPrint, next = .writing (m ++ [0]) doDbgPrint ∧ IsLogMessage m

end LogThread

section Threads

variable {T : Type} {q q' : DoubleBuffer (LogEntry T)} {info info' : LogBufferInfo} {t : T}
  {l : LogThread}

/-- What thread `t` relies on where it is. In a flush the old buffer has the entries of the back
from the current one on. -/
def ThreadInv (q : DoubleBuffer (LogEntry T)) (info : LogBufferInfo) (t : T) : LogThread → Prop
  | .idle => True
  | .buffering message _ | .printing message _ => ∃ m, message = m ++ [0] ∧ IsLogMessage m
  | .writing message _ => (∃ m, message = m ++ [0] ∧ IsLogMessage m) ∧
      ∀ e ∈ q.back ++ q.front, e.thread ≠ t
  | .entering next => next.IsNext
  | .switching next => next.IsNext ∧ q.back = []
  | .flushing next old p => next.IsNext ∧ old = info.logBufferHead.other ∧
      (∀ e ∈ q.front, e.thread ≠ t) ∧
      ∃ pre rest, info.bytes old = pre ++ (storedEntries q.back ++ 0 :: rest) ∧ p = pre.length
  | .flushed next old p length printedOut => next.IsNext ∧ old = info.logBufferHead.other ∧
      (∀ e ∈ q.front, e.thread ≠ t) ∧
      ∃ pre m rest, info.bytes old = pre ++ (m ++ 0 :: (storedEntries q.back ++ 0 :: rest)) ∧
        p = pre.length ∧ length = m.length ∧ IsLogMessage m ∧
        (q.flushed.getLast?.map fun e => (e.message, e.printed)) = some (m, printedOut)

/-- What a thread relies on survives the steps of others : they add no item of this thread, and
do not touch the old buffer of its flush. -/
theorem ThreadInv.frame (h : ThreadInv q info t l)
    (hitems : ∀ e ∈ q'.back ++ q'.front, e ∈ q.back ++ q.front ∨ e.thread ≠ t)
    (howner : l.Owns → q'.back = q.back ∧ q'.flushed = q.flushed ∧
      (∀ e ∈ q'.front, e ∈ q.front ∨ e.thread ≠ t) ∧ info'.logBufferHead = info.logBufferHead ∧
      info'.bytes info.logBufferHead.other = info.bytes info.logBufferHead.other) :
    ThreadInv q' info' t l := by
  cases l with
  | idle => trivial
  | buffering message doDbgPrint => exact h
  | printing message doDbgPrint => exact h
  | entering next => exact h
  | writing message doDbgPrint =>
    refine ⟨h.1, fun e he => ?_⟩
    rcases hitems e he with hin | hne
    · exact h.2 e hin
    · exact hne
  | switching next =>
    obtain ⟨hback, -⟩ := howner trivial
    exact ⟨h.1, hback.trans h.2⟩
  | flushing next old p =>
    obtain ⟨hnext, rfl, hfront, hbytes⟩ := h
    obtain ⟨hback, -, hfront', hhead, hold⟩ := howner trivial
    refine ⟨hnext, by rw [hhead], fun e he => (hfront' e he).elim (hfront e) id, ?_⟩
    rw [hold, hback]
    exact hbytes
  | flushed next old p length printedOut =>
    obtain ⟨hnext, rfl, hfront, hbytes⟩ := h
    obtain ⟨hback, hlast, hfront', hhead, hold⟩ := howner trivial
    refine ⟨hnext, by rw [hhead], fun e he => (hfront' e he).elim (hfront e) id, ?_⟩
    rw [hold, hback, hlast]
    exact hbytes

theorem threadInv_put {call : PutCall} (hm : IsLogMessage call.message)
    (q : DoubleBuffer (LogEntry T)) (info : LogBufferInfo) (t : T) :
    ThreadInv q info t (logpPut call info) ∧ ¬(logpPut call info).Owns := by
  unfold logpPut
  simp only
  split_ifs
  · exact ⟨Or.inr ⟨_, _, rfl, hm⟩, id⟩
  · exact ⟨⟨_, rfl, hm⟩, id⟩
  · exact ⟨⟨_, rfl, hm⟩, id⟩
  · exact ⟨⟨_, rfl, hm⟩, id⟩

end Threads

/-! ## Runs -/

section Runs

variable {T : Type} {isDbgPrintNeeded : Bool} {s s' : LogSystem T}
  {trace events : List (LogEvent T)} {t : T}

/-- What an event is for the double buffer. -/
def LogEvent.action : LogEvent T → Option (Action (LogEntry T))
  | .buffered t message bit => some (.push ⟨t, message, bit⟩)
  | .switched _ => some .swap
  | .flushed _ _ => some .drain
  | .written t message => some (.direct ⟨t, message, true⟩)
  | _ => none

/-- The actions of a trace. -/
def logActions (trace : List (LogEvent T)) : List (Action (LogEntry T)) :=
  trace.filterMap LogEvent.action

/-- The double buffer of a trace. -/
def logQueue (trace : List (LogEvent T)) : DoubleBuffer (LogEntry T) :=
  .replay (logActions trace)

theorem logActions_append (trace events : List (LogEvent T)) :
    logActions (trace ++ events) = logActions trace ++ logActions events :=
  List.filterMap_append

/-- A step without an action. -/
theorem logQueue_of_silent (trace : List (LogEvent T)) {events : List (LogEvent T)}
    (h : logActions events = []) :
    logActions (trace ++ events) = logActions trace ∧
      logQueue (trace ++ events) = logQueue trace := by
  have heq : logActions (trace ++ events) = logActions trace := by
    rw [logActions_append, h, List.append_nil]
  exact ⟨heq, by rw [logQueue, heq, logQueue]⟩

/-- A step with an action. -/
theorem logQueue_of_action (trace events : List (LogEvent T)) {action : Action (LogEntry T)}
    (h : logActions events = [action]) :
    logActions (trace ++ events) = logActions trace ++ [action] ∧
      logQueue (trace ++ events) = (logQueue trace).act action := by
  have heq : logActions (trace ++ events) = logActions trace ++ [action] := by
    rw [logActions_append, h]
  exact ⟨heq, by rw [logQueue, heq, DoubleBuffer.replay_snoc, logQueue]⟩

/-- What holds between two steps. -/
structure LogInv (trace : List (LogEvent T)) (s : LogSystem T) : Prop where
  buffers : BufferInv (logQueue trace) s.info
  threads : ∀ t, ThreadInv (logQueue trace) s.info t (s.threads t)
  owner : ∀ t, (s.threads t).Owns ↔ s.resource = some t
  free : s.resource = none → (logQueue trace).back = []
  file : s.file = (logQueue trace).output.map fun e => e.1.message
  ordered : DoubleBuffer.Ordered LogEntry.thread (logActions trace)

theorem LogInv.start : LogInv [] (logStart T) := by
  have hlen : initialBuffer.length = kLogpBufferSize := by
    rw [initialBuffer, List.length_cons, List.length_append, List.length_replicate]
    rfl
  exact ⟨⟨fun _ he => (List.not_mem_nil he).elim, rfl, ⟨_, rfl⟩, fun _ => hlen⟩,
    fun _ => trivial, fun _ => ⟨fun h => h.elim, fun h => by cases h⟩, fun _ => rfl, rfl, .nil⟩

theorem LogInv.not_owns (h : LogInv trace s) (hown : (s.threads t).Owns) {u : T} (hu : u ≠ t) :
    ¬(s.threads u).Owns := by
  intro hown'
  have ht := (h.owner t).1 hown
  rw [(h.owner u).1 hown'] at ht
  exact hu (Option.some.inj ht)

/-! ### Steps of a thread -/

variable [DecidableEq T]

/-- A thread goes on, and the others are where they were. -/
theorem LogSystem.threads_goto (s : LogSystem T) (t : T) (next : LogThread) (u : T) :
    (s.goto t next).threads u = if u = t then next else s.threads u :=
  Function.update_apply _ _ _ _

theorem LogSystem.threadInv_goto {q : DoubleBuffer (LogEntry T)} {info : LogBufferInfo}
    {next : LogThread} (hnext : ThreadInv q info t next)
    (hothers : ∀ u, u ≠ t → ThreadInv q info u (s.threads u)) (u : T) :
    ThreadInv q info u ((s.goto t next).threads u) := by
  rw [threads_goto]
  split_ifs with hu
  · rw [hu]
    exact hnext
  · exact hothers u hu

/-- The owner of the resource stays the owner. -/
theorem LogInv.owner_goto (h : LogInv trace s) {s₁ : LogSystem T} {next : LogThread}
    (hthreads : s₁.threads = s.threads) (hresource : s₁.resource = s.resource)
    (howns : next.Owns ↔ (s.threads t).Owns) (u : T) :
    ((s₁.goto t next).threads u).Owns ↔ (s₁.goto t next).resource = some u := by
  rw [LogSystem.threads_goto, show (s₁.goto t next).resource = s₁.resource from rfl, hresource,
    hthreads]
  split_ifs with hu
  · rw [howns, hu]
    exact h.owner t
  · exact h.owner u

/-- A step of `t` that changes neither the double buffer nor the memory nor the owner. -/
theorem LogInv.goto (h : LogInv trace s) {next : LogThread} (hevents : logActions events = [])
    (hnext : ThreadInv (logQueue trace) s.info t next)
    (howns : next.Owns ↔ (s.threads t).Owns) : LogInv (trace ++ events) (s.goto t next) := by
  obtain ⟨hactions, hqueue⟩ := logQueue_of_silent trace hevents
  refine ⟨by rw [hqueue]; exact h.buffers, ?_, h.owner_goto rfl rfl howns,
    by rw [hqueue]; exact h.free, by rw [hqueue]; exact h.file, by rw [hactions]; exact h.ordered⟩
  rw [hqueue]
  exact LogSystem.threadInv_goto hnext fun u _ => h.threads u

/-! ### Steps of `LogpPut` -/

/-- `LogpBufferMessage`, as what it pushes. -/
theorem LogInv.bufferMessage (h : LogInv trace s) {message marked : List (BitVec 8)}
    {doDbgPrint : Bool} {status : CopyStatus} {info : LogBufferInfo}
    (here : s.threads t = .buffering message doDbgPrint)
    (hmark : marked = if doDbgPrint then logpSetPrintedBit true 0 message else message)
    (hcall : logpBufferMessage marked s.info = (status, info))
    (hevents : events =
      if status = .success then [.buffered t (CString.get message 0) doDbgPrint] else []) :
    LogInv (trace ++ events) ({ s with info := info }.goto t
      (.printing (logpSetPrintedBit false 0 marked) doDbgPrint)) := by
  have hthread := h.threads t
  rw [here] at hthread
  obtain ⟨m, rfl, hm⟩ := hthread
  obtain ⟨hmarked, hclear⟩ := hm.marked t doDbgPrint
  rw [hmarked] at hmark
  subst hmark
  obtain ⟨hhead, hold, hsuccess, hfail⟩ :=
    h.buffers.bufferMessage (e := ⟨t, m, doDbgPrint⟩) hm hcall
  have howns : (LogThread.printing (m ++ [0]) doDbgPrint).Owns ↔ (s.threads t).Owns := by
    rw [here]
    exact Iff.rfl
  rw [hclear]
  rw [CString.get_zero [] hm.noNul] at hevents
  by_cases hst : status = .success
  · rw [if_pos hst] at hevents
    subst hevents
    obtain ⟨hactions, hqueue⟩ := logQueue_of_action trace [.buffered t m doDbgPrint] rfl
    refine ⟨by rw [hqueue]; exact hsuccess hst, ?_, h.owner_goto rfl rfl howns,
      by rw [hqueue]; exact h.free, by rw [hqueue]; exact h.file, ?_⟩
    · rw [hqueue]
      refine LogSystem.threadInv_goto ⟨m, rfl, hm⟩ fun u hu => ?_
      have hfront : ∀ e ∈ (logQueue trace).front ++ [⟨t, m, doDbgPrint⟩],
          e ∈ (logQueue trace).front ∨ e.thread ≠ u := by
        intro e he
        rcases List.mem_append.1 he with hin | hnew
        · exact Or.inl hin
        · rw [List.mem_singleton.1 hnew]
          exact Or.inr (Ne.symm hu)
      refine (h.threads u).frame (fun e he => ?_) fun _ => ⟨rfl, rfl, hfront, hhead, hold⟩
      rcases List.mem_append.1 he with hback | hin
      · exact Or.inl (List.mem_append_left _ hback)
      · exact (hfront e hin).imp_left (List.mem_append_right _)
    · rw [hactions]
      exact .snoc h.ordered fun a ha => by cases ha
  · rw [if_neg hst] at hevents
    subst hevents
    rw [List.append_nil]
    refine ⟨hfail hst, ?_, h.owner_goto rfl rfl howns, h.free, h.file, h.ordered⟩
    refine LogSystem.threadInv_goto ⟨m, rfl, hm⟩ fun u _ => ?_
    exact (h.threads u).frame (fun e he => Or.inl he)
      fun _ => ⟨rfl, rfl, fun e he => Or.inl he, hhead, hold⟩

/-- The direct write : after its flush, no item of this thread is left in the buffers. -/
theorem LogInv.direct (h : LogInv trace s) {message : List (BitVec 8)} {doDbgPrint : Bool}
    (here : s.threads t = .writing message doDbgPrint) :
    LogInv (trace ++ [.written t (CString.get message 0)])
      ({ s with file := s.file ++ [CString.get message 0] }.goto t
        (.printing message doDbgPrint)) := by
  have hthread := h.threads t
  rw [here] at hthread
  obtain ⟨hmessage, hclear⟩ := hthread
  obtain ⟨hactions, hqueue⟩ := logQueue_of_action trace [.written t (CString.get message 0)] rfl
  have howns : (LogThread.printing message doDbgPrint).Owns ↔ (s.threads t).Owns := by
    rw [here]
    exact Iff.rfl
  have hflushed : ((logQueue trace).act (.direct ⟨t, CString.get message 0, true⟩)).flushed =
      (logQueue trace).flushed := by
    simp [DoubleBuffer.act, DoubleBuffer.flushed]
  refine ⟨by rw [hqueue]; exact ⟨h.buffers.messages, h.buffers.tail, h.buffers.head,
    h.buffers.length⟩, ?_, h.owner_goto rfl rfl howns, by rw [hqueue]; exact h.free, ?_, ?_⟩
  · rw [hqueue]
    refine LogSystem.threadInv_goto hmessage fun u _ => ?_
    exact (h.threads u).frame (fun e he => Or.inl he)
      fun _ => ⟨rfl, hflushed, fun e he => Or.inl he, rfl, rfl⟩
  · rw [hqueue]
    simp [DoubleBuffer.act, LogSystem.goto, h.file]
  · rw [hactions]
    refine .snoc h.ordered fun a ha => ?_
    cases ha
    exact hclear

/-! ### Steps of `LogpFlushLogBuffer` -/

theorem LogInv.enter (h : LogInv trace s) {next : LogThread}
    (here : s.threads t = .entering next) (hfree : s.resource = none) :
    LogInv (trace ++ []) ({ s with resource := some t }.goto t (.switching next)) := by
  have hthread := h.threads t
  rw [here] at hthread
  have hnobody : ∀ u, ¬(s.threads u).Owns := fun u hown => by
    have hu := (h.owner u).1 hown
    rw [hfree] at hu
    cases hu
  rw [List.append_nil]
  refine ⟨h.buffers, LogSystem.threadInv_goto ⟨hthread, h.free hfree⟩ fun u _ => h.threads u,
    fun u => ?_, fun hnone => (Option.some_ne_none t hnone).elim, h.file, h.ordered⟩
  rw [LogSystem.threads_goto, show LogSystem.resource _ = some t from rfl]
  split_ifs with hu
  · rw [hu]
    exact iff_of_true trivial rfl
  · exact iff_of_false (hnobody u) fun heq => hu (Option.some.inj heq).symm

/-- The switch : what was in the front is now in the back. -/
theorem LogInv.switch (h : LogInv trace s) {next : LogThread}
    (here : s.threads t = .switching next) :
    LogInv (trace ++ [.switched t]) ({ s with info := switchLogBuffer s.info }.goto t
      (.flushing next s.info.logBufferHead 0)) := by
  have hthread := h.threads t
  rw [here] at hthread
  obtain ⟨hnext, hback⟩ := hthread
  obtain ⟨hactions, hqueue⟩ := logQueue_of_action trace [.switched t] rfl
  have hown : (s.threads t).Owns := by rw [here]; trivial
  obtain ⟨hbuffers, hhead, hold⟩ := h.buffers.switch hback
  obtain ⟨rest, hfront⟩ := h.buffers.head
  have howns : (LogThread.flushing next s.info.logBufferHead 0).Owns ↔ (s.threads t).Owns :=
    iff_of_true trivial hown
  refine ⟨by rw [hqueue]; exact hbuffers, ?_, h.owner_goto rfl rfl howns, fun hnone => ?_, ?_, ?_⟩
  · rw [hqueue]
    refine LogSystem.threadInv_goto ?_ fun u hu => ?_
    · refine ⟨hnext, ?_, fun e he => (List.not_mem_nil he).elim, [], rest, ?_, rfl⟩
      · exact (LogBuffer.other_other _).symm
      · refine (hold.trans hfront).trans ?_
        simp [DoubleBuffer.act, hback]
    · refine (h.threads u).frame (fun e he => Or.inl ?_) fun howner =>
        (h.not_owns hown hu howner).elim
      simpa [DoubleBuffer.act] using he
  · rw [show LogSystem.resource _ = s.resource from rfl, (h.owner t).1 hown] at hnone
    cases hnone
  · rw [hqueue]
    exact h.file
  · rw [hactions]
    exact .snoc h.ordered fun a ha => by cases ha

/-- At the loop condition : the current entry is the first of the back, or there is none. -/
theorem BufferInv.current {T : Type} {q : DoubleBuffer (LogEntry T)} {info : LogBufferInfo}
    (h : BufferInv q info) (pre rest : List (BitVec 8)) :
    ((pre ++ (storedEntries q.back ++ 0 :: rest)).getD pre.length 0 = 0 ∧ q.back = []) ∨
      ((pre ++ (storedEntries q.back ++ 0 :: rest)).getD pre.length 0 ≠ 0 ∧
        ∃ e back, q.back = e :: back ∧ IsLogMessage e.message ∧
          pre ++ (storedEntries q.back ++ 0 :: rest) =
            pre ++ (e.stored ++ 0 :: (storedEntries back ++ 0 :: rest))) := by
  cases hback : q.back with
  | nil =>
    refine Or.inl ⟨?_, rfl⟩
    simp [storedEntries]
  | cons e back =>
    have hm : IsLogMessage e.message :=
      h.messages e (List.mem_append_left _ (by rw [hback]; exact List.mem_cons_self))
    have heq : pre ++ (storedEntries (e :: back) ++ 0 :: rest) =
        pre ++ (e.stored ++ 0 :: (storedEntries back ++ 0 :: rest)) := by
      simp [storedEntries]
    refine Or.inr ⟨?_, e, back, rfl, hm, heq⟩
    rw [heq]
    exact (LogEntry.flush_stored hm pre _).1

/-- What a round of the loop writes. -/
theorem BufferInv.written {T : Type} {q : DoubleBuffer (LogEntry T)} {info : LogBufferInfo}
    (h : BufferInv q info) {pre rest bytes : List (BitVec 8)}
    (hmore : (pre ++ (storedEntries q.back ++ 0 :: rest)).getD pre.length 0 ≠ 0)
    (hclear : bytes =
      logpSetPrintedBit false pre.length (pre ++ (storedEntries q.back ++ 0 :: rest))) :
    ∃ e back, q.back = e :: back ∧ IsLogMessage e.message ∧
      bytes = pre ++ (e.message ++ 0 :: (storedEntries back ++ 0 :: rest)) ∧
      bytes.length = (pre ++ (storedEntries q.back ++ 0 :: rest)).length ∧
      CString.get bytes pre.length = e.message ∧
      logpIsPrinted (pre ++ (storedEntries q.back ++ 0 :: rest)) pre.length = e.printed := by
  rcases h.current pre rest with ⟨hzero, -⟩ | ⟨-, e, back, hback, hm, heq⟩
  · exact (hmore hzero).elim
  obtain ⟨-, hprinted, hcleared⟩ := LogEntry.flush_stored hm pre (0 :: (storedEntries back ++
    0 :: rest))
  rw [heq, hcleared] at hclear
  refine ⟨e, back, hback, hm, hclear, ?_, ?_, by rw [heq, hprinted]⟩
  · rw [hclear, heq]
    simp [LogEntry.length_stored hm]
  · rw [hclear]
    exact CString.get_append _ _ hm.noNul

/-- A round of the loop writes the first entry of the back. -/
theorem LogInv.write (h : LogInv trace s) {next : LogThread} {old : LogBuffer} {p : ℕ}
    {bytes : List (BitVec 8)} (here : s.threads t = .flushing next old p)
    (hmore : (s.info.bytes old).getD p 0 ≠ 0)
    (hclear : bytes = logpSetPrintedBit false p (s.info.bytes old)) :
    LogInv (trace ++ [.flushed t (CString.get bytes p)])
      ({ s with
        info := s.info.modify old fun _ => bytes
        file := s.file ++ [CString.get bytes p] }.goto t
        (.flushed next old p (strlen bytes p) (logpIsPrinted (s.info.bytes old) p))) := by
  have hthread := h.threads t
  rw [here] at hthread
  obtain ⟨hnext, rfl, hfront, pre, rest, hbytes, rfl⟩ := hthread
  have hown : (s.threads t).Owns := by rw [here]; trivial
  rw [hbytes] at hmore hclear ⊢
  obtain ⟨e, back, hback, hm, hcleared, hlength, hget, hprinted⟩ :=
    h.buffers.written hmore hclear
  rw [hget, hprinted, strlen, hget]
  obtain ⟨hactions, hqueue⟩ := logQueue_of_action trace [.flushed t e.message] rfl
  have hact : (logQueue trace).act .drain = { logQueue trace with
      back := back, output := (logQueue trace).output ++ [(e, true)] } := by
    simp only [DoubleBuffer.act, hback]
  have hlen : bytes.length = (s.info.bytes s.info.logBufferHead.other).length := by
    rw [hbytes]
    exact hlength
  have howns : (LogThread.flushed next s.info.logBufferHead.other pre.length e.message.length
      e.printed).Owns ↔ (s.threads t).Owns := iff_of_true trivial hown
  refine ⟨?_, ?_, h.owner_goto rfl rfl howns, fun hnone => ?_, ?_, ?_⟩
  · rw [hqueue, hact]
    refine h.buffers.modifyOld hlen rfl fun e' he' => ?_
    rw [hback]
    exact List.mem_cons_of_mem _ he'
  · rw [hqueue, hact]
    refine LogSystem.threadInv_goto ?_ fun u hu => ?_
    · refine ⟨hnext, rfl, hfront, pre, e.message, rest, ?_, rfl, rfl, hm, ?_⟩
      · rw [← hcleared]
        exact Function.update_self _ _ _
      · simp [DoubleBuffer.flushed]
    · refine (h.threads u).frame (fun e' he' => Or.inl ?_) fun howner =>
        (h.not_owns hown hu howner).elim
      rw [hback]
      exact List.mem_cons_of_mem _ he'
  · rw [show LogSystem.resource _ = s.resource from rfl, (h.owner t).1 hown] at hnone
    cases hnone
  · rw [hqueue, hact]
    simp [LogSystem.goto, h.file]
  · rw [hactions]
    exact .snoc h.ordered fun a ha => by cases ha

/-- Printing an entry of the old buffer leaves the others where they are. -/
theorem LogInv.next (h : LogInv trace s) {next : LogThread} {old : LogBuffer} {p length : ℕ}
    {printedOut : Bool} {text : Option (List (BitVec 8))} {bytes : List (BitVec 8)}
    (here : s.threads t = .flushed next old p length printedOut)
    (hprint : (text, bytes) = if !printedOut then
      logpDoDbgPrint isDbgPrintNeeded p (s.info.bytes old) else (none, s.info.bytes old)) :
    LogInv (trace ++ text.toList.map (.flushPrinted t))
      ({ s with
        info := s.info.modify old fun _ => bytes
        dbgPrints := s.dbgPrints ++ text.toList }.goto t
        (.flushing next old (p + length + 1))) := by
  have hthread := h.threads t
  rw [here] at hthread
  obtain ⟨hnext, rfl, hfront, pre, m, rest, hbytes, rfl, rfl, hm, -⟩ := hthread
  have hown : (s.threads t).Owns := by rw [here]; trivial
  obtain ⟨hactions, hqueue⟩ := logQueue_of_silent trace
    (show logActions (text.toList.map (.flushPrinted t)) = [] by cases text <;> rfl)
  -- whatever is printed, the entry keeps its length
  obtain ⟨m', hlen, hbytes'⟩ : ∃ m', m'.length = m.length ∧
      bytes = pre ++ (m' ++ 0 :: (storedEntries (logQueue trace).back ++ 0 :: rest)) := by
    have hsnd := congrArg Prod.snd hprint
    simp only at hsnd
    by_cases hno : printedOut = true ∨ isDbgPrintNeeded = false
    · refine ⟨m, rfl, ?_⟩
      rw [hsnd, ← hbytes]
      rcases hno with hp | hn
      · simp [hp]
      · cases printedOut <;> simp [logpDoDbgPrint, hn]
    · obtain ⟨hp, hn⟩ := not_or.1 hno
      rw [Bool.not_eq_true] at hp
      rw [Bool.not_eq_false] at hn
      obtain ⟨m', hlen, heq⟩ := hm.doDbgPrint pre (storedEntries (logQueue trace).back ++ 0 :: rest)
      refine ⟨m', hlen, ?_⟩
      rw [hsnd, hp, hn, hbytes, heq]
      rfl
  have howns : (LogThread.flushing next s.info.logBufferHead.other
      (pre.length + m.length + 1)).Owns ↔ (s.threads t).Owns := iff_of_true trivial hown
  refine ⟨?_, ?_, h.owner_goto rfl rfl howns, fun hnone => ?_, by rw [hqueue]; exact h.file,
    by rw [hactions]; exact h.ordered⟩
  · rw [hqueue]
    refine h.buffers.modifyOld ?_ rfl fun e he => he
    rw [hbytes, hbytes']
    simp [hlen]
  · rw [hqueue]
    refine LogSystem.threadInv_goto ?_ fun u hu => ?_
    · refine ⟨hnext, rfl, hfront, pre ++ (m' ++ [0]), rest, ?_, ?_⟩
      · refine (Function.update_self _ _ _).trans ?_
        rw [hbytes']
        simp
      · simp only [List.length_append, List.length_singleton, hlen]
        omega
    · exact (h.threads u).frame (fun e he => Or.inl he) fun howner =>
        (h.not_owns hown hu howner).elim
  · rw [show LogSystem.resource _ = s.resource from rfl, (h.owner t).1 hown] at hnone
    cases hnone

/-- After the loop the back is empty. -/
theorem LogInv.leave (h : LogInv trace s) {next : LogThread} {old : LogBuffer} {p : ℕ}
    (here : s.threads t = .flushing next old p) (hdone : (s.info.bytes old).getD p 0 = 0) :
    LogInv (trace ++ []) ({ s with
      info := s.info.modify old fun bytes => bytes.set 0 0
      resource := none }.goto t next) := by
  have hthread := h.threads t
  rw [here] at hthread
  obtain ⟨hnext, rfl, hfront, pre, rest, hbytes, rfl⟩ := hthread
  have hown : (s.threads t).Owns := by rw [here]; trivial
  rw [hbytes] at hdone
  rcases h.buffers.current pre rest with ⟨-, hback⟩ | ⟨hne, -⟩
  swap
  · exact (hne hdone).elim
  have hnot : ¬next.Owns := by
    rcases hnext with rfl | ⟨m, doDbgPrint, rfl, -⟩ <;> exact id
  rw [List.append_nil]
  refine ⟨?_, ?_, fun u => ?_, fun _ => hback, h.file, h.ordered⟩
  · exact h.buffers.modifyOld (List.length_set) rfl fun e he => he
  · refine LogSystem.threadInv_goto ?_ fun u hu => ?_
    · rcases hnext with rfl | ⟨m, doDbgPrint, rfl, hm⟩
      · trivial
      · refine ⟨⟨m, rfl, hm⟩, fun e he => hfront e ?_⟩
        rwa [hback, List.nil_append] at he
    · exact (h.threads u).frame (fun e he => Or.inl he) fun howner =>
        (h.not_owns hown hu howner).elim
  · rw [LogSystem.threads_goto, show LogSystem.resource _ = none from rfl]
    split_ifs with hu
    · exact iff_of_false hnot (by simp)
    · exact iff_of_false (h.not_owns hown hu) (by simp)

/-- Every step keeps the invariant. -/
theorem LogInv.step (h : LogInv trace s) (hs : LogStep isDbgPrintNeeded s events s') :
    LogInv (trace ++ events) s' := by
  cases hs with
  | put here hm =>
    obtain ⟨hthread, hnot⟩ := threadInv_put hm (logQueue trace) s.info _
    exact h.goto rfl hthread (iff_of_false hnot (by rw [here]; exact id))
  | flush here =>
    exact h.goto rfl (Or.inl rfl) (iff_of_false id (by rw [here]; exact id))
  | buffer here hmark hcall => exact h.bufferMessage here hmark hcall rfl
  | refuse here hmark hcall hfail =>
    exact h.bufferMessage here hmark hcall (by rw [if_neg hfail])
  | enter here hfree => exact h.enter here hfree
  | switch here => exact h.switch here
  | write here hmore hclear => exact h.write here hmore hclear
  | next here hprint => exact h.next here hprint
  | leave here hdone => exact h.leave here hdone
  | direct here => exact h.direct here
  | @print t message doDbgPrint text here hprint =>
    have h₁ : LogInv trace { s with dbgPrints := s.dbgPrints ++ text.toList } :=
      ⟨h.buffers, h.threads, h.owner, h.free, h.file, h.ordered⟩
    exact h₁.goto (by cases text <;> rfl) trivial (iff_of_false id (by rw [here]; exact id))
  | activate =>
    rw [List.append_nil]
    refine ⟨⟨h.buffers.messages, h.buffers.tail, h.buffers.head, h.buffers.length⟩,
      fun u => ?_, h.owner, h.free, h.file, h.ordered⟩
    exact (h.threads u).frame (fun e he => Or.inl he)
      fun _ => ⟨rfl, rfl, fun e he => Or.inl he, rfl, rfl⟩

theorem LogInv.run (hr : LogRun isDbgPrintNeeded (logStart T) trace s) : LogInv trace s := by
  induction hr with
  | refl => exact .start
  | tail _ hs ih => exact ih.step hs

end Runs

end DeviceMon
