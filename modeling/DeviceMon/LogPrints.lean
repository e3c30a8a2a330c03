import DeviceMon.Logging

/-!
# Logging prints and writes the messages once

What a run of the logging says about each thread (`CallInv`), and about the flushes and the
`DbgPrint`s (`FlushInv`). A call of `LogpPut` hands its message in at most once and prints it once
if it is to. A flush writes what the last switch took, and prints the entries without the printed
bit. `log_keeps_messages` puts this together with `LogInv`.
-/

namespace DeviceMon

open DoubleBuffer (Action)
open scoped List

section History

variable {T : Type} {isDbgPrintNeeded : Bool} {s s' s₁ : LogSystem T}
  {trace events : List (LogEvent T)} {t : T}

/-! ## What a trace says -/

/-- The thread of an event. -/
def LogEvent.thread : LogEvent T → T
  | .put t _ _ | .buffered t _ _ | .switched t | .flushed t _ | .flushPrinted t _
  | .written t _ | .printed t _ => t

/-- The message of a call of `LogpPut`, and whether it prints. -/
def LogEvent.putEntry : LogEvent T → Option (LogEntry T)
  | .put t message doDbgPrint => some ⟨t, message, doDbgPrint⟩
  | _ => none

/-- What `LogpPut` prints. -/
def LogEvent.putPrint : LogEvent T → Option (List (BitVec 8))
  | .printed _ text => some text
  | _ => none

/-- What a flush prints. -/
def LogEvent.flushPrint : LogEvent T → Option (List (BitVec 8))
  | .flushPrinted _ text => some text
  | _ => none

/-- What is printed. -/
def LogEvent.dbgPrint : LogEvent T → Option (List (BitVec 8))
  | .printed _ text | .flushPrinted _ text => some text
  | _ => none

/-- What a flush writes. -/
def LogEvent.flushWrite : LogEvent T → Option (T × List (BitVec 8))
  | .flushed t entry => some (t, entry)
  | _ => none

/-- The thread of a switch. -/
def LogEvent.switcher : LogEvent T → Option T
  | .switched t => some t
  | _ => none

/-- The thread of the last switch. -/
def lastSwitch (trace : List (LogEvent T)) : Option T :=
  (trace.filterMap LogEvent.switcher).getLast?

/-- The texts of the entries that are printed by `LogpPut`, or of those that are not. -/
def entryTexts (printed : Bool) (entries : List (LogEntry T)) : List (List (BitVec 8)) :=
  (entries.filter fun e => e.printed = printed).map fun e => printedText e.message

/-- What an event of a flush finds : no entry is left at a switch, and an entry is written by
the thread that switched, from the front of those left. -/
def FlushEvent (before : List (LogEvent T)) : LogEvent T → Prop
  | .switched _ => (logQueue before).back = []
  | .flushed t entry => lastSwitch before = some t ∧
      (logQueue before).back.head?.map LogEntry.message = some entry
  | _ => True

/-- Every event of a flush in the trace. -/
def FlushEvents (trace : List (LogEvent T)) : Prop :=
  ∀ before e after, trace = before ++ e :: after → FlushEvent before e

theorem FlushEvents.snoc (h : FlushEvents trace) {e : LogEvent T} (he : FlushEvent trace e) :
    FlushEvents (trace ++ [e]) := by
  intro before e' after heq
  rcases List.eq_nil_or_concat after with rfl | ⟨after, e'', rfl⟩
  · obtain ⟨rfl, hlast⟩ := List.append_inj' heq rfl
    rw [← List.singleton_inj.1 hlast]
    exact he
  · have heq' : trace ++ [e] = (before ++ e' :: after) ++ [e''] := by simpa using heq
    exact h before e' after (List.append_inj' heq' rfl).1

theorem logQueue_snoc (trace : List (LogEvent T)) (e : LogEvent T) :
    logQueue (trace ++ [e]) = e.action.elim (logQueue trace) (logQueue trace).act := by
  have hevents : logActions [e] = e.action.toList := by
    cases h : e.action <;> simp [logActions, h]
  cases h : e.action with
  | none => exact (logQueue_of_silent _ (by rw [hevents, h]; rfl)).2
  | some action => exact (logQueue_of_action _ _ (by rw [hevents, h]; rfl)).2

theorem lastSwitch_append (h : events.filterMap LogEvent.switcher = []) :
    lastSwitch (trace ++ events) = lastSwitch trace := by
  rw [lastSwitch, List.filterMap_append, h, List.append_nil, lastSwitch]

/-- A flush writes what the front had at its switch, one entry after another. -/
theorem FlushEvents.writes {before mid : List (LogEvent T)} (after : List (LogEvent T)) {u : T}
    (h : FlushEvents trace) (heq : trace = before ++ .switched u :: (mid ++ after))
    (hmid : ∀ v, LogEvent.switched v ∉ mid) :
    lastSwitch (before ++ .switched u :: mid) = some u ∧
      mid.filterMap LogEvent.flushWrite ++
        (logQueue (before ++ .switched u :: mid)).back.map (fun e => (u, e.message)) =
      (logQueue before).front.map fun e => (u, e.message) := by
  induction mid using List.reverseRecOn generalizing after with
  | nil =>
    have hempty : (logQueue before).back = [] := h before (.switched u) _ heq
    refine ⟨by simp [lastSwitch, LogEvent.switcher], ?_⟩
    simp [logQueue_snoc, LogEvent.action, DoubleBuffer.act, hempty]
  | append_singleton mid e ih =>
    obtain ⟨hlast, hwrites⟩ := ih (e :: after) (by rw [heq]; simp)
      fun v hv => hmid v (List.mem_append_left _ hv)
    have hevent : FlushEvent (before ++ .switched u :: mid) e :=
      h _ e after (by rw [heq]; simp)
    have hassoc : before ++ LogEvent.switched u :: (mid ++ [e]) =
        (before ++ .switched u :: mid) ++ [e] := by simp
    rw [hassoc]
    generalize before ++ LogEvent.switched u :: mid = sofar at hlast hwrites hevent
    rw [List.filterMap_append, ← hwrites]
    have hlast' : lastSwitch (sofar ++ [e]) = some u := by
      rw [← hlast]
      cases e with
      | switched v => exact absurd (List.mem_append_right _ List.mem_cons_self) (hmid v)
      | _ => simp [lastSwitch, LogEvent.switcher]
    refine ⟨hlast', ?_⟩
    cases e with
    | switched v => exact absurd (List.mem_append_right _ List.mem_cons_self) (hmid v)
    | flushed v entry =>
      obtain ⟨hv, hentry⟩ := hevent
      obtain rfl : u = v := Option.some.inj (hlast.symm.trans hv)
      rw [logQueue_snoc]
      generalize logQueue sofar = q at hentry
      obtain ⟨front, back, output⟩ := q
      cases back with
      | nil => cases hentry
      | cons e back =>
        obtain rfl : e.message = entry := Option.some.inj hentry
        simp [LogEvent.action, DoubleBuffer.act, LogEvent.flushWrite]
    | _ => simp [logQueue_snoc, LogEvent.action, DoubleBuffer.act, LogEvent.flushWrite]

/-! ## Calls of `LogpPut` -/

/-- The message `LogpPut` has yet to hand in. A direct write is at `PASSIVE_LEVEL`, and so it
prints. -/
def LogThread.unissued (t : T) : LogThread → List (LogEntry T)
  | .buffering message doDbgPrint => [⟨t, CString.get message 0, doDbgPrint⟩]
  | .writing message _ => [⟨t, CString.get message 0, true⟩]
  | .entering next | .switching next | .flushing next _ _ | .flushed next _ _ _ _ =>
    next.unissued t
  | .idle | .printing _ _ => []

/-- The text `LogpPut` has yet to print. -/
def LogThread.unprinted : LogThread → List (List (BitVec 8))
  | .buffering message doDbgPrint | .writing message doDbgPrint
  | .printing message doDbgPrint => if doDbgPrint then [printedText (CString.get message 0)] else []
  | .entering next | .switching next | .flushing next _ _ | .flushed next _ _ _ _ =>
    next.unprinted
  | .idle => []

/-- What the events of thread `t` say : a message is handed in at most once, as it was passed in
and in the order of the calls, and a call prints once if it is to. -/
structure CallInv (isDbgPrintNeeded : Bool) (t : T) (own : List (LogEvent T)) (l : LogThread) :
    Prop where
  issued : (logActions own).filterMap Action.issued ++ l.unissued t <+
    own.filterMap LogEvent.putEntry
  printed : isDbgPrintNeeded = true → own.filterMap LogEvent.putPrint ++ l.unprinted =
    entryTexts true (own.filterMap LogEvent.putEntry)

variable {own : List (LogEvent T)} {l l' : LogThread}

/-- A step inside a flush. -/
theorem CallInv.silent (h : CallInv isDbgPrintNeeded t own l)
    (hactions : (logActions events).filterMap Action.issued = [])
    (hputs : events.filterMap LogEvent.putEntry = [])
    (hprints : events.filterMap LogEvent.putPrint = [])
    (hissued : l'.unissued t = l.unissued t) (hprinted : l'.unprinted = l.unprinted) :
    CallInv isDbgPrintNeeded t (own ++ events) l' := by
  constructor
  · rw [logActions_append, List.filterMap_append, hactions, List.filterMap_append, hputs,
      List.append_nil, List.append_nil, hissued]
    exact h.issued
  · rw [List.filterMap_append, hprints, List.filterMap_append, hputs, List.append_nil,
      List.append_nil, hprinted]
    exact h.printed

/-- What `LogpPut` decides on. -/
theorem logpPut_cases (call : PutCall) (info : LogBufferInfo) :
    (logpPut call info = .entering (.writing (call.message ++ [0]) call.doDbgPrint) ∧
        call.doDbgPrint = true) ∨
      logpPut call info = .buffering (call.message ++ [0]) call.doDbgPrint ∨
      logpPut call info = .printing (call.message ++ [0]) call.doDbgPrint := by
  unfold logpPut
  by_cases henabled : info.logFileEnabled
  · simp only [henabled, if_true]
    split_ifs with hpassive hapcs
    · refine Or.inl ⟨rfl, ?_⟩
      simp [PutCall.doDbgPrint, hpassive.1, hpassive.2.1, passiveLevel, clockLevel]
    · exact Or.inr (Or.inr rfl)
    · exact Or.inr (Or.inl rfl)
  · simp only [henabled]
    exact Or.inr (Or.inr rfl)

/-- `LogpPut` is called. -/
theorem CallInv.put (h : CallInv isDbgPrintNeeded t own .idle) {call : PutCall}
    (hm : IsLogMessage call.message) (info : LogBufferInfo) :
    CallInv isDbgPrintNeeded t (own ++ [.put t call.message call.doDbgPrint])
      (logpPut call info) := by
  have hget : CString.get (call.message ++ [0]) 0 = call.message := CString.get_zero [] hm.noNul
  have hissue : (logpPut call info).unissued t = [] ∨
      (logpPut call info).unissued t = [⟨t, call.message, call.doDbgPrint⟩] := by
    rcases logpPut_cases call info with ⟨heq, hd⟩ | heq | heq
    · exact Or.inr (by rw [heq, LogThread.unissued, LogThread.unissued, hget, hd])
    · exact Or.inr (by rw [heq, LogThread.unissued, hget])
    · exact Or.inl (by rw [heq, LogThread.unissued])
  have hprint : (logpPut call info).unprinted =
      if call.doDbgPrint then [printedText call.message] else [] := by
    rcases logpPut_cases call info with ⟨heq, -⟩ | heq | heq
    · rw [heq, LogThread.unprinted, LogThread.unprinted, hget]
    · rw [heq, LogThread.unprinted, hget]
    · rw [heq, LogThread.unprinted, hget]
  have hissued := h.issued
  rw [LogThread.unissued, List.append_nil] at hissued
  constructor
  · rw [logActions_append, List.filterMap_append, List.filterMap_append,
      show logActions [LogEvent.put t call.message call.doDbgPrint] = [] from rfl,
      List.filterMap_nil, List.append_nil]
    refine hissued.append ?_
    rcases hissue with hnil | hput
    · rw [hnil]
      exact List.nil_sublist _
    · rw [hput]
      exact List.Sublist.refl _
  · intro hneeded
    have hprinted := h.printed hneeded
    rw [LogThread.unprinted, List.append_nil] at hprinted
    rw [hprint, List.filterMap_append, List.filterMap_append, hprinted]
    cases hd : call.doDbgPrint <;> simp [entryTexts, LogEvent.putPrint, LogEvent.putEntry]

/-- A message is handed in, or not. -/
theorem CallInv.issue (h : CallInv isDbgPrintNeeded t own l)
    (hactions : (logActions events).filterMap Action.issued <+ l.unissued t)
    (hputs : events.filterMap LogEvent.putEntry = [])
    (hprints : events.filterMap LogEvent.putPrint = [])
    (hissued : l'.unissued t = []) (hprinted : l'.unprinted = l.unprinted) :
    CallInv isDbgPrintNeeded t (own ++ events) l' := by
  constructor
  · rw [logActions_append, List.filterMap_append, List.filterMap_append, hputs, List.append_nil,
      hissued, List.append_nil]
    exact (hactions.append_left _).trans h.issued
  · rw [List.filterMap_append, hprints, List.filterMap_append, hputs, List.append_nil,
      List.append_nil, hprinted]
    exact h.printed

/-- `LogpPut` prints, or not, and returns. -/
theorem CallInv.print {m : List (BitVec 8)} {doDbgPrint : Bool} {text : Option (List (BitVec 8))}
    (h : CallInv isDbgPrintNeeded t own (.printing (m ++ [0]) doDbgPrint)) (hm : IsLogMessage m)
    (hprint : text =
      if doDbgPrint then (logpDoDbgPrint isDbgPrintNeeded 0 (m ++ [0])).1 else none) :
    CallInv isDbgPrintNeeded t (own ++ text.toList.map (.printed t)) .idle := by
  have hissued := h.issued
  have hactions : logActions (text.toList.map (LogEvent.printed t)) = [] := by cases text <;> rfl
  have hputs : (text.toList.map (LogEvent.printed t)).filterMap LogEvent.putEntry = [] := by
    cases text <;> rfl
  constructor
  · rw [logActions_append, hactions, List.append_nil, List.filterMap_append, hputs,
      List.append_nil]
    exact hissued
  · intro hneeded
    rw [List.filterMap_append, List.filterMap_append, hputs, List.append_nil,
      ← h.printed hneeded, List.append_assoc]
    congr 1
    rw [LogThread.unprinted, CString.get_zero [] hm.noNul, hprint, hneeded]
    cases doDbgPrint with
    | false => rfl
    | true =>
      obtain ⟨m', -, heq⟩ := hm.doDbgPrint [] []
      have htext : (logpDoDbgPrint true 0 (m ++ [0])).1 = some (printedText m) :=
        congrArg Prod.fst heq
      rw [if_pos rfl, if_pos rfl, htext]
      rfl

section Steps

variable [DecidableEq T]

/-- The events of thread `t`. -/
def ownEvents (t : T) (trace : List (LogEvent T)) : List (LogEvent T) :=
  trace.filter fun e => e.thread = t

theorem ownEvents_append (h : ∀ e ∈ events, e.thread = t) (u : T) :
    ownEvents u (trace ++ events) = ownEvents u trace ++ if u = t then events else [] := by
  rw [ownEvents, List.filter_append]
  congr 1
  split_ifs with hu
  · rw [List.filter_eq_self]
    intro e he
    simpa [hu] using h e he
  · rw [List.filter_eq_nil_iff]
    intro e he
    simpa [h e he] using Ne.symm hu

/-- A step of `t` keeps the calls of the others. -/
theorem callInv_goto (h : ∀ u, CallInv isDbgPrintNeeded u (ownEvents u trace) (s.threads u))
    {l next : LogThread} (here : s.threads t = l) (hthreads : s₁.threads = s.threads)
    (hevents : ∀ e ∈ events, e.thread = t)
    (hnext : CallInv isDbgPrintNeeded t (ownEvents t trace) l →
      CallInv isDbgPrintNeeded t (ownEvents t trace ++ events) next) (u : T) :
    CallInv isDbgPrintNeeded u (ownEvents u (trace ++ events)) ((s₁.goto t next).threads u) := by
  rw [ownEvents_append hevents, LogSystem.threads_goto, hthreads]
  split_ifs with hu
  · rw [hu]
    exact hnext (here ▸ h t)
  · rw [List.append_nil]
    exact h u

/-- Every step keeps what is known of the calls. -/
theorem CallInv.step (inv : LogInv trace s)
    (h : ∀ u, CallInv isDbgPrintNeeded u (ownEvents u trace) (s.threads u))
    (hs : LogStep isDbgPrintNeeded s events s') (u : T) :
    CallInv isDbgPrintNeeded u (ownEvents u (trace ++ events)) (s'.threads u) := by
  have hbuffer : ∀ {t : T} {message marked : List (BitVec 8)} {doDbgPrint : Bool},
      s.threads t = .buffering message doDbgPrint →
      marked = (if doDbgPrint then logpSetPrintedBit true 0 message else message) →
      logpSetPrintedBit false 0 marked = message := by
    intro t message marked doDbgPrint here hmark
    have hthread := inv.threads t
    rw [here] at hthread
    obtain ⟨m, rfl, hm⟩ := hthread
    obtain ⟨hmarked, hclear⟩ := hm.marked t doDbgPrint
    rw [hmark, hmarked]
    exact hclear
  cases hs with
  | put here hm =>
    refine callInv_goto h here rfl ?_ (fun ht => ?_) u
    · simp [LogEvent.thread]
    · exact ht.put hm s.info
  | flush here | enter here | leave here =>
    refine callInv_goto h here rfl ?_ (fun ht => ?_) u
    · simp
    · exact ht.silent rfl rfl rfl rfl rfl
  | buffer here hmark hcall =>
    rw [hbuffer here hmark]
    refine callInv_goto h here rfl ?_ (fun ht => ?_) u
    · simp [LogEvent.thread]
    · exact ht.issue (List.Sublist.refl _) rfl rfl rfl rfl
  | refuse here hmark hcall hfail =>
    rw [hbuffer here hmark]
    refine callInv_goto h here rfl ?_ (fun ht => ?_) u
    · simp
    · exact ht.issue (List.nil_sublist _) rfl rfl rfl rfl
  | switch here | write here =>
    refine callInv_goto h here rfl ?_ (fun ht => ?_) u
    · simp [LogEvent.thread]
    · exact ht.silent rfl rfl rfl rfl rfl
  | @next t next old p length printedOut text bytes here hprint =>
    refine callInv_goto h here rfl ?_ (fun ht => ?_) u
    · cases text <;> simp [LogEvent.thread]
    · cases text with
      | none => exact ht.silent rfl rfl rfl rfl rfl
      | some text => exact ht.silent rfl rfl rfl rfl rfl
  | direct here =>
    refine callInv_goto h here rfl ?_ (fun ht => ?_) u
    · simp [LogEvent.thread]
    · exact ht.issue (List.Sublist.refl _) rfl rfl rfl rfl
  | @print t message doDbgPrint text here hprint =>
    have hthread := inv.threads t
    rw [here] at hthread
    obtain ⟨m, rfl, hm⟩ := hthread
    refine callInv_goto h here rfl ?_ (fun ht => ht.print hm hprint) u
    cases text <;> simp [LogEvent.thread]
  | activate =>
    rw [List.append_nil]
    exact h u

end Steps

/-! ## Flushes -/

/-- The thread is in the loop of a flush. -/
def LogThread.InLoop : LogThread → Prop
  | .flushing _ _ _ | .flushed _ _ _ _ _ => True
  | _ => False

/-- The thread has written an entry, and has yet to look whether to print it. -/
def LogThread.HasWritten : LogThread → Prop
  | .flushed _ _ _ _ _ => True
  | _ => False

/-- What the events of the flushes say, and all `DbgPrint`s. -/
structure FlushInv (isDbgPrintNeeded : Bool) (trace : List (LogEvent T)) (s : LogSystem T) :
    Prop where
  switcher : ∀ t, (s.threads t).InLoop → lastSwitch trace = some t
  events : FlushEvents trace
  printing : isDbgPrintNeeded = true → (∃ t, (s.threads t).HasWritten) →
    trace.filterMap LogEvent.flushPrint = entryTexts false (logQueue trace).flushed.dropLast
  printed : isDbgPrintNeeded = true → (¬∃ t, (s.threads t).HasWritten) →
    trace.filterMap LogEvent.flushPrint = entryTexts false (logQueue trace).flushed
  dbgPrints : s.dbgPrints = trace.filterMap LogEvent.dbgPrint

/-- The loop of a flush is in one thread. -/
theorem LogInv.not_inLoop (inv : LogInv trace s) (hown : (s.threads t).Owns) {u : T}
    (hu : u ≠ t) : ¬(s.threads u).InLoop ∧ ¬(s.threads u).HasWritten := by
  have hnot := inv.not_owns hown hu
  cases hthread : s.threads u <;> rw [hthread] at hnot
  case flushing => exact (hnot trivial).elim
  case flushed => exact (hnot trivial).elim
  all_goals exact ⟨id, id⟩

/-- Only the owner of the resource can have written an entry. -/
theorem LogInv.none_hasWritten (inv : LogInv trace s) (hown : (s.threads t).Owns)
    (ht : ¬(s.threads t).HasWritten) : ¬∃ u, (s.threads u).HasWritten := by
  rintro ⟨u, hu⟩
  by_cases heq : u = t
  · exact ht (heq ▸ hu)
  · exact (inv.not_inLoop hown heq).2 hu

variable [DecidableEq T]

/-- A step outside the loops of the flushes. -/
theorem FlushInv.outside (h : FlushInv isDbgPrintNeeded trace s) {l next : LogThread}
    (here : s.threads t = l) (hthreads : s₁.threads = s.threads)
    (hloop : next.InLoop → l.InLoop) (hwritten : next.HasWritten ↔ l.HasWritten)
    (hswitch : events.filterMap LogEvent.switcher = [])
    (hprint : events.filterMap LogEvent.flushPrint = [])
    (hflushed : (logQueue (trace ++ events)).flushed = (logQueue trace).flushed)
    (hevents : FlushEvents (trace ++ events))
    (hdbgPrints : s₁.dbgPrints = s.dbgPrints ++ events.filterMap LogEvent.dbgPrint) :
    FlushInv isDbgPrintNeeded (trace ++ events) (s₁.goto t next) := by
  have hany : (∃ u, ((s₁.goto t next).threads u).HasWritten) ↔
      ∃ u, (s.threads u).HasWritten := by
    refine exists_congr fun u => ?_
    rw [LogSystem.threads_goto, hthreads]
    split_ifs with hu
    · rw [hu, here]
      exact hwritten
    · exact Iff.rfl
  refine ⟨fun u hu => ?_, hevents, ?_, ?_, ?_⟩
  · rw [lastSwitch_append hswitch]
    rw [LogSystem.threads_goto, hthreads] at hu
    split_ifs at hu with heq
    · refine h.switcher u ?_
      rw [heq, here]
      exact hloop hu
    · exact h.switcher u hu
  · rw [hany, List.filterMap_append, hprint, List.append_nil, hflushed]
    exact h.printing
  · rw [hany, List.filterMap_append, hprint, List.append_nil, hflushed]
    exact h.printed
  · rw [List.filterMap_append, ← h.dbgPrints]
    exact hdbgPrints

/-- A step of the owner of the resource. -/
theorem LogInv.hasWritten_goto (inv : LogInv trace s) (hown : (s.threads t).Owns)
    {next : LogThread} (hthreads : s₁.threads = s.threads) :
    (∃ u, ((s₁.goto t next).threads u).HasWritten) ↔ next.HasWritten := by
  constructor
  · rintro ⟨u, hu⟩
    rw [LogSystem.threads_goto, hthreads] at hu
    split_ifs at hu with heq
    · exact hu
    · exact ((inv.not_inLoop hown heq).2 hu).elim
  · intro hnext
    refine ⟨t, ?_⟩
    rw [LogSystem.threads_goto, if_pos rfl]
    exact hnext

theorem LogInv.inLoop_goto (inv : LogInv trace s) (hown : (s.threads t).Owns)
    {next : LogThread} (hthreads : s₁.threads = s.threads) {u : T}
    (hu : ((s₁.goto t next).threads u).InLoop) : u = t := by
  by_contra hne
  rw [LogSystem.threads_goto, hthreads, if_neg hne] at hu
  exact (inv.not_inLoop hown hne).1 hu

theorem FlushInv.switch (h : FlushInv isDbgPrintNeeded trace s) (inv : LogInv trace s)
    {next : LogThread} (here : s.threads t = .switching next) :
    FlushInv isDbgPrintNeeded (trace ++ [.switched t])
      ({ s with info := switchLogBuffer s.info }.goto t
        (.flushing next s.info.logBufferHead 0)) := by
  have hthread := inv.threads t
  rw [here] at hthread
  have hown : (s.threads t).Owns := by rw [here]; trivial
  have hnone := inv.none_hasWritten hown (by rw [here]; exact id)
  have hqueue : (logQueue (trace ++ [.switched t])).flushed = (logQueue trace).flushed := by
    rw [logQueue_snoc]
    rfl
  refine ⟨fun u hu => ?_, h.events.snoc hthread.2, fun _ hwritten => ?_, fun hneeded _ => ?_, ?_⟩
  · rw [inv.inLoop_goto hown rfl hu]
    simp [lastSwitch, LogEvent.switcher]
  · exact ((inv.hasWritten_goto hown rfl).1 hwritten).elim
  · rw [hqueue, ← h.printed hneeded hnone]
    simp [LogEvent.flushPrint]
  · simp [LogEvent.dbgPrint, LogSystem.goto, h.dbgPrints]

theorem FlushInv.write (h : FlushInv isDbgPrintNeeded trace s) (inv : LogInv trace s)
    {next : LogThread} {old : LogBuffer} {p : ℕ} {bytes : List (BitVec 8)}
    (here : s.threads t = .flushing next old p) (hmore : (s.info.bytes old).getD p 0 ≠ 0)
    (hclear : bytes = logpSetPrintedBit false p (s.info.bytes old)) :
    FlushInv isDbgPrintNeeded (trace ++ [.flushed t (CString.get bytes p)])
      ({ s with
        info := s.info.modify old fun _ => bytes
        file := s.file ++ [CString.get bytes p] }.goto t
        (.flushed next old p (strlen bytes p) (logpIsPrinted (s.info.bytes old) p))) := by
  have hthread := inv.threads t
  have hswitcher := h.switcher t
  rw [here] at hthread hswitcher
  obtain ⟨-, rfl, -, pre, rest, hbytes, rfl⟩ := hthread
  have hown : (s.threads t).Owns := by rw [here]; trivial
  have hnone := inv.none_hasWritten hown (by rw [here]; exact id)
  rw [hbytes] at hmore hclear
  obtain ⟨e, back, hback, -, -, -, hget, -⟩ := inv.buffers.written hmore hclear
  have hqueue : (logQueue (trace ++ [.flushed t (CString.get bytes pre.length)])).flushed =
      (logQueue trace).flushed ++ [e] := by
    rw [logQueue_snoc]
    simp [LogEvent.action, DoubleBuffer.act, hback, DoubleBuffer.flushed]
  refine ⟨fun u hu => ?_, h.events.snoc ⟨hswitcher trivial, ?_⟩, fun hneeded _ => ?_,
    fun _ hwritten => ?_, ?_⟩
  · rw [inv.inLoop_goto hown rfl hu, lastSwitch_append rfl]
    exact hswitcher trivial
  · rw [hback, hget]
    rfl
  · rw [hqueue, List.dropLast_concat, ← h.printed hneeded hnone]
    simp [LogEvent.flushPrint]
  · exact (hwritten ((inv.hasWritten_goto hown rfl).2 trivial)).elim
  · simp [LogEvent.dbgPrint, LogSystem.goto, h.dbgPrints]

/-- An entry without the printed bit is printed after it is written. -/
theorem FlushInv.next (h : FlushInv isDbgPrintNeeded trace s) (inv : LogInv trace s)
    {next : LogThread} {old : LogBuffer} {p length : ℕ} {printedOut : Bool}
    {text : Option (List (BitVec 8))} {bytes : List (BitVec 8)}
    (here : s.threads t = .flushed next old p length printedOut)
    (hprint : (text, bytes) = if !printedOut then
      logpDoDbgPrint isDbgPrintNeeded p (s.info.bytes old) else (none, s.info.bytes old)) :
    FlushInv isDbgPrintNeeded (trace ++ text.toList.map (.flushPrinted t))
      ({ s with
        info := s.info.modify old fun _ => bytes
        dbgPrints := s.dbgPrints ++ text.toList }.goto t
        (.flushing next old (p + length + 1))) := by
  have hthread := inv.threads t
  have hswitcher := h.switcher t
  rw [here] at hthread hswitcher
  obtain ⟨-, rfl, -, pre, m, rest, hbytes, rfl, -, hm, hlast⟩ := hthread
  have hown : (s.threads t).Owns := by rw [here]; trivial
  have hsome : ∃ u, (s.threads u).HasWritten := ⟨t, by rw [here]; trivial⟩
  have hsilent : logActions (text.toList.map (LogEvent.flushPrinted t)) = [] := by
    cases text <;> rfl
  have htext : isDbgPrintNeeded = true →
      text.toList = if printedOut then [] else [printedText m] := by
    rintro rfl
    have hfst := congrArg Prod.fst hprint
    simp only at hfst
    rw [hfst]
    cases printedOut with
    | true => rfl
    | false =>
      obtain ⟨m', -, heq⟩ := hm.doDbgPrint pre (storedEntries (logQueue trace).back ++ 0 :: rest)
      rw [hbytes]
      exact congrArg (fun r => Option.toList r.1) heq
  refine ⟨fun u hu => ?_, ?_, fun _ hwritten => ?_, fun hneeded _ => ?_, ?_⟩
  · rw [inv.inLoop_goto hown rfl hu, lastSwitch_append (by cases text <;> rfl)]
    exact hswitcher trivial
  · cases text with
    | none => exact (List.append_nil trace).symm ▸ h.events
    | some text => exact h.events.snoc trivial
  · exact ((inv.hasWritten_goto hown rfl).1 hwritten).elim
  · -- the last written entry is now printed
    obtain ⟨e, hgetLast, heq⟩ := Option.map_eq_some_iff.1 hlast
    obtain ⟨hmessage, hprinted⟩ := Prod.mk.inj heq
    have hflushed := List.dropLast_append_getLast? e hgetLast
    rw [(logQueue_of_silent _ hsilent).2, List.filterMap_append, h.printing hneeded hsome,
      ← hflushed, List.dropLast_concat, entryTexts, entryTexts, List.filter_append, List.map_append]
    congr 1
    have hprints : (text.toList.map (LogEvent.flushPrinted t)).filterMap LogEvent.flushPrint =
        text.toList := by
      cases text <;> rfl
    rw [hprints, htext hneeded, ← hmessage, ← hprinted]
    cases hbit : e.printed <;> simp [hbit]
  · cases text <;> simp [LogEvent.dbgPrint, LogSystem.goto, h.dbgPrints]

/-- Every step keeps what is known of the flushes. -/
theorem FlushInv.step (h : FlushInv isDbgPrintNeeded trace s) (inv : LogInv trace s)
    (hs : LogStep isDbgPrintNeeded s events s') :
    FlushInv isDbgPrintNeeded (trace ++ events) s' := by
  have hnil : FlushEvents (trace ++ []) := (List.append_nil trace).symm ▸ h.events
  have hqueue : (logQueue (trace ++ [])).flushed = (logQueue trace).flushed := by
    rw [List.append_nil]
  cases hs with
  | @put t call here hm =>
    have hloop : ¬(logpPut call s.info).InLoop ∧ ¬(logpPut call s.info).HasWritten := by
      rcases logpPut_cases call s.info with ⟨heq, -⟩ | heq | heq <;> rw [heq] <;>
        exact ⟨id, id⟩
    refine h.outside here rfl (fun hl => (hloop.1 hl).elim) (iff_of_false hloop.2 id) rfl rfl ?_
      (h.events.snoc trivial) (List.append_nil _).symm
    rw [logQueue_snoc]
    rfl
  | flush here =>
    exact h.outside here rfl id Iff.rfl rfl rfl hqueue hnil (List.append_nil _).symm
  | buffer here hmark hcall =>
    refine h.outside here rfl id Iff.rfl rfl rfl ?_ (h.events.snoc trivial)
      (List.append_nil _).symm
    rw [logQueue_snoc]
    rfl
  | refuse here hmark hcall hfail =>
    exact h.outside here rfl id Iff.rfl rfl rfl hqueue hnil (List.append_nil _).symm
  | enter here hfree =>
    exact h.outside here rfl id Iff.rfl rfl rfl hqueue hnil (List.append_nil _).symm
  | switch here => exact h.switch inv here
  | write here hmore hclear => exact h.write inv here hmore hclear
  | next here hprint => exact h.next inv here hprint
  | @leave t next old p here hdone =>
    have hthread := inv.threads t
    rw [here] at hthread
    have hloop : ¬next.InLoop ∧ ¬next.HasWritten := by
      rcases hthread.1 with rfl | ⟨m, doDbgPrint, rfl, -⟩ <;> exact ⟨id, id⟩
    exact h.outside here rfl (fun hl => (hloop.1 hl).elim) (iff_of_false hloop.2 id) rfl rfl
      hqueue hnil (List.append_nil _).symm
  | direct here =>
    refine h.outside here rfl id Iff.rfl rfl rfl ?_ (h.events.snoc trivial)
      (List.append_nil _).symm
    rw [logQueue_snoc]
    simp [LogEvent.action, DoubleBuffer.act, DoubleBuffer.flushed]
  | @print t message doDbgPrint text here hprint =>
    have hsilent : logActions (text.toList.map (LogEvent.printed t)) = [] := by
      cases text <;> rfl
    refine h.outside here rfl id Iff.rfl (by cases text <;> rfl) (by cases text <;> rfl) ?_ ?_ ?_
    · rw [(logQueue_of_silent _ hsilent).2]
    · cases text with
      | none => exact hnil
      | some text => exact h.events.snoc trivial
    · cases text <;> rfl
  | activate =>
    rw [List.append_nil]
    exact ⟨h.switcher, h.events, h.printing, h.printed, h.dbgPrints⟩

/-! ## Runs -/

/-- What logging promises after every step of every run. -/
structure MessagesKept (isDbgPrintNeeded : Bool) (trace : List (LogEvent T)) (s : LogSystem T) :
    Prop where
  /-- `log_buffer_head <= log_buffer_tail <= log_buffer_head + kLogpBufferSize - 1`. -/
  bounds : s.info.logBufferTail.1 = s.info.logBufferHead ∧
    s.info.logBufferTail.2 ≤ kLogpBufferSize - 1
  /-- The file has the messages as they were passed in. -/
  file : s.file = (logQueue trace).output.map fun e => e.1.message
  /-- The buffered messages are in the file once, in the order they were appended, then those
  the current flush has yet to write, and then those of the current buffer. -/
  buffered : (logActions trace).filterMap Action.pushed =
    (logQueue trace).flushed ++ ((logQueue trace).back ++ (logQueue trace).front)
  /-- Between a switch and the next one, the thread that switched writes what was buffered up to
  its switch, in order. -/
  nextFlush : ∀ before u mid after, trace = before ++ .switched u :: (mid ++ after) →
    (∀ v, LogEvent.switched v ∉ mid) → mid.filterMap LogEvent.flushWrite ++
      (logQueue (before ++ .switched u :: mid)).back.map (fun e => (u, e.message)) =
        (logQueue before).front.map fun e => (u, e.message)
  /-- At the next switch, or when no thread flushes, nothing is left to write. -/
  emptied : (∀ before u after, trace = before ++ .switched u :: after →
    (logQueue before).back = []) ∧ (s.resource = none → (logQueue trace).back = [])
  /-- A flush goes on as long as something is left. -/
  loop : ∀ t next old p, s.threads t = .flushing next old p →
    ((s.info.bytes old).getD p 0 ≠ 0 ↔ (logQueue trace).back ≠ [])
  /-- The messages of a thread are in the file, and then in the buffers, in its program order. -/
  order : ∀ t, (logQueue trace).items.filter (fun e => e.thread = t) <+
    (ownEvents t trace).filterMap LogEvent.putEntry
  /-- All that is printed. -/
  dbgPrints : s.dbgPrints = trace.filterMap LogEvent.dbgPrint
  /-- `LogpPut` prints once each message it is to print, which are those with the printed bit
  and those that are not buffered. -/
  putPrints : isDbgPrintNeeded = true → ∀ t,
    (ownEvents t trace).filterMap LogEvent.putPrint ++ (s.threads t).unprinted =
      entryTexts true ((ownEvents t trace).filterMap LogEvent.putEntry)
  /-- The flushes print once each written message without the printed bit; the last one may be
  yet to be printed. -/
  flushPrints : isDbgPrintNeeded = true →
    ((∃ t, (s.threads t).HasWritten) → trace.filterMap LogEvent.flushPrint =
      entryTexts false (logQueue trace).flushed.dropLast) ∧
    ((¬∃ t, (s.threads t).HasWritten) → trace.filterMap LogEvent.flushPrint =
      entryTexts false (logQueue trace).flushed)

theorem issued_ownEvents (t : T) (trace : List (LogEvent T)) :
    ((logActions trace).filterMap Action.issued).filter (fun e => e.thread = t) =
      (logActions (ownEvents t trace)).filterMap Action.issued := by
  induction trace with
  | nil => rfl
  | cons e trace ih =>
    have hcons : logActions (e :: trace) = logActions [e] ++ logActions trace :=
      logActions_append [e] trace
    have hown : ownEvents t (e :: trace) = (if e.thread = t then [e] else []) ++
        ownEvents t trace := by
      rw [ownEvents, List.filter_cons]
      by_cases ht : e.thread = t <;> simp [ht, ownEvents]
    rw [hcons, hown, logActions_append, List.filterMap_append, List.filter_append, ih,
      List.filterMap_append]
    congr 1
    cases e <;> simp only [LogEvent.thread] <;> split_ifs with ht <;>
      simp [logActions, LogEvent.action, Action.issued, ht]

/-- Calls and flushes over a run. -/
theorem LogRun.history (hr : LogRun isDbgPrintNeeded (logStart T) trace s) :
    (∀ u, CallInv isDbgPrintNeeded u (ownEvents u trace) (s.threads u)) ∧
      FlushInv isDbgPrintNeeded trace s := by
  induction hr with
  | refl =>
    refine ⟨fun u => ⟨List.Sublist.refl _, fun _ => rfl⟩, ⟨fun u hu => hu.elim, ?_,
      fun _ _ => rfl, fun _ _ => rfl, rfl⟩⟩
    intro before e after heq
    simp at heq
  | tail run hs ih =>
    have inv := LogInv.run run
    exact ⟨CallInv.step inv ih.1 hs, ih.2.step inv hs⟩

/-- Logging never loses, duplicates or reorders, whatever the threads do. -/
theorem log_keeps_messages (hr : LogRun isDbgPrintNeeded (logStart T) trace s) :
    MessagesKept isDbgPrintNeeded trace s := by
  have inv := LogInv.run hr
  obtain ⟨hcalls, hflush⟩ := hr.history
  refine ⟨⟨?_, inv.buffers.tail_le⟩, inv.file, DoubleBuffer.pushed_eq _, ?_, ⟨?_, inv.free⟩, ?_,
    fun t => ?_, hflush.dbgPrints, fun hneeded t => (hcalls t).printed hneeded,
    fun hneeded => ⟨hflush.printing hneeded, hflush.printed hneeded⟩⟩
  · rw [inv.buffers.tail]
  · exact fun before u mid after heq hmid => (hflush.events.writes after heq hmid).2
  · exact fun before u after heq => hflush.events before (.switched u) after heq
  · intro t next old p here
    have hthread := inv.threads t
    rw [here] at hthread
    obtain ⟨-, -, -, pre, rest, hbytes, rfl⟩ := hthread
    rw [hbytes]
    rcases inv.buffers.current pre rest with ⟨hzero, hback⟩ | ⟨hne, e, back, hback, -⟩
    · exact iff_of_false (fun h => h hzero) (fun h => h hback)
    · exact iff_of_true hne (by rw [hback]; exact List.cons_ne_nil _ _)
  · have hissued := (hcalls t).issued
    rw [← issued_ownEvents, DoubleBuffer.issued_eq inv.ordered] at hissued
    exact (List.sublist_append_left _ _).trans hissued

end History

/-- Both threads buffer a message at `DISPATCH_LEVEL`, and thread `true` flushes them. Between its
switch and its first write, thread `false` buffers one more. -/
theorem log_keeps_messages_flushed : ∃ s : LogSystem Bool,
    s.file = [[0x42, 0x0D, 0x0A], [0x41, 0x0D, 0x0A]] ∧
      s.dbgPrints = [[0x42, 0x0A], [0x41, 0x0A]] ∧
      MessagesKept true [.put false [0x41, 0x0D, 0x0A] true, .put true [0x42, 0x0D, 0x0A] true,
        .buffered true [0x42, 0x0D, 0x0A] true, .buffered false [0x41, 0x0D, 0x0A] true,
        .printed true [0x42, 0x0A], .switched true, .printed false [0x41, 0x0A],
        .put false [0x43, 0x0D, 0x0A] true, .buffered false [0x43, 0x0D, 0x0A] true,
        .flushed true [0x42, 0x0D, 0x0A], .flushed true [0x41, 0x0D, 0x0A]] s := by
  have hm : ∀ c : BitVec 8, 0 < c.toNat ∧ c.toNat < 0x80 →
      IsLogMessage (PutCall.mk [c, 0x0D, 0x0A] 0 2 false).message := by
    refine fun c hc => ⟨?_, ⟨[c], rfl⟩, ?_⟩
    · have hne : c ≠ 0 := by
        rintro rfl
        exact absurd hc.1 (by decide)
      simpa using Ne.symm hne
    · simpa using hc.2
  have h₁ : LogRun true (logStart Bool) _ _ :=
    .tail .refl (.put (t := false) rfl (hm 0x41 (by decide)))
  have h₂ := h₁.tail (.put (t := true) rfl (hm 0x42 (by decide)))
  have h₃ := h₂.tail (.buffer (t := true) rfl rfl rfl)
  have h₄ := h₃.tail (.buffer (t := false) rfl rfl rfl)
  have h₅ := h₄.tail (.print (t := true) rfl rfl)
  have h₆ := h₅.tail (.flush (t := true) rfl)
  have h₇ := h₆.tail (.enter (t := true) rfl rfl)
  have h₈ := h₇.tail (.switch (t := true) rfl)
  have h₉ := h₈.tail (.print (t := false) rfl rfl)
  have h₁₀ := h₉.tail (.put (t := false) rfl (hm 0x43 (by decide)))
  have h₁₁ := h₁₀.tail (.buffer (t := false) rfl rfl rfl)
  have h₁₂ := h₁₁.tail (.write (t := true) rfl (by decide) rfl)
  have h₁₃ := h₁₂.tail (.next (t := true) rfl rfl)
  have h₁₄ := h₁₃.tail (.write (t := true) rfl (by decide) rfl)
  have h₁₅ := h₁₄.tail (.next (t := true) rfl rfl)
  have h₁₆ := h₁₅.tail (.leave (t := true) rfl (by decide))
  exact ⟨_, rfl, rfl, log_keeps_messages h₁₆⟩

end DeviceMon
