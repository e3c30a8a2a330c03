import DeviceMon.KernelObjects
import DeviceMon.PowerCycles
import DeviceMon.Stages

/-!
# DriverEntry and the unload handler

`DriverEntry` is eight stages (`driverEntry_eq`) and the unload handler takes them down
(`driverpDriverUnload_eq`). Each stage takes objects from the kernel when it comes up, gives them
back in the other order when it is taken down, and nothing of it is left when it fails. So
`DriverEntry` brings up all parts of the driver or gives back what it took
(`driverEntry_all_or_nothing`), and after any run between them the unload handler gives back all
there is : what `DriverEntry` took the latest first, and so the log last, with the file and the
thread that its reinitialization took after all the others (`driverRun_unload`).
-/

namespace DeviceMon

/-! ## What is held -/

/-- The objects of the log, the latest first. -/
def LogAllocations.objects (info : LogAllocations) : List KernelObject :=
  (if info.bufferFlushThreadHandle then [.logThread] else []) ++
  (if info.logFileHandle then [.logFile] else []) ++
  (if info.logBuffer2 then [.logBuffer .logBuffer2] else []) ++
  (if info.logBuffer1 then [.logBuffer .logBuffer1] else []) ++
  (if info.resourceInitialized then [.resource] else [])

/-- The resource and both buffers, and the file with its thread if there is a file yet. -/
def LogAllocations.ready (file : Bool) : LogAllocations :=
  ⟨true, true, file, true, file, file⟩

/-- The kernel, or the first line, fails with the very status by which `LogpInitializeBufferInfo`
reports that there is no file yet. The log is finalized then, and `DriverEntry` goes on without. -/
def LogKernel.NeedsReinitialization (k : LogKernel) : Prop :=
  k.exInitializeResourceLite = statusReinitializationNeeded ∨
    k.zwCreateFile = statusReinitializationNeeded ∨
    k.psCreateSystemThread = statusReinitializationNeeded ∨ k.logInfo = statusReinitializationNeeded

/-- The flush thread should be alive as long as it is there, and writes to the log file. -/
structure LogAllocations.Valid (info : LogAllocations) : Prop where
  alive : info.bufferFlushThreadShouldBeAlive = info.bufferFlushThreadHandle
  thread : info.bufferFlushThreadHandle = true → info.logFileHandle = true

namespace Driver

variable {B C : Type} {start : Ledger KernelObject} {upper : List KernelObject} {dtors : List ℕ}
  {s s' : DriverState B C} {k : DriverKernel B C}

/-- Whether the global variable for an object of a later stage is set. -/
def has (s : DriverState B C) : KernelObject → Bool
  | .perfCollector => s.performanceCollector
  | .pmBlock => s.physicalMemoryRanges.isSome
  | .callbackObject => s.callbackObject
  | .powerRegistration => s.registration
  | .hotplugHandle => s.callbackHandle
  | _ => false

/-- All objects that are held since `start`, the latest first but for those of the log, which are
below the entries of `dtors`. -/
structure Holding (start : Ledger KernelObject) (upper : List KernelObject) (dtors : List ℕ)
    (s : DriverState B C) : Prop where
  objects : Ledger.Holds start s.objects
    (upper ++ (dtors.map .destructorEntry ++ s.info.objects))
  info : s.info.Valid
  dtors : s.dtors = dtors
  has : ∀ o ∈ upper, has s o = true

/-- An object that is taken for a global variable. -/
theorem Holding.take {o : KernelObject} (hs : Holding start upper dtors s)
    (hobjects : s'.objects = s.objects.take o) (hinfo : s'.info = s.info)
    (hdtors : s'.dtors = s.dtors) (hnew : Driver.has s' o = true)
    (hold : ∀ o ∈ upper, Driver.has s' o = Driver.has s o) :
    Holding start (o :: upper) dtors s' := by
  refine ⟨?_, by rw [hinfo]; exact hs.info, hdtors.trans hs.dtors, ?_⟩
  · rw [hobjects, hinfo]
    exact hs.objects.take o
  · rintro o' (_ | ⟨_, ho⟩)
    · exact hnew
    · exact (hold o' ho).trans (hs.has o' ho)

/-- It is given back. -/
theorem Holding.give {o : KernelObject} (hs : Holding start (o :: upper) dtors s)
    (hobjects : s'.objects = s.objects.give o) (hinfo : s'.info = s.info)
    (hdtors : s'.dtors = s.dtors) (hold : ∀ o ∈ upper, Driver.has s' o = Driver.has s o) :
    Holding start upper dtors s' := by
  refine ⟨?_, by rw [hinfo]; exact hs.info, hdtors.trans hs.dtors, fun o' ho => ?_⟩
  · rw [hobjects, hinfo]
    exact hs.objects.give
  · exact (hold o' ho).trans (hs.has o' (List.mem_cons_of_mem _ ho))

/-! ## The log -/

/-- All objects of the log are given back, the latest first. -/
theorem logpFinalizeBufferInfo_eq (hs : s.info.Valid) : logpFinalizeBufferInfo s =
    { s with objects := s.objects.giveAll s.info.objects, info := .zero } := by
  obtain ⟨objects, ⟨buffer1, buffer2, file, resource, alive, thread⟩, _⟩ := s
  obtain rfl : alive = thread := hs.alive
  cases buffer1 <;> cases buffer2 <;> cases file <;> cases resource <;> cases alive <;> rfl

/-- The log is terminated. -/
theorem Holding.finalize (front : List KernelObject)
    (hs : Ledger.Holds start s.objects (front ++ s.info.objects)) (hi : s.info.Valid) :
    (logpFinalizeBufferInfo s).info = .zero ∧
      Ledger.Holds start (logpFinalizeBufferInfo s).objects front := by
  rw [logpFinalizeBufferInfo_eq hi]
  exact ⟨rfl, (hs.perm List.perm_append_comm).giveAll⟩

/-- A log file that is opened with its thread, or not. -/
theorem logpInitializeLogFile_holds (front : List KernelObject) (k : LogKernel)
    (hs : Ledger.Holds start s.objects (front ++ s.info.objects)) (hi : s.info.Valid) :
    (logpInitializeLogFile k s).2.info.Valid ∧
      Ledger.Holds start (logpInitializeLogFile k s).2.objects
        (front ++ (logpInitializeLogFile k s).2.info.objects) := by
  obtain ⟨objects, ⟨buffer1, buffer2, file, resource, alive, thread⟩, _⟩ := s
  obtain rfl : alive = thread := hi.alive
  cases file with
  | true => exact ⟨hi, hs⟩
  | false =>
  cases alive with
  | true => cases hi.thread rfl
  | false =>
  have hfile := hs.take_middle .logFile
  simp only [logpInitializeLogFile, Bool.false_eq_true, if_false]
  split_ifs with hcreate hthread
  · exact ⟨hi, hs⟩
  · exact ⟨hi, hfile.give_middle⟩
  · exact ⟨⟨rfl, fun _ => rfl⟩, hfile.take_middle .logThread⟩

/-- The file is there with its thread if and only if both were created. -/
theorem logpInitializeLogFile_info (k : LogKernel) (hi : s.info = .ready false) :
    (logpInitializeLogFile k s).2.info = .ready (ntSuccess (logpInitializeLogFile k s).1) ∧
      ((logpInitializeLogFile k s).1 = k.zwCreateFile ∨
        (logpInitializeLogFile k s).1 = k.psCreateSystemThread) := by
  obtain ⟨objects, info, _⟩ := s
  obtain rfl : info = .ready false := hi
  simp only [logpInitializeLogFile, LogAllocations.ready, Bool.false_eq_true, if_false]
  split_ifs with hcreate hthread
  · rw [Bool.not_eq_true'] at hcreate
    exact ⟨by rw [hcreate], Or.inl rfl⟩
  · rw [Bool.not_eq_true'] at hthread
    exact ⟨by rw [hthread]; rfl, Or.inr rfl⟩
  · rw [Bool.not_eq_true, Bool.not_eq_false'] at hthread
    exact ⟨by rw [hthread]; rfl, Or.inr rfl⟩

/-- The log is initialized, with or without its file, or not at all. -/
structure LogStarted (k : LogKernel) (start : Ledger KernelObject)
    (r : BitVec 32 × DriverState B C) : Prop where
  info : r.2.info.Valid
  objects : Ledger.Holds start r.2.objects r.2.info.objects
  succeeded : ntSuccess r.1 = true → r.2.info = .ready true
  without : r.1 = statusReinitializationNeeded →
    r.2.info = .ready false ∨ k.NeedsReinitialization ∧ r.2.info = .zero
  failed : r.1 ≠ statusReinitializationNeeded → ntSuccess r.1 = false → r.2.info = .zero

theorem not_ntSuccess_reinitializationNeeded : ntSuccess statusReinitializationNeeded = false := by
  decide

theorem LogStarted.finalized {k : LogKernel} (hi : s.info.Valid)
    (hs : Ledger.Holds start s.objects s.info.objects) {status : BitVec 32}
    (hfail : ntSuccess status = false)
    (hneeded : status = statusReinitializationNeeded → k.NeedsReinitialization) :
    LogStarted k start (status, logpFinalizeBufferInfo s) := by
  obtain ⟨hinfo, hobjects⟩ := Holding.finalize [] hs hi
  refine ⟨?_, ?_, fun hok => ?_, fun h => Or.inr ⟨hneeded h, hinfo⟩, fun _ _ => hinfo⟩
  · rw [hinfo]
    exact ⟨rfl, fun h => h⟩
  · rw [hinfo]
    exact hobjects
  · rw [hfail] at hok
    cases hok

/-- The log file is the last part. -/
theorem LogStarted.file (k : LogKernel) (hi : s.info = .ready false)
    (hs : Ledger.Holds start s.objects s.info.objects) : LogStarted k start
      (match logpInitializeLogFile k s with
      | (status, s) =>
        if status = statusObjectPathNotFound then (statusReinitializationNeeded, s)
        else if !ntSuccess status then (status, logpFinalizeBufferInfo s)
        else (status, s)) := by
  have hready : s.info.Valid := by
    rw [hi]
    exact ⟨rfl, fun h => h⟩
  obtain ⟨hvalid, hobjects⟩ := logpInitializeLogFile_holds [] k hs hready
  obtain ⟨hinfo, hstatus⟩ := logpInitializeLogFile_info k hi
  generalize logpInitializeLogFile k s = r at hvalid hobjects hinfo hstatus ⊢
  obtain ⟨status, s'⟩ := r
  dsimp only at hinfo hstatus ⊢
  split_ifs with hpath hfail
  · refine ⟨hvalid, hobjects, fun hok => ?_, fun _ => Or.inl ?_, fun h => (h rfl).elim⟩
    · rw [not_ntSuccess_reinitializationNeeded] at hok
      cases hok
    · rw [hinfo, hpath]
      rfl
  · rw [Bool.not_eq_true'] at hfail
    refine .finalized hvalid hobjects hfail fun hneeded => ?_
    rw [hneeded] at hstatus
    exact Or.inr (hstatus.imp Eq.symm fun h => Or.inl h.symm)
  · rw [Bool.not_eq_true, Bool.not_eq_false'] at hfail
    rw [hfail] at hinfo
    refine ⟨hvalid, hobjects, fun _ => hinfo, fun hneeded => ?_, fun _ h => ?_⟩
    · obtain rfl : status = statusReinitializationNeeded := hneeded
      rw [not_ntSuccess_reinitializationNeeded] at hfail
      cases hfail
    · rw [hfail] at h
      cases h

theorem logpInitializeBufferInfo_started (k : LogKernel) (hs : Ledger.Holds start s.objects [])
    (hi : s.info = .zero) : LogStarted k start (logpInitializeBufferInfo k s) := by
  obtain ⟨objects, info, _⟩ := s
  obtain rfl : info = .zero := hi
  rw [logpInitializeBufferInfo]
  extract_lets _ s₁ _ s₂ _ s₃
  have h₁ : Ledger.Holds start s₁.objects s₁.info.objects := hs.take .resource
  have h₂ : Ledger.Holds start s₂.objects s₂.info.objects := h₁.take (.logBuffer .logBuffer1)
  have h₃ : Ledger.Holds start s₃.objects s₃.info.objects := h₂.take (.logBuffer .logBuffer2)
  have hinsufficient : ntSuccess statusInsufficientResources = false ∧
      statusInsufficientResources ≠ statusReinitializationNeeded := by decide
  split_ifs with hresource
  · rw [Bool.not_eq_true'] at hresource
    refine ⟨⟨rfl, fun h => h⟩, hs, fun hok => ?_, fun h => Or.inr ⟨Or.inl h, rfl⟩, fun _ _ => rfl⟩
    rw [hresource] at hok
    cases hok
  · exact .finalized ⟨rfl, fun h => h⟩ h₁ hinsufficient.1 fun h => (hinsufficient.2 h).elim
  · exact .finalized ⟨rfl, fun h => h⟩ h₂ hinsufficient.1 fun h => (hinsufficient.2 h).elim
  · exact .file k rfl h₃

theorem logInitialization_started (k : LogKernel) (hs : Ledger.Holds start s.objects [])
    (hi : s.info = .zero) : LogStarted k start (logInitialization k s) := by
  have hstarted := logpInitializeBufferInfo_started k hs hi
  unfold logInitialization
  generalize logpInitializeBufferInfo k s = r at hstarted ⊢
  obtain ⟨status, s'⟩ := r
  dsimp only
  split_ifs with hfail hlog hneeded
  · exact hstarted
  · rw [Bool.not_eq_true'] at hlog
    exact .finalized hstarted.info hstarted.objects hlog fun h => Or.inr (Or.inr (Or.inr h))
  · have hstatus : status = statusReinitializationNeeded := hneeded
    rw [← hstatus]
    exact hstarted
  · have hok : ntSuccess status = true := by simpa [hneeded] using hfail
    have hsuccess : statusSuccess ≠ statusReinitializationNeeded ∧
        ntSuccess statusSuccess ≠ false := by decide
    exact ⟨hstarted.info, hstarted.objects, fun _ => hstarted.succeeded hok,
      fun h => (hsuccess.1 h).elim, fun _ h => (hsuccess.2 h).elim⟩

/-! ## The stages -/

/-- A part of the driver as a stage. -/
def stage (ok : BitVec 32 → Bool) (up : DriverState B C → BitVec 32 × DriverState B C)
    (down : DriverState B C → DriverState B C) : Stage (DriverState B C) (BitVec 32) where
  up s := match up s with
    | (status, s) => (if ok status then none else some status, s)
  down := down

/-- The log may also be there without its file. -/
def logStarts (status : BitVec 32) : Bool :=
  status = statusReinitializationNeeded || ntSuccess status

/-- The log after its stage came up. -/
theorem logInitialization_info (k : LogKernel) (hi : s.info = .zero)
    (hok : logStarts (logInitialization k s).1 = true) :
    (logInitialization k s).2.info =
        .ready (!decide ((logInitialization k s).1 = statusReinitializationNeeded)) ∨
      k.NeedsReinitialization ∧ (logInitialization k s).2.info = .zero ∧
        decide ((logInitialization k s).1 = statusReinitializationNeeded) = true := by
  have hheld : Ledger.Holds s.objects s.objects [] := .refl _
  have hstarted := logInitialization_started k hheld hi
  by_cases hneeded : (logInitialization k s).1 = statusReinitializationNeeded
  · rw [decide_eq_true hneeded]
    exact (hstarted.without hneeded).imp id fun h => ⟨h.1, h.2, rfl⟩
  · rw [decide_eq_false hneeded]
    rw [logStarts, decide_eq_false hneeded, Bool.false_or] at hok
    exact Or.inl (hstarted.succeeded hok)

/-- The stages of `DriverEntry`. -/
def driverStages (k : DriverKernel B C) (pf : Platform B C) :
    List (Stage (DriverState B C) (BitVec 32)) :=
  [stage logStarts (logInitialization k.toLogKernel) logTermination,
    stage ntSuccess (fun s =>
      (if driverpIsSuppoetedOS k then statusSuccess else NtStatus.cancelled.value, s)) id,
    stage ntSuccess (globalObjectInitialization k.constructors) globalObjectTermination,
    stage ntSuccess (perfInitialization k) perfTermination,
    stage ntSuccess (utilInitialization k) utilTermination,
    stage ntSuccess (powerCallbackInitialization k) powerCallbackTermination,
    stage ntSuccess (hotplugCallbackInitialization k) hotplugCallbackTermination,
    stage ntSuccess (vmInitialization k) (vmTermination pf)]

theorem driverpDriverUnload_eq (pf : Platform B C) (s : DriverState B C) :
    driverpDriverUnload pf s = Stage.takeDown (driverStages k pf) s :=
  rfl

theorem vmInitialization_status (k : DriverKernel B C) (s : DriverState B C)
    (hok : ntSuccess (vmInitialization k s).1 = true) :
    (vmInitialization k s).1 = statusSuccess := by
  have hstatus := (NtStatus.ntSuccess_value _).symm.trans hok
  exact congrArg NtStatus.value (of_decide_eq_true hstatus)

/-- `DriverEntry` brings up the stages. After that `LogpReinitializationRoutine` is registered if
the log has no file yet. -/
theorem driverEntry_eq (k : DriverKernel B C) (pf : Platform B C) (s : DriverState B C) :
    driverEntry k s = match Stage.bringUp (driverStages k pf) s with
      | (some status, s) => (status, s)
      | (none, s') => (statusSuccess,
          if (logInitialization k.toLogKernel s).1 = statusReinitializationNeeded then
            logRegisterReinitialization s' else s') := by
  have hsuccess : ntSuccess statusSuccess = true := by decide
  unfold driverEntry driverStages
  simp only [Stage.bringUp, stage, globalObjectInitialization]
  obtain ⟨status, s₁⟩ := logInitialization k.toLogKernel s
  cases hlog : logStarts status with
  | false =>
    obtain ⟨hneeded, hfail⟩ :
        ¬status = statusReinitializationNeeded ∧ ntSuccess status = false := by
      simpa [logStarts] using hlog
    simp [hneeded, hfail]
  | true =>
  have hstarts :
      ¬(!decide (status = statusReinitializationNeeded) && !ntSuccess status) = true := by
    rw [← Bool.not_or, show (_ || _) = logStarts status from rfl, hlog]
    decide
  rw [if_neg hstarts]
  cases driverpIsSuppoetedOS k with
  | false => simp [show ntSuccess NtStatus.cancelled.value = false by decide]
  | true =>
  simp only [hsuccess, if_true, Bool.not_true, Bool.false_eq_true, if_false]
  generalize List.foldl _ s₁ k.constructors = s₂
  obtain ⟨status₃, s₃⟩ := perfInitialization k s₂
  cases ntSuccess status₃ with
  | false => simp
  | true =>
  simp only [if_true, Bool.not_true, Bool.false_eq_true, if_false]
  obtain ⟨status₄, s₄⟩ := utilInitialization k s₃
  cases ntSuccess status₄ with
  | false => simp
  | true =>
  simp only [if_true, Bool.not_true, Bool.false_eq_true, if_false]
  obtain ⟨status₅, s₅⟩ := powerCallbackInitialization k s₄
  cases ntSuccess status₅ with
  | false => simp
  | true =>
  simp only [if_true, Bool.not_true, Bool.false_eq_true, if_false]
  obtain ⟨status₆, s₆⟩ := hotplugCallbackInitialization k s₅
  cases ntSuccess status₆ with
  | false => simp
  | true =>
  simp only [if_true, Bool.not_true, Bool.false_eq_true, if_false]
  cases hvm : ntSuccess (vmInitialization k s₆).1 with
  | false => simp
  | true => simp [vmInitialization_status k s₆ hvm]

/-! ## What the stages leave -/

/-- What only `VmInitialization` and `LogRegisterReinitialization` change. -/
def outer (s : DriverState B C) : System B C × Bool :=
  (s.sys, s.reinitialization)

/-- What the stages after the log leave, too. -/
def logged (s : DriverState B C) : LogAllocations × System B C × Bool :=
  (s.info, outer s)

/-- What the log leaves. -/
def beyondLog (s : DriverState B C) : List ℕ × System B C × Bool :=
  (s.dtors, outer s)

@[simp] theorem beyondLog_finalize (s : DriverState B C) :
    beyondLog (logpFinalizeBufferInfo s) = beyondLog s := by
  simp only [logpFinalizeBufferInfo]
  split_ifs <;> rfl

theorem beyondLog_logpInitializeLogFile (k : LogKernel) (s : DriverState B C) :
    beyondLog (logpInitializeLogFile k s).2 = beyondLog s := by
  simp only [logpInitializeLogFile]
  split_ifs <;> rfl

theorem has_logpInitializeLogFile (k : LogKernel) (s : DriverState B C) (o : KernelObject) :
    has (logpInitializeLogFile k s).2 o = has s o := by
  simp only [logpInitializeLogFile]
  split_ifs <;> cases o <;> rfl

theorem beyondLog_logInitialization (k : LogKernel) (s : DriverState B C) :
    beyondLog (logInitialization k s).2 = beyondLog s := by
  have hbuffer : beyondLog (logpInitializeBufferInfo k s).2 = beyondLog s := by
    unfold logpInitializeBufferInfo
    extract_lets _ s₁ _ s₂ _ s₃
    have hfile : beyondLog (logpInitializeLogFile k s₃).2 = beyondLog s :=
      beyondLog_logpInitializeLogFile k s₃
    dsimp only
    split_ifs <;> simp [hfile] <;> rfl
  unfold logInitialization
  dsimp only
  split_ifs <;> simp [hbuffer]

@[simp] theorem outer_logTermination (s : DriverState B C) : outer (logTermination s) = outer s :=
  congrArg Prod.snd (beyondLog_finalize s)

@[simp] theorem outer_logInitialization (k : LogKernel) (s : DriverState B C) :
    outer (logInitialization k s).2 = outer s :=
  congrArg Prod.snd (beyondLog_logInitialization k s)

theorem logged_globalObjectInitialization (ctors : List (List (ℕ × Bool)))
    (s : DriverState B C) : logged (globalObjectInitialization ctors s).2 = logged s := by
  have hatexit : ∀ (ctor : List (ℕ × Bool)) (s : DriverState B C),
      logged (ctor.foldl (fun s call => atexit call.1 call.2 s) s) = logged s := by
    intro ctor
    induction ctor with
    | nil => exact fun _ => rfl
    | cons call calls ih =>
      intro s
      rw [List.foldl_cons, ih]
      obtain ⟨dtor, element⟩ := call
      cases element <;> rfl
  unfold globalObjectInitialization
  induction ctors generalizing s with
  | nil => rfl
  | cons ctor ctors ih =>
    rw [List.foldl_cons, ih, hatexit]

@[simp] theorem outer_globalObjectTermination (s : DriverState B C) :
    outer (globalObjectTermination s) = outer s := by
  unfold globalObjectTermination
  induction s.dtors generalizing s with
  | nil => rfl
  | cons dtor dtors ih =>
    rw [popDestructors, ih]
    rfl

theorem logged_perfInitialization (k : DriverKernel B C) (s : DriverState B C) :
    logged (perfInitialization k s).2 = logged s := by
  unfold perfInitialization
  split_ifs <;> rfl

@[simp] theorem outer_perfTermination (s : DriverState B C) :
    outer (perfTermination s) = outer s := by
  unfold perfTermination
  split_ifs <;> rfl

@[simp] theorem outer_utilTermination (s : DriverState B C) :
    outer (utilTermination s) = outer s := by
  unfold utilTermination
  split_ifs <;> rfl

@[simp] theorem outer_powerCallbackTermination (s : DriverState B C) :
    outer (powerCallbackTermination s) = outer s := by
  simp only [powerCallbackTermination]
  split_ifs <;> rfl

@[simp] theorem outer_hotplugCallbackTermination (s : DriverState B C) :
    outer (hotplugCallbackTermination s) = outer s := by
  unfold hotplugCallbackTermination
  split_ifs <;> rfl

theorem logged_utilInitialization (k : DriverKernel B C) (s : DriverState B C) :
    logged (utilInitialization k s).2 = logged s := by
  unfold utilInitialization utilpInitializePhysicalMemoryRanges utilpBuildPhysicalMemoryRanges
  cases k.mmGetPhysicalMemoryRanges with
  | none =>
    dsimp only
    split_ifs <;> rfl
  | some pmRanges =>
    dsimp only
    split_ifs <;> rfl

/-- `UtilInitialization` keeps the ranges that were built. -/
theorem utilInitialization_ranges {k : DriverKernel B C} {s s' : DriverState B C}
    {status : BitVec 32} (h : utilInitialization k s = (status, s'))
    (hok : ntSuccess status = true) :
    ∃ pmRanges, k.mmGetPhysicalMemoryRanges = some pmRanges ∧
      s'.physicalMemoryRanges = some pmRanges.descriptor := by
  have hfail : ntSuccess NtStatus.unsuccessful.value = false := by decide
  unfold utilInitialization utilpInitializePhysicalMemoryRanges utilpBuildPhysicalMemoryRanges at h
  cases hranges : k.mmGetPhysicalMemoryRanges with
  | none =>
    rw [hranges] at h
    dsimp only at h
    split_ifs at h with htables <;> cases h
    · simp [hok] at htables
    · simp [hfail] at hok
  | some pmRanges =>
    rw [hranges] at h
    dsimp only at h
    split_ifs at h with htables <;> cases h
    · simp [hok] at htables
    · simp [hfail] at hok
    · simp [hfail] at hok
    · exact ⟨pmRanges, rfl, rfl⟩

/-- The callbacks leave the physical memory ranges, too. -/
theorem logged_powerCallbackInitialization (k : DriverKernel B C) (s : DriverState B C) :
    logged (powerCallbackInitialization k s).2 = logged s ∧
      (powerCallbackInitialization k s).2.physicalMemoryRanges = s.physicalMemoryRanges := by
  simp only [powerCallbackInitialization]
  split_ifs <;> exact ⟨rfl, rfl⟩

theorem logged_hotplugCallbackInitialization (k : DriverKernel B C) (s : DriverState B C) :
    logged (hotplugCallbackInitialization k s).2 = logged s ∧
      (hotplugCallbackInitialization k s).2.physicalMemoryRanges = s.physicalMemoryRanges := by
  unfold hotplugCallbackInitialization
  split_ifs <;> exact ⟨rfl, rfl⟩

/-- The platform of `VmInitialization`. -/
def vmPlatform (k : DriverKernel B C) : Platform B C :=
  { k.platform with physicalMemoryRuns :=
      k.mmGetPhysicalMemoryRanges.elim [] fun pmRanges => pmRanges.descriptor.run }

/-- `DriverEntry` fails before `VmInitialization`, or it is `VmInitialization` on the physical
memory the kernel reports, and only then something is registered. The log stays as it was
initialized. -/
theorem driverEntry_vm (k : DriverKernel B C) (s : DriverState B C) :
    (ntSuccess (driverEntry k s).1 = false ∧ outer (driverEntry k s).2 = outer s) ∨
      let r := DeviceMon.vmInitialization (vmPlatform k) s.sys
      (driverEntry k s).1 = r.1.value ∧
        logStarts (logInitialization k.toLogKernel s).1 = true ∧
        (r.1 = .success →
          (driverEntry k s).2.info = (logInitialization k.toLogKernel s).2.info) ∧
        outer (driverEntry k s).2 = (r.2, s.reinitialization || r.1.isSuccess &&
          (logInitialization k.toLogKernel s).1 = statusReinitializationNeeded) := by
  have hsuccess : ntSuccess statusSuccess = true := by decide
  rw [driverEntry_eq k k.platform s]
  simp only [driverStages, Stage.bringUp, stage]
  have h₁ := outer_logInitialization k.toLogKernel s
  generalize logInitialization k.toLogKernel s = r at h₁ ⊢
  obtain ⟨status, s₁⟩ := r
  replace h₁ : outer s₁ = outer s := h₁
  cases hlog : logStarts status with
  | false =>
    obtain ⟨-, hfail⟩ : _ ∧ ntSuccess status = false := Bool.or_eq_false_iff.1 hlog
    exact Or.inl (by simp [hfail, h₁])
  | true =>
  cases driverpIsSuppoetedOS k with
  | false =>
    have hcancelled : ntSuccess NtStatus.cancelled.value = false := by decide
    exact Or.inl (by simp [hcancelled, h₁])
  | true =>
  have h₂ : logged _ = (s₁.info, outer s) :=
    (logged_globalObjectInitialization k.constructors s₁).trans (congrArg (Prod.mk s₁.info) h₁)
  simp only [globalObjectInitialization, hsuccess, if_true] at h₂ ⊢
  generalize List.foldl _ s₁ k.constructors = s₂ at h₂ ⊢
  have h₃ := (logged_perfInitialization k s₂).trans h₂
  generalize perfInitialization k s₂ = r at h₃ ⊢
  obtain ⟨status₃, s₃⟩ := r
  replace h₃ : logged s₃ = (s₁.info, outer s) := h₃
  cases hperf : ntSuccess status₃ with
  | false => exact Or.inl (by simp [hperf, show outer s₃ = outer s from congrArg Prod.snd h₃])
  | true =>
  simp only [if_true]
  have h₄ := (logged_utilInitialization k s₃).trans h₃
  generalize hr : utilInitialization k s₃ = r at h₄ ⊢
  obtain ⟨status₄, s₄⟩ := r
  replace h₄ : logged s₄ = (s₁.info, outer s) := h₄
  cases hutil : ntSuccess status₄ with
  | false => exact Or.inl (by simp [hutil, show outer s₄ = outer s from congrArg Prod.snd h₄])
  | true =>
  simp only [if_true]
  obtain ⟨pmRanges, hreported, hranges⟩ := utilInitialization_ranges hr hutil
  obtain ⟨h₅, hr₅⟩ := logged_powerCallbackInitialization k s₄
  generalize powerCallbackInitialization k s₄ = r at h₅ hr₅ ⊢
  obtain ⟨status₅, s₅⟩ := r
  replace h₅ : logged s₅ = (s₁.info, outer s) := h₅.trans h₄
  cases hpower : ntSuccess status₅ with
  | false => exact Or.inl (by simp [hpower, show outer s₅ = outer s from congrArg Prod.snd h₅])
  | true =>
  simp only [if_true]
  obtain ⟨h₆, hr₆⟩ := logged_hotplugCallbackInitialization k s₅
  generalize hotplugCallbackInitialization k s₅ = r at h₆ hr₆ ⊢
  obtain ⟨status₆, s₆⟩ := r
  replace h₆ : logged s₆ = (s₁.info, outer s) := h₆.trans h₅
  cases hhotplug : ntSuccess status₆ with
  | false => exact Or.inl (by simp [hhotplug, show outer s₆ = outer s from congrArg Prod.snd h₆])
  | true =>
  simp only [if_true]
  refine Or.inr ?_
  obtain ⟨hinfo, houter⟩ := Prod.mk.inj h₆
  obtain ⟨hsys, hreg⟩ := Prod.mk.inj houter
  have hruns : s₆.physicalMemoryRanges = some pmRanges.descriptor :=
    hr₆.trans (hr₅.trans hranges)
  simp only [vmInitialization, vmPlatform, hreported, hruns, hsys, Option.elim_some]
  obtain ⟨status₇, sys⟩ := DeviceMon.vmInitialization
    { k.platform with physicalMemoryRuns := pmRanges.descriptor.run } s.sys
  cases hvm : ntSuccess status₇.value with
  | false =>
    have hstatus : ¬status₇ = .success :=
      of_decide_eq_false ((NtStatus.ntSuccess_value status₇).symm.trans hvm)
    have houter : outer ({ s₆ with physicalMemoryRanges := some pmRanges.descriptor, sys := sys } :
        DriverState B C) = (sys, s.reinitialization) := congrArg (Prod.mk sys) hreg
    simp [houter, hstatus, NtStatus.isSuccess]
  | true =>
    obtain rfl : status₇ = .success :=
      of_decide_eq_true ((NtStatus.ntSuccess_value status₇).symm.trans hvm)
    refine ⟨rfl, trivial, fun _ => ?_, ?_⟩
    · by_cases hneeded : status = statusReinitializationNeeded
      · simpa [hneeded, logRegisterReinitialization] using hinfo
      · simpa [hneeded] using hinfo
    · by_cases hneeded : status = statusReinitializationNeeded
      · simp [hneeded, outer, logRegisterReinitialization, NtStatus.isSuccess]
      · simpa [hneeded, outer] using hreg

/-! ## Every stage is a bracket -/

/-- The destructors that are registered, the latest first. -/
def registered (ctors : List (List (ℕ × Bool))) : List ℕ :=
  ((ctors.flatten.filter Prod.snd).map Prod.fst).reverse

theorem bracket_stage {I J : DriverState B C → Prop} {ok : BitVec 32 → Bool}
    {up : DriverState B C → BitVec 32 × DriverState B C} {down : DriverState B C → DriverState B C}
    (hup : ∀ s, I s → ok (up s).1 = true → J (up s).2)
    (hfail : ∀ s, I s → ok (up s).1 = false → I (up s).2 ∧ ntSuccess (up s).1 = false)
    (hdown : ∀ s, J s → I (down s)) :
    Stage.Bracket (fun status => ntSuccess status = false) I J (stage ok up down) where
  up {s s'} hs h := by
    obtain ⟨hstatus, rfl⟩ := Prod.mk.inj h
    refine hup s hs ?_
    by_contra hno
    rw [if_neg hno] at hstatus
    cases hstatus
  fail {s s' e} hs h := by
    obtain ⟨hstatus, rfl⟩ := Prod.mk.inj h
    split_ifs at hstatus with hok
    obtain rfl := Option.some.inj hstatus
    exact hfail s hs (Bool.eq_false_of_not_eq_true hok)
  down {s} hs := hdown s hs

/-- A stage that comes up or stays where it was. -/
theorem bracket_cases {I J : DriverState B C → Prop}
    {up : DriverState B C → BitVec 32 × DriverState B C} {down : DriverState B C → DriverState B C}
    (hup : ∀ s, I s → (ntSuccess (up s).1 = true ∧ J (up s).2) ∨
      (ntSuccess (up s).1 = false ∧ I (up s).2))
    (hdown : ∀ s, J s → I (down s)) :
    Stage.Bracket (fun status => ntSuccess status = false) I J (stage ntSuccess up down) := by
  refine bracket_stage (fun s hs hok => ?_) (fun s hs hfail => ?_) hdown
  · rcases hup s hs with ⟨-, hJ⟩ | ⟨hno, -⟩
    · exact hJ
    · rw [hno] at hok
      cases hok
  · rcases hup s hs with ⟨hok, -⟩ | ⟨-, hI⟩
    · rw [hok] at hfail
      cases hfail
    · exact ⟨hI, hfail⟩

theorem log_bracket (k : LogKernel) (start : Ledger KernelObject) :
    Stage.Bracket (fun status => ntSuccess status = false)
      (fun s : DriverState B C => Holding start [] [] s ∧ s.info = .zero)
      (Holding start [] []) (stage logStarts (logInitialization k) logTermination) := by
  have hstarted : ∀ s : DriverState B C, Holding start [] [] s ∧ s.info = .zero →
      LogStarted k start (logInitialization k s) ∧
        Holding start [] [] (logInitialization k s).2 := fun s hs => by
    have hobjects := hs.1.objects
    rw [hs.2] at hobjects
    have hstarted := logInitialization_started k hobjects hs.2
    refine ⟨hstarted, hstarted.objects, hstarted.info, ?_, fun o ho => by cases ho⟩
    exact (congrArg Prod.fst (beyondLog_logInitialization k s)).trans hs.1.dtors
  refine bracket_stage (fun s hs _ => (hstarted s hs).2) (fun s hs hfail => ?_) fun s hs => ?_
  · obtain ⟨hlog, hholding⟩ := hstarted s hs
    obtain ⟨hneeded, hfail⟩ := Bool.or_eq_false_iff.1 hfail
    exact ⟨⟨hholding, hlog.failed (of_decide_eq_false hneeded) hfail⟩, hfail⟩
  · obtain ⟨hinfo, hobjects⟩ := Holding.finalize [] hs.objects hs.info
    refine ⟨⟨?_, ?_, ?_, fun o ho => by cases ho⟩, hinfo⟩
    · rw [logTermination, hinfo]
      exact hobjects
    · rw [logTermination, hinfo]
      exact ⟨rfl, fun h => h⟩
    · exact (congrArg Prod.fst (beyondLog_finalize s)).trans hs.dtors

theorem supported_bracket (k : DriverKernel B C) (I : DriverState B C → Prop) :
    Stage.Bracket (fun status => ntSuccess status = false) I I (stage ntSuccess (fun s =>
      (if driverpIsSuppoetedOS k then statusSuccess else NtStatus.cancelled.value, s)) id) :=
  bracket_stage (fun _ hs _ => hs) (fun _ hs hfail => ⟨hs, hfail⟩) fun _ hs => hs

/-- The calls of `atexit` register the destructors they have memory for. -/
theorem Holding.atexits (calls : List (ℕ × Bool)) (hs : Holding start [] dtors s) :
    Holding start [] (((calls.filter Prod.snd).map Prod.fst).reverse ++ dtors)
      (calls.foldl (fun s call => atexit call.1 call.2 s) s) := by
  induction calls generalizing s dtors with
  | nil => exact hs
  | cons call calls ih =>
    obtain ⟨dtor, element⟩ := call
    cases element with
    | false => exact ih hs
    | true =>
      have hcall : Holding start [] (dtor :: dtors) (atexit dtor true s) :=
        ⟨hs.objects.take _, hs.info, congrArg (dtor :: ·) hs.dtors, fun o ho => by cases ho⟩
      simpa using ih hcall

theorem Holding.pop (hs : Holding start [] dtors s) :
    Holding start [] [] (popDestructors dtors s) := by
  induction dtors generalizing s with
  | nil => exact hs
  | cons dtor dtors ih =>
    exact ih ⟨hs.objects.give, hs.info, rfl, fun o ho => by cases ho⟩

theorem global_bracket (ctors : List (List (ℕ × Bool))) (start : Ledger KernelObject) :
    Stage.Bracket (fun status => ntSuccess status = false) (Holding start [] [])
      (Holding start [] (registered ctors) : DriverState B C → Prop)
      (stage ntSuccess (globalObjectInitialization ctors) globalObjectTermination) := by
  refine bracket_cases (fun s hs => Or.inl ⟨NtStatus.ntSuccess_value .success, ?_⟩) fun s hs => ?_
  · have hctors := hs.atexits ctors.flatten
    rw [List.append_nil, List.foldl_flatten] at hctors
    exact hctors
  · rw [globalObjectTermination, hs.dtors]
    exact hs.pop

theorem perf_bracket (k : DriverKernel B C) (start : Ledger KernelObject) (dtors : List ℕ) :
    Stage.Bracket (fun status => ntSuccess status = false) (Holding start [] dtors)
      (Holding start [.perfCollector] dtors)
      (stage ntSuccess (perfInitialization k) perfTermination) := by
  refine bracket_cases (fun s hs => ?_) fun s hs => ?_
  · unfold perfInitialization
    split_ifs
    · exact Or.inr ⟨NtStatus.ntSuccess_value .memoryNotAllocated, hs⟩
    · exact Or.inl ⟨NtStatus.ntSuccess_value .success,
        hs.take rfl rfl rfl rfl fun o ho => by cases ho⟩
  · have hset : s.performanceCollector = true := hs.has .perfCollector (by simp)
    rw [perfTermination, if_pos hset]
    exact hs.give rfl rfl rfl fun o ho => by cases ho

theorem util_bracket (k : DriverKernel B C) (start : Ledger KernelObject) (dtors : List ℕ) :
    Stage.Bracket (fun status => ntSuccess status = false) (Holding start [.perfCollector] dtors)
      (Holding start [.pmBlock, .perfCollector] dtors)
      (stage ntSuccess (utilInitialization k) utilTermination) := by
  refine bracket_cases (fun s hs => ?_) fun s hs => ?_
  · unfold utilInitialization utilpInitializePhysicalMemoryRanges utilpBuildPhysicalMemoryRanges
    cases k.mmGetPhysicalMemoryRanges with
    | none =>
      dsimp only
      split_ifs with htables
      · exact Or.inr ⟨by simpa using htables, hs⟩
      · exact Or.inr ⟨NtStatus.ntSuccess_value .unsuccessful, hs⟩
    | some pmRanges =>
      have htaken := hs.objects.take .pmRanges
      have hrefused : Holding start [.perfCollector] dtors
          (Driver.give .pmRanges (Driver.take .pmRanges s)) :=
        ⟨htaken.give, hs.info, hs.dtors, hs.has⟩
      dsimp only
      split_ifs with htables hruns hblock
      · exact Or.inr ⟨by simpa using htables, hs⟩
      · exact Or.inr ⟨NtStatus.ntSuccess_value .unsuccessful, hrefused⟩
      · exact Or.inr ⟨NtStatus.ntSuccess_value .unsuccessful, hrefused⟩
      · have hboth := (htaken.take .pmBlock).perm (List.Perm.swap _ _ _)
        refine Or.inl ⟨NtStatus.ntSuccess_value .success, ⟨hboth.give, hs.info, hs.dtors, ?_⟩⟩
        rintro o (_ | ⟨_, _ | ⟨_, ho⟩⟩)
        · rfl
        · exact hs.has .perfCollector (by simp)
        · cases ho
  · have hset : s.physicalMemoryRanges.isSome = true := hs.has .pmBlock (by simp)
    rw [utilTermination, if_pos hset]
    exact hs.give rfl rfl rfl fun o _ => by cases o <;> rfl

theorem power_bracket (k : DriverKernel B C) (start : Ledger KernelObject) (dtors : List ℕ) :
    Stage.Bracket (fun status => ntSuccess status = false)
      (Holding start [.pmBlock, .perfCollector] dtors)
      (Holding start [.powerRegistration, .callbackObject, .pmBlock, .perfCollector] dtors)
      (stage ntSuccess (powerCallbackInitialization k) powerCallbackTermination) := by
  refine bracket_cases (fun s hs => ?_) fun s hs => ?_
  · simp only [powerCallbackInitialization]
    split_ifs with hcreate hregister
    · exact Or.inr ⟨by simpa using hcreate, hs⟩
    · refine Or.inr ⟨NtStatus.ntSuccess_value .unsuccessful, (hs.objects.take _).give, hs.info,
        hs.dtors, fun o ho => ?_⟩
      rw [← hs.has o ho]
      cases o <;> first | rfl | simp at ho
    · refine Or.inl ⟨by simpa using hcreate, ?_⟩
      have hcallback : Holding start [.callbackObject, .pmBlock, .perfCollector] dtors
          (Driver.take .callbackObject { s with callbackObject := true }) :=
        hs.take rfl rfl rfl rfl fun o ho => by cases o <;> first | rfl | simp at ho
      refine hcallback.take rfl rfl rfl ?_ fun o ho => by cases o <;> first | rfl | simp at ho
      have hregistration : k.exRegisterCallback = true := by simpa using hregister
      exact hregistration
  · have hregistration : s.registration = true := hs.has .powerRegistration (by simp)
    have hcallback : s.callbackObject = true := hs.has .callbackObject (by simp)
    have hrest : Holding start [.callbackObject, .pmBlock, .perfCollector] dtors
        (Driver.give .powerRegistration s) := hs.give rfl rfl rfl fun o _ => by cases o <;> rfl
    simp only [powerCallbackTermination, hregistration, if_true]
    rw [if_pos (show (Driver.give .powerRegistration s).callbackObject = true from hcallback)]
    exact hrest.give rfl rfl rfl fun o _ => by cases o <;> rfl

theorem hotplug_bracket (k : DriverKernel B C) (start : Ledger KernelObject) (dtors : List ℕ) :
    Stage.Bracket (fun status => ntSuccess status = false)
      (Holding start [.powerRegistration, .callbackObject, .pmBlock, .perfCollector] dtors)
      (Holding start
        [.hotplugHandle, .powerRegistration, .callbackObject, .pmBlock, .perfCollector] dtors)
      (stage ntSuccess (hotplugCallbackInitialization k) hotplugCallbackTermination) := by
  refine bracket_cases (fun s hs => ?_) fun s hs => ?_
  · unfold hotplugCallbackInitialization
    split_ifs
    · exact Or.inr ⟨NtStatus.ntSuccess_value .unsuccessful, hs⟩
    · exact Or.inl ⟨NtStatus.ntSuccess_value .success, hs.take rfl rfl rfl rfl fun o ho => by
        cases o <;> first | rfl | simp at ho⟩
  · have hset : s.callbackHandle = true := hs.has .hotplugHandle (by simp)
    rw [hotplugCallbackTermination, if_pos hset]
    exact hs.give rfl rfl rfl fun o _ => by cases o <;> rfl

/-- The processors hold no kernel objects. -/
theorem Holding.withSys (hs : Holding start upper dtors s) (sys : System B C) :
    Holding start upper dtors { s with sys := sys } := by
  refine ⟨hs.objects, hs.info, hs.dtors, fun o ho => ?_⟩
  rw [← hs.has o ho]
  cases o <;> rfl

theorem vm_bracket (k : DriverKernel B C) (pf : Platform B C) :
    Stage.Bracket (fun status => ntSuccess status = false) (Holding start upper dtors)
      (Holding start upper dtors) (stage ntSuccess (vmInitialization k) (vmTermination pf)) :=
  bracket_stage (fun _ hs _ => hs.withSys _) (fun _ hs hfail => ⟨hs.withSys _, hfail⟩)
    fun _ hs => hs.withSys _

/-- The objects of the stages after the global objects. -/
def upperObjects : List KernelObject :=
  [.hotplugHandle, .powerRegistration, .callbackObject, .pmBlock, .perfCollector]

theorem driverStages_brackets (k : DriverKernel B C) (pf : Platform B C)
    (start : Ledger KernelObject) :
    Stage.Brackets (fun status => ntSuccess status = false)
      (fun s : DriverState B C => Holding start [] [] s ∧ s.info = .zero) (driverStages k pf)
      (Holding start upperObjects (registered k.constructors)) :=
  .cons (log_bracket _ _) <| .cons (supported_bracket _ _) <| .cons (global_bracket _ _) <|
    .cons (perf_bracket _ _ _) <| .cons (util_bracket _ _ _) <| .cons (power_bracket _ _ _) <|
    .cons (hotplug_bracket _ _ _) <| .cons (vm_bracket _ _) .nil

/-! ## While the driver is loaded -/

/-- Before the driver is loaded. -/
structure Unloaded (s : DriverState B C) : Prop where
  info : s.info = .zero
  dtors : s.dtors = []
  reinitialization : s.reinitialization = false
  processors : ∀ i, s.sys.processors i = none
  active : 0 < s.sys.activeProcessorCount

theorem Unloaded.holding (hs : Unloaded s) : Holding s.objects [] [] s ∧ s.info = .zero := by
  refine ⟨⟨?_, ?_, hs.dtors, fun o ho => by cases ho⟩, hs.info⟩
  · rw [hs.info]
    exact .refl _
  · rw [hs.info]
    exact ⟨rfl, fun h => h⟩

/-- The objects after `DriverEntry`. -/
theorem driverEntry_holding (k : DriverKernel B C) (hs : Unloaded s) :
    ((driverEntry k s).1 = statusSuccess ∧
      Holding s.objects upperObjects (registered k.constructors) (driverEntry k s).2) ∨
    (ntSuccess (driverEntry k s).1 = false ∧
      Ledger.Holds s.objects (driverEntry k s).2.objects []) := by
  have hstages := (driverStages_brackets k k.platform s.objects).bringUp hs.holding
  rw [driverEntry_eq k k.platform s]
  generalize Stage.bringUp (driverStages k k.platform) s = r at hstages ⊢
  obtain ⟨status, s'⟩ := r
  rcases hstages with ⟨hok, hheld⟩ | ⟨e, herror, ⟨hheld, hinfo⟩, hfail⟩
  · obtain rfl : status = none := hok
    refine Or.inl ⟨rfl, ?_⟩
    dsimp only
    split_ifs
    · exact ⟨hheld.objects, hheld.info, hheld.dtors, fun o ho =>
        (by cases o <;> rfl : Driver.has (logRegisterReinitialization s') o = _).trans
          (hheld.has o ho)⟩
    · exact hheld
  · obtain rfl : status = some e := herror
    have hobjects := hheld.objects
    rw [hinfo] at hobjects
    exact Or.inr ⟨hfail, hobjects⟩

/-- One event, with the number of blocks it leaves behind. -/
inductive LoadedStep (s : DriverState B C) : ℕ → DriverState B C → Prop where
  /-- The power callback, the hot-plug callback or a VM exit. -/
  | power {lost : ℕ} {sys : System B C} (step : PowerStep s.sys lost sys) :
      LoadedStep s lost { s with sys := sys }
  /-- The kernel calls `LogpReinitializationRoutine`, once. -/
  | reinit (k : LogKernel) (registered : s.reinitialization = true) :
      LoadedStep s 0 { logpReinitializationRoutine k s with reinitialization := false }

/-- A run, with the number of blocks left behind. -/
inductive LoadedRun (s : DriverState B C) : ℕ → DriverState B C → Prop where
  | refl : LoadedRun s 0 s
  | tail {lost lost' : ℕ} {s₁ s₂ : DriverState B C} (run : LoadedRun s lost s₁)
      (step : LoadedStep s₁ lost' s₂) : LoadedRun s (lost + lost') s₂

/-- What holds between two events. -/
structure Loaded (start : Ledger KernelObject) (blocks : Ledger PoolBlock) (dtors : List ℕ)
    (lost : ℕ) (s : DriverState B C) : Prop where
  holding : Holding start upperObjects dtors s
  power : PowerState blocks lost s.sys

theorem Loaded.step {blocks : Ledger PoolBlock} {lost lost' : ℕ}
    (hs : Loaded start blocks dtors lost s) (h : LoadedStep s lost' s') :
    Loaded start blocks dtors (lost + lost') s' := by
  cases h with
  | power hstep => exact ⟨hs.holding.withSys _, hs.power.step hstep⟩
  | reinit k =>
    obtain ⟨hvalid, hobjects⟩ := logpInitializeLogFile_holds
      (upperObjects ++ dtors.map .destructorEntry) k
      (by rw [List.append_assoc]; exact hs.holding.objects) hs.holding.info
    have hleft := beyondLog_logpInitializeLogFile k s
    refine ⟨⟨?_, hvalid, (congrArg Prod.fst hleft).trans hs.holding.dtors, fun o ho => ?_⟩, ?_⟩
    · rw [List.append_assoc] at hobjects
      exact hobjects
    · rw [← hs.holding.has o ho, ← has_logpInitializeLogFile k s o]
      cases o <;> rfl
    · have hsys : (logpInitializeLogFile k s).2.sys = s.sys :=
        congrArg (fun beyond => beyond.2.1) hleft
      have hpower := hs.power
      rw [← hsys] at hpower
      exact hpower

theorem Loaded.run {blocks : Ledger PoolBlock} {lost lost' : ℕ}
    (hs : Loaded start blocks dtors lost s) (h : LoadedRun s lost' s') :
    Loaded start blocks dtors (lost + lost') s' := by
  induction h with
  | refl => exact hs
  | tail _ hstep ih =>
    rw [← Nat.add_assoc]
    exact ih.step hstep

/-! ## Unloading -/

theorem popDestructors_eq (dtors : List ℕ) (s : DriverState B C) (hs : s.dtors = dtors) :
    popDestructors dtors s =
      { s with
        objects := s.objects.giveAll (dtors.map KernelObject.destructorEntry)
        dtors := [] } := by
  induction dtors generalizing s with
  | nil =>
    obtain ⟨objects, info, _⟩ := s
    obtain rfl := hs
    rfl
  | cons dtor dtors ih => exact ih _ rfl

/-- The unload handler gives back all objects, the latest first but for those of the log. -/
theorem driverpDriverUnload_freed (pf : Platform B C) (hs : Holding start upperObjects dtors s) :
    (driverpDriverUnload pf s).objects.freed =
      (upperObjects ++ (dtors.map KernelObject.destructorEntry ++ s.info.objects)).reverse ++
        s.objects.freed := by
  obtain ⟨objects, info, dtors', performanceCollector, physicalMemoryRanges, callbackObject,
    registration, callbackHandle, reinitialization, sys⟩ := s
  obtain rfl : callbackHandle = true := hs.has .hotplugHandle (by decide)
  obtain rfl : registration = true := hs.has .powerRegistration (by decide)
  obtain rfl : callbackObject = true := hs.has .callbackObject (by decide)
  obtain ⟨ranges, rfl⟩ := Option.isSome_iff_exists.1 (hs.has .pmBlock (by decide))
  obtain rfl : performanceCollector = true := hs.has .perfCollector (by decide)
  obtain rfl : dtors' = dtors := hs.dtors
  rw [← Ledger.giveAll_freed, driverpDriverUnload, logTermination, globalObjectTermination,
    popDestructors_eq _ _ rfl, logpFinalizeBufferInfo_eq (by exact hs.info)]
  simp only [upperObjects, Ledger.giveAll, List.foldl_append, List.foldl_cons, List.foldl_nil]
  rfl

end Driver

/-! ## Results -/

section Results

open Driver

variable {B C : Type} {s s' : DriverState B C} {lost : ℕ}

/-- `DriverEntry` succeeds with all parts of the driver up and all processors virtualized. Of the
log there are the resource and both buffers, and the file with its thread unless its
reinitialization is registered. Or it fails, and then every object of the kernel was given back,
nothing is registered, no processor is virtualized and the pool has got back all blocks but those
that `VmInitialization` lost. -/
theorem driverEntry_all_or_nothing (k : DriverKernel B C) (hs : Unloaded s) :
    let r := driverEntry k s
    (r.1 = statusSuccess ∧
      Ledger.Holds s.objects r.2.objects (upperObjects ++
        ((registered k.constructors).map .destructorEntry ++ r.2.info.objects)) ∧
      (r.2.info = .ready (!r.2.reinitialization) ∨
        k.NeedsReinitialization ∧ r.2.info = .zero ∧ r.2.reinitialization = true) ∧
      (∀ i, (r.2.sys.processors i).isSome = true ↔ i < s.sys.activeProcessorCount) ∧
      (r.2.reinitialization = true ↔
        (logInitialization k.toLogKernel s).1 = statusReinitializationNeeded)) ∨
    (ntSuccess r.1 = false ∧ Ledger.Holds s.objects r.2.objects [] ∧
      r.2.reinitialization = false ∧ (∀ i, r.2.sys.processors i = none) ∧
      ∃ leaked, Ledger.Holds s.sys.heap.ledger r.2.sys.heap.ledger leaked ∧
        (leaked = [] ∨ leaked.length = blocksLost (vmPlatform k) s.sys)) := by
  intro r
  have hobjects : r.1 = statusSuccess ∧ _ ∨ _ ∧ _ := driverEntry_holding k hs
  obtain ⟨hpower, hend⟩ := vmInitialization_settled (vmPlatform k) hs.processors hs.active
  rcases driverEntry_vm k s with ⟨hfail, houter⟩ | ⟨hstatus, hstarts, hlog, houter⟩
  · -- it fails before there is a VMM
    obtain ⟨hsys, hregistered⟩ := Prod.mk.inj houter
    rcases hobjects with ⟨hok, -⟩ | ⟨hfail, hheld⟩
    · exact absurd (hfail.symm.trans (congrArg ntSuccess hok)) (by decide)
    · refine Or.inr ⟨hfail, hheld, hregistered.trans hs.reinitialization, ?_, [], ?_, Or.inl rfl⟩
      · rw [hsys]
        exact hs.processors
      · rw [hsys]
        exact .refl _
  · obtain ⟨hsys, hregistered⟩ := Prod.mk.inj houter
    replace hsys : r.2.sys = (DeviceMon.vmInitialization (vmPlatform k) s.sys).2 := hsys
    have hok : ntSuccess r.1 = (DeviceMon.vmInitialization (vmPlatform k) s.sys).1.isSuccess := by
      rw [← NtStatus.ntSuccess_value, ← hstatus]
    rw [hs.reinitialization, Bool.false_or] at hregistered
    rcases hobjects with ⟨hsuccess, hheld⟩ | ⟨hfail, hheld⟩
    · rw [hsuccess] at hok
      replace hok : (DeviceMon.vmInitialization (vmPlatform k) s.sys).1 = .success :=
        of_decide_eq_true (hok.symm.trans (by decide))
      have hrunning := vmInitialization_populated hs.processors (Prod.ext hok rfl)
      rw [hok, show NtStatus.success.isSuccess = true from rfl, Bool.true_and] at hregistered
      refine Or.inl ⟨hsuccess, hheld.objects, ?_, fun i => ?_, ?_⟩
      · rw [hregistered, show r.2.info = _ from hlog hok]
        exact logInitialization_info k.toLogKernel hs.info hstarts
      · rw [hsys, hrunning.virtualized i, List.getElem?_replicate]
        simp
      · rw [hregistered, decide_eq_true_eq]
    · rw [hfail] at hok
      have hno : (DeviceMon.vmInitialization (vmPlatform k) s.sys).1 ≠ .success :=
        of_decide_eq_false hok.symm
      rw [← hok, Bool.false_and] at hregistered
      refine Or.inr ⟨hfail, hheld, hregistered, ?_, ?_⟩
      · rw [hsys]
        exact hend.resolve_left fun h => hno h.1
      · obtain ⟨leaked, hleaked, hlen⟩ := hpower.anew (hend.resolve_left fun h => hno h.1)
        rw [hsys]
        exact ⟨leaked, hleaked, Or.inr hlen⟩

/-- After a successful `VmInitialization` nothing is lost. -/
theorem vmInitialization_power {pf : Platform B C} {sys : System B C}
    (hnone : ∀ i, sys.processors i = none) (hactive : 0 < sys.activeProcessorCount)
    (hok : (DeviceMon.vmInitialization pf sys).1 = .success) :
    PowerState sys.heap.ledger 0 (DeviceMon.vmInitialization pf sys).2 := by
  obtain ⟨hpower, hend⟩ := vmInitialization_settled pf hnone hactive
  rcases hend with ⟨-, hlost⟩ | hstopped
  · rw [hlost] at hpower
    exact hpower
  · have hrunning := ((vmInitialization_populated hnone (Prod.ext hok rfl)).virtualized 0).2
      (by simp [hactive])
    rw [hstopped 0] at hrunning
    cases hrunning

/-- After `DriverEntry` succeeded and any run, the unload handler takes all processors out of VMX
operation and gives back every object of the kernel once. What `DriverEntry` took it gives back the
latest first, so the destructors are called in the reverse order of their registration; the log
comes last, with the file and the thread of its reinitialization. The pool has got back all blocks
but those the run lost. -/
theorem driverRun_unload (k : DriverKernel B C) (hs : Unloaded s)
    (hentry : (driverEntry k s).1 = statusSuccess) (hrun : LoadedRun (driverEntry k s).2 lost s')
    (pf : Platform B C) :
    let u := driverpDriverUnload pf s'
    (∀ i, u.sys.processors i = none) ∧
      (∃ leaked, leaked.length = lost ∧
        Ledger.Holds s.sys.heap.ledger u.sys.heap.ledger leaked) ∧
      Ledger.Holds s.objects u.objects [] ∧
      u.objects.freed = (upperObjects ++ ((registered k.constructors).map
        KernelObject.destructorEntry ++ s'.info.objects)).reverse ++ s'.objects.freed := by
  intro u
  have hsuccess : ntSuccess statusSuccess = true := by decide
  have hheld : Holding s.objects upperObjects (registered k.constructors) (driverEntry k s).2 := by
    rcases driverEntry_holding k hs with ⟨-, hheld⟩ | ⟨hfail, -⟩
    · exact hheld
    · rw [hentry, hsuccess] at hfail
      cases hfail
  have hloaded : Loaded s.objects s.sys.heap.ledger (registered k.constructors) 0
      (driverEntry k s).2 := by
    refine ⟨hheld, ?_⟩
    rcases driverEntry_vm k s with ⟨hfail, -⟩ | ⟨hstatus, -, -, houter⟩
    · rw [hentry, hsuccess] at hfail
      cases hfail
    · have hok := NtStatus.ntSuccess_value (DeviceMon.vmInitialization (vmPlatform k) s.sys).1
      rw [← hstatus, hentry, hsuccess] at hok
      rw [show (driverEntry k s).2.sys = _ from congrArg Prod.fst houter]
      exact vmInitialization_power hs.processors hs.active (of_decide_eq_true hok.symm)
  have hrunning := hloaded.run hrun
  rw [Nat.zero_add] at hrunning
  obtain ⟨hend, hstopped⟩ := hrunning.power.terminate pf
  have hsys : u.sys = DeviceMon.vmTermination pf s'.sys := by
    have houter : outer u = outer (Driver.vmTermination pf s') := by
      simp [u, driverpDriverUnload]
    exact congrArg Prod.fst houter
  have hback := (driverStages_brackets k pf s.objects).takeDown hrunning.holding
  rw [← driverpDriverUnload_eq] at hback
  obtain ⟨hobjects, hinfo⟩ := hback
  have hgiven := hobjects.objects
  rw [hinfo] at hgiven
  refine ⟨?_, ?_, hgiven, driverpDriverUnload_freed pf hrunning.holding⟩
  · rw [hsys]
    exact hstopped
  · obtain ⟨leaked, hleaked, hlen⟩ := hend.anew hstopped
    rw [hsys]
    exact ⟨leaked, hlen, hleaked⟩

end Results

/-! ## A boot driver -/

/-- Two processors and one page of memory. The log file is not there yet, and there are two global
objects. -/
def bootKernel (hotplug : Bool) : DriverKernel (BitVec 32) Unit where
  exInitializeResourceLite := statusSuccess
  logBuffer1 := true
  logBuffer2 := true
  zwCreateFile := statusObjectPathNotFound
  psCreateSystemThread := statusSuccess
  logInfo := statusSuccess
  rtlGetVersion := statusSuccess
  majorVersion := 10
  constructors := [[(1, true)], [(2, true)]]
  perfCollector := true
  pageTableVariables := statusSuccess
  mmGetPhysicalMemoryRanges := some onePageRanges
  pmBlock := true
  exCreateCallback := statusSuccess
  exRegisterCallback := true
  keRegisterProcessorChangeCallback := hotplug
  platform := spiPlatform (bumpPoolWithout 0x10000)

def bootState : DriverState (BitVec 32) Unit where
  objects := ⟨[], [], []⟩
  info := .zero
  dtors := []
  performanceCollector := false
  physicalMemoryRanges := none
  callbackObject := false
  registration := false
  callbackHandle := false
  reinitialization := false
  sys := freshSystem 2

theorem bootState_unloaded : Driver.Unloaded bootState :=
  ⟨rfl, rfl, rfl, fun _ => rfl, by decide⟩

/-- `DriverEntry` succeeds without the log file, or the change callback cannot be registered. -/
theorem driverEntry_all_or_nothing_hotplug :
    Ledger.Holds ⟨[], [], []⟩ (Driver.driverEntry (bootKernel true) bootState).2.objects
      [.hotplugHandle, .powerRegistration, .callbackObject, .pmBlock, .perfCollector,
        .destructorEntry 2, .destructorEntry 1, .logBuffer .logBuffer2, .logBuffer .logBuffer1,
        .resource] ∧
    Ledger.Holds ⟨[], [], []⟩ (Driver.driverEntry (bootKernel false) bootState).2.objects [] := by
  constructor
  · rcases driverEntry_all_or_nothing (bootKernel true) bootState_unloaded with
      ⟨-, hheld, hlog, -, hreg⟩ | ⟨hfail, -⟩
    · have hready : (Driver.driverEntry (bootKernel true) bootState).2.info = .ready false := by
        rcases hlog with hready | ⟨hneeded, -⟩
        · rw [hreg.2 (by decide)] at hready
          exact hready
        · exact absurd hneeded (by unfold LogKernel.NeedsReinitialization; decide)
      rw [hready] at hheld
      exact hheld
    · exact absurd hfail (by decide +kernel)
  · rcases driverEntry_all_or_nothing (bootKernel false) bootState_unloaded with
      ⟨hok, -⟩ | ⟨-, h, -⟩
    · exact absurd hok (by decide +kernel)
    · exact h

/-- The file is opened after `DriverEntry`. -/
def bootReinitialized : DriverState (BitVec 32) Unit :=
  { Driver.logpReinitializationRoutine { (bootKernel true).toLogKernel with
      zwCreateFile := statusSuccess } (Driver.driverEntry (bootKernel true) bootState).2 with
    reinitialization := false }

theorem driverRun_unload_boot : (Driver.driverpDriverUnload
    (spiPlatform (bumpPoolWithout 0x10000)) bootReinitialized).objects.freed.reverse =
      [.pmRanges, .hotplugHandle, .powerRegistration, .callbackObject, .pmBlock, .perfCollector,
        .destructorEntry 2, .destructorEntry 1, .logThread, .logFile, .logBuffer .logBuffer2,
        .logBuffer .logBuffer1, .resource] := by
  have hrun : Driver.LoadedRun (Driver.driverEntry (bootKernel true) bootState).2 (0 + 0)
      bootReinitialized := .tail .refl (.reinit _ (by decide +kernel))
  obtain ⟨-, -, -, hfreed⟩ := driverRun_unload (bootKernel true) bootState_unloaded
    (by decide +kernel) hrun (spiPlatform (bumpPoolWithout 0x10000))
  rw [hfreed]
  decide +kernel

end DeviceMon
