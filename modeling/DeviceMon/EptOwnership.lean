import DeviceMon.EptStart
import DeviceMon.Ledger
import DeviceMon.RadixFrames

/-!
# Who holds the tables

Every block the EPT code takes from the pool is in one place : in the tree, among the
spare tables, or one of the two structures `EptData` and its array. `Owns` says so as an
account of the pool. Mapping keeps it, also when it fails halfway
(`construct_owns`), and the destructor gives back the tables of the tree one by one
(`eptpDestructTables_eq`). So a life of the tables, from `EptInitialization` over any
mappings to `EptTermination`, gives back each block once, and none before the end. So
does an `EptInitialization` that fails, wherever it does (`FailedStart`).
-/

namespace DeviceMon

open EptState

/-! ## Accounts -/

/-- The account of the pool. -/
def Heap.ledger (h : Heap) : Ledger PoolBlock :=
  ⟨h.live, h.freed, h.allocated⟩

/-- The indices of a table, in the order of the loops. -/
def tableIndices : List TableIndex :=
  (List.finRange 512).map BitVec.ofFin

theorem mem_tableIndices (i : TableIndex) : i ∈ tableIndices :=
  List.mem_map.2 ⟨i.toFin, List.mem_finRange _, rfl⟩

theorem nodup_tableIndices : tableIndices.Nodup :=
  (List.nodup_finRange 512).map fun _ _ h => BitVec.ofFin.inj h

namespace EptState

/-- The tables of the tree, those below a table first. -/
def tables (root : Frame) (s : EptState) : List Frame :=
  Radix.frames nextTable s.heap.table tableIndices 3 root

/-- The pages of the tree and of the spare tables. -/
def pages (root : Frame) (s : EptState) : List PoolBlock :=
  (s.tables root ++ s.spare).map .page

end EptState

/-- Since `start` the pool has handed out the pages of the tables and the blocks in `base`,
and what else it handed out it got back. -/
def Owns (start : Ledger PoolBlock) (base : List PoolBlock) (root : Frame) (s : EptState) : Prop :=
  Ledger.Holds start s.heap.ledger (s.pages root ++ base)

section Owns

variable {start : Ledger PoolBlock} {base : List PoolBlock} {root : Frame} {s s' : EptState}
  (pool : Pool) (mtrr : Mtrr)

/-- Tables with the same walks are the same tables. -/
theorem EptWF.tables_perm (hw : EptWF root s) (hw' : EptWF root s')
    (h : ∀ {p}, p.length ≤ 3 → s'.walk root p = s.walk root p) :
    (s'.tables root).Perm (s.tables root) :=
  Radix.frames_perm mem_tableIndices nodup_tableIndices hw.tree hw'.tree fun _ hp => h hp

theorem Owns.of_perm (h : Owns start base root s) (hl : s'.heap.ledger = s.heap.ledger)
    (hp : ((s'.tables root) ++ s'.spare).Perm (s.tables root ++ s.spare)) :
    Owns start base root s' := by
  unfold Owns
  rw [hl]
  exact h.perm ((hp.map _).symm.append_right _)

/-! ## Allocation -/

/-- What allocating a table does to the account : the table is held next to the others. -/
theorem Owns.allocateFromPool (hw : EptWF root s) (h : Owns start base root s) :
    (∀ t, (eptpAllocateEptEntryFromPool pool s).1 = some t →
        Owns start (.page t :: base) root (eptpAllocateEptEntryFromPool pool s).2) ∧
      ((eptpAllocateEptEntryFromPool pool s).1 = none →
        Owns start base root (eptpAllocateEptEntryFromPool pool s).2) := by
  obtain ⟨hw', -, -, -⟩ := allocateFromPool_spec pool hw
  constructor
  · intro t ht
    obtain ⟨⟨-, hfresh⟩, heq⟩ := allocateFromPool_some pool ht
    have hunr := hw.unreached_of_not_live hfresh
    rw [heq] at hw' ⊢
    have htables := hw.tables_perm hw' fun hp =>
      Radix.follow_of_unreached hunr (fun g hg => if_neg hg) hp
    have hheld : Ledger.Holds start (s.heap.ledger.take (.page t))
        (.page t :: (s.pages root ++ base)) := h.take _
    refine hheld.perm ?_
    refine List.perm_middle.symm.trans (List.Perm.append_right _ ?_)
    exact ((htables.append_right _).map _).symm
  · intro hn
    rw [allocateFromPool_none pool hn]
    exact h

/-- A full array has no spare table left once the counter has passed it. -/
theorem Owns.advance_full (h : Owns start base root s)
    (hlen : s.data.preallocatedEntries.length ≤ s.data.preallocatedEntriesCount) :
    Owns start base root { s with data := { s.data with
      preallocatedEntriesCount := s.data.preallocatedEntriesCount + 1 } } := by
  refine h.of_perm rfl ?_
  rw [EptState.spare, EptState.spare, List.drop_of_length_le hlen,
    List.drop_of_length_le (Nat.le_succ_of_le hlen)]
  exact List.Perm.refl _

/-- The next spare table is held next to the others once the counter has passed it. -/
theorem Owns.advance_spare (h : Owns start base root s) {t : Frame}
    (ht : s.data.preallocatedEntries[s.data.preallocatedEntriesCount]? = some t) :
    Owns start (.page t :: base) root { s with data := { s.data with
      preallocatedEntriesCount := s.data.preallocatedEntriesCount + 1 } } := by
  obtain ⟨hlt, hget⟩ := List.getElem?_eq_some_iff.1 ht
  have hspare : s.spare = t :: s.data.preallocatedEntries.drop
      (s.data.preallocatedEntriesCount + 1) := by
    rw [EptState.spare, List.drop_eq_getElem_cons hlt, hget]
  refine Ledger.Holds.perm h ?_
  rw [EptState.pages, hspare]
  exact ((List.perm_middle.map _).append_right _).trans List.perm_middle.symm

theorem Owns.allocate (hasData : Bool) (hw : EptWF root s) (h : Owns start base root s)
    (hlen : s.data.preallocatedEntries.length ≤ kEptpNumberOfPreallocatedEntries) :
    (∀ t, (eptpAllocateEptEntry pool hasData s).1 = some t →
        Owns start (.page t :: base) root (eptpAllocateEptEntry pool hasData s).2) ∧
      ((eptpAllocateEptEntry pool hasData s).1 = none →
        Owns start base root (eptpAllocateEptEntry pool hasData s).2) := by
  cases hasData with
  | false => exact h.allocateFromPool pool hw
  | true =>
    simp only [eptpAllocateEptEntry, if_true, eptpAllocateEptEntryFromPreAllocated]
    split_ifs with hc
    · exact (h.advance_full (by omega)).allocateFromPool pool (hw.advance _ (Nat.le_succ _))
    · refine ⟨fun t ht => h.advance_spare ht, fun hn => h.advance_full ?_⟩
      exact List.getElem?_eq_none_iff.1 hn

/-! ## Mapping -/

/-- Linking a table moves it into the tree. -/
theorem Owns.attach (hw : EptWF root s) {q : List TableIndex} {g t : Frame} {i : TableIndex}
    {e : EptCommonEntry} (h : Owns start (.page t :: base) root s) (hg : s.walk root q = some g)
    (hq : q.length < 3) (hi : (s.read (g, i)).all = 0) (ht : FreshTable root s t)
    (he : nextTable e = some t) : Owns start base root (s.write (g, i) e) := by
  have ha : Radix.Attach nextTable s.heap.table root 3 q g i e t :=
    ⟨hg, hq, nextTable_eq_none hi, ht.unreached,
      fun j => by rw [ht.empty j]; exact nextTable_zero, he⟩
  have htables : ((s.write (g, i) e).tables root).Perm (t :: s.tables root) := by
    rw [EptState.tables, heap_write_table]
    exact Radix.frames_attach mem_tableIndices nodup_tableIndices hw.tree ha
  refine Ledger.Holds.perm h ?_
  exact List.perm_middle.trans ((((htables.append_right s.spare).map _).symm).append_right _)

theorem Owns.writeLeaf (hw : EptWF root s) (h : Owns start base root s) {q : List TableIndex}
    {g : Frame} (hg : s.walk root q = some g) (hq : q.length = 3) (i : TableIndex)
    (e : EptCommonEntry) : Owns start base root (s.write (g, i) e) := by
  obtain ⟨hw', hwalk, -⟩ := write_leaf_spec hw hg hq i e
  exact h.of_perm rfl ((hw.tables_perm hw' hwalk).append_right _)

theorem Owns.link (hasData : Bool) (level : ℕ) (hw : EptWF root s) (h : Owns start base root s)
    (hlen : s.data.preallocatedEntries.length ≤ kEptpNumberOfPreallocatedEntries)
    {q : List TableIndex} {g : Frame} {i : TableIndex} (hg : s.walk root q = some g)
    (hq : q.length < 3) :
    Owns start base root (eptpLinkTable pool mtrr hasData level (g, i) s).2 := by
  unfold eptpLinkTable
  by_cases hi : (s.read (g, i)).all = 0
  · rw [if_pos hi]
    obtain ⟨hw₁, he₁, hf₁, -⟩ := allocate_spec pool hasData hw
    obtain ⟨hsome, hnone⟩ := h.allocate pool hasData hw hlen
    have htab := allocate_table pool hasData (hw.reached_live hq.le hg)
    generalize eptpAllocateEptEntry pool hasData s = r at hw₁ he₁ hf₁ hsome hnone htab ⊢
    obtain ⟨t, s₁⟩ := r
    cases t with
    | none => exact hnone rfl
    | some t =>
      have hunused : (s₁.read (g, i)).all = 0 := by
        rw [EptState.read, htab]
        exact hi
      exact (hsome t rfl).attach hw₁ (he₁.walk hq.le hg) hq hunused (hf₁ t rfl)
        (nextTable_init mtrr _ level t)
  · rw [if_neg hi]
    exact h

/-- Constructing tables keeps the account, whether it succeeds or stops halfway. -/
theorem construct_owns (hasData : Bool) (pa : BitVec 64) :
    ∀ (level : ℕ) {q : List TableIndex} {table : Frame} {s : EptState},
      q.length + level = 4 → 1 ≤ level → EptWF root s → Owns start base root s →
      s.data.preallocatedEntries.length ≤ kEptpNumberOfPreallocatedEntries →
      s.walk root q = some table →
      Owns start base root (eptpConstructTables pool mtrr hasData level table pa s).2
  | 0, _, _, _, _, hl, _, _, _, _ => by omega
  | 1, q, table, s, hq, _, hw, h, _, hg => h.writeLeaf hw hg (by omega) _ _
  | level + 2, q, table, s, hq, _, hw, h, hlen, hg => by
    obtain ⟨hw₁, he₁, hlink, -⟩ := link_spec pool mtrr (fun _ => id) hasData (level + 2)
      hw hg (i := tableIndex (level + 2) pa) (by omega)
    have h₁ := h.link pool mtrr hasData (level + 2) hw hlen (i := tableIndex (level + 2) pa) hg
      (by omega)
    rw [eptpConstructTables, if_neg (by omega)]
    cases hr : eptpLinkTable pool mtrr hasData (level + 2) (table, tableIndex (level + 2) pa) s with
    | mk ok s₁ =>
      rw [hr] at hw₁ he₁ hlink h₁
      simp only [hr]
      cases ok with
      | false => exact h₁
      | true =>
        exact construct_owns hasData pa (level + 1) (by simp; omega) (by omega) hw₁ h₁
          (by rw [he₁.preallocated]; exact hlen) (hlink rfl)

end Owns

/-! ## The destructor -/

/-- Pages given back one after another. -/
def Heap.freePages (fs : List Frame) (h : Heap) : Heap :=
  fs.foldl (fun h f => h.free (.page f)) h

theorem Heap.ledger_free (b : PoolBlock) (h : Heap) : (h.free b).ledger = h.ledger.give b :=
  rfl

theorem Heap.freePages_append (fs gs : List Frame) (h : Heap) :
    h.freePages (fs ++ gs) = (h.freePages fs).freePages gs :=
  List.foldl_append

@[simp] theorem Heap.freePages_table (fs : List Frame) (h : Heap) :
    (h.freePages fs).table = h.table := by
  induction fs generalizing h with
  | nil => rfl
  | cons f fs ih => exact ih _

theorem Heap.freePages_allocated (fs : List Frame) (h : Heap) :
    (h.freePages fs).allocated = h.allocated := by
  induction fs generalizing h with
  | nil => rfl
  | cons f fs ih => exact ih _

theorem Heap.free_allocated (b : PoolBlock) (h : Heap) : (h.free b).allocated = h.allocated :=
  rfl

theorem Heap.ledger_freePages (fs : List Frame) (h : Heap) :
    (h.freePages fs).ledger = h.ledger.giveAll (fs.map .page) := by
  induction fs generalizing h with
  | nil => rfl
  | cons f fs ih => exact ih _

/-- Above the last level a frame field is zero only in an unused entry : this is how the
destructor finds the tables below. -/
def FindsTables (d : ℕ) (root : Frame) (table : Frame → TableIndex → EptCommonEntry) : Prop :=
  ∀ p g, p.length < d → Radix.follow nextTable table root p = some g → ∀ i,
    (table g i).physialAddress = 0 ↔ (table g i).all = 0

theorem FindsTables.child {d : ℕ} {root f : Frame} {i : TableIndex}
    {table : Frame → TableIndex → EptCommonEntry} (h : FindsTables (d + 1) root table)
    (hl : nextTable (table root i) = some f) : FindsTables d f table := by
  intro p g hp hg
  exact h (i :: p) g (Nat.succ_lt_succ hp) (by rw [Radix.follow, hl]; exact hg)

theorem EptWF.findsTables {root : Frame} {s : EptState} (hw : EptWF root s) :
    FindsTables 3 root s.heap.table := by
  intro p g hp hg i
  constructor
  · intro h0
    by_contra hne
    refine hw.reached_ne_zero ?_ (EptState.walk_snoc hg hne) h0
    rw [List.length_append]
    exact hp
  · intro h0
    rw [(EptCommonEntry.all_eq_zero_iff _).1 h0]
    rfl

/-- The destructor gives back the tables of the tree, those below a table first. -/
theorem eptpDestructTables_eq : ∀ (d : ℕ) {f : Frame} {s : EptState}, d ≤ 3 →
    FindsTables d f s.heap.table →
    eptpDestructTables (d + 1) f s =
      { s with heap := s.heap.freePages (Radix.frames nextTable s.heap.table tableIndices d f) }
  | 0, f, s, _, _ => by
    have hloop : ∀ l : List (Fin 512), l.foldl (fun s i =>
        let e := s.read (f, BitVec.ofFin i)
        if e.physialAddress = 0 then s
        else
          let subTable := utilVaFromPfn e.physialAddress
          if 0 + 1 = 4 ∨ 0 + 1 = 3 then eptpDestructTables 0 subTable s
          else if 0 + 1 = 2 then { s with heap := s.heap.free (.page subTable) }
          else s) s = s := by
      intro l
      induction l with
      | nil => rfl
      | cons i l ih => simp
    rw [eptpDestructTables, hloop]
    rfl
  | d + 1, f, s, hd, hfinds => by
    -- one round gives back the tables below its entry
    have hround : ∀ (i : TableIndex) (s' : EptState), s'.heap.table = s.heap.table →
        (let e := s'.read (f, i)
          if e.physialAddress = 0 then s'
          else
            let subTable := utilVaFromPfn e.physialAddress
            if d + 1 + 1 = 4 ∨ d + 1 + 1 = 3 then eptpDestructTables (d + 1) subTable s'
            else if d + 1 + 1 = 2 then { s' with heap := s'.heap.free (.page subTable) }
            else s') =
          { s' with heap := s'.heap.freePages ((nextTable (s.heap.table f i)).elim []
              (Radix.frames nextTable s.heap.table tableIndices d)) } := by
      intro i s' ht
      have hiff := hfinds [] f (Nat.succ_pos d) rfl i
      simp only [EptState.read, ht]
      by_cases hz : (s.heap.table f i).all = 0
      · rw [if_pos (hiff.2 hz), nextTable_eq_none hz]
        rfl
      · have hnext := nextTable_of_ne hz
        rw [if_neg fun h => hz (hiff.1 h), hnext]
        have hchild := hfinds.child hnext
        rw [← ht] at hchild ⊢
        by_cases hd0 : d = 0
        · subst hd0
          rfl
        · rw [if_pos (by omega), eptpDestructTables_eq d (by omega) hchild]
          rfl
    -- so the loop gives back those below all entries
    have hloop : ∀ (l : List (Fin 512)) (s' : EptState), s'.heap.table = s.heap.table →
        l.foldl (fun s' i =>
          let e := s'.read (f, BitVec.ofFin i)
          if e.physialAddress = 0 then s'
          else
            let subTable := utilVaFromPfn e.physialAddress
            if d + 1 + 1 = 4 ∨ d + 1 + 1 = 3 then eptpDestructTables (d + 1) subTable s'
            else if d + 1 + 1 = 2 then { s' with heap := s'.heap.free (.page subTable) }
            else s') s' =
          { s' with heap := s'.heap.freePages ((l.map BitVec.ofFin).flatMap fun i =>
              (nextTable (s.heap.table f i)).elim []
                (Radix.frames nextTable s.heap.table tableIndices d)) } := by
      intro l
      induction l with
      | nil => exact fun _ _ => rfl
      | cons i l ih =>
        intro s' ht
        rw [List.foldl_cons, hround (BitVec.ofFin i) s' ht,
          ih _ ((Heap.freePages_table _ _).trans ht), List.map_cons, List.flatMap_cons,
          Heap.freePages_append]
    rw [eptpDestructTables, hloop (List.finRange 512) s rfl, Radix.frames, Heap.freePages_append]
    rfl

/-! ## A life of the tables -/

section Life

variable {start : Ledger PoolBlock} {base : List PoolBlock} {root : Frame} {s : EptState}
  (pool : Pool) (mtrr : Mtrr)

/-- Freeing the tree gives back its pages. -/
theorem Owns.destruct (hw : EptWF root s) (h : Owns start base root s) {h' : Heap}
    (ht : h'.table = s.heap.table) (hl : h'.ledger = s.heap.ledger) (data : EptData) :
    Ledger.Holds start (eptpDestructTables 4 root ⟨h', data⟩).heap.ledger
      (s.spare.map .page ++ base) := by
  have hfinds : FindsTables 3 root h'.table := by
    rw [ht]
    exact hw.findsTables
  rw [eptpDestructTables_eq 3 le_rfl hfinds, Heap.ledger_freePages]
  simp only [ht, hl]
  refine Ledger.Holds.giveAll (Ledger.Holds.perm h ?_)
  rw [EptState.pages, List.map_append, List.append_assoc]
  exact List.Perm.refl _

/-- Freeing the spare tables with their array and then the tree gives back all pages. -/
theorem Owns.freeAll {entries : List Frame} {usedCount : ℕ} {array : PoolBlock} (hw : EptWF root s)
    (h : Owns start (array :: base) root s) (hspare : s.spare = entries.drop usedCount)
    (data : EptData) :
    Ledger.Holds start (eptpDestructTables 4 root
      ⟨eptpFreeUnusedPreAllocatedEntries entries array usedCount s.heap, data⟩).heap.ledger
      base := by
  have htable : (eptpFreeUnusedPreAllocatedEntries entries array usedCount s.heap).table =
      s.heap.table := Heap.freePages_table (entries.drop usedCount) s.heap
  have hspares : Ledger.Holds start (s.heap.ledger.giveAll (s.spare.map .page))
      (array :: ((s.tables root).map .page ++ base)) := by
    refine Ledger.Holds.giveAll (Ledger.Holds.perm h ?_)
    rw [EptState.pages, List.map_append, List.append_assoc]
    exact (List.perm_append_comm_assoc _ _ _).trans (List.Perm.append_left _ List.perm_middle)
  have hledger : (eptpFreeUnusedPreAllocatedEntries entries array usedCount s.heap).ledger =
      (s.heap.ledger.giveAll (s.spare.map .page)).give array := by
    rw [hspare, ← Heap.ledger_freePages]
    rfl
  rw [eptpDestructTables_eq 3 le_rfl (by simp only [htable]; exact hw.findsTables),
    Heap.ledger_freePages]
  simp only [htable, hledger]
  exact Ledger.Holds.giveAll hspares.give

/-- `EptTermination` gives back everything the tables hold. -/
theorem Owns.termination (hr : EptReady s)
    (h : Owns start (s.data.preallocatedArray :: s.data.self :: base) s.data.eptPml4 s) :
    Ledger.Holds start (eptTermination s).ledger base := by
  rw [eptTermination, Heap.ledger_free]
  exact (h.freeAll hr.wf rfl s.data).give

theorem allocateData_ledger {h h' : Heap} {b : PoolBlock}
    (hd : h.allocateData pool = (some b, h')) : h'.ledger = h.ledger.take b := by
  unfold Heap.allocateData at hd
  split_ifs at hd
  · cases hd
    rfl
  · cases hd

theorem allocateData_none {h h' : Heap} (hd : h.allocateData pool = (none, h')) :
    h'.table = h.table ∧ h'.ledger = h.ledger := by
  unfold Heap.allocateData at hd
  split_ifs at hd
  · cases hd
  · cases hd
    exact ⟨rfl, rfl⟩

theorem allocatePage_ledger {h h' : Heap} {f : Frame}
    (hp : h.allocatePage pool = (some f, h')) : h'.ledger = h.ledger.take (.page f) := by
  unfold Heap.allocatePage at hp
  cases hf : pool.page h.requests h with
  | none => rw [hf] at hp; cases hp
  | some g =>
    rw [hf] at hp
    cases hp
    rfl

theorem allocatePage_none {h h' : Heap} (hp : h.allocatePage pool = (none, h')) :
    h'.ledger = h.ledger := by
  unfold Heap.allocatePage at hp
  cases hf : pool.page h.requests h with
  | none =>
    rw [hf] at hp
    cases hp
    rfl
  | some g => rw [hf] at hp; cases hp

/-- An empty PML4 is the only page of its tables. -/
theorem pages_zeroPage (h : Heap) (pml4 : Frame) :
    EptState.pages pml4 ⟨h.zeroPage pml4, .zero⟩ = [.page pml4] := by
  have hnone : ∀ i, nextTable ((h.zeroPage pml4).table pml4 i) = none := by
    intro i
    simp [Heap.zeroPage]
  have hspare : EptState.spare ⟨h.zeroPage pml4, .zero⟩ = [] := rfl
  have hframes : (EptState.tables pml4 ⟨h.zeroPage pml4, .zero⟩) = [pml4] := by
    rw [EptState.tables, Radix.frames]
    simp [hnone]
  rw [EptState.pages, hspare, hframes]
  rfl

/-- Mapping a list of addresses keeps the account. -/
theorem constructAll_owns (pas : List (BitVec 64)) (hw : EptWF root s)
    (hf : FreshLeaves mtrr root s) (h : Owns start base root s)
    (hlen : s.data.preallocatedEntries.length ≤ kEptpNumberOfPreallocatedEntries) :
    Owns start base root (eptpConstructAll pool mtrr root pas s).2 := by
  induction pas generalizing s with
  | nil => exact h
  | cons pa pas ih =>
    obtain ⟨hw₁, hf₁, hp₁⟩ := constructTables_start pool mtrr hw hf pa
    have h₁ := construct_owns pool mtrr false pa 4 (q := []) rfl (by omega) hw h hlen rfl
    rw [eptpConstructAll]
    generalize eptpConstructTables pool mtrr false 4 root pa s = r at hw₁ hf₁ hp₁ h₁ ⊢
    obtain ⟨r, s₁⟩ := r
    cases r with
    | none => exact h₁
    | some ptr => exact ih hw₁ hf₁ h₁ (by rw [hp₁]; exact hlen)

/-- Filling the array keeps the account, also when it stops halfway. -/
theorem fillPreallocated_owns (n : ℕ) {entries : List Frame}
    (hw : EptWF root (withPreallocated root entries s))
    (h : Owns start base root (withPreallocated root entries s)) :
    EptWF root (withPreallocated root (eptpFillPreallocated pool n entries s).2.1
        (eptpFillPreallocated pool n entries s).2.2) ∧
      Owns start base root (withPreallocated root (eptpFillPreallocated pool n entries s).2.1
        (eptpFillPreallocated pool n entries s).2.2) := by
  induction n generalizing entries s with
  | zero => exact ⟨hw, h⟩
  | succ n ih =>
    obtain ⟨hw₁, -, ht₁, -⟩ := allocateFromPool_spec pool hw
    obtain ⟨hsome, hnone⟩ := h.allocateFromPool pool hw
    rw [allocateFromPool_withPreallocated] at hw₁ ht₁ hsome hnone
    have hstep : eptpAllocateEptEntry pool false s = eptpAllocateEptEntryFromPool pool s := rfl
    rw [eptpFillPreallocated, hstep]
    generalize eptpAllocateEptEntryFromPool pool s = r at hw₁ ht₁ hsome hnone ⊢
    obtain ⟨t, s₁⟩ := r
    cases t with
    | none => exact ⟨hw₁, hnone rfl⟩
    | some t =>
      refine ih (EptWF.addSpare hw₁ (ht₁ t rfl)) (Ledger.Holds.perm (hsome t rfl) ?_)
      simp only [EptState.pages, spare_withPreallocated, List.map_append, List.append_assoc]
      exact List.Perm.refl _

/-- What holds the pages while the tables are built : the account after the PML4. -/
theorem start_owns {h h₁ h₂ : Heap} {eptData : PoolBlock} {pml4 : Frame}
    (hdata : h.allocateData pool = (some eptData, h₁))
    (hpage : h₁.allocatePage pool = (some pml4, h₂)) :
    EptWF pml4 ⟨h₂.zeroPage pml4, .zero⟩ ∧ FreshLeaves mtrr pml4 ⟨h₂.zeroPage pml4, .zero⟩ ∧
      Owns h.ledger [eptData] pml4 ⟨h₂.zeroPage pml4, .zero⟩ := by
  obtain ⟨hne, hlive⟩ := allocatePage_some pool hpage
  obtain ⟨hw, hf⟩ := EptWF.zeroPage mtrr hne hlive
  refine ⟨hw, hf, ?_⟩
  rw [Owns, pages_zeroPage]
  have hheld := ((Ledger.Holds.refl h.ledger).take eptData).take (.page pml4)
  rw [← allocateData_ledger pool hdata, ← allocatePage_ledger pool hpage] at hheld
  exact hheld

/-- What holds the pages once the memory is mapped. -/
theorem mapped_owns {h h₁ h₂ : Heap} {eptData : PoolBlock} {pml4 : Frame} {s₃ : EptState}
    {ok : Bool} {pas : List (BitVec 64)} (hdata : h.allocateData pool = (some eptData, h₁))
    (hpage : h₁.allocatePage pool = (some pml4, h₂))
    (hall : eptpConstructAll pool mtrr pml4 pas ⟨h₂.zeroPage pml4, .zero⟩ = (ok, s₃)) :
    EptWF pml4 s₃ ∧ FreshLeaves mtrr pml4 s₃ ∧ s₃.spare = [] ∧ Owns h.ledger [eptData] pml4 s₃ := by
  obtain ⟨hw, hf, hown⟩ := start_owns pool mtrr hdata hpage
  obtain ⟨hw₃, hf₃, hp₃⟩ := constructAll_start pool mtrr pas hw hf
  have hown₃ := constructAll_owns pool mtrr pas hw hf hown (Nat.zero_le _)
  rw [hall] at hw₃ hf₃ hp₃ hown₃
  refine ⟨hw₃, hf₃, ?_, hown₃⟩
  rw [EptState.spare, hp₃]
  exact List.drop_nil

/-- What holds the pages while the array is filled. -/
theorem filled_owns {start : Ledger PoolBlock} {eptData array : PoolBlock} {pml4 : Frame}
    {s₃ s₅ : EptState} {h₄ : Heap} {ok : Bool} {entries : List Frame} {n : ℕ}
    (hw : EptWF pml4 s₃) (hspare : s₃.spare = []) (hown : Owns start [eptData] pml4 s₃)
    (harr : s₃.heap.allocateData pool = (some array, h₄))
    (hfill : eptpFillPreallocated pool n [] { s₃ with heap := h₄ } = (ok, entries, s₅)) :
    EptWF pml4 (withPreallocated pml4 entries s₅) ∧
      Owns start [array, eptData] pml4 (withPreallocated pml4 entries s₅) := by
  obtain ⟨ht₄, hl₄⟩ := allocateData_some pool harr
  have hw₄ : EptWF pml4 (withPreallocated pml4 [] { s₃ with heap := h₄ }) :=
    hw.of_heap ht₄ hl₄ hspare.symm
  have hown₄ : Owns start [array, eptData] pml4
      (withPreallocated pml4 [] { s₃ with heap := h₄ }) := by
    have hheld := Ledger.Holds.take hown array
    rw [← allocateData_ledger pool harr] at hheld
    refine Ledger.Holds.perm hheld ?_
    have hpages : EptState.pages pml4 (withPreallocated pml4 [] { s₃ with heap := h₄ }) =
        s₃.pages pml4 := by
      rw [EptState.pages, EptState.pages, spare_withPreallocated, hspare, EptState.tables,
        EptState.tables, withPreallocated, ht₄]
    rw [hpages]
    exact List.perm_middle.symm
  have hfinal := fillPreallocated_owns pool n hw₄ hown₄
  rwa [hfill] at hfinal

/-- What `EptInitialization` holds when it succeeds. -/
theorem eptInitialization_owns {runs : List PhysicalMemoryRun} {apicBase : BitVec 64}
    {h h' : Heap} {data : EptData}
    (hok : eptInitialization pool mtrr runs apicBase h = (some data, h')) :
    Owns h.ledger [data.preallocatedArray, data.self] data.eptPml4 ⟨h', data⟩ := by
  obtain ⟨eptData, h₁, pml4, h₂, s₃, array, h₄, entries, s₅, hdata, hpage, hall, harr, hfill, rfl,
    rfl⟩ := eptInitialization_some pool mtrr hok
  obtain ⟨hw₃, -, hspare, hown₃⟩ := mapped_owns pool mtrr hdata hpage hall
  exact (filled_owns pool hw₃ hspare hown₃ harr hfill).2

/-- The exits of `EptInitialization` that return no tables, with the heap each leaves. -/
inductive FailedStart (runs : List PhysicalMemoryRun) (apicBase : BitVec 64) (h : Heap) :
    Heap → Prop
  | noData {h' : Heap} (hdata : h.allocateData pool = (none, h')) : FailedStart runs apicBase h h'
  | noPml4 {eptData : PoolBlock} {h₁ h₂ : Heap} (hdata : h.allocateData pool = (some eptData, h₁))
      (hpage : h₁.allocatePage pool = (none, h₂)) :
      FailedStart runs apicBase h (h₂.free eptData)
  | notMapped {eptData : PoolBlock} {h₁ h₂ : Heap} {pml4 : Frame} {s₃ : EptState}
      (hdata : h.allocateData pool = (some eptData, h₁))
      (hpage : h₁.allocatePage pool = (some pml4, h₂))
      (hall : eptpConstructAll pool mtrr pml4 (runs.flatMap PhysicalMemoryRun.addresses ++
        [apicBase * 0x1000]) ⟨h₂.zeroPage pml4, .zero⟩ = (false, s₃)) :
      FailedStart runs apicBase h ((eptpDestructTables 4 pml4 s₃).heap.free eptData)
  | noArray {eptData : PoolBlock} {h₁ h₂ h₄ : Heap} {pml4 : Frame} {s₃ : EptState}
      (hdata : h.allocateData pool = (some eptData, h₁))
      (hpage : h₁.allocatePage pool = (some pml4, h₂))
      (hall : eptpConstructAll pool mtrr pml4 (runs.flatMap PhysicalMemoryRun.addresses ++
        [apicBase * 0x1000]) ⟨h₂.zeroPage pml4, .zero⟩ = (true, s₃))
      (harr : s₃.heap.allocateData pool = (none, h₄)) :
      FailedStart runs apicBase h
        ((eptpDestructTables 4 pml4 { s₃ with heap := h₄ }).heap.free eptData)
  | notFilled {eptData array : PoolBlock} {h₁ h₂ h₄ : Heap} {pml4 : Frame} {s₃ s₅ : EptState}
      {entries : List Frame} (hdata : h.allocateData pool = (some eptData, h₁))
      (hpage : h₁.allocatePage pool = (some pml4, h₂))
      (hall : eptpConstructAll pool mtrr pml4 (runs.flatMap PhysicalMemoryRun.addresses ++
        [apicBase * 0x1000]) ⟨h₂.zeroPage pml4, .zero⟩ = (true, s₃))
      (harr : s₃.heap.allocateData pool = (some array, h₄))
      (hfill : eptpFillPreallocated pool kEptpNumberOfPreallocatedEntries []
        { s₃ with heap := h₄ } = (false, entries, s₅)) :
      FailedStart runs apicBase h ((eptpDestructTables 4 pml4 { s₅ with
        heap := eptpFreeUnusedPreAllocatedEntries entries array 0 s₅.heap }).heap.free eptData)

theorem failedStart_of_none {runs : List PhysicalMemoryRun} {apicBase : BitVec 64}
    {h h' : Heap} (hfail : eptInitialization pool mtrr runs apicBase h = (none, h')) :
    FailedStart pool mtrr runs apicBase h h' := by
  unfold eptInitialization at hfail
  split at hfail
  · rename_i hdata
    cases hfail
    exact .noData hdata
  rename_i hdata
  split at hfail
  · rename_i hpage
    cases hfail
    exact .noPml4 hdata hpage
  rename_i hpage
  simp only at hfail
  split at hfail
  · rename_i hall
    obtain ⟨-, rfl⟩ := Prod.mk.inj hfail
    exact .notMapped hdata hpage hall
  rename_i hall
  split at hfail
  · rename_i harr
    obtain ⟨-, rfl⟩ := Prod.mk.inj hfail
    exact .noArray hdata hpage hall harr
  rename_i harr
  split at hfail
  · rename_i hfill
    obtain ⟨-, rfl⟩ := Prod.mk.inj hfail
    exact .notFilled hdata hpage hall harr hfill
  · cases hfail

/-- When `EptInitialization` fails it holds nothing. -/
theorem eptInitialization_none {runs : List PhysicalMemoryRun} {apicBase : BitVec 64}
    {h h' : Heap} (hfail : eptInitialization pool mtrr runs apicBase h = (none, h')) :
    Ledger.Holds h.ledger h'.ledger [] := by
  cases failedStart_of_none pool mtrr hfail with
  | noData hdata =>
    rw [(allocateData_none pool hdata).2]
    exact .refl _
  | @noPml4 eptData h₁ h₂ hdata hpage =>
    have hheld := (Ledger.Holds.refl h.ledger).take eptData
    rw [← allocateData_ledger pool hdata, ← allocatePage_none pool hpage] at hheld
    exact hheld.give
  | @notMapped _ _ _ _ s₃ hdata hpage hall =>
    obtain ⟨hw₃, -, hspare, hown₃⟩ := mapped_owns pool mtrr hdata hpage hall
    have hheld := hown₃.destruct hw₃ rfl rfl s₃.data
    rw [hspare] at hheld
    rw [Heap.ledger_free]
    exact hheld.give
  | @noArray _ _ _ _ _ s₃ hdata hpage hall harr =>
    obtain ⟨hw₃, -, hspare, hown₃⟩ := mapped_owns pool mtrr hdata hpage hall
    obtain ⟨htable, hledger⟩ := allocateData_none pool harr
    have hheld := hown₃.destruct hw₃ htable hledger s₃.data
    rw [hspare] at hheld
    rw [Heap.ledger_free]
    exact hheld.give
  | @notFilled _ _ _ _ _ _ _ s₅ _ hdata hpage hall harr hfill =>
    obtain ⟨hw₃, -, hspare, hown₃⟩ := mapped_owns pool mtrr hdata hpage hall
    obtain ⟨hw₅, hown₅⟩ := filled_owns pool hw₃ hspare hown₃ harr hfill
    rw [Heap.ledger_free]
    exact (hown₅.freeAll hw₅ rfl s₅.data).give

end Life

/-! ## What mapping leaves alone -/

/-- Nothing is freed, the two structures stay where they are, and requests and refusals are
counted on. -/
structure KeepsBlocks (s s' : EptState) : Prop where
  freed : s'.heap.freed = s.heap.freed
  array : s'.data.preallocatedArray = s.data.preallocatedArray
  self : s'.data.self = s.data.self
  requests : s.heap.requests ≤ s'.heap.requests
  refusals : s.heap.refused ≤ s'.heap.refused

section KeepsBlocks

variable {s s' s'' : EptState} (pool : Pool) (mtrr : Mtrr)

theorem KeepsBlocks.refl (s : EptState) : KeepsBlocks s s :=
  ⟨rfl, rfl, rfl, le_rfl, le_rfl⟩

theorem KeepsBlocks.trans (h : KeepsBlocks s s') (h' : KeepsBlocks s' s'') : KeepsBlocks s s'' :=
  ⟨h'.freed.trans h.freed, h'.array.trans h.array, h'.self.trans h.self,
    h.requests.trans h'.requests, h.refusals.trans h'.refusals⟩

theorem allocateFromPool_keepsBlocks :
    KeepsBlocks s (eptpAllocateEptEntryFromPool pool s).2 := by
  cases h : (eptpAllocateEptEntryFromPool pool s).1 with
  | none =>
    rw [allocateFromPool_none pool h]
    exact ⟨rfl, rfl, rfl, Nat.le_succ _, Nat.le_succ _⟩
  | some t =>
    rw [(allocateFromPool_some pool h).2]
    exact ⟨rfl, rfl, rfl, Nat.le_succ _, le_rfl⟩

theorem allocate_keepsBlocks (hasData : Bool) :
    KeepsBlocks s (eptpAllocateEptEntry pool hasData s).2 := by
  cases hasData with
  | false => exact allocateFromPool_keepsBlocks pool
  | true =>
    simp only [eptpAllocateEptEntry, if_true, eptpAllocateEptEntryFromPreAllocated]
    split_ifs
    · obtain ⟨h1, h2, h3, h4, h5⟩ := allocateFromPool_keepsBlocks pool
        (s := { s with data := { s.data with
          preallocatedEntriesCount := s.data.preallocatedEntriesCount + 1 } })
      exact ⟨h1, h2, h3, h4, h5⟩
    · exact ⟨rfl, rfl, rfl, le_rfl, le_rfl⟩

theorem link_keepsBlocks (hasData : Bool) (level : ℕ) (ptr : EntryPtr) :
    KeepsBlocks s (eptpLinkTable pool mtrr hasData level ptr s).2 := by
  have ha := allocate_keepsBlocks (s := s) pool hasData
  unfold eptpLinkTable
  split_ifs
  · generalize eptpAllocateEptEntry pool hasData s = r at ha ⊢
    obtain ⟨t, s₁⟩ := r
    cases t with
    | none => exact ha
    | some t => exact ha.trans ⟨rfl, rfl, rfl, le_rfl, le_rfl⟩
  · exact .refl s

theorem construct_keepsBlocks (hasData : Bool) (pa : BitVec 64) :
    ∀ (level : ℕ) (table : Frame) (s : EptState),
      KeepsBlocks s (eptpConstructTables pool mtrr hasData level table pa s).2
  | 0, _, s => .refl s
  | 1, _, s => ⟨rfl, rfl, rfl, le_rfl, le_rfl⟩
  | level + 2, table, s => by
    have hlink := link_keepsBlocks (s := s) pool mtrr hasData (level + 2)
      (table, tableIndex (level + 2) pa)
    rw [eptpConstructTables]
    split_ifs
    · exact .refl s
    · cases h : eptpLinkTable pool mtrr hasData (level + 2)
        (table, tableIndex (level + 2) pa) s with
      | mk ok s₁ =>
        rw [h] at hlink
        simp only [h]
        cases ok with
        | false => exact hlink
        | true => exact hlink.trans (construct_keepsBlocks hasData pa (level + 1) _ s₁)

theorem constructAll_keepsBlocks (root : Frame) (pas : List (BitVec 64)) :
    KeepsBlocks s (eptpConstructAll pool mtrr root pas s).2 := by
  induction pas generalizing s with
  | nil => exact .refl s
  | cons pa pas ih =>
    have hc := construct_keepsBlocks pool mtrr false pa 4 root s
    rw [eptpConstructAll]
    generalize eptpConstructTables pool mtrr false 4 root pa s = r at hc ⊢
    obtain ⟨r, s₁⟩ := r
    cases r with
    | none => exact hc
    | some ptr => exact hc.trans ih

theorem fillPreallocated_keepsBlocks (n : ℕ) (entries : List Frame) :
    KeepsBlocks s (eptpFillPreallocated pool n entries s).2.2 := by
  induction n generalizing entries s with
  | zero => exact .refl s
  | succ n ih =>
    have ha := allocate_keepsBlocks (s := s) pool false
    rw [eptpFillPreallocated]
    generalize eptpAllocateEptEntry pool false s = r at ha ⊢
    obtain ⟨t, s₁⟩ := r
    cases t with
    | none => exact ha
    | some t => exact ha.trans (ih _)

end KeepsBlocks

/-! ## From start to end -/

/-- A call between start and end that may construct tables. -/
inductive EptCall where
  /-- `EptHandleEptViolation`. -/
  | violation (q : EptViolationQualification) (faultPa : BitVec 64)
  /-- `EptpMapGpaToHpa`. -/
  | map (pa : BitVec 64)

/-- The tables after a call. -/
def EptCall.run (pool : Pool) (mtrr : Mtrr) : EptCall → EptState → EptState
  | violation q faultPa, s => eptHandleEptViolation pool mtrr q faultPa s
  | map pa, s => (eptpMapGpaToHpa pool mtrr pa s).2

/-- The tables after a sequence of calls. -/
def runEptCalls (pool : Pool) (mtrr : Mtrr) (calls : List EptCall) (s : EptState) : EptState :=
  calls.foldl (fun s c => c.run pool mtrr s) s

section Calls

variable {start : Ledger PoolBlock} {base : List PoolBlock} {s : EptState} (pool : Pool)
  (mtrr : Mtrr)

/-- A call changes nothing or maps an address. -/
theorem EptCall.run_cases (c : EptCall) (s : EptState) :
    c.run pool mtrr s = s ∨ ∃ pa, c.run pool mtrr s = (eptpMapGpaToHpa pool mtrr pa s).2 := by
  cases c with
  | map pa => exact Or.inr ⟨pa, rfl⟩
  | violation q faultPa =>
    simp only [EptCall.run, eptHandleEptViolation]
    split_ifs
    · exact Or.inl rfl
    · cases eptGetEptPtEntry s faultPa with
      | none => exact Or.inr ⟨faultPa, rfl⟩
      | some ptr =>
        by_cases hz : (s.read ptr).all ≠ 0
        · exact Or.inl (if_pos hz)
        · exact Or.inr ⟨faultPa, if_neg hz⟩

/-- One call keeps the account. -/
theorem EptCall.run_owns (c : EptCall) (hr : EptReady s) (h : Owns start base s.data.eptPml4 s) :
    EptReady (c.run pool mtrr s) ∧ KeepsBlocks s (c.run pool mtrr s) ∧
      Owns start base (c.run pool mtrr s).data.eptPml4 (c.run pool mtrr s) := by
  rcases c.run_cases pool mtrr s with heq | ⟨pa, heq⟩
  · rw [heq]
    exact ⟨hr, .refl s, h⟩
  · have hc := construct_spec_aux pool mtrr true pa 4 (q := []) rfl (by omega) hr.wf rfl
    have hown := construct_owns pool mtrr true pa 4 (q := []) rfl (by omega) hr.wf h hr.full.le rfl
    rw [heq]
    refine ⟨(hr.map_spec pool mtrr pa).keeps.ready,
      construct_keepsBlocks pool mtrr true pa 4 s.data.eptPml4 s, ?_⟩
    rw [show (eptpMapGpaToHpa pool mtrr pa s).2.data.eptPml4 = s.data.eptPml4 from hc.pml4]
    exact hown

/-- A sequence of calls keeps the account. -/
theorem runEptCalls_owns (calls : List EptCall) (hr : EptReady s)
    (h : Owns start base s.data.eptPml4 s) :
    EptReady (runEptCalls pool mtrr calls s) ∧ KeepsBlocks s (runEptCalls pool mtrr calls s) ∧
      Owns start base (runEptCalls pool mtrr calls s).data.eptPml4
        (runEptCalls pool mtrr calls s) := by
  induction calls generalizing s with
  | nil => exact ⟨hr, .refl s, h⟩
  | cons c calls ih =>
    obtain ⟨hr₁, hk₁, h₁⟩ := c.run_owns pool mtrr hr h
    obtain ⟨hr₂, hk₂, h₂⟩ := ih hr₁ h₁
    exact ⟨hr₂, hk₁.trans hk₂, h₂⟩

/-- No page is held twice. -/
theorem EptWF.nodup_pages {root : Frame} (hw : EptWF root s) : (s.pages root).Nodup := by
  have htables : (s.tables root).Nodup :=
    Radix.nodup_frames mem_tableIndices nodup_tableIndices hw.tree
  have hdisjoint : (s.tables root).Disjoint s.spare := by
    intro f hf hf'
    obtain ⟨p, hp, hwalk⟩ := (Radix.mem_frames mem_tableIndices).1 hf
    exact hw.spare_unreached hf' p hp hwalk
  exact (htables.append hw.spare_nodup hdisjoint).map fun _ _ h => PoolBlock.page.inj h

/-- Until `mid` nothing is freed and after it nothing is handed out : each block is freed once. -/
theorem Heap.settled_once {h mid h' : Heap} {held : List PoolBlock}
    (hmid : Ledger.Holds h.ledger mid.ledger held) (hfreed : mid.freed = h.freed)
    (hheld : held.Nodup) (hend : Ledger.Holds h.ledger h'.ledger [])
    (halloc : h'.allocated = mid.allocated) :
    h'.live.Perm h.live ∧ ∃ new gone, h'.allocated = new ++ h.allocated ∧
      h'.freed = gone ++ h.freed ∧ new.Nodup ∧ gone.Perm new :=
  Ledger.Holds.settled_once hmid hfreed hheld hend halloc

/-- Nor is a page one of the small structures. -/
theorem EptWF.nodup_held {root : Frame} (hw : EptWF root s) {held : List PoolBlock}
    (hheld : held.Nodup) (hdata : ∀ b ∈ held, ∃ n, b = .data n) :
    (s.pages root ++ held).Nodup := by
  refine hw.nodup_pages.append hheld fun b hb hb' => ?_
  obtain ⟨f, -, rfl⟩ := List.mem_map.1 hb
  obtain ⟨n, hn⟩ := hdata _ hb'
  cases hn

/-- A structure is known by the number of its request. -/
theorem allocateData_block {h h' : Heap} {b : PoolBlock}
    (hd : h.allocateData pool = (some b, h')) :
    b = .data h.requests ∧ h'.requests = h.requests + 1 ∧ h'.freed = h.freed ∧
      h'.refused = h.refused := by
  unfold Heap.allocateData at hd
  split_ifs at hd
  · cases hd
    exact ⟨rfl, rfl, rfl, rfl⟩
  · cases hd

theorem allocatePage_block {h h' : Heap} {f : Frame} (hp : h.allocatePage pool = (some f, h')) :
    h'.requests = h.requests + 1 ∧ h'.freed = h.freed ∧ h'.refused = h.refused := by
  unfold Heap.allocatePage at hp
  cases hf : pool.page h.requests h with
  | none => rw [hf] at hp; cases hp
  | some g =>
    rw [hf] at hp
    cases hp
    exact ⟨rfl, rfl, rfl⟩

/-- Up to the end of the mapping nothing is freed. -/
theorem mapped_keeps {h h₁ h₂ : Heap} {eptData : PoolBlock} {pml4 : Frame} {s₃ : EptState}
    {ok : Bool} {pas : List (BitVec 64)} (hdata : h.allocateData pool = (some eptData, h₁))
    (hpage : h₁.allocatePage pool = (some pml4, h₂))
    (hall : eptpConstructAll pool mtrr pml4 pas ⟨h₂.zeroPage pml4, .zero⟩ = (ok, s₃)) :
    eptData = .data h.requests ∧ h.requests < s₃.heap.requests ∧ s₃.heap.freed = h.freed ∧
      h.refused ≤ s₃.heap.refused := by
  obtain ⟨hblock, hr₁, hf₁, hn₁⟩ := allocateData_block pool hdata
  obtain ⟨hr₂, hf₂, hn₂⟩ := allocatePage_block pool hpage
  have h₃ := constructAll_keepsBlocks (s := ⟨h₂.zeroPage pml4, .zero⟩) pool mtrr pml4 pas
  rw [hall] at h₃
  have hreq : h₂.requests ≤ s₃.heap.requests := h₃.requests
  have hrefused : h₂.refused ≤ s₃.heap.refused := h₃.refusals
  refine ⟨hblock, by omega, ?_, by omega⟩
  calc s₃.heap.freed = h₂.freed := h₃.freed
    _ = h₁.freed := hf₂
    _ = h.freed := hf₁

/-- Filling the array frees nothing, and the array is another structure. -/
theorem filled_keeps {s₃ s₅ : EptState} {array : PoolBlock} {h₄ : Heap} {ok : Bool}
    {entries : List Frame} {n : ℕ} (harr : s₃.heap.allocateData pool = (some array, h₄))
    (hfill : eptpFillPreallocated pool n [] { s₃ with heap := h₄ } = (ok, entries, s₅)) :
    array = .data s₃.heap.requests ∧ s₅.heap.freed = s₃.heap.freed ∧
      s₃.heap.refused ≤ s₅.heap.refused := by
  obtain ⟨hblock, -, hf₄, hn₄⟩ := allocateData_block pool harr
  have h₅ := fillPreallocated_keepsBlocks (s := { s₃ with heap := h₄ }) pool n []
  rw [hfill] at h₅
  exact ⟨hblock, h₅.freed.trans hf₄, hn₄.ge.trans h₅.refusals⟩

/-- A start frees nothing, and its two structures come from different requests. -/
theorem eptInitialization_keepsBlocks {runs : List PhysicalMemoryRun} {apicBase : BitVec 64}
    {h h' : Heap} {data : EptData}
    (hok : eptInitialization pool mtrr runs apicBase h = (some data, h')) :
    h'.freed = h.freed ∧ h.refused ≤ h'.refused ∧
      ∃ n m, data.preallocatedArray = .data n ∧ data.self = .data m ∧ n ≠ m := by
  obtain ⟨eptData, h₁, pml4, h₂, s₃, array, h₄, entries, s₅, hdata, hpage, hall, harr, hfill, rfl,
    rfl⟩ := eptInitialization_some pool mtrr hok
  obtain ⟨rfl, hlt, hf₃, hn₃⟩ := mapped_keeps pool mtrr hdata hpage hall
  obtain ⟨rfl, hf₅, hn₅⟩ := filled_keeps pool harr hfill
  exact ⟨hf₅.trans hf₃, hn₃.trans hn₅, _, _, rfl, rfl, hlt.ne'⟩

/-- Freeing the tree hands out nothing. -/
theorem destruct_allocated {root : Frame} (hw : EptWF root s) {h' : Heap}
    (ht : h'.table = s.heap.table) (data : EptData) :
    (eptpDestructTables 4 root ⟨h', data⟩).heap.allocated = h'.allocated := by
  have hfinds : FindsTables 3 root h'.table := by
    rw [ht]
    exact hw.findsTables
  rw [eptpDestructTables_eq 3 le_rfl hfinds]
  exact Heap.freePages_allocated _ h'

/-- Nor does freeing the spare tables and the tree. -/
theorem freeAll_allocated {root : Frame} (hw : EptWF root s) (entries : List Frame)
    (array : PoolBlock) (usedCount : ℕ) (data : EptData) :
    (eptpDestructTables 4 root
      ⟨eptpFreeUnusedPreAllocatedEntries entries array usedCount s.heap, data⟩).heap.allocated =
        s.heap.allocated := by
  have htable : (eptpFreeUnusedPreAllocatedEntries entries array usedCount s.heap).table =
      s.heap.table := Heap.freePages_table (entries.drop usedCount) s.heap
  rw [destruct_allocated hw htable]
  exact Heap.freePages_allocated (entries.drop usedCount) s.heap

/-- The end hands out nothing. -/
theorem eptTermination_allocated (hr : EptReady s) :
    (eptTermination s).allocated = s.heap.allocated := by
  rw [eptTermination, Heap.free_allocated]
  exact freeAll_allocated hr.wf _ _ _ s.data

/-- From a successful start over any calls nothing is freed; the end gives back each block
handed out since, once, and no two of these are the same. -/
theorem eptTermination_returns_all {runs : List PhysicalMemoryRun} {apicBase : BitVec 64}
    {h h' : Heap} {data : EptData}
    (hok : eptInitialization pool mtrr runs apicBase h = (some data, h')) (calls : List EptCall) :
    (runEptCalls pool mtrr calls ⟨h', data⟩).heap.freed = h.freed ∧
      (eptTermination (runEptCalls pool mtrr calls ⟨h', data⟩)).live.Perm h.live ∧
      ∃ new gone,
        (eptTermination (runEptCalls pool mtrr calls ⟨h', data⟩)).allocated = new ++ h.allocated ∧
        (eptTermination (runEptCalls pool mtrr calls ⟨h', data⟩)).freed = gone ++ h.freed ∧
        new.Nodup ∧ gone.Perm new := by
  have hready := (eptInitialization_spec pool mtrr hok).1
  obtain ⟨hfreed, -, n, m, hn, hm, hne⟩ := eptInitialization_keepsBlocks pool mtrr hok
  obtain ⟨hr, hk, hown⟩ := runEptCalls_owns pool mtrr calls hready
    (eptInitialization_owns pool mtrr hok)
  generalize runEptCalls pool mtrr calls ⟨h', data⟩ = s at hr hk hown ⊢
  have hsfreed : s.heap.freed = h.freed := hk.freed.trans hfreed
  have harray : s.data.preallocatedArray = .data n := hk.array.trans hn
  have hself : s.data.self = .data m := hk.self.trans hm
  rw [← show s.data.preallocatedArray = data.preallocatedArray from hk.array,
    ← show s.data.self = data.self from hk.self] at hown
  -- before the end all that was handed out is held : the pages and the two structures
  have hheld : (s.pages s.data.eptPml4 ++ [s.data.preallocatedArray, s.data.self]).Nodup := by
    rw [harray, hself]
    refine hr.wf.nodup_held (by simp [hne]) fun b hb => ?_
    rcases List.mem_pair.1 hb with rfl | rfl
    · exact ⟨n, rfl⟩
    · exact ⟨m, rfl⟩
  exact ⟨hsfreed, Heap.settled_once hown hsfreed hheld (hown.termination hr)
    (eptTermination_allocated hr)⟩

theorem eptTermination_returns_all_boot :
    (runEptCalls bumpPool uncached [.map 0xFED00000] ⟨bootEpt.heap, bootEpt.data⟩).heap.freed =
        [] ∧
      (eptTermination (runEptCalls bumpPool uncached [.map 0xFED00000]
        ⟨bootEpt.heap, bootEpt.data⟩)).live.Perm [] ∧
      ∃ new gone,
        (eptTermination (runEptCalls bumpPool uncached [.map 0xFED00000]
          ⟨bootEpt.heap, bootEpt.data⟩)).allocated = new ++ [] ∧
        (eptTermination (runEptCalls bumpPool uncached [.map 0xFED00000]
          ⟨bootEpt.heap, bootEpt.data⟩)).freed = gone ++ [] ∧
        new.Nodup ∧ gone.Perm new :=
  eptTermination_returns_all bumpPool uncached boot_eq [.map 0xFED00000]

/-- A start that fails gives back each block it was handed, once, and no two of these are the
same : the pool has in use what it had before. -/
theorem eptInitialization_fails_clean {runs : List PhysicalMemoryRun} {apicBase : BitVec 64}
    {h h' : Heap} (hfail : eptInitialization pool mtrr runs apicBase h = (none, h')) :
    h'.live.Perm h.live ∧ ∃ new gone, h'.allocated = new ++ h.allocated ∧
      h'.freed = gone ++ h.freed ∧ new.Nodup ∧ gone.Perm new := by
  have hnow := eptInitialization_none pool mtrr hfail
  cases failedStart_of_none pool mtrr hfail with
  | noData hdata =>
    exact Heap.settled_once (Ledger.Holds.refl h.ledger) rfl List.nodup_nil hnow
      (congrArg Ledger.allocated (allocateData_none pool hdata).2)
  | @noPml4 eptData h₁ h₂ hdata hpage =>
    have hmid := (Ledger.Holds.refl h.ledger).take eptData
    rw [← allocateData_ledger pool hdata] at hmid
    exact Heap.settled_once hmid (allocateData_block pool hdata).2.2.1 (List.nodup_singleton _)
      hnow ((h₂.free_allocated eptData).trans
        (congrArg Ledger.allocated (allocatePage_none pool hpage)))
  | @notMapped _ _ _ _ s₃ hdata hpage hall =>
    obtain ⟨hw₃, -, -, hown₃⟩ := mapped_owns pool mtrr hdata hpage hall
    obtain ⟨rfl, -, hf₃, -⟩ := mapped_keeps pool mtrr hdata hpage hall
    exact Heap.settled_once hown₃ hf₃ (hw₃.nodup_held (List.nodup_singleton _) (by simp)) hnow
      ((Heap.free_allocated _ _).trans (destruct_allocated hw₃ rfl s₃.data))
  | @noArray _ _ _ _ _ s₃ hdata hpage hall harr =>
    obtain ⟨hw₃, -, -, hown₃⟩ := mapped_owns pool mtrr hdata hpage hall
    obtain ⟨rfl, -, hf₃, -⟩ := mapped_keeps pool mtrr hdata hpage hall
    obtain ⟨htable, hledger⟩ := allocateData_none pool harr
    exact Heap.settled_once hown₃ hf₃ (hw₃.nodup_held (List.nodup_singleton _) (by simp)) hnow
      ((Heap.free_allocated _ _).trans
        ((destruct_allocated hw₃ htable s₃.data).trans (congrArg Ledger.allocated hledger)))
  | @notFilled _ _ _ _ _ _ s₃ s₅ entries hdata hpage hall harr hfill =>
    obtain ⟨hw₃, -, hspare, hown₃⟩ := mapped_owns pool mtrr hdata hpage hall
    obtain ⟨hw₅, hown₅⟩ := filled_owns pool hw₃ hspare hown₃ harr hfill
    obtain ⟨rfl, hlt, hf₃, -⟩ := mapped_keeps pool mtrr hdata hpage hall
    obtain ⟨rfl, hf₅, -⟩ := filled_keeps pool harr hfill
    exact Heap.settled_once hown₅ (hf₅.trans hf₃)
      (hw₅.nodup_held (by simp [hlt.ne']) (by simp)) hnow
      ((Heap.free_allocated _ _).trans (freeAll_allocated hw₅ entries _ 0 s₅.data))

end Calls

/-- A pool with four pages : the first page of memory is mapped, the local APIC is not. -/
def fourPages : Pool where
  page n h := if n < 5 then bumpPool.page n h else none
  data _ := true
  page_fresh := by
    intro n h f hf
    split_ifs at hf
    exact bumpPool.page_fresh hf

/-- The heap a start on the four pages leaves. -/
def fourPagesHeap : Heap :=
  (eptInitialization fourPages uncached [⟨0, 1⟩] 0xFEE00 ⟨fun _ _ => .zero, [], [], [], 0, 0⟩).2

theorem eptInitialization_fails_clean_fourPages :
    fourPagesHeap.live.Perm [] ∧ ∃ new gone, fourPagesHeap.allocated = new ++ [] ∧
      fourPagesHeap.freed = gone ++ [] ∧ new.Nodup ∧ gone.Perm new := by
  have hfail : eptInitialization fourPages uncached [⟨0, 1⟩] 0xFEE00
      ⟨fun _ _ => .zero, [], [], [], 0, 0⟩ = (none, fourPagesHeap) :=
    Prod.ext (Option.isNone_iff_eq_none.1 (by decide +kernel)) rfl
  exact eptInitialization_fails_clean fourPages uncached hfail

end DeviceMon
