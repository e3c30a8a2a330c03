import Mathlib.Data.BitVec
import Mathlib.Data.List.Basic
import Mathlib.Logic.Function.Basic
import Mathlib.Tactic.SplitIfs

/-!
# Assembly code on x64

A processor that runs assembly code : the instructions of prologues, epilogues and trampolines,
with a stack in memory and jumps to addresses that are computed. What a program leaves to others,
such as a call of a compiled function, is an `external` instruction, whose effect is a relation.

`Ensures Q` says that every run gets to a state with `Q`, and none gets stuck before. `Laid`
places a listing in the code, and a listing without jumps runs as a whole (`Ensures.block`). The
words of the stack are a list (`Words`). Addresses are modulo `2 ^ 64`.

Nothing here depends on the program.
-/

namespace X64

/-! ## Memory -/

/-- Bytes by their address. -/
abbrev Memory := BitVec 64 → BitVec 8

/-- The quadword at an address. -/
def Memory.read (m : Memory) (a : BitVec 64) : BitVec 64 :=
  m (a + 7) ++ m (a + 6) ++ m (a + 5) ++ m (a + 4) ++ m (a + 3) ++ m (a + 2) ++ m (a + 1) ++ m a

/-- Stores a quadword. -/
def Memory.write (a value : BitVec 64) (m : Memory) : Memory := fun b =>
  if (b - a).toNat < 8 then value.extractLsb' (8 * (b - a).toNat) 8 else m b

/-- `b` is one of the `n` addresses from `a` on. -/
def Within (a : BitVec 64) (n : ℕ) (b : BitVec 64) : Prop :=
  (b - a).toNat < n

section Memory

variable {m m' : Memory} {a b value : BitVec 64} {ws : List (BitVec 64)}

/-- A part of the `n` addresses below `a`. -/
theorem Within.below {j k n : ℕ} (h : Within (a - BitVec.ofNat 64 k) j b) (hj : j ≤ k)
    (hk : k ≤ n) : Within (a - BitVec.ofNat 64 n) n b := by
  simp only [Within, BitVec.toNat_sub, BitVec.toNat_ofNat] at h ⊢
  omega

theorem Memory.write_byte (m : Memory) (a value : BitVec 64) {k : ℕ} (hk : k < 8) :
    m.write a value (a + BitVec.ofNat 64 k) = value.extractLsb' (8 * k) 8 := by
  have hsub : (a + BitVec.ofNat 64 k - a).toNat = k := by
    rw [BitVec.add_comm, BitVec.add_sub_cancel, BitVec.toNat_ofNat, Nat.mod_eq_of_lt (by omega)]
  rw [Memory.write, hsub, if_pos hk]

theorem Memory.read_write_self (m : Memory) (a value : BitVec 64) :
    (m.write a value).read a = value := by
  have h0 := m.write_byte a value (k := 0) (by decide)
  rw [show BitVec.ofNat 64 0 = 0#64 from rfl, BitVec.add_zero] at h0
  have h1 : m.write a value (a + 1) = _ := m.write_byte a value (k := 1) (by decide)
  have h2 : m.write a value (a + 2) = _ := m.write_byte a value (k := 2) (by decide)
  have h3 : m.write a value (a + 3) = _ := m.write_byte a value (k := 3) (by decide)
  have h4 : m.write a value (a + 4) = _ := m.write_byte a value (k := 4) (by decide)
  have h5 : m.write a value (a + 5) = _ := m.write_byte a value (k := 5) (by decide)
  have h6 : m.write a value (a + 6) = _ := m.write_byte a value (k := 6) (by decide)
  have h7 : m.write a value (a + 7) = _ := m.write_byte a value (k := 7) (by decide)
  rw [Memory.read, h7, h6, h5, h4, h3, h2, h1, h0]
  ext i hi
  simp only [BitVec.getElem_append, BitVec.getElem_extractLsb']
  split_ifs <;> rw [← BitVec.getLsbD_eq_getElem] <;> congr 1 <;> omega

theorem Memory.read_congr (h : ∀ b, (b - a).toNat < 8 → m' b = m b) : m'.read a = m.read a := by
  have hbyte : ∀ k : ℕ, k < 8 → m' (a + BitVec.ofNat 64 k) = m (a + BitVec.ofNat 64 k) := by
    intro k hk
    refine h _ ?_
    rw [BitVec.add_comm, BitVec.add_sub_cancel, BitVec.toNat_ofNat, Nat.mod_eq_of_lt (by omega)]
    exact hk
  have h0 := hbyte 0 (by decide)
  rw [show BitVec.ofNat 64 0 = 0#64 from rfl, BitVec.add_zero] at h0
  have h1 : m' (a + 1) = m (a + 1) := hbyte 1 (by decide)
  have h2 : m' (a + 2) = m (a + 2) := hbyte 2 (by decide)
  have h3 : m' (a + 3) = m (a + 3) := hbyte 3 (by decide)
  have h4 : m' (a + 4) = m (a + 4) := hbyte 4 (by decide)
  have h5 : m' (a + 5) = m (a + 5) := hbyte 5 (by decide)
  have h6 : m' (a + 6) = m (a + 6) := hbyte 6 (by decide)
  have h7 : m' (a + 7) = m (a + 7) := hbyte 7 (by decide)
  rw [Memory.read, Memory.read, h7, h6, h5, h4, h3, h2, h1, h0]

/-- The quadwords from `a` on. -/
def Words (m : Memory) : BitVec 64 → List (BitVec 64) → Prop
  | _, [] => True
  | a, w :: ws => m.read a = w ∧ Words m (a + 8) ws

/-- Words are their bytes. -/
theorem Words.congr (hm : Words m a ws) (hfits : 8 * ws.length ≤ 2 ^ 64)
    (h : ∀ b, (b - a).toNat < 8 * ws.length → m' b = m b) : Words m' a ws := by
  induction ws generalizing a with
  | nil => trivial
  | cons w ws ih =>
    rw [List.length_cons] at hfits h
    refine ⟨?_, ih hm.2 (by omega) fun b hb => h b ?_⟩
    · rw [Memory.read_congr fun b hb => h b (by omega)]
      exact hm.1
    · have hstep : (b - a).toNat = ((b - (a + 8)).toNat + 8) % 2 ^ 64 := by
        rw [BitVec.toNat_sub, BitVec.toNat_sub, BitVec.toNat_add,
          show (8 : BitVec 64).toNat = 8 from rfl]
        omega
      omega

/-- A word is pushed. -/
theorem Words.push (hm : Words m a ws) (hfits : 8 * (ws.length + 1) ≤ 2 ^ 64) (value : BitVec 64) :
    Words (m.write (a - 8) value) (a - 8) (value :: ws) := by
  refine ⟨m.read_write_self _ _, ?_⟩
  rw [BitVec.sub_add_cancel]
  refine hm.congr (by omega) fun b hb => if_neg ?_
  rw [BitVec.toNat_sub] at hb ⊢
  rw [BitVec.toNat_sub, show (8 : BitVec 64).toNat = 8 from rfl]
  omega

/-- A word is replaced. -/
theorem Words.set (hm : Words m a ws) (hfits : 8 * ws.length ≤ 2 ^ 64) {n : ℕ}
    (hn : n < ws.length) (value : BitVec 64) :
    Words (m.write (a + BitVec.ofNat 64 (8 * n)) value) a (ws.set n value) := by
  induction n generalizing a ws with
  | zero =>
    cases ws with
    | nil => trivial
    | cons w ws =>
    rw [Nat.mul_zero, show BitVec.ofNat 64 0 = 0#64 from rfl, BitVec.add_zero]
    refine ⟨m.read_write_self _ _, hm.2.congr ?_ fun b hb => if_neg ?_⟩
    · rw [List.length_cons] at hfits
      omega
    · rw [List.length_cons] at hfits
      rw [BitVec.toNat_sub] at hb ⊢
      rw [BitVec.toNat_add, show (8 : BitVec 64).toNat = 8 from rfl] at hb
      omega
  | succ n ih =>
    cases ws with
    | nil => trivial
    | cons w ws =>
    rw [List.length_cons] at hfits hn
    have hadd : a + BitVec.ofNat 64 (8 * (n + 1)) = a + 8 + BitVec.ofNat 64 (8 * n) := by
      rw [BitVec.add_assoc, Nat.mul_succ, BitVec.ofNat_add, BitVec.add_comm 8]
      rfl
    rw [hadd]
    refine ⟨(Memory.read_congr fun b hb => if_neg ?_).trans hm.1, ih hm.2 (by omega) (by omega)⟩
    rw [BitVec.toNat_sub] at hb ⊢
    rw [BitVec.toNat_add, BitVec.toNat_add, BitVec.toNat_ofNat,
      show (8 : BitVec 64).toNat = 8 from rfl]
    omega

/-- The first words. -/
theorem Words.append {xs : List (BitVec 64)} : Words m a (xs ++ ws) ↔
    Words m a xs ∧ Words m (a + BitVec.ofNat 64 (8 * xs.length)) ws := by
  induction xs generalizing a with
  | nil => simp [Words]
  | cons x xs ih =>
    have hadd : a + 8 + BitVec.ofNat 64 (8 * xs.length) =
        a + BitVec.ofNat 64 (8 * (x :: xs).length) := by
      rw [BitVec.add_assoc, List.length_cons, Nat.mul_succ, BitVec.ofNat_add, BitVec.add_comm 8]
      rfl
    rw [List.cons_append, Words, Words, ih, and_assoc, hadd]

/-- Words that end at an address. -/
theorem Words.append_below {xs : List (BitVec 64)} :
    Words m (a - BitVec.ofNat 64 (8 * (xs ++ ws).length)) (xs ++ ws) ↔
      Words m (a - BitVec.ofNat 64 (8 * (xs ++ ws).length)) xs ∧
        Words m (a - BitVec.ofNat 64 (8 * ws.length)) ws := by
  have hplace : a - BitVec.ofNat 64 (8 * (xs ++ ws).length) + BitVec.ofNat 64 (8 * xs.length) =
      a - BitVec.ofNat 64 (8 * ws.length) := by
    rw [List.length_append, Nat.mul_add, BitVec.ofNat_add,
      BitVec.add_comm (BitVec.ofNat 64 (8 * xs.length)), ← BitVec.sub_sub, BitVec.sub_add_cancel]
  rw [Words.append, hplace]

theorem Words.join_below {xs : List (BitVec 64)} {k : ℕ} (hxs : Words m (a - BitVec.ofNat 64 k) xs)
    (hws : Words m (a - BitVec.ofNat 64 (8 * ws.length)) ws)
    (hk : 8 * (xs.length + ws.length) = k) :
    Words m (a - BitVec.ofNat 64 (8 * (xs ++ ws).length)) (xs ++ ws) := by
  refine Words.append_below.2 ⟨?_, hws⟩
  rw [List.length_append, hk]
  exact hxs

/-- There are words everywhere. -/
theorem Words.exists_words (m : Memory) (a : BitVec 64) (n : ℕ) :
    ∃ ws, ws.length = n ∧ Words m a ws := by
  induction n generalizing a with
  | zero => exact ⟨[], rfl, trivial⟩
  | succ n ih =>
    obtain ⟨ws, hlen, hws⟩ := ih (a + 8)
    exact ⟨m.read a :: ws, congrArg Nat.succ hlen, rfl, hws⟩

/-- One of the words. -/
theorem Words.get (hm : Words m a ws) {n : ℕ} (hn : n < ws.length) :
    m.read (a + BitVec.ofNat 64 (8 * n)) = ws[n] := by
  induction n generalizing a ws with
  | zero =>
    cases ws with
    | nil => simp at hn
    | cons w ws =>
    rw [Nat.mul_zero, show BitVec.ofNat 64 0 = 0#64 from rfl, BitVec.add_zero]
    exact hm.1
  | succ n ih =>
    cases ws with
    | nil => simp at hn
    | cons w ws =>
    have hadd : a + BitVec.ofNat 64 (8 * (n + 1)) = a + 8 + BitVec.ofNat 64 (8 * n) := by
      rw [BitVec.add_assoc, Nat.mul_succ, BitVec.ofNat_add, BitVec.add_comm 8]
      rfl
    rw [hadd]
    exact ih hm.2 (Nat.lt_of_succ_lt_succ hn)

/-- Any words can be stored. -/
theorem Words.exists_memory (m : Memory) (a : BitVec 64) (ws : List (BitVec 64))
    (hfits : 8 * ws.length ≤ 2 ^ 64) :
    ∃ m' : Memory, Words m' a ws ∧ ∀ b, ¬Within a (8 * ws.length) b → m' b = m b := by
  induction ws generalizing a with
  | nil => exact ⟨m, trivial, fun _ _ => rfl⟩
  | cons w ws ih =>
    rw [List.length_cons] at hfits
    obtain ⟨m', hwords, hother⟩ := ih (a + 8) (by omega)
    have hpush := hwords.push hfits w
    rw [BitVec.add_sub_cancel] at hpush
    refine ⟨m'.write a w, hpush, fun b hb => ?_⟩
    rw [Within, List.length_cons] at hb
    have hout : ¬(b - a).toNat < 8 := by omega
    refine (if_neg hout).trans (hother b ?_)
    rw [Within, BitVec.toNat_sub, BitVec.toNat_add, show (8 : BitVec 64).toNat = 8 from rfl]
    rw [BitVec.toNat_sub] at hb hout
    omega

/-- Memory decides the words. -/
theorem Words.unique {ws' : List (BitVec 64)} (h : Words m a ws) (h' : Words m a ws')
    (hlen : ws.length = ws'.length) : ws = ws' := by
  induction ws generalizing a ws' with
  | nil => exact (List.length_eq_zero_iff.1 hlen.symm).symm
  | cons w ws ih =>
    cases ws' with
    | nil => cases hlen
    | cons w' ws' =>
      rw [← h.1, ← h'.1, ih h.2 h'.2 (Nat.succ.inj hlen)]

end Memory

/-! ## Registers -/

abbrev rax : BitVec 4 := 0
abbrev rcx : BitVec 4 := 1
abbrev rdx : BitVec 4 := 2
abbrev rbx : BitVec 4 := 3
abbrev rsp : BitVec 4 := 4
abbrev rbp : BitVec 4 := 5
abbrev rsi : BitVec 4 := 6
abbrev rdi : BitVec 4 := 7
abbrev r8 : BitVec 4 := 8

/-- The processor, with `world` for what only `external` instructions touch. -/
structure Cpu (W : Type*) where
  register : BitVec 4 → BitVec 64
  rip : BitVec 64
  flags : BitVec 64
  xmm : Fin 16 → BitVec 128
  memory : Memory
  world : W

/-! ## Flags -/

/-- The carry flag. -/
def carry (flags : BitVec 64) : Bool :=
  flags.getLsbD 0

/-- The zero flag. -/
def zero (flags : BitVec 64) : Bool :=
  flags.getLsbD 6

/-- One flag. -/
def flagBit (set : Bool) (n : ℕ) : BitVec 64 :=
  if set then 1#64 <<< n else 0

theorem getLsbD_flagBit (set : Bool) {n k : ℕ} (hk : k < 64) :
    (flagBit set n).getLsbD k = (set && decide (k = n)) := by
  cases set with
  | false => simp [flagBit]
  | true =>
    rw [flagBit, if_pos rfl, BitVec.getLsbD_shiftLeft, Bool.true_and]
    by_cases h : k = n
    · subst h
      simp [hk]
    · simp [hk, BitVec.getLsbD_one, h]
      omega

/-- The status flags of a result : carry, parity, adjust, zero, sign and overflow. -/
def status (flags : BitVec 64) (cf af of : Bool) (result : BitVec 64) : BitVec 64 :=
  let pf := ((List.range 8).filter fun n => result.getLsbD n).length % 2 = 0
  flags &&& ~~~0x8D5 ||| flagBit cf 0 ||| flagBit pf 2 ||| flagBit af 4 |||
    flagBit (result = 0) 6 ||| flagBit result.msb 7 ||| flagBit of 11

@[simp] theorem zero_status (flags : BitVec 64) (cf af of : Bool) (result : BitVec 64) :
    zero (status flags cf af of result) = decide (result = 0) := by
  have hmask : (flags &&& ~~~0x8D5).getLsbD 6 = false := by simp
  simp only [zero, status, BitVec.getLsbD_or, hmask, getLsbD_flagBit _ (show 6 < 64 by decide)]
  simp

/-- What POPFQ loads in kernel mode. -/
def loadFlags (value : BitVec 64) : BitVec 64 :=
  value &&& 0x247FD5 ||| 2

/-! ## Instructions -/

/-- Instructions, with addresses for labels. XMM registers are stored relative to RSP. -/
inductive Instruction (E : Type*) where
  | push (source : BitVec 4)
  | pushImmediate (value : BitVec 64)
  | pop (destination : BitVec 4)
  | pushfq
  | popfq
  | mov (destination source : BitVec 4)
  | movImmediate (destination : BitVec 4) (value : BitVec 64)
  | add (destination : BitVec 4) (value : BitVec 64)
  | sub (destination : BitVec 4) (value : BitVec 64)
  | xorSelf (destination : BitVec 4)
  | inc (destination : BitVec 4)
  | storeXmm (offset : BitVec 64) (source : Fin 16)
  | loadXmm (destination : Fin 16) (offset : BitVec 64)
  /-- `test al, al`. -/
  | testAl
  | nop
  | jz (target : BitVec 64)
  | jc (target : BitVec 64)
  | jmp (target : BitVec 64)
  | ret
  | int3
  | external (e : E)

section Semantics

variable {E W : Type*} {s s' : Cpu W} {i : Instruction E} {is js : List (Instruction E)}
  {a b c next : BitVec 64} {Q R : Cpu W → Prop}

namespace Cpu

def set (r : BitVec 4) (value : BitVec 64) (s : Cpu W) : Cpu W :=
  { s with register := Function.update s.register r value }

/-- A word is pushed. -/
def pushed (value : BitVec 64) (s : Cpu W) : Cpu W :=
  { s.set rsp (s.register rsp - 8) with memory := s.memory.write (s.register rsp - 8) value }

/-- The word on the top of the stack. -/
def top (s : Cpu W) : BitVec 64 :=
  s.memory.read (s.register rsp)

/-- It is popped. -/
def popped (s : Cpu W) : Cpu W :=
  s.set rsp (s.register rsp + 8)

@[simp] theorem set_self (r : BitVec 4) (value : BitVec 64) (s : Cpu W) :
    (s.set r value).register r = value :=
  Function.update_self _ _ _

theorem set_of_ne {r r' : BitVec 4} (h : r' ≠ r) (value : BitVec 64) (s : Cpu W) :
    (s.set r value).register r' = s.register r' :=
  Function.update_of_ne h _ _

@[simp] theorem top_pushed (value : BitVec 64) (s : Cpu W) : (s.pushed value).top = value := by
  rw [top, show (s.pushed value).register rsp = _ from s.set_self rsp _]
  exact s.memory.read_write_self _ value

theorem popped_pushed (value : BitVec 64) (s : Cpu W) : (s.pushed value).popped =
    { s with memory := s.memory.write (s.register rsp - 8) value } := by
  have hregister : (s.pushed value).popped.register = s.register := by
    refine (Function.update_idem _ _ _).trans ?_
    rw [show (s.pushed value).register rsp = s.register rsp - 8 from s.set_self rsp _,
      BitVec.sub_add_cancel]
    exact Function.update_eq_self _ _
  exact congrArg (fun register => { s with
    register := register
    memory := s.memory.write (s.register rsp - 8) value }) hregister

end Cpu

/-- The effect of an instruction that goes on with the next one, but for RIP. -/
def Instruction.effect : Instruction E → Cpu W → Option (Cpu W)
  | push source, s => some (s.pushed (s.register source))
  | pushImmediate value, s => some (s.pushed value)
  | pop destination, s => some (s.popped.set destination s.top)
  | pushfq, s => some (s.pushed (s.flags &&& 0xFCFFFF))
  | popfq, s => some { s.popped with flags := loadFlags s.top }
  | mov destination source, s => some (s.set destination (s.register source))
  | movImmediate destination value, s => some (s.set destination value)
  | add destination value, s =>
    let x := s.register destination
    some { s.set destination (x + value) with
      flags := status s.flags (BitVec.uaddOverflow x value)
        (16 ≤ x.toNat % 16 + value.toNat % 16) (BitVec.saddOverflow x value) (x + value) }
  | sub destination value, s =>
    let x := s.register destination
    some { s.set destination (x - value) with
      flags := status s.flags (BitVec.usubOverflow x value)
        (x.toNat % 16 < value.toNat % 16) (BitVec.ssubOverflow x value) (x - value) }
  | xorSelf destination, s =>
    -- the adjust flag is undefined
    some { s.set destination 0 with flags := status s.flags false (s.flags.getLsbD 4) false 0 }
  | inc destination, s =>
    let x := s.register destination
    some { s.set destination (x + 1) with
      flags := status s.flags (carry s.flags) (x.toNat % 16 = 15) (BitVec.saddOverflow x 1)
        (x + 1) }
  | storeXmm offset source, s =>
    let a := s.register rsp + offset
    let memory := s.memory.write a ((s.xmm source).extractLsb' 0 64)
    if a.toNat % 16 ≠ 0 then none
    else some { s with memory := memory.write (a + 8) ((s.xmm source).extractLsb' 64 64) }
  | loadXmm destination offset, s =>
    let a := s.register rsp + offset
    let value := s.memory.read (a + 8) ++ s.memory.read a
    if a.toNat % 16 ≠ 0 then none
    else some { s with xmm := Function.update s.xmm destination value }
  | testAl, s =>
    let result := (s.register rax).extractLsb' 0 8
    some { s with flags := status s.flags false (s.flags.getLsbD 4) false (result.signExtend 64) }
  | nop, s => some s
  | _, _ => none

/-- An instruction with the address of the next one. -/
def Instruction.exec (next : BitVec 64) (i : Instruction E) (s : Cpu W) : Option (Cpu W) :=
  match i with
  | jz target => some { s with rip := if zero s.flags then target else next }
  | jc target => some { s with rip := if carry s.flags then target else next }
  | jmp target => some { s with rip := target }
  | ret => some { s.popped with rip := s.top }
  | i => (i.effect s).map fun s => { s with rip := next }

/-- The effects of a listing. -/
def effects : List (Instruction E) → Cpu W → Option (Cpu W)
  | [], s => some s
  | i :: is, s => (i.effect s).bind (effects is)

theorem effects_append : effects (is ++ js) s = (effects is s).bind (effects js) := by
  induction is generalizing s with
  | nil => rfl
  | cons i is ih =>
    rw [List.cons_append, effects, effects, Option.bind_assoc]
    exact congrArg _ (funext fun s => ih)

/-! ## Runs -/

/-- A listing from `a` up to `b`. -/
def Laid (code : BitVec 64 → Option (Instruction E × BitVec 64)) :
    BitVec 64 → List (Instruction E) → BitVec 64 → Prop
  | a, [], b => a = b
  | a, i :: is, b => ∃ next, code a = some (i, next) ∧ Laid code next is b

variable {code : BitVec 64 → Option (Instruction E × BitVec 64)}
  {ext : E → BitVec 64 → Cpu W → Cpu W → Prop}

theorem Laid.append : Laid code a (is ++ js) b ↔ ∃ c, Laid code a is c ∧ Laid code c js b := by
  induction is generalizing a with
  | nil => simp [Laid]
  | cons i is ih =>
    simp only [List.cons_append, Laid, ih]
    exact ⟨fun ⟨next, hi, c, his, hjs⟩ => ⟨c, ⟨next, hi, his⟩, hjs⟩,
      fun ⟨c, ⟨next, hi, his⟩, hjs⟩ => ⟨next, hi, c, his, hjs⟩⟩

/-- Instructions from `a` on, with one address for each. -/
def place (a : BitVec 64) (is : List (Instruction E)) (b : BitVec 64) :
    Option (Instruction E × BitVec 64) :=
  is[(b - a).toNat]?.map fun i => (i, b + 1)

theorem Laid.place (hfits : is.length ≤ 2 ^ 64) {n : ℕ} (hjs : (is.drop n).take js.length = js) :
    Laid (place a is) (a + BitVec.ofNat 64 n) js (a + BitVec.ofNat 64 (n + js.length)) := by
  induction js generalizing n with
  | nil => rfl
  | cons j js ih =>
    have hhead : is[n]? = some j := by
      rw [← List.head?_drop]
      cases hdrop : is.drop n with
      | nil => rw [hdrop] at hjs; cases hjs
      | cons i rest => rw [hdrop] at hjs; exact congrArg List.head? hjs
    obtain ⟨hn, -⟩ := List.getElem?_eq_some_iff.1 hhead
    have htail : (is.drop (n + 1)).take js.length = js := by
      rw [← List.tail_drop]
      cases hdrop : is.drop n with
      | nil => rw [hdrop] at hjs; cases hjs
      | cons i rest => rw [hdrop] at hjs; exact congrArg List.tail hjs
    refine ⟨a + BitVec.ofNat 64 (n + 1), ?_, ?_⟩
    · have hplace : (a + BitVec.ofNat 64 n - a).toNat = n := by
        rw [BitVec.add_comm, BitVec.add_sub_cancel, BitVec.toNat_ofNat, Nat.mod_eq_of_lt (by omega)]
      rw [X64.place, hplace, hhead, Option.map_some, BitVec.add_assoc, BitVec.ofNat_add]
      rfl
    · have hrest := ih htail
      rw [List.length_cons, ← Nat.add_assoc, Nat.add_right_comm]
      exact hrest

/-- One step of the processor. -/
def Step (code : BitVec 64 → Option (Instruction E × BitVec 64))
    (ext : E → BitVec 64 → Cpu W → Cpu W → Prop) (s s' : Cpu W) : Prop :=
  match code s.rip with
  | none => False
  | some (.external e, next) => ext e next s s'
  | some (i, next) => i.exec next s = some s'

/-- Every run gets to a state with `Q`. -/
inductive Ensures (code : BitVec 64 → Option (Instruction E × BitVec 64))
    (ext : E → BitVec 64 → Cpu W → Cpu W → Prop) (Q : Cpu W → Prop) : Cpu W → Prop
  | here {s : Cpu W} (h : Q s) : Ensures code ext Q s
  | step {s : Cpu W} (some : ∃ s', Step code ext s s')
      (all : ∀ s', Step code ext s s' → Ensures code ext Q s') : Ensures code ext Q s

/-- Runs follow each other. -/
theorem Ensures.trans (h : Ensures code ext Q s)
    (hrest : ∀ s, Q s → Ensures code ext R s) : Ensures code ext R s := by
  induction h with
  | here h => exact hrest _ h
  | step hsome _ ih => exact .step hsome ih

/-- An instruction of the processor itself. -/
theorem Ensures.exec (hcode : code s.rip = some (i, next)) (hexec : i.exec next s = some s')
    (hrest : Ensures code ext Q s') : Ensures code ext Q s := by
  have hstep : ∀ t, Step code ext s t ↔ t = s' := fun t => by
    cases i with
    | external e =>
      rw [show (Instruction.external e).exec next s = none from rfl] at hexec
      cases hexec
    | _ => simp only [Step, hcode, hexec, Option.some.injEq, eq_comm]
  exact .step ⟨s', (hstep s').2 rfl⟩ fun t ht => by rw [(hstep t).1 ht]; exact hrest

/-- A jump that is not taken. -/
theorem Ensures.not_zero (hcode : code s.rip = some (.jz c, next)) (h : zero s.flags = false)
    (hrest : Ensures code ext Q { s with rip := next }) : Ensures code ext Q s :=
  .exec hcode (by rw [Instruction.exec, h]; rfl) hrest

theorem Ensures.not_carry (hcode : code s.rip = some (.jc c, next)) (h : carry s.flags = false)
    (hrest : Ensures code ext Q { s with rip := next }) : Ensures code ext Q s :=
  .exec hcode (by rw [Instruction.exec, h]; rfl) hrest

/-- An `external` instruction. -/
theorem Ensures.external {e : E} (hcode : code s.rip = some (.external e, next))
    (hsome : ∃ s', ext e next s s') (hrest : ∀ s', ext e next s s' → Ensures code ext Q s') :
    Ensures code ext Q s := by
  have hstep : ∀ t, Step code ext s t ↔ ext e next s t := fun t => by
    simp only [Step, hcode]
  exact .step (hsome.imp fun t => (hstep t).2) fun t ht => hrest t ((hstep t).1 ht)

/-- The effect of an instruction does not depend on RIP. -/
theorem Instruction.effect_rip (h : i.effect s = some s') (a : BitVec 64) :
    i.effect { s with rip := a } = some { s' with rip := a } := by
  cases i with
  | storeXmm offset source =>
    simp only [effect] at h ⊢
    split_ifs at h with halign
    rw [if_neg halign]
    cases h
    rfl
  | loadXmm destination offset =>
    simp only [effect] at h ⊢
    split_ifs at h with halign
    rw [if_neg halign]
    cases h
    rfl
  | _ => cases h <;> rfl

theorem effects_rip (h : effects is s = some s') (a : BitVec 64) :
    effects is { s with rip := a } = some { s' with rip := a } := by
  induction is generalizing s with
  | nil =>
    cases h
    rfl
  | cons i is ih =>
    obtain ⟨s₁, heffect, hrest⟩ := Option.bind_eq_some_iff.1 h
    rw [effects, i.effect_rip heffect a]
    exact ih hrest

/-- An instruction with an effect goes on with the next one. -/
theorem Instruction.exec_eq (h : i.effect s = some s') (next : BitVec 64) :
    i.exec next s = some { s' with rip := next } := by
  cases i with
  | jz => cases h
  | jc => cases h
  | jmp => cases h
  | ret => cases h
  | _ => simp only [exec, h, Option.map_some]

/-- A listing without jumps. -/
theorem Ensures.block (hcode : Laid code a is b) (hrip : s.rip = a)
    (heffects : effects is s = some s') (hrest : Ensures code ext Q { s' with rip := b }) :
    Ensures code ext Q s := by
  induction is generalizing a s s' with
  | nil =>
    obtain rfl : s = s' := Option.some.inj heffects
    obtain rfl : a = b := hcode
    rw [← hrip] at hrest
    exact hrest
  | cons i is ih =>
    obtain ⟨next, hi, hcode⟩ := hcode
    obtain ⟨s₁, heffect, heffects⟩ := Option.bind_eq_some_iff.1 heffects
    rw [← hrip] at hi
    exact .exec hi (i.exec_eq heffect next) (ih hcode rfl (effects_rip heffects next) hrest)

/-- A jump to the address in a register. -/
theorem Ensures.push_ret {r : BitVec 4} (hpush : code s.rip = some (.push r, a))
    (hret : code a = some (.ret, next)) (hrest : Ensures code ext Q { s with
      rip := s.register r
      memory := s.memory.write (s.register rsp - 8) (s.register r) }) : Ensures code ext Q s := by
  refine .exec hpush rfl (.exec hret rfl ?_)
  have hpopped := Cpu.popped_pushed (s.register r) s
  have htop := Cpu.top_pushed (s.register r) s
  have hresult : { (s.pushed (s.register r)).popped with rip := (s.pushed (s.register r)).top } =
      { s with
        rip := s.register r
        memory := s.memory.write (s.register rsp - 8) (s.register r) } := by
    rw [hpopped, htop]
  rw [← hresult] at hrest
  exact hrest

/-! ## Calls -/

/-- Registers that a function keeps, besides RSP. -/
def nonvolatile : List (BitVec 4) :=
  [rbx, rbp, rsi, rdi, 12, 13, 14, 15]

/-- A function returned by the calling convention. It had `depth` bytes of stack below RSP and the
32 bytes above it; `memory` has what it wrote elsewhere. -/
structure Returned (next : BitVec 64) (depth : ℕ) (memory : Memory) (s s' : Cpu W) : Prop where
  rip : s'.rip = next
  stack : s'.register rsp = s.register rsp
  register : ∀ r ∈ nonvolatile, s'.register r = s.register r
  xmm : ∀ i, 6 ≤ i → s'.xmm i = s.xmm i
  memory : ∀ b, ¬Within (s.register rsp - BitVec.ofNat 64 depth) (depth + 0x20) b →
    s'.memory b = memory b

end Semantics

end X64
