import Xcpc.Proofs.Frames
import Xcpc.Lib.Updates

/-!
# The snapshot file

The size of the memory is two bytes of the header, and three loops decode it:
the writer and the reader go on while a whole bank remains, `load_mem` while
anything remains. What they agree on is the number of whole banks. A size that
is not whole banks makes the counter of `load_mem` wrap, and the loop goes on
to the last bank; but it reads banks of the snapshot that the reader left
alone, and those are zero.
-/

namespace Xcpc.Sna

/-- The 16-bit RAM size field, in KB. -/
def Header.sizeKb (h : Header) : Nat := 256 * h.ramSizeH.toNat + h.ramSizeL.toNat

theorem ramSize_eq (h : Header) : h.ramSize = 1024 * h.sizeKb := by
  have hl := h.ramSizeL.isLt
  have hlt : h.ramSizeL.toNat <<< 10 < 2 ^ 18 := by
    rw [Nat.shiftLeft_eq]
    omega
  rw [Header.ramSize, ← Nat.shiftLeft_add_eq_or_of_lt hlt, Nat.shiftLeft_eq,
    Nat.shiftLeft_eq, Header.sizeKb]
  omega

/-- The whole banks that a header promises. -/
def Header.wholeBanks (h : Header) : Nat := 1024 * h.sizeKb / 16384

theorem length_toBytes (b : Bank) : b.toBytes.length = memorySize :=
  List.length_ofFn

theorem ofBytes_toBytes (b : Bank) (rest : List Byte) :
    Bank.ofBytes (b.toBytes ++ rest) = b := by
  funext o
  have ho : o.toNat < b.toBytes.length := by
    rw [length_toBytes]
    exact o.isLt
  rw [Bank.ofBytes, List.getD_eq_getElem?_getD,
    List.getElem?_append_left ho, Bank.toBytes, List.getElem?_ofFn,
    dif_pos (by rw [length_toBytes] at ho; exact ho), Option.getD_some]
  simp

def block (file : List Byte) (i : Nat) : Bank :=
  fun o => file.getD (256 + 16384 * i + o.toNat) 0

/-! ## The reader after the writer -/

/-- The banks that `SnapshotWriter` writes are the ones `SnapshotReader` finds
there. -/
theorem loadBanks_saveBanks (is : List (Fin 32)) (n : Nat)
    (mem mem₀ : Fin 32 → Bank) :
    ∃ r, loadBanks is n (saveBanks is n mem) mem₀ = .ok r ∧
      ∀ i, r i = if i ∈ is.take (n / memorySize) then mem i else mem₀ i := by
  induction is generalizing n mem₀ with
  | nil => exact ⟨mem₀, rfl, fun i => by simp⟩
  | cons i is ih =>
      by_cases hn : n ≥ memorySize
      · have hlen : ¬ ((mem i).toBytes ++
            saveBanks is (n - memorySize) mem).length < memorySize := by
          rw [List.length_append, length_toBytes]
          omega
        have hdrop : ((mem i).toBytes ++
            saveBanks is (n - memorySize) mem).drop memorySize =
              saveBanks is (n - memorySize) mem :=
          List.drop_left' (length_toBytes _)
        obtain ⟨r, hr, hri⟩ := ih (n - memorySize)
          (Function.update mem₀ i (mem i))
        refine ⟨r, ?_, fun j => ?_⟩
        · rw [saveBanks, if_pos hn, loadBanks, if_pos hn, if_neg hlen, hdrop,
            ofBytes_toBytes, hr]
        · have hdiv : n / memorySize = (n - memorySize) / memorySize + 1 := by
            rw [← Nat.add_div_right _ (by decide : 0 < memorySize),
              Nat.sub_add_cancel hn]
          rw [hri j, hdiv, List.take_succ_cons]
          by_cases hj : j = i
          · subst hj
            simp
          · simp [hj]
      · refine ⟨mem₀, ?_, fun j => ?_⟩
        · rw [loadBanks, if_neg hn]
          rfl
        · rw [Nat.div_eq_of_lt (Nat.lt_of_not_ge hn), List.take_zero,
            if_neg List.not_mem_nil]

theorem mem_take_finRange (n : Nat) (i : Fin 32) :
    i ∈ (List.finRange 32).take n ↔ i.val < n := by
  rw [List.mem_take_iff_getElem]
  constructor
  · intro ⟨j, hj, he⟩
    rw [← he, List.getElem_finRange]
    simp at hj ⊢
    omega
  · intro hi
    exact ⟨i.val, by simp; omega, by simp⟩

/-- What the writer saves, the reader restores: the header, and the whole banks
that it promises. -/
theorem load_save {s t : State} (hs : check s.header = .ok ())
    (ht : check t.header = .ok ()) :
    ∃ file r, save s = .ok file ∧ load t file = .ok r ∧
      r.header = s.header ∧
      ∀ i : Fin 32, i.val < s.header.wholeBanks → r.memory i = s.memory i := by
  obtain ⟨mem, hm, hmi⟩ := loadBanks_saveBanks (List.finRange 32)
    s.header.ramSize s.memory t.memory
  generalize hf : saveBanks (List.finRange 32) s.header.ramSize s.memory = f
    at hm
  have hsave : save s = .ok (s.header.toBytes ++ f) := by
    rw [save, hs, hf]
    rfl
  have hlen : ¬ (s.header.toBytes ++ f).length < 256 := by
    rw [List.length_append, Header.length_toBytes]
    omega
  have hdrop : (s.header.toBytes ++ f).drop 256 = f :=
    List.drop_left' (Header.length_toBytes _)
  have hload : load t (s.header.toBytes ++ f) = .ok ⟨s.header, mem⟩ := by
    simp only [load, ht, bind, Except.bind, if_neg hlen, pure, Except.pure,
      Header.ofBytes_toBytes, hs, hdrop, hm]
  refine ⟨_, _, hsave, hload, rfl, fun i hi => ?_⟩
  show mem i = s.memory i
  rw [hmi i, if_pos]
  rw [mem_take_finRange, ramSize_eq]
  exact hi

/-! ## What the reader accepts -/

/-- The reader takes the banks of the list from the blocks of the file, in
order, and leaves the others. -/
theorem loadBanks_ok {is : List (Fin 32)} {n : Nat} {file : List Byte}
    {mem₀ mem : Fin 32 → Bank} (h : loadBanks is n file mem₀ = .ok mem)
    (hnd : is.Nodup) (i : Fin 32) :
    (∀ p, is[p]? = some i → p < n / memorySize →
      memorySize * (p + 1) ≤ file.length ∧
        mem i = Bank.ofBytes (file.drop (memorySize * p))) ∧
    ((∀ p, is[p]? = some i → ¬ p < n / memorySize) → mem i = mem₀ i) := by
  induction is generalizing n file mem₀ with
  | nil =>
      refine ⟨fun p hp => by simp at hp, fun _ => ?_⟩
      rw [loadBanks] at h
      rw [Except.ok.inj h]
  | cons j is ih =>
      rw [loadBanks] at h
      split at h
      · rename_i hn
        have hdiv : n / memorySize = (n - memorySize) / memorySize + 1 := by
          rw [← Nat.add_div_right _ (by decide : 0 < memorySize),
            Nat.sub_add_cancel hn]
        split at h
        · exact absurd h (by simp [throw, throwThe, MonadExceptOf.throw])
        · rename_i hlen
          have hj : j ∉ is := (List.nodup_cons.mp hnd).1
          obtain ⟨htake, hleave⟩ := ih h (List.nodup_cons.mp hnd).2
          constructor
          · intro p hp hlt
            cases p with
            | zero =>
                have hij : j = i := by simpa using hp
                subst hij
                refine ⟨by omega, ?_⟩
                rw [hleave fun q hq => absurd (List.mem_of_getElem? hq) hj]
                simp
            | succ p =>
                have hp' : is[p]? = some i := by simpa using hp
                obtain ⟨hle, hm⟩ := htake p hp' (by omega)
                rw [List.length_drop] at hle
                refine ⟨?_, ?_⟩
                · rw [Nat.mul_succ]
                  omega
                · rw [hm, List.drop_drop, Nat.mul_succ memorySize p,
                    Nat.add_comm memorySize]
          · intro hno
            have hij : i ≠ j := by
              intro he
              exact hno 0 (by simp [he]) (by rw [hdiv]; exact Nat.succ_pos _)
            rw [hleave fun p hp hlt => hno (p + 1) (by simpa using hp) (by omega)]
            simp [hij]
      · rename_i hn
        have h0 : n / memorySize = 0 := Nat.div_eq_of_lt (by omega)
        rw [← Except.ok.inj h]
        exact ⟨fun p _ hlt => by omega, fun _ => rfl⟩

theorem getElem?_finRange_iff {n : Nat} (p : Nat) (i : Fin n) :
    (List.finRange n)[p]? = some i ↔ p = i.val := by
  rw [List.getElem?_eq_some_iff]
  constructor
  · intro ⟨hp, he⟩
    rw [← he]
    simp
  · intro he
    subst he
    exact ⟨by simp, by simp⟩

/-- The snapshot that an accepted file gives: the header is the first 256
bytes, and the banks are the blocks behind it, as many whole ones as the header
promises. The rest keeps what the snapshot held. -/
theorem load_ok {t r : State} {file : List Byte} (h : load t file = .ok r) :
    r.header = Header.ofBytes file ∧
      ∀ i : Fin 32,
        (i.val < r.header.wholeBanks →
          256 + 16384 * (i.val + 1) ≤ file.length ∧ r.memory i = block file i) ∧
        (r.header.wholeBanks ≤ i.val → r.memory i = t.memory i) := by
  simp only [load, bind, Except.bind, pure, Except.pure] at h
  split at h
  · exact absurd h (by simp)
  split at h
  · exact absurd h (by simp [throw, throwThe, MonadExceptOf.throw])
  rename_i hlen
  split at h
  · exact absurd h (by simp)
  split at h
  · exact absurd h (by simp)
  rename_i mem hm
  rw [← Except.ok.inj h]
  refine ⟨rfl, fun i => ?_⟩
  obtain ⟨htake, hleave⟩ := loadBanks_ok hm (List.nodup_finRange 32) i
  rw [ramSize_eq] at htake hleave
  constructor
  · intro hi
    obtain ⟨hle, hmi⟩ := htake i.val ((getElem?_finRange_iff _ _).mpr rfl) hi
    rw [List.length_drop] at hle
    refine ⟨?_, ?_⟩
    · rw [Nat.add_comm]
      exact Nat.add_le_of_le_sub (Nat.le_of_not_lt hlen) hle
    show mem i = block file i
    rw [hmi, List.drop_drop]
    funext o
    simp [Bank.ofBytes, block, memorySize, List.getD_eq_getElem?_getD,
      List.getElem?_drop]
  · intro hi
    refine hleave fun p hp hlt => ?_
    rw [getElem?_finRange_iff] at hp
    have hw : (Header.ofBytes file).wholeBanks ≤ i.val := hi
    rw [Header.wholeBanks] at hw
    simp only [memorySize] at hlt
    omega

end Xcpc.Sna

namespace Xcpc.Cpc

open Sna (Bank Header block)
open Prog

namespace Board

/-- The loop comes to the bank at a position if the counter is not zero there
or before. -/
theorem mem_banks {is : List (Fin 32)} {size : BitVec 64} {i : Fin 8} :
    i ∈ banks is size ↔
      ∃ p, is[p]? = some (i.castLE (by decide)) ∧ ∀ q ≤ p,
        size ≠ BitVec.ofNat 64 (16384 * q) ∧ ∃ j, is[q]? = some j ∧ j.val < 8 := by
  induction is generalizing size with
  | nil => simp [banks]
  | cons j is ih =>
      rw [banks]
      have hshift (q : Nat) : size - 16384 ≠ BitVec.ofNat 64 (16384 * q) ↔
          size ≠ BitVec.ofNat 64 (16384 * (q + 1)) := by
        rw [Nat.mul_succ, ← BitVec.ofNat_add_ofNat]
        constructor
        · intro h he
          exact h (by rw [he]; bv_omega)
        · intro h he
          exact h (by rw [← he]; bv_omega)
      split
      · rename_i hj
        rw [List.mem_cons, ih]
        constructor
        · rintro (rfl | ⟨p, hp, hq⟩)
          · refine ⟨0, rfl, fun q hq => ?_⟩
            obtain rfl := Nat.le_zero.mp hq
            exact ⟨hj.1, j, rfl, hj.2⟩
          · refine ⟨p + 1, hp, fun q hle => ?_⟩
            cases q with
            | zero => exact ⟨hj.1, j, rfl, hj.2⟩
            | succ q =>
                obtain ⟨hne, hex⟩ := hq q (Nat.le_of_succ_le_succ hle)
                exact ⟨(hshift q).mp hne, hex⟩
        · rintro ⟨p, hp, hq⟩
          cases p with
          | zero =>
              left
              have he : j = i.castLE (by decide) := by simpa using hp
              exact Fin.ext (congrArg Fin.val he).symm
          | succ p =>
              right
              refine ⟨p, hp, fun q hle => ?_⟩
              obtain ⟨hne, hex⟩ := hq (q + 1) (Nat.succ_le_succ hle)
              exact ⟨(hshift q).mpr hne, hex⟩
      · rename_i hj
        constructor
        · intro h
          exact absurd h List.not_mem_nil
        · rintro ⟨p, _, hq⟩
          obtain ⟨hne, j', hj', hlt⟩ := hq 0 (Nat.zero_le p)
          have he : j = j' := by simpa using hj'
          exact absurd ⟨hne, by rw [he]; exact hlt⟩ hj

/-- The banks of a size: all before the first whole number of banks that it
is. -/
theorem mem_banks_finRange {n : Nat} (hn : n < 2 ^ 64) (i : Fin 8) :
    i ∈ banks (List.finRange 32) (BitVec.ofNat 64 n) ↔
      ∀ q ≤ i.val, n ≠ 16384 * q := by
  rw [mem_banks]
  have hi := i.isLt
  have hcast (q : Nat) (hq : q ≤ i.val) :
      BitVec.ofNat 64 n ≠ BitVec.ofNat 64 (16384 * q) ↔ n ≠ 16384 * q := by
    rw [ne_eq, ← BitVec.toNat_inj, BitVec.toNat_ofNat, BitVec.toNat_ofNat,
      Nat.mod_eq_of_lt hn, Nat.mod_eq_of_lt (by omega)]
  constructor
  · rintro ⟨p, hp, hq⟩ q hle
    rw [Sna.getElem?_finRange_iff] at hp
    exact (hcast q hle).mp (hq q (by rw [hp]; exact hle)).1
  · intro h
    refine ⟨i.val, (Sna.getElem?_finRange_iff _ _).mpr rfl, fun q hle => ?_⟩
    exact ⟨(hcast q hle).mpr (h q hle), ⟨q, by omega⟩,
      (Sna.getElem?_finRange_iff _ _).mpr rfl, by simp only; omega⟩

theorem bytes_lt (size : MemorySize) : size.bytes < 2 ^ 64 := by
  cases size <;> decide

theorem load_ram (b : Board) (s : Sna.State) (i : Fin 8) :
    (b.reset.load s).ram i =
      if ∀ q ≤ i.val, min s.header.ramSize b.memorySize.bytes ≠ 16384 * q
      then s.memory (i.castLE (by decide)) else fun _ => 0 := by
  have hm : b.reset.memorySize = b.memorySize := by
    obtain ⟨rd, wr, h⟩ := updatePal_eq _
    rw [reset, h]
  have hr : b.reset.ram = fun _ _ => 0 := by
    obtain ⟨rd, wr, h⟩ := updatePal_eq _
    rw [reset, h]
  have hlt : min s.header.ramSize b.memorySize.bytes < 2 ^ 64 :=
    Nat.lt_of_le_of_lt (Nat.min_le_right _ _) (bytes_lt _)
  have hf := foldl_update Function.injective_id
    (fun i : Fin 8 => s.memory (i.castLE (by decide)))
    (banks (List.finRange 32)
      (BitVec.ofNat 64 (min s.header.ramSize b.memorySize.bytes)))
    (fun _ _ => 0) i
  rw [load_storeMem, storeMem, hm, hr]
  refine hf.trans ?_
  simp only [mem_banks_finRange hlt]

end Board

namespace Machine

variable {φ : Type} (F : Fdc φ)

/-- The RAM of a machine of 64K or 128K after the load of an accepted file. -/
theorem loadSnapshot_ram (m : Machine φ) {file : List Byte} {s : Sna.State}
    (hm : m.board.memorySize = .k64 ∨ m.board.memorySize = .k128)
    (h : Sna.load Sna.fresh file = .ok s) (i : Fin 8) :
    (i.val < (Header.ofBytes file).wholeBanks ∧
      i.val < m.board.memorySize.bytes / 16384 →
        256 + 16384 * (i.val + 1) ≤ file.length ∧
          (m.loadSnapshot F file).2.board.ram i = block file i) ∧
    (¬ (i.val < (Header.ofBytes file).wholeBanks ∧
      i.val < m.board.memorySize.bytes / 16384) →
        (m.loadSnapshot F file).2.board.ram i = fun _ => 0) := by
  obtain ⟨hh, hblocks⟩ := Sna.load_ok h
  have hb : (m.loadSnapshot F file).2.board = m.board.reset.load s := by
    rw [loadSnapshot, h]
    rfl
  have hi := i.isLt
  obtain ⟨htake, hleave⟩ := hblocks (i.castLE (by decide))
  rw [hb, Board.load_ram, Sna.ramSize_eq, ← hh]
  -- The machine has a whole number of banks, so clamping to it stops the loop.
  obtain ⟨k, hk, hk8⟩ : ∃ k, m.board.memorySize.bytes = 16384 * k ∧ k ≤ 8 := by
    rcases hm with hm | hm
    · exact ⟨4, by rw [hm]; rfl, by decide⟩
    · exact ⟨8, by rw [hm]; rfl, by decide⟩
  have hw : s.header.wholeBanks = 1024 * s.header.sizeKb / 16384 := rfl
  rw [hk, Nat.mul_div_cancel_left _ (by decide : 0 < 16384)]
  constructor
  · intro hin
    rw [if_pos fun q hq => by omega]
    exact htake hin.1
  · intro hout
    split
    · rename_i hA
      refine hleave ?_
      show s.header.wholeBanks ≤ i.val
      have := hA k
      omega
    · rfl

end Machine

/-- The format, on its own and through the machine. -/
theorem snapshot_format :
    (∀ s t : Sna.State, Sna.check s.header = .ok () →
      Sna.check t.header = .ok () →
      ∃ file r, Sna.save s = .ok file ∧ Sna.load t file = .ok r ∧
        r.header = s.header ∧
        ∀ i : Fin 32, i.val < s.header.wholeBanks →
          r.memory i = s.memory i) ∧
    (∀ {φ : Type} (F : Fdc φ) (m : Machine φ) (file : List Byte) (s : Sna.State),
      m.board.memorySize = .k64 ∨ m.board.memorySize = .k128 →
      Sna.load Sna.fresh file = .ok s →
      ∀ i : Fin 8,
        (i.val < (Header.ofBytes file).wholeBanks ∧
          i.val < m.board.memorySize.bytes / 16384 →
            256 + 16384 * (i.val + 1) ≤ file.length ∧
              (m.loadSnapshot F file).2.board.ram i = block file i) ∧
        (¬ (i.val < (Header.ofBytes file).wholeBanks ∧
          i.val < m.board.memorySize.bytes / 16384) →
            (m.loadSnapshot F file).2.board.ram i = fun _ => 0)) :=
  ⟨fun _ _ hs ht => Sna.load_save hs ht,
    fun F m _ _ hm h i => Machine.loadSnapshot_ram F m hm h i⟩

/-- A snapshot of 16K, saved and loaded into a machine of 64K. -/
theorem snapshot_format_16k :
    ∃ file r, Sna.save
        { header := { Sna.fresh.header with ramSizeL := 16 }
          memory := fun _ _ => 0xaa } = .ok file ∧
      Sna.load Sna.fresh file = .ok r ∧ r.memory 0 = (fun _ => 0xaa) ∧
      ((Machine.blank .k64).loadSnapshot .absent file).2.board.ram 5 =
        fun _ => 0 := by
  obtain ⟨file, r, hs, hl, _, hr⟩ := snapshot_format.1
    { header := { Sna.fresh.header with ramSizeL := 16 }
      memory := fun _ _ => 0xaa } Sna.fresh (by decide +kernel) (by decide +kernel)
  refine ⟨file, r, hs, hl, hr 0 (by decide +kernel), ?_⟩
  exact (snapshot_format.2 .absent (Machine.blank .k64) file r (.inl rfl) hl
    5).2 fun h => absurd h.2 (by decide)

end Xcpc.Cpc
