import FunctionHost.Wasm.Memory

/-!
# What a memory holds

`Memory.byte` is what a memory holds at an address.  Everything else is said in terms of it: a
region consists of the bytes that `byte` shows there (`getElem_region`), and copying a byte string
changes those that it covers and no others (`byte_blit`).  So a region that was written reads back
(`region_blit`), and how many bytes happen to be stored does not matter.
-/
namespace FunctionHost

namespace Bytes

theorem data_replicate (count : Nat) (byte : UInt8) :
    (replicate count byte).data = Array.replicate count byte := by
  unfold replicate
  induction count with
  | zero => rfl
  | succ count ih =>
    rw [Nat.fold_succ, Array.replicate_succ, ← ih]
    rfl

theorem size_replicate (count : Nat) (byte : UInt8) : (replicate count byte).size = count := by
  rw [ByteArray.size, data_replicate, Array.size_replicate]

end Bytes

namespace Wasm
namespace Memory

variable {m m' : Memory} {bytes : Bytes} {start len address : Nat}

theorem byte_eq (m : Memory) (address : Nat) : m.byte address = m.stored.data[address]?.getD 0 := by
  unfold byte
  split
  · rename_i h
    have h : address < m.stored.data.size := h
    rw [Array.getElem?_eq_getElem h]
    rfl
  · rename_i h
    have h : m.stored.data.size ≤ address := Nat.le_of_not_lt h
    rw [Array.getElem?_eq_none h]
    rfl

/-! ## Zeros that are stored -/

/-- Zeros behind the last byte do not show. -/
theorem getD_append_zeros (bytes : Array UInt8) (count address : Nat) :
    (bytes ++ Array.replicate count 0)[address]?.getD 0 = bytes[address]?.getD 0 := by
  rw [Array.getElem?_append]
  split
  · rfl
  · rename_i h
    rw [Array.getElem?_eq_none (Nat.le_of_not_lt h), Array.getElem?_replicate]
    split <;> rfl

theorem data_appendZeros (blocks : Nat) (bytes : ByteArray) :
    (appendZeros blocks bytes).data = bytes.data ++ Array.replicate (blocks * 4096) 0 := by
  induction blocks generalizing bytes with
  | zero => simp [appendZeros]
  | succ blocks ih =>
    rw [appendZeros, ih, ByteArray.data_append, zeroBlock, Bytes.data_replicate, Array.append_assoc,
      Array.replicate_append_replicate, Nat.succ_mul, Nat.add_comm]

theorem byte_reserve (m : Memory) (stop address : Nat) :
    (m.reserve stop).byte address = m.byte address := by
  unfold reserve
  split
  · rw [byte_eq, byte_eq, data_appendZeros, getD_append_zeros]
  · rfl

theorem le_size_stored_reserve (m : Memory) (stop : Nat) :
    stop ≤ (m.reserve stop).stored.data.size := by
  unfold reserve
  split
  · rw [data_appendZeros, Array.size_append, Array.size_replicate]
    have : m.stored.data.size = m.stored.size := rfl
    omega
  · exact Nat.le_of_not_lt ‹_›

/-! ## Regions -/

@[simp] theorem size_region (m : Memory) (start len : Nat) : (m.region start len).size = len := by
  unfold region
  dsimp only
  split
  · rw [ByteArray.size_append, Bytes.size_replicate]
    omega
  · rename_i h
    rw [ByteArray.size_extract] at h ⊢
    omega

/-- **The bytes of a region.** -/
theorem getElem_region (m : Memory) {start len k : Nat} (hk : k < (m.region start len).size) :
    (m.region start len)[k] = m.byte (start + k) := by
  have hlen : k < len := size_region m start len ▸ hk
  -- The stored part of the region, whatever zeros are added to it.
  have hstored : (m.stored.extract start (start + len)).data[k]?.getD 0 = m.byte (start + k) := by
    rw [byte_eq, ByteArray.data_extract, Array.getElem?_extract]
    split
    · rfl
    · rename_i h
      rw [Array.getElem?_eq_none (by omega)]
  have hregion : (m.region start len).data[k]?.getD 0 =
      (m.stored.extract start (start + len)).data[k]?.getD 0 := by
    unfold region
    dsimp only
    split
    · rw [ByteArray.data_append, Bytes.data_replicate, getD_append_zeros]
    · rfl
  have hk : k < (m.region start len).data.size := hk
  rw [← hstored, ← hregion, Array.getElem?_eq_getElem hk]
  rfl

/-- **A region depends on its own bytes only.** -/
theorem region_congr (h : ∀ k < len, m.byte (start + k) = m'.byte (start + k)) :
    m.region start len = m'.region start len := by
  refine ByteArray.ext_getElem (by simp) fun k hk hk' => ?_
  rw [getElem_region, getElem_region]
  exact h k (size_region m start len ▸ hk)

/-! ## Copying -/

theorem size_reserve (m : Memory) (stop : Nat) : (m.reserve stop).size = m.size := by
  unfold reserve
  split <;> rfl

@[simp] theorem size_blit (m : Memory) (start : Nat) (bytes : Bytes) :
    (m.blit start bytes).size = m.size :=
  size_reserve m (start + bytes.size)

theorem data_blit (m : Memory) (start : Nat) (bytes : Bytes) :
    (m.blit start bytes).stored.data =
      (m.reserve (start + bytes.size)).stored.data.extract 0 start ++ bytes.data ++
        (m.reserve (start + bytes.size)).stored.data.extract (start + bytes.size) := by
  unfold blit ByteArray.copySlice
  have hsize : bytes.data.size = bytes.size := rfl
  simp [hsize, Array.extract_eq_self_of_le]

/-- **What a memory holds after a byte string was copied to it.** -/
theorem byte_blit (m : Memory) (start : Nat) (bytes : Bytes) (address : Nat) :
    (m.blit start bytes).byte address =
      if start ≤ address ∧ address < start + bytes.size then bytes.data[address - start]?.getD 0
      else m.byte address := by
  rw [← byte_reserve m (start + bytes.size) address, byte_eq, byte_eq, data_blit]
  have hroom := le_size_stored_reserve m (start + bytes.size)
  generalize (m.reserve (start + bytes.size)).stored.data = stored at hroom
  have hsize : bytes.data.size = bytes.size := rfl
  rw [Array.getElem?_append, Array.getElem?_append, Array.getElem?_extract, Array.getElem?_extract,
    Array.size_append, Array.size_extract, hsize]
  grind

/-- **A region that was written reads back.** -/
theorem region_blit (m : Memory) (start : Nat) (bytes : Bytes) :
    (m.blit start bytes).region start bytes.size = bytes := by
  refine ByteArray.ext_getElem (by simp) fun k hk hk' => ?_
  rw [getElem_region, byte_blit, if_pos (by omega), Nat.add_sub_cancel_left]
  have hk : k < bytes.data.size := hk'
  rw [Array.getElem?_eq_getElem hk]
  rfl

end Memory
end Wasm
end FunctionHost
