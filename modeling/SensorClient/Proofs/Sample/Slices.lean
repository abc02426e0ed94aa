import SensorClient.Bytes

/-!
# Blocks at the multiples of their size

A byte string can be cut into blocks from its start on, or each block can be looked up at its own
multiple of the size. The multiples are words, so they are the right ones only as long as a word can
hold them. Where a word can count the bytes there are, a multiple that is not the right one has
another before it whose block is not all there: all blocks are found exactly if the bytes are enough
for them, and then they are the blocks that are cut.

## Main definitions

* `Bytes.Inside`: a block lies inside the bytes, as far as words can tell

## Main results

* `Bytes.cut_eq_map`: the blocks that are cut are those at the multiples of their size
* `Bytes.slices?_of_le`, `Bytes.le_of_slices?`: blocks are found exactly if they are all there
* `Bytes.slices?_of_wordProduct`: what is found in as many bytes as the product says
* `Bytes.forall_inside_iff`: in that many bytes all blocks lie inside exactly if the product is
  right
-/

namespace SensorClient

namespace Bytes

/-- The blocks that are cut from a byte string are found at the multiples of their size. -/
theorem cut_eq_map (size count : Nat) (bytes : Bytes) :
    cut size count bytes = (List.range count).map fun i => (bytes.drop (i * size)).take size := by
  induction count generalizing bytes with
  | zero => rfl
  | succ count ih =>
    rw [cut, ih, List.range_succ_eq_map, List.map_cons, List.map_map, Nat.zero_mul, List.drop_zero]
    refine congrArg (bytes.take size :: ·) (List.map_congr_left fun i _ => ?_)
    rw [Function.comp_apply, List.drop_drop, Nat.succ_mul, Nat.add_comm]

variable {size count : Nat} {bytes : Bytes} {blocks : List Bytes}

theorem cut_succ (size count : Nat) (bytes : Bytes) :
    cut size (count + 1) bytes = cut size count bytes ++ [(bytes.drop (count * size)).take size] := by
  rw [cut_eq_map, cut_eq_map, List.range_succ, List.map_append, List.map_singleton]

/-- Blocks that are all there are found, as they are cut. -/
theorem slices?_of_le (word : bytes.length < UInt64.size) (enough : count * size ≤ bytes.length) :
    slices? size count bytes = some (cut size count bytes) := by
  induction count with
  | zero => rfl
  | succ count ih =>
    rw [Nat.succ_mul] at enough
    have place : wordProduct count size = count * size := wordProduct_of_lt (by omega)
    rw [slices?_succ, ih (by omega), Option.bind_some, place, slice?_of_le enough, Option.map_some,
      cut_succ]

/-- Blocks that are found are all there. -/
theorem le_of_slices? (word : bytes.length < UInt64.size)
    (found : slices? size count bytes = some blocks) : count * size ≤ bytes.length := by
  induction count generalizing blocks with
  | zero =>
    rw [Nat.zero_mul]
    exact Nat.zero_le _
  | succ count ih =>
    rw [slices?_succ, Option.bind_eq_some_iff] at found
    obtain ⟨before, found, last⟩ := found
    -- The blocks before the last one are all there, so the last one is looked up at the right place.
    have reached := ih found
    have place : wordProduct count size = count * size :=
      wordProduct_of_lt (Nat.lt_of_le_of_lt reached word)
    rw [Nat.succ_mul]
    refine Nat.not_lt.mp fun short => ?_
    rw [place, slice?_of_lt short] at last
    cases last

/-- In as many bytes as the product of their number and their size says, blocks are found exactly if
the product is right. -/
theorem slices?_of_wordProduct (length : bytes.length = wordProduct count size) :
    slices? size count bytes =
      if count * size < UInt64.size then some (cut size count bytes) else none := by
  have word : bytes.length < UInt64.size := length ▸ wordProduct_lt count size
  split
  · next fits =>
    rw [wordProduct_of_lt fits] at length
    exact slices?_of_le word (Nat.le_of_eq length.symm)
  · next wraps =>
    cases found : slices? size count bytes with
    | none => rfl
    | some blocks => exact absurd (Nat.lt_of_le_of_lt (le_of_slices? word found) word) wraps

/-! ## Where blocks begin and end -/

/-- A block lies inside the bytes: of its ends, which are words, the first is not behind the second,
nor the second behind the last byte. -/
def Inside (size i : Nat) (bytes : Bytes) : Prop :=
  wordProduct i size ≤ wordProduct (i + 1) size ∧ wordProduct (i + 1) size ≤ bytes.length

/-- Where words can hold the size of a block and count the bytes, a block is found exactly if it
lies inside them. -/
theorem isSome_slice?_iff (size_lt : size < UInt64.size) (word : bytes.length < UInt64.size)
    (i : Nat) : (bytes.slice? (wordProduct i size) size).isSome = true ↔ Inside size i bytes := by
  have ends : wordProduct (i + 1) size = (wordProduct i size + size) % UInt64.size := by
    rw [wordProduct, wordProduct, Nat.succ_mul, Nat.mod_add_mod]
  have first := wordProduct_lt i size
  rw [slice?, Option.isSome_ite, Inside, ends]
  rcases Nat.lt_or_ge (wordProduct i size + size) UInt64.size with near | far
  · rw [Nat.mod_eq_of_lt near]
    exact (and_iff_right (Nat.le_add_right _ _)).symm
  · -- The second end has come round, so it is in front of the first.
    have round : (wordProduct i size + size) % UInt64.size =
        wordProduct i size + size - UInt64.size := by
      rw [Nat.mod_eq_sub_mod far, Nat.mod_eq_of_lt (by omega)]
    rw [round]
    exact iff_of_false (by omega) (by omega)

/-- Blocks are found exactly if each of them is. -/
theorem isSome_slices?_iff (size count : Nat) (bytes : Bytes) :
    (slices? size count bytes).isSome = true ↔
      ∀ i < count, (bytes.slice? (wordProduct i size) size).isSome = true := by
  induction count with
  | zero => simp
  | succ count ih =>
    rw [Nat.forall_lt_succ_right, ← ih, slices?_succ]
    cases slices? size count bytes <;> simp

/-- In as many bytes as the product of their number and their size says, all blocks lie inside
exactly if the product is right. -/
theorem forall_inside_iff (size_lt : size < UInt64.size)
    (length : bytes.length = wordProduct count size) :
    (∀ i < count, Inside size i bytes) ↔ count * size < UInt64.size := by
  have word : bytes.length < UInt64.size := length ▸ wordProduct_lt count size
  simp only [← isSome_slice?_iff size_lt word]
  rw [← isSome_slices?_iff, slices?_of_wordProduct length, Option.isSome_ite]

end Bytes

end SensorClient
