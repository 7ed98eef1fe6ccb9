import DeviceConnect.Proofs.Wire.Varint
import DeviceConnect.Wire.Stuffing

/-! A stuffed payload holds no zero, is little longer than the payload, and unstuffs to it. Each
fact is proved of a block under way, which has not reached the greatest size. -/
namespace DeviceConnect.Wire.Stuffing

theorem toNat_code {block : Bytes} (short : block.length < maxBlock) :
    (UInt8.ofNat (block.length + 1)).toNat = block.length + 1 :=
  Varint.toNat_ofNat (by unfold maxBlock at short; omega)

theorem code_ne_zero {block : Bytes} (short : block.length < maxBlock) :
    UInt8.ofNat (block.length + 1) ≠ 0 := by
  intro zero
  have value := toNat_code short
  rw [zero] at value
  exact absurd value (by simp)

theorem stuffFrom_ne_nil (block payload : Bytes) : stuffFrom block payload ≠ [] := by
  fun_induction stuffFrom block payload with
  | case1 block => exact List.cons_ne_nil _ block
  | case2 block rest ih => exact List.cons_ne_nil _ _
  | case3 block b rest plain full ih => exact List.cons_ne_nil _ _
  | case4 block b rest plain short ih => exact ih

theorem zero_not_mem_stuffFrom {block : Bytes} (short : block.length < maxBlock) (plain : 0 ∉ block)
    (payload : Bytes) : 0 ∉ stuffFrom block payload := by
  fun_induction stuffFrom block payload with
  | case1 block =>
      exact List.not_mem_cons_of_ne_of_not_mem (code_ne_zero short).symm plain
  | case2 block rest ih =>
      have later := ih (by decide) List.not_mem_nil
      simpa [plain, later] using (code_ne_zero short).symm
  | case3 block b rest nonzero full ih =>
      have later := ih (by decide) List.not_mem_nil
      simpa [plain, later] using Ne.symm nonzero
  | case4 block b rest nonzero partly ih =>
      refine ih ?_ ?_
      · rw [List.length_append, List.length_singleton]
        omega
      · simpa [plain] using Ne.symm nonzero

/-- Only a full block, which stands for no zero, costs a byte of its own. -/
theorem length_stuffFrom_le {block : Bytes} (short : block.length < maxBlock) (payload : Bytes) :
    (stuffFrom block payload).length ≤
      block.length + payload.length + 1 + (block.length + payload.length) / maxBlock := by
  unfold maxBlock at *
  fun_induction stuffFrom block payload with
  | case1 block => simp
  | case2 block rest ih =>
      have later := ih (by decide)
      simp only [List.length_append, List.length_cons, List.length_nil] at later ⊢
      omega
  | case3 block b rest nonzero full ih =>
      have later := ih (by decide)
      unfold maxBlock at full
      simp only [List.length_append, List.length_cons, List.length_nil] at later ⊢
      omega
  | case4 block b rest nonzero partly ih =>
      unfold maxBlock at partly
      have later := ih (by rw [List.length_append, List.length_singleton]; omega)
      simp only [List.length_append, List.length_cons, List.length_nil] at later ⊢
      omega

theorem unstuff_block {code : UInt8} {block : Bytes} (counts : code.toNat = block.length + 1)
    (tail : Bytes) :
    unstuff (code :: (block ++ tail)) =
      ⟨block ++ (if code ≠ 255 ∧ tail ≠ [] then [0] else []) ++ (unstuff tail).written,
        (unstuff tail).complete⟩ := by
  have whole : ¬(block ++ tail).length < block.length := by simp
  rw [unstuff, counts, Nat.add_sub_cancel, if_neg whole]
  simp only [List.drop_left, List.take_left]

theorem unstuff_stuffFrom {block : Bytes} (short : block.length < maxBlock) (payload : Bytes) :
    unstuff (stuffFrom block payload) = ⟨block ++ payload, true⟩ := by
  fun_induction stuffFrom block payload with
  | case1 block =>
      have last := unstuff_block (toNat_code short) []
      simpa [unstuff] using last
  | case2 block rest ih =>
      have partly : UInt8.ofNat (block.length + 1) ≠ 255 := by
        intro full
        have value := toNat_code short
        rw [full] at value
        unfold maxBlock at short
        simp at value
        omega
      rw [List.cons_append, unstuff_block (toNat_code short), ih (by decide),
        if_pos ⟨partly, stuffFrom_ne_nil [] rest⟩]
      simp
  | case3 block b rest nonzero full ih =>
      have counts : (255 : UInt8).toNat = (block ++ [b]).length + 1 := by
        rw [List.length_append, List.length_singleton, full]
        rfl
      have regroup : 255 :: block ++ b :: stuffFrom [] rest =
          255 :: ((block ++ [b]) ++ stuffFrom [] rest) := by simp
      rw [regroup, unstuff_block counts, ih (by decide), if_neg (by simp)]
      simp
  | case4 block b rest nonzero partly ih =>
      rw [ih]
      · simp
      · rw [List.length_append, List.length_singleton]
        omega

theorem zero_not_mem_stuff (payload : Bytes) : 0 ∉ stuff payload :=
  zero_not_mem_stuffFrom (by decide) List.not_mem_nil payload

theorem length_stuff_le (payload : Bytes) :
    (stuff payload).length ≤ payload.length + 1 + payload.length / maxBlock := by
  simpa [stuff] using length_stuffFrom_le (show [].length < maxBlock by decide) payload

theorem unstuff_stuff (payload : Bytes) : unstuff (stuff payload) = ⟨payload, true⟩ :=
  unstuff_stuffFrom (by decide) payload

end DeviceConnect.Wire.Stuffing
