import SamlConformance.Deflate.Inflate

/-!
# Plain Blocks

A stream of plain blocks holds the bytes that were stored in it, and what follows
the stream stays where it is.

The three bits in front of a plain block stand in a byte of their own, the rest of
which is skipped; after that a block is whole bytes, and its length is checked
against the complement that is written beside it. So a block is read in one step,
and the stream by induction on its blocks.

## Theorems

* `plainBlock_plain`: Reading a plain block.
* `blocks_store`: Reading a stream of plain blocks, with whatever was read before.
* `inflate_store`: Such a stream holds what was stored in it.
-/

namespace SamlConformance

namespace Deflate

/-- A number below two to the sixteenth is written in two bytes. -/
theorem twoBytes_ofNat (n : Nat) (rest : List UInt8) (h : n < 65536) :
    twoBytes ⟨[], UInt8.ofNat n :: UInt8.ofNat (n / 256) :: rest⟩ = .ok (n, ⟨[], rest⟩) := by
  have hn : (UInt8.ofNat n).toNat + 256 * (UInt8.ofNat (n / 256)).toNat = n := by
    rw [UInt8.toNat_ofNat', UInt8.toNat_ofNat']
    omega
  simp only [twoBytes, Bits.byte, hn]

/-- Reading the length, its complement and as many bytes. -/
theorem plainBlock_plain (out : Array UInt8) (held : List Bool) (bytes rest : List UInt8)
    (last : Bool) (h : bytes.length ≤ plainLimit) :
    plainBlock out ⟨held, (plain last bytes).tail ++ rest⟩ =
      .ok (out ++ bytes, ⟨[], rest⟩) := by
  -- Length and complement add up to the limit, and both fit into two bytes.
  have hn : bytes.length < 65536 := Nat.lt_succ_of_le h
  have hm : plainLimit - bytes.length < 65536 := by
    unfold plainLimit
    omega
  have hsum : bytes.length + (plainLimit - bytes.length) = 65535 := Nat.add_sub_of_le h
  simp only [plain, List.cons_append, List.nil_append, List.tail_cons, plainBlock, Bits.align,
    twoBytes_ofNat _ _ hn, twoBytes_ofNat _ _ hm]
  rw [if_neg (not_not_intro hsum), if_neg (by rw [List.length_append]; omega),
    List.take_left' rfl, List.drop_left' rfl]

/-- The bits in front of a plain block. -/
theorem number_plain (bytes rest : List UInt8) (last : Bool) :
    ∃ held, Bits.number 3 (.ofBytes (plain last bytes ++ rest)) =
      .ok (if last then 1 else 0, ⟨held, (plain last bytes).tail ++ rest⟩) := by
  cases last with
  | false => exact ⟨_, rfl⟩
  | true => exact ⟨_, rfl⟩

/-- One plain block is read, and then what follows unless it was the last. -/
theorem blocks_plain (out : Array UInt8) (bytes rest : List UInt8) (last : Bool)
    (h : bytes.length ≤ plainLimit) :
    blocks out (.ofBytes (plain last bytes ++ rest)) =
      if last then .ok (out ++ bytes, ⟨[], rest⟩) else blocks (out ++ bytes) (.ofBytes rest) := by
  rcases number_plain bytes rest last with ⟨held, hnumber⟩
  have hplain := plainBlock_plain out held bytes rest last h
  rw [blocks]
  -- The two results are known, so that only their own branches are left.
  split
  · rename_i f hf
    rw [hnumber] at hf
    exact absurd hf (by simp only [reduceCtorEq, not_false_eq_true])
  rename_i v b1 hv
  rw [hnumber] at hv
  rcases Prod.mk.inj (Except.ok.inj hv) with ⟨rfl, rfl⟩
  have hkind : (if last then 1 else 0) / 2 = 0 := by cases last <;> rfl
  have hblock : block ((if last then 1 else 0) / 2) out
      ⟨held, (plain last bytes).tail ++ rest⟩ = .ok (out ++ bytes, ⟨[], rest⟩) := by
    rw [block, if_pos hkind, hplain]
  split
  · rename_i f hf
    rw [hblock] at hf
    exact absurd hf (by simp only [reduceCtorEq, not_false_eq_true])
  rename_i out' b2 hout
  rw [hblock] at hout
  rcases Prod.mk.inj (Except.ok.inj hout) with ⟨rfl, rfl⟩
  cases last with
  | false => rfl
  | true => rfl

theorem append_append_list (out : Array UInt8) (as bs : List UInt8) :
    out ++ as ++ bs = out ++ (as ++ bs) := by
  refine Array.ext' ?_
  rw [Array.toList_appendList, Array.toList_appendList, Array.toList_appendList,
    List.append_assoc]

/-- A stream of plain blocks appends what was stored in it to what is there. -/
theorem blocks_store (out : Array UInt8) (bytes rest : List UInt8) :
    blocks out (.ofBytes (store bytes ++ rest)) = .ok (out ++ bytes, ⟨[], rest⟩) := by
  -- What was read before grows with every block, so it has to vary.
  induction bytes using store.induct generalizing out with
  | case1 bytes h => rw [store, if_pos h, blocks_plain out bytes rest true h, if_pos rfl]
  | case2 bytes h ih =>
      have hlimit : (bytes.take plainLimit).length ≤ plainLimit := by
        rw [List.length_take]
        omega
      rw [store, if_neg h, List.append_assoc, blocks_plain out _ _ false hlimit,
        if_neg Bool.false_ne_true, ih, append_append_list, List.take_append_drop]

/-- A stream of plain blocks holds what was stored in it. -/
theorem inflate_store (bytes : List UInt8) : inflate (store bytes) = .ok bytes := by
  have hblocks := blocks_store #[] bytes []
  rw [List.append_nil] at hblocks
  rw [inflate, inflateFrom, hblocks]
  exact congrArg Except.ok (Array.toList_appendList.trans (List.nil_append bytes))

end Deflate

end SamlConformance
