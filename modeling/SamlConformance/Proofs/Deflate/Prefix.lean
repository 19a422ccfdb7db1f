import SamlConformance.Deflate.Inflate
import SamlConformance.Proofs.Coding.Prefix

/-!
# Streams End Where They End

A stream says itself where it ends, and nothing behind its end is looked at. So bytes that
are put behind a stream change nothing: it holds what it held, and the bytes follow it. Turned
around, this is why a stream cannot be cut short. If a beginning of it were a stream too, it
would end there, whatever follows, and the stream would not go on.

Each step of reading either fails or consumes some bits and hands on the others. A step is
frugal if it does not look at the bytes that it hands on, so that with other bytes in their
place it gives the same, and in particular with none. About failures nothing is said, as there
may be a result with more bytes. Of two frugal steps one after the other, the second takes its
bytes from those that the first does not look at. So steps that are made of frugal steps are
frugal, and the proofs follow the readers step by step. Bytes are really taken in three places
only. The loops run until the stream says stop, so there the induction is on the number of bits
that are left.

## Main definitions

* `Bits.before`: What is left of a stream, with bytes put behind it.
* `Kept`, `Settled`: A step of reading that nothing behind it changes.
* `Frugal`: A step of reading that takes some bytes and does not look at the others.

## Theorems

* `Frugal.bind`, `Frugal.settled`: Frugal steps one after the other, and what follows of them.
* `frugal_bit`, `frugal_byte`, `frugal_plainBytes`: The steps that take bits and bytes.
* `frugal_symbols`, `frugal_wordLengths`, `frugal_blocks`: The loops.
* `inflateFrom_append`: Nothing behind a stream changes what it holds.
* `exists_error_of_cutShort`: No stream is the beginning of another one.
* `inflate_eq_ok_iff`: What can be inflated is a stream with anything behind it.
-/

namespace SamlConformance

namespace Deflate

/-- What is left of a stream when bytes are put behind it. -/
def Bits.before (b : Bits) (more : List UInt8) : Bits := ⟨b.held, b.bytes ++ more⟩

/-- A result of reading, and the one with `more` put behind the stream: if there is a result,
it is the same, and what is left is in front of `more`. -/
inductive Kept {α : Type} (more : List UInt8) :
    Except Fault (α × Bits) → Except Fault (α × Bits) → Prop where
  /-- Nothing is said about failures: with more bytes there may be a result. -/
  | error (f : Fault) (y : Except Fault (α × Bits)) : Kept more (.error f) y
  /-- A result stays. -/
  | ok (x : α) (b : Bits) : Kept more (.ok (x, b)) (.ok (x, b.before more))

/-- Whatever is put behind, a step of reading gives what it gives without. -/
def Settled {α : Type} (read : Bits → Except Fault (α × Bits)) (b : Bits) : Prop :=
  ∀ more, Kept more (read b) (read (b.before more))

theorem Settled.eq_ok {α : Type} {read : Bits → Except Fault (α × Bits)} {b b' : Bits} {x : α}
    (h : Settled read b) (hread : read b = .ok (x, b')) (more : List UInt8) :
    read (b.before more) = .ok (x, b'.before more) := by
  have hkept := h more
  rw [hread] at hkept
  generalize read (b.before more) = y at hkept
  cases hkept with
  | ok => rfl

/-- A step of reading that gives a result took some of the bytes, and it would have given the
same result whatever stood behind these. -/
def Frugal {α : Type} (read : Bits → Except Fault (α × Bits)) (b : Bits) : Prop :=
  ∀ x b', read b = .ok (x, b') → ∃ taken, b.bytes = taken ++ b'.bytes ∧
    ∀ more, read ⟨b.held, taken ++ more⟩ = .ok (x, ⟨b'.held, more⟩)

theorem Frugal.settled {α : Type} {read : Bits → Except Fault (α × Bits)} {b : Bits}
    (h : Frugal read b) : Settled read b := by
  intro more
  rcases hread : read b with f | ⟨x, b'⟩
  · exact .error f _
  obtain ⟨taken, hbytes, htaken⟩ := h x b' hread
  rw [Bits.before, hbytes, List.append_assoc, htaken]
  exact .ok x b'

theorem frugal_done {α : Type} (x : α) (b : Bits) : Frugal (fun b => .ok (x, b)) b := by
  intro y b' h
  obtain ⟨rfl, rfl⟩ := Prod.mk.inj (Except.ok.inj h)
  exact ⟨[], rfl, fun _ => rfl⟩

theorem frugal_failed {α : Type} (f : Fault) (b : Bits) :
    Frugal (fun _ => (.error f : Except Fault (α × Bits))) b := by
  intro x b' h
  exact absurd h (by simp only [reduceCtorEq, not_false_eq_true])

/-- One step after the other: the bytes that the second one takes stand behind those that the
first one takes, and the first one does not look at them. -/
theorem Frugal.bind {α β : Type} {read : Bits → Except Fault (α × Bits)}
    {next : α → Bits → Except Fault (β × Bits)} {whole : Bits → Except Fault (β × Bits)} {b : Bits}
    (hread : Frugal read b) (hwhole : ∀ b, whole b = match read b with
      | .error f => .error f
      | .ok (x, b1) => next x b1)
    (hnext : ∀ x b1, read b = .ok (x, b1) → Frugal (next x) b1) :
    Frugal whole b := by
  intro y b2 h
  rw [hwhole] at h
  rcases hfirst : read b with f | ⟨x, b1⟩
  · rw [hfirst] at h
    exact absurd h (by simp only [reduceCtorEq, not_false_eq_true])
  rw [hfirst] at h
  obtain ⟨first, hbytes, hbehind⟩ := hread x b1 hfirst
  obtain ⟨second, hbytes1, hlast⟩ := hnext x b1 hfirst y b2 h
  -- To the first step, the bytes of the second are bytes like those that follow.
  refine ⟨first ++ second, by rw [hbytes, hbytes1, List.append_assoc], fun more => ?_⟩
  rw [hwhole, List.append_assoc, hbehind]
  exact hlast more

theorem frugal_bit (b : Bits) : Frugal Bits.bit b := by
  intro x b' h
  match b with
  | ⟨y :: held, bytes⟩ =>
      obtain ⟨rfl, rfl⟩ := Prod.mk.inj (Except.ok.inj h)
      exact ⟨[], rfl, fun _ => rfl⟩
  | ⟨[], y :: bytes⟩ =>
      obtain ⟨rfl, rfl⟩ := Prod.mk.inj (Except.ok.inj h)
      exact ⟨[y], rfl, fun _ => rfl⟩
  | ⟨[], []⟩ => exact absurd h (by simp only [Bits.bit, reduceCtorEq, not_false_eq_true])

theorem frugal_number (n : Nat) (b : Bits) : Frugal (Bits.number n) b := by
  induction n generalizing b with
  | zero => exact frugal_done 0 b
  | succ n ih =>
      -- What is done with the first bit is read off the definition, here as in all that follow.
      refine (frugal_bit b).bind (fun b => by
        rw [Bits.number]
        rcases b.bit with f | ⟨x, b1⟩ <;> rfl) fun x b1 _ => ?_
      refine (ih b1).bind (fun b => by rcases b.number n with f | ⟨v, b2⟩ <;> rfl) fun v b2 _ => ?_
      exact frugal_done _ b2

theorem frugal_byte (b : Bits) : Frugal Bits.byte b := by
  intro x b' h
  match b with
  | ⟨held, y :: bytes⟩ =>
      obtain ⟨rfl, rfl⟩ := Prod.mk.inj (Except.ok.inj h)
      exact ⟨[y], rfl, fun _ => rfl⟩
  | ⟨held, []⟩ => exact absurd h (by simp only [Bits.byte, reduceCtorEq, not_false_eq_true])

theorem frugal_symbolFrom (symbols : Array Nat) (counts : List Nat) (word first passed : Nat)
    (b : Bits) : Frugal (Code.symbolFrom symbols counts word first passed) b := by
  induction counts generalizing word first passed b with
  | nil => exact frugal_failed _ b
  | cons count counts ih =>
      refine (frugal_bit b).bind (fun b => by
        rw [Code.symbolFrom]
        rcases b.bit with f | ⟨x, b1⟩ <;> rfl) fun x b1 _ => ?_
      split
      · exact frugal_done _ b1
      split
      · exact frugal_failed _ b1
      · exact ih _ _ _ b1

theorem frugal_symbol (c : Code) (b : Bits) : Frugal c.symbol b :=
  frugal_symbolFrom c.symbols c.counts 0 0 0 b

theorem frugal_tableNumber (table : Array (Nat × Nat)) (i : Nat) (b : Bits) :
    Frugal (tableNumber table i) b := by
  unfold tableNumber
  rcases table[i]? with _ | ⟨base, extra⟩
  · exact frugal_failed _ b
  · simp only
    refine (frugal_number extra b).bind (fun b => by
      rcases b.number extra with f | ⟨v, b1⟩ <;> rfl) fun v b1 _ => ?_
    exact frugal_done _ b1

theorem frugal_repetition (codes : Codes) (i : Nat) (b : Bits) :
    Frugal (repetition codes i) b := by
  refine (frugal_tableNumber lengthTable i b).bind (fun b => by
    rw [repetition]
    rcases tableNumber lengthTable i b with f | ⟨length, b1⟩ <;> rfl) fun length b1 _ => ?_
  refine (frugal_symbol codes.distance b1).bind (fun b => by
    rcases codes.distance.symbol b with f | ⟨d, b2⟩ <;> rfl) fun d b2 _ => ?_
  refine (frugal_tableNumber distanceTable d b2).bind (fun b => by
    rcases tableNumber distanceTable d b with f | ⟨distance, b3⟩ <;> rfl) fun distance b3 _ => ?_
  exact frugal_done _ b3

/-- One turn of the loop over symbols. -/
theorem symbols_eq (codes : Codes) (out : Array UInt8) (b : Bits) : symbols codes out b =
    match codes.literal.symbol b with
    | .error f => .error f
    | .ok (s, b1) =>
      match Item.ofSymbol s with
      | .literal x => symbols codes (out.push x) b1
      | .stop => .ok (out, b1)
      | .repetition i =>
        match repetition codes i b1 with
        | .error f => .error f
        | .ok ((length, distance), b2) => symbols codes (copyBack distance length out) b2 := by
  rw [symbols]
  rcases codes.literal.symbol b with f | ⟨s, b1⟩
  · rfl
  simp only
  cases Item.ofSymbol s with
  | literal x => rfl
  | stop => rfl
  | repetition i => simp only; cases repetition codes i b1 <;> rfl

theorem frugal_symbols (codes : Codes) (out : Array UInt8) (b : Bits) :
    Frugal (symbols codes out) b := by
  -- A symbol takes a bit at least, so that fewer are left for the next turn.
  induction hsize : b.size using Nat.strongRecOn generalizing out b with
  | ind n ih =>
      refine (frugal_symbol codes.literal b).bind (fun b => by
        rw [symbols_eq]
        rcases codes.literal.symbol b with f | ⟨s, b1⟩ <;> rfl) fun s b1 h1 => ?_
      have hless := Code.size_symbol h1
      cases Item.ofSymbol s with
      | literal x => exact ih b1.size (by omega) (out.push x) b1 rfl
      | stop => exact frugal_done out b1
      | repetition i =>
          simp only
          refine (frugal_repetition codes i b1).bind (fun b => by
            rcases repetition codes i b with f | ⟨r, b2⟩ <;> rfl) fun r b2 h2 => ?_
          have hle := size_repetition h2
          exact ih b2.size (by omega) (copyBack r.2 r.1 out) b2 rfl

theorem frugal_tripleBits (n : Nat) (b : Bits) : Frugal (tripleBits n) b := by
  induction n generalizing b with
  | zero => exact frugal_done [] b
  | succ n ih =>
      refine (frugal_number 3 b).bind (fun b => by
        rw [tripleBits]
        rcases b.number 3 with f | ⟨v, b1⟩ <;> rfl) fun v b1 _ => ?_
      refine (ih b1).bind (fun b => by rcases tripleBits n b with f | ⟨vs, b2⟩ <;> rfl)
        fun vs b2 _ => ?_
      exact frugal_done _ b2

theorem frugal_lengthRun (last : Option Nat) (s : Nat) (b : Bits) :
    Frugal (lengthRun last s) b := by
  -- The three kinds of runs differ in numbers only.
  have hrun : ∀ l bits least : Nat, Frugal (fun b => match b.number bits with
      | .error f => .error f
      | .ok (v, b') => .ok (List.replicate (least + v) l, b')) b := by
    intro l bits least
    refine (frugal_number bits b).bind (fun b => by
      rcases b.number bits with f | ⟨v, b1⟩ <;> rfl) fun v b1 _ => ?_
    exact frugal_done _ b1
  unfold lengthRun
  simp only
  split
  · exact frugal_done [s] b
  split
  · cases last with
    | none => exact frugal_failed _ b
    | some l => exact hrun l 2 3
  split
  · exact hrun 0 3 3
  · exact hrun 0 7 11

/-- One turn of the loop over word lengths. -/
theorem wordLengths_eq (code : Code) (need : Nat) (got : List Nat) (b : Bits) :
    wordLengths code need got b =
      if need ≤ got.length then
        if got.length = need then .ok (got, b) else .error .corrupt
      else
        match code.symbol b with
        | .error f => .error f
        | .ok (s, b1) =>
          match lengthRun got.getLast? s b1 with
          | .error f => .error f
          | .ok (ls, b2) => wordLengths code need (got ++ ls) b2 := by
  rw [wordLengths]
  rcases code.symbol b with f | ⟨s, b1⟩
  · rfl
  simp only
  cases lengthRun got.getLast? s b1 <;> rfl

theorem frugal_wordLengths (code : Code) (need : Nat) (got : List Nat) (b : Bits) :
    Frugal (wordLengths code need got) b := by
  induction hsize : b.size using Nat.strongRecOn generalizing got b with
  | ind n ih =>
      rw [funext (wordLengths_eq code need got)]
      split
      · split
        · exact frugal_done got b
        · exact frugal_failed _ b
      refine (frugal_symbol code b).bind (fun b => by
        rcases code.symbol b with f | ⟨s, b1⟩ <;> rfl) fun s b1 h1 => ?_
      have hless := Code.size_symbol h1
      refine (frugal_lengthRun got.getLast? s b1).bind (fun b => by
        rcases lengthRun got.getLast? s b with f | ⟨ls, b2⟩ <;> rfl) fun ls b2 h2 => ?_
      have hle := size_lengthRun h2
      exact ih b2.size (by omega) (got ++ ls) b2 rfl

theorem frugal_codeSizes (b : Bits) : Frugal codeSizes b := by
  refine (frugal_number 14 b).bind (fun b => by
    rw [codeSizes]
    rcases b.number 14 with f | ⟨v, b1⟩ <;> rfl) fun v b1 _ => ?_
  split
  · exact frugal_failed _ b1
  · exact frugal_done _ b1

theorem frugal_ownCodes (b : Bits) : Frugal ownCodes b := by
  refine (frugal_codeSizes b).bind (fun b => by
    rw [ownCodes]
    rcases codeSizes b with f | ⟨sizes, b1⟩ <;> rfl) fun sizes b1 _ => ?_
  refine (frugal_tripleBits sizes.2.2 b1).bind (fun b => by
    rcases tripleBits sizes.2.2 b with f | ⟨ls, b2⟩ <;> rfl) fun ls b2 _ => ?_
  split
  · exact frugal_failed _ b2
  -- Which code the lengths are in does not matter.
  generalize Code.ofLengths _ = code
  refine (frugal_wordLengths code (sizes.1 + sizes.2.1) [] b2).bind (fun b => by
    rcases wordLengths code (sizes.1 + sizes.2.1) [] b with f | ⟨lengths, b3⟩ <;> rfl)
    fun lengths b3 _ => ?_
  rcases codesOfLengths sizes.1 lengths with f | codes
  · exact frugal_failed f b3
  · exact frugal_done codes b3

theorem frugal_twoBytes (b : Bits) : Frugal twoBytes b := by
  refine (frugal_byte b).bind (fun b => by
    rw [twoBytes]
    rcases b.byte with f | ⟨lo, b1⟩ <;> rfl) fun lo b1 _ => ?_
  refine (frugal_byte b1).bind (fun b => by rcases b.byte with f | ⟨hi, b2⟩ <;> rfl)
    fun hi b2 _ => ?_
  exact frugal_done _ b2

/-- The bytes of a plain block are counted before they are taken. -/
theorem frugal_plainBytes (n : Nat) (out : Array UInt8) (b : Bits) :
    Frugal (fun b => if b.bytes.length < n then .error .truncated
      else .ok (out ++ b.bytes.take n, ⟨[], b.bytes.drop n⟩)) b := by
  intro x b' h
  simp only at h
  by_cases hroom : b.bytes.length < n
  · rw [if_pos hroom] at h
    exact absurd h (by simp only [reduceCtorEq, not_false_eq_true])
  rw [if_neg hroom] at h
  obtain ⟨rfl, rfl⟩ := Prod.mk.inj (Except.ok.inj h)
  have hlength : (b.bytes.take n).length = n := by
    rw [List.length_take]
    omega
  refine ⟨b.bytes.take n, (List.take_append_drop n b.bytes).symm, fun more => ?_⟩
  have hroom' : ¬ (b.bytes.take n ++ more).length < n := by
    rw [List.length_append]
    omega
  simp only [if_neg hroom', List.take_left' hlength, List.drop_left' hlength]

theorem frugal_plainBlock (out : Array UInt8) (b : Bits) : Frugal (plainBlock out) b := by
  -- The bits that are skipped are not among the bytes.
  have haligned : Frugal (fun b => twoBytes b.align) b := frugal_twoBytes b.align
  refine haligned.bind (fun b => by
    rw [plainBlock]
    rcases twoBytes b.align with f | ⟨n, b1⟩ <;> rfl) fun n b1 _ => ?_
  refine (frugal_twoBytes b1).bind (fun b => by rcases twoBytes b with f | ⟨m, b2⟩ <;> rfl)
    fun m b2 _ => ?_
  split
  · exact frugal_failed _ b2
  · exact frugal_plainBytes n out b2

theorem frugal_block (kind : Nat) (out : Array UInt8) (b : Bits) : Frugal (block kind out) b := by
  unfold block
  split
  · exact frugal_plainBlock out b
  split
  · exact frugal_symbols fixedCodes out b
  split
  · refine (frugal_ownCodes b).bind (fun b => by rcases ownCodes b with f | ⟨codes, b1⟩ <;> rfl)
      fun codes b1 _ => ?_
    exact frugal_symbols codes out b1
  · exact frugal_failed _ b

/-- One turn of the loop over blocks. -/
theorem blocks_eq (out : Array UInt8) (b : Bits) : blocks out b =
    match b.number 3 with
    | .error f => .error f
    | .ok (v, b1) =>
      match block (v / 2) out b1 with
      | .error f => .error f
      | .ok (out', b2) => if v % 2 = 1 then .ok (out', b2) else blocks out' b2 := by
  rw [blocks]
  rcases b.number 3 with f | ⟨v, b1⟩
  · rfl
  simp only
  cases block (v / 2) out b1 <;> rfl

theorem frugal_blocks (out : Array UInt8) (b : Bits) : Frugal (blocks out) b := by
  induction hsize : b.size using Nat.strongRecOn generalizing out b with
  | ind n ih =>
      refine (frugal_number 3 b).bind (fun b => by
        rw [blocks_eq]
        rcases b.number 3 with f | ⟨v, b1⟩ <;> rfl) fun v b1 h1 => ?_
      have hless := Bits.size_number h1
      refine (frugal_block (v / 2) out b1).bind (fun b => by
        rcases block (v / 2) out b with f | ⟨out', b2⟩ <;> rfl) fun out' b2 h2 => ?_
      have hle := size_block h2
      split
      · exact frugal_done out' b2
      · exact ih b2.size (by omega) out' b2 rfl

/-- Whatever is put behind a stream follows it, and changes nothing. -/
theorem inflateFrom_append (stream out rest more : List UInt8)
    (h : inflateFrom stream = .ok (out, rest)) :
    inflateFrom (stream ++ more) = .ok (out, rest ++ more) := by
  unfold inflateFrom at h ⊢
  split at h
  · exact absurd h (by simp only [reduceCtorEq, not_false_eq_true])
  · rename_i out' b hblocks
    obtain ⟨rfl, rfl⟩ := Prod.mk.inj (Except.ok.inj h)
    have hmore : blocks #[] (.ofBytes (stream ++ more)) = .ok (out', b.before more) :=
      (frugal_blocks #[] (.ofBytes stream)).settled.eq_ok hblocks more
    rw [hmore]
    rfl

/-- A stream that goes on to its last byte holds nothing when it is cut short. -/
theorem exists_error_of_cutShort (cut whole out : List UInt8) (h : CutShort cut whole)
    (hends : inflateFrom whole = .ok (out, [])) : ∃ f, inflate cut = .error f := by
  unfold inflate
  cases hcut : inflateFrom cut with
  | error f => exact ⟨f, rfl⟩
  | ok r =>
      -- Then the stream would end there, and what was cut off would follow it.
      obtain ⟨out', rest⟩ := r
      obtain ⟨⟨more, rfl⟩, hdiffers⟩ := h
      have hbehind := hends.symm.trans (inflateFrom_append cut out' rest more hcut)
      have hmore := (List.append_eq_nil_iff.mp (Prod.mk.inj (Except.ok.inj hbehind)).2.symm).2
      exact absurd (by rw [hmore, List.append_nil]) hdiffers

/-- What was read of the bytes is a stream itself, and nothing follows it. -/
theorem exists_stream_of_inflateFrom (bytes out rest : List UInt8)
    (h : inflateFrom bytes = .ok (out, rest)) :
    ∃ stream, bytes = stream ++ rest ∧ inflateFrom stream = .ok (out, []) := by
  unfold inflateFrom at h
  split at h
  · exact absurd h (by simp only [reduceCtorEq, not_false_eq_true])
  rename_i out' b hblocks
  obtain ⟨rfl, rfl⟩ := Prod.mk.inj (Except.ok.inj h)
  obtain ⟨stream, hbytes, hstream⟩ := frugal_blocks #[] (.ofBytes bytes) out' b hblocks
  have halone : blocks #[] (.ofBytes stream) = .ok (out', ⟨b.held, []⟩) := by
    have hnothing := hstream []
    rw [List.append_nil] at hnothing
    exact hnothing
  exact ⟨stream, hbytes, by rw [inflateFrom, halone]⟩

/-- Bytes can be inflated if a stream is the beginning of them, whatever follows. -/
theorem inflate_eq_ok_iff (bytes out : List UInt8) :
    inflate bytes = .ok out ↔
      ∃ stream more, bytes = stream ++ more ∧ inflateFrom stream = .ok (out, []) := by
  unfold inflate
  constructor
  · intro h
    cases hread : inflateFrom bytes with
    | error f =>
        rw [hread] at h
        exact absurd h (by simp only [Except.map, reduceCtorEq, not_false_eq_true])
    | ok r =>
        obtain ⟨out', rest⟩ := r
        rw [hread] at h
        obtain rfl : out' = out := Except.ok.inj h
        obtain ⟨stream, hbytes, hstream⟩ := exists_stream_of_inflateFrom bytes out' rest hread
        exact ⟨stream, rest, hbytes, hstream⟩
  · rintro ⟨stream, more, rfl, hstream⟩
    rw [inflateFrom_append stream out [] more hstream]
    rfl

end Deflate

end SamlConformance
