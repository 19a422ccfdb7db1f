import Mathlib.Data.PFun
import SamlConformance.Proofs.Text.Utf8
import SamlConformance.Text.Cut

/-!
# Places in a Text

A program that goes through a text by the places of its bytes can go wrong in ways in which one
that takes the text apart cannot. It can look behind the end, it can cut a character in two, it
can take a stretch from a place to an earlier one, and it can come back to the same place for
ever. Here such a program is a computation that either stops with one of the first three faults,
or has a result, or has none at all because it does not come to an end. To have a result is then
all that has to be said of it.

Whether a character is cut in two depends on all that stands before the place. So what is said
of a place is what is left of the text there. If there is such a rest, the place is the size of
what stands before it, hence the boundary of a character, and no other place is one
(`cutAt_eq_pure_iff`). To go on is to take a stretch off the rest.

The loops look at bytes. They cannot tell characters apart that are not in ASCII, but neither do
the conditions under which they go on, and so they stop where a loop over characters would.

## Main definitions

* `OffsetFault`, `Scan`: The faults, and computations that may meet one or never end.
* `Scan.loop`: A loop, of which one turn is given.
* `Scan.size`, `Scan.byteAt`, `Scan.slice`, `Scan.find?`: Looking at places.
* `Scan.skip`: A loop over the bytes that meet a condition.
* `Scan.Uniform`: A condition that does not tell characters apart that are not in ASCII.
* `Scan.Rest`: What is left of a text at a place.

## Theorems

* `Scan.cutAt_eq_pure_iff`, `Scan.slice_eq_pure_iff`: Which places and stretches there are.
* `Scan.find?_singleton`: The place of a single character.
* `Scan.Rest.move`, `Scan.Rest.slice_eq`: A stretch is taken off the rest.
* `Scan.Rest.skip_eq_pure`, `Scan.Rest.getElem?_bytes`: What bytes say about characters.
-/

namespace SamlConformance

namespace Text

/-- A text is cut at the first occurrence of a character. -/
theorem cutAt_singleton (d : Char) (cs : List Char) :
    cutAt [d] cs =
      if d ∈ cs then some (cs.takeWhile (· ≠ d), (cs.dropWhile (· ≠ d)).drop 1) else none := by
  induction cs with
  | nil => rfl
  | cons c cs ih =>
      rw [cutAt, ih, List.takeWhile_cons, List.dropWhile_cons]
      by_cases hd : d = c
      · subst hd
        have hhere : [d].isPrefixOf (d :: cs) = true :=
          List.isPrefixOf_iff_prefix.mpr (List.prefix_append [d] cs)
        have hself : ¬ decide (d ≠ d) = true := fun h => of_decide_eq_true h rfl
        rw [if_pos hhere, if_pos List.mem_cons_self, if_neg hself, if_neg hself]
        rfl
      · have hnot : ¬ [d].isPrefixOf (c :: cs) = true := fun h =>
          hd (List.cons_prefix_cons.mp (List.isPrefixOf_iff_prefix.mp h)).1
        have hne : decide (c ≠ d) = true := decide_eq_true (Ne.symm hd)
        rw [if_neg hnot, if_pos hne, if_pos hne]
        by_cases hmem : d ∈ cs
        · rw [if_pos hmem, if_pos (List.mem_cons_of_mem c hmem)]
          rfl
        · rw [if_neg hmem, if_neg fun h => (List.mem_cons.mp h).elim hd hmem]
          rfl

end Text

/-- What stops a computation with places. -/
inductive OffsetFault where
  /-- A place is behind the end of the text. -/
  | behindEnd
  /-- A place is inside of a character. -/
  | insideCharacter
  /-- A stretch ends before it begins. -/
  | reversed
deriving Repr, DecidableEq

/-- A computation with places: it may meet a fault, and it may go on for ever. -/
abbrev Scan (α : Type) := ExceptT OffsetFault Part α

/-- What comes of one turn of a loop. -/
inductive Turn (σ α : Type) where
  /-- The loop is left with a result. -/
  | done (result : α)
  /-- There is one more turn. -/
  | next (state : σ)

namespace Scan

/-- A loop. It has no result if there is always one more turn. -/
def loop {σ α : Type} (turn : σ → Scan (Turn σ α)) : σ → Scan α :=
  PFun.fix fun s => (turn s).run.map fun
    | .error fault => .inl (.error fault)
    | .ok (.done result) => .inl (.ok result)
    | .ok (.next s') => .inr s'

/-- Two computations in sequence have a result if and only if both have. -/
theorem bind_eq_pure_iff {α β : Type} (x : Scan α) (f : α → Scan β) (b : β) :
    x >>= f = pure b ↔ ∃ a, x = pure a ∧ f a = pure b := by
  constructor
  · intro h
    obtain ⟨r, hr, hb⟩ := Part.mem_bind_iff.mp (Part.eq_some_iff.mp h)
    cases r with
    | error fault =>
        exact absurd (Part.mem_some_iff.mp hb) (by simp only [reduceCtorEq, not_false_eq_true])
    | ok a => exact ⟨a, Part.eq_some_iff.mpr hr, Part.eq_some_iff.mpr hb⟩
  · rintro ⟨a, rfl, h⟩
    rw [pure_bind, h]

theorem pure_inj {α : Type} (a b : α) (h : (pure a : Scan α) = pure b) : a = b :=
  Except.ok.inj (Part.some_inj.mp h)

theorem throw_ne_pure {α : Type} (fault : OffsetFault) (a : α) :
    (throw fault : Scan α) ≠ pure a := by
  intro h
  exact absurd (Part.some_inj.mp h) (by simp only [reduceCtorEq, not_false_eq_true])

section

variable {σ α : Type} (turn : σ → Scan (Turn σ α)) (s : σ)

theorem loop_done (a : α) (h : turn s = pure (.done a)) : loop turn s = pure a := by
  have hturn : Except.ok (Turn.done a) ∈ (turn s).run := Part.eq_some_iff.mp h
  exact Part.eq_some_iff.mpr (PFun.fix_stop ((Part.mem_map_iff _).mpr ⟨_, hturn, rfl⟩))

theorem loop_next (s' : σ) (h : turn s = pure (.next s')) : loop turn s = loop turn s' := by
  have hturn : Except.ok (Turn.next s') ∈ (turn s).run := Part.eq_some_iff.mp h
  exact PFun.fix_fwd_eq ((Part.mem_map_iff _).mpr ⟨_, hturn, rfl⟩)

end

/-- The bytes of a text. -/
def bytes (cs : List Char) : List UInt8 :=
  cs.flatMap String.utf8EncodeChar

/-- How many bytes there are. -/
def size (cs : List Char) : Nat :=
  (bytes cs).length

/-- The byte at a place. -/
def byteAt (cs : List Char) (place : Nat) : Scan UInt8 :=
  match (bytes cs)[place]? with
  | some b => pure b
  | none => throw .behindEnd

/-- What a byte is on its own: the character with its number. -/
def asChar (b : UInt8) : Char :=
  Char.ofNat b.toNat

/-- The text on the two sides of a place. -/
def cutAt : List Char → Nat → Scan (List Char × List Char)
  | cs, 0 => pure ([], cs)
  | [], _ + 1 => throw .behindEnd
  | c :: cs, n + 1 =>
    if n + 1 < c.utf8Size then throw .insideCharacter
    else do
      let (before, after) ← cutAt cs (n + 1 - c.utf8Size)
      pure (c :: before, after)

/-- The stretch of a text from one place to another. -/
def slice (cs : List Char) (start stop : Nat) : Scan (List Char) :=
  if stop < start then throw .reversed
  else do
    let (before, _) ← cutAt cs stop
    let (_, stretch) ← cutAt before start
    pure stretch

/-- The place at which a word begins for the first time. -/
def find? (word cs : List Char) : Option Nat :=
  (Text.cutAt word cs).map fun sides => size sides.1

/-- Goes on from a place while there are bytes that meet a condition. -/
def skip (p : Char → Bool) (cs : List Char) : Nat → Scan Nat :=
  loop fun place => do
    if place < size cs then
      let b ← byteAt cs place
      if p (asChar b) then pure (.next (place + 1)) else pure (.done place)
    else pure (.done place)

theorem bytes_append (before after : List Char) :
    bytes (before ++ after) = bytes before ++ bytes after :=
  List.flatMap_append

theorem size_append (before after : List Char) :
    size (before ++ after) = size before + size after := by
  rw [size, bytes_append, List.length_append]
  rfl

theorem size_cons (c : Char) (cs : List Char) : size (c :: cs) = c.utf8Size + size cs := by
  rw [size, bytes, List.flatMap_cons, List.length_append, String.length_utf8EncodeChar]
  rfl

/-- A character of ASCII is one byte wide. -/
theorem size_cons_ascii (c : Char) (h : c.toNat < 128) (cs : List Char) :
    size (c :: cs) = 1 + size cs := by
  have hone : c.utf8Size = 1 := by
    rw [← String.length_utf8EncodeChar, Utf8.utf8EncodeChar_low c h]
    rfl
  rw [size_cons, hone]

theorem size_pos (c : Char) (cs : List Char) : 0 < size (c :: cs) := by
  have := c.utf8Size_pos
  rw [size_cons]
  omega

theorem size_eq_zero_iff (cs : List Char) : size cs = 0 ↔ cs = [] := by
  cases cs with
  | nil => exact iff_of_true rfl rfl
  | cons c cs =>
      have := size_pos c cs
      exact iff_of_false (by omega) (List.cons_ne_nil c cs)

/-- A place has a text on its two sides exactly if it is the size of what is before it. -/
theorem cutAt_eq_pure_iff (cs : List Char) (place : Nat) (before after : List Char) :
    cutAt cs place = pure (before, after) ↔ cs = before ++ after ∧ size before = place := by
  induction cs generalizing place before with
  | nil =>
      cases place with
      | zero =>
          rw [cutAt, size_eq_zero_iff]
          constructor
          · intro h
            obtain ⟨rfl, rfl⟩ := Prod.mk.inj (pure_inj _ _ h)
            exact ⟨rfl, rfl⟩
          · rintro ⟨hnil, rfl⟩
            rw [List.nil_append] at hnil
            rw [← hnil]
      | succ n =>
          rw [cutAt]
          refine iff_of_false (throw_ne_pure _ _) ?_
          rintro ⟨hnil, hsize⟩
          rw [(List.append_eq_nil_iff.mp hnil.symm).1] at hsize
          exact absurd hsize (Nat.succ_ne_zero n).symm
  | cons c cs ih =>
      cases place with
      | zero =>
          rw [cutAt, size_eq_zero_iff]
          constructor
          · intro h
            obtain ⟨rfl, rfl⟩ := Prod.mk.inj (pure_inj _ _ h)
            exact ⟨rfl, rfl⟩
          · rintro ⟨hcs, rfl⟩
            rw [hcs, List.nil_append]
      | succ n =>
          rw [cutAt]
          by_cases hinside : n + 1 < c.utf8Size
          · rw [if_pos hinside]
            refine iff_of_false (throw_ne_pure _ _) ?_
            -- The front would have to hold the character, and then it is too large.
            rintro ⟨hcs, hsize⟩
            cases before with
            | nil => exact absurd hsize (Nat.succ_ne_zero n).symm
            | cons d before =>
                obtain ⟨rfl, -⟩ := List.cons.inj hcs
                rw [size_cons] at hsize
                omega
          · -- The character is wholly in front, and the place is cut down by its width.
            rw [if_neg hinside, bind_eq_pure_iff]
            constructor
            · rintro ⟨⟨front, rest⟩, hcut, hpair⟩
              obtain ⟨rfl, rfl⟩ := Prod.mk.inj (pure_inj _ _ hpair)
              obtain ⟨hcs, hsize⟩ := (ih _ front).mp hcut
              rw [hcs, size_cons, hsize]
              exact ⟨rfl, by omega⟩
            · rintro ⟨hcs, hsize⟩
              cases before with
              | nil => exact absurd hsize (Nat.succ_ne_zero n).symm
              | cons d before =>
                  obtain ⟨rfl, hrest⟩ := List.cons.inj hcs
                  rw [size_cons] at hsize
                  exact ⟨(before, after), (ih _ before).mpr ⟨hrest, by omega⟩, rfl⟩

-- The first character is two bytes wide.
example : cutAt ['é', '='] 1 = throw .insideCharacter := rfl

/-- Stretches are what stands between a front and a rest. -/
theorem slice_eq_pure_iff (cs : List Char) (start stop : Nat) (stretch : List Char) :
    slice cs start stop = pure stretch ↔ ∃ before after, cs = before ++ stretch ++ after ∧
      size before = start ∧ size (before ++ stretch) = stop := by
  rw [slice]
  by_cases hreversed : stop < start
  · rw [if_pos hreversed]
    refine iff_of_false (throw_ne_pure _ _) ?_
    rintro ⟨before, after, -, hstart, hstop⟩
    rw [size_append] at hstop
    omega
  · -- The front is cut at the end of the stretch first, and then at its beginning.
    rw [if_neg hreversed, bind_eq_pure_iff]
    constructor
    · rintro ⟨⟨front, after⟩, hcut, hfront⟩
      obtain ⟨⟨before, part⟩, hcut', hpart⟩ := (bind_eq_pure_iff _ _ _).mp hfront
      obtain rfl := pure_inj _ _ hpart
      obtain ⟨rfl, hstop⟩ := (cutAt_eq_pure_iff _ _ _ _).mp hcut
      obtain ⟨rfl, hstart⟩ := (cutAt_eq_pure_iff _ _ _ _).mp hcut'
      exact ⟨before, after, rfl, hstart, hstop⟩
    · rintro ⟨before, after, rfl, rfl, rfl⟩
      refine ⟨(before ++ stretch, after), (cutAt_eq_pure_iff _ _ _ _).mpr ⟨rfl, rfl⟩, ?_⟩
      exact (bind_eq_pure_iff _ _ _).mpr
        ⟨(before, stretch), (cutAt_eq_pure_iff _ _ _ _).mpr ⟨rfl, rfl⟩, rfl⟩

theorem find?_cons_pos (word : List Char) (c : Char) (cs : List Char)
    (h : word.isPrefixOf (c :: cs) = true) : find? word (c :: cs) = some 0 := by
  rw [find?, Text.cutAt, if_pos h]
  rfl

theorem find?_cons_neg (word : List Char) (c : Char) (cs : List Char)
    (h : ¬ word.isPrefixOf (c :: cs) = true) :
    find? word (c :: cs) = (find? word cs).map (size [c] + ·) := by
  rw [find?, Text.cutAt, if_neg h, find?, Option.map_map, Option.map_map]
  congr 1
  funext sides
  exact size_append [c] sides.1

theorem find?_singleton (d : Char) (cs : List Char) :
    find? [d] cs = if d ∈ cs then some (size (cs.takeWhile (· ≠ d))) else none := by
  rw [find?, Text.cutAt_singleton]
  split
  · rfl
  · rfl

/-- The condition does not tell characters apart that are not in ASCII. -/
def Uniform (p : Char → Bool) : Prop :=
  ∀ c d : Char, 128 ≤ c.toNat → 128 ≤ d.toNat → p c = p d

theorem uniform_beq (d : Char) (hd : d.toNat < 128) : Uniform fun c => c == d := by
  have hne : ∀ c : Char, 128 ≤ c.toNat → (c == d) = false := by
    intro c hc
    rw [beq_eq_false_iff_ne]
    rintro rfl
    omega
  exact fun c e hc he => (hne c hc).trans (hne e he).symm

theorem toNat_asChar (b : UInt8) : (asChar b).toNat = b.toNat := by
  have hlt := b.toNat_lt
  have hvalid : b.toNat.isValidChar := Or.inl (by omega)
  rw [asChar, Char.ofNat, dif_pos hvalid]
  rfl

/-- Each byte of a character meets the condition if and only if the character does. -/
theorem asChar_of_mem (p : Char → Bool) (hp : Uniform p) (c : Char) (b : UInt8)
    (hb : b ∈ String.utf8EncodeChar c) : p (asChar b) = p c := by
  by_cases hlow : b.toNat < 128
  · rw [asChar, Utf8.ofNat_of_mem_utf8EncodeChar c b hlow hb]
  · -- A high byte stands for no character of its own, but the condition cannot see which.
    refine hp _ _ ?_ ?_
    · rw [toNat_asChar]
      omega
    · by_contra hascii
      rw [Utf8.utf8EncodeChar_low c (by omega), List.mem_singleton] at hb
      rw [hb, UInt8.toNat_ofNat'] at hlow
      omega

theorem takeWhile_bytes (p : Char → Bool) (hp : Uniform p) (cs : List Char) :
    (bytes cs).takeWhile (fun b => p (asChar b)) = bytes (cs.takeWhile p) := by
  induction cs with
  | nil => rfl
  | cons c cs ih =>
      have hbytes : bytes (c :: cs) = String.utf8EncodeChar c ++ bytes cs := List.flatMap_cons
      have hchar := fun b hb => asChar_of_mem p hp c b hb
      rw [hbytes]
      cases hc : p c with
      | true =>
          -- All of its bytes meet the condition, and the loop goes on behind them.
          rw [List.takeWhile_append_of_pos fun b hb => (hchar b hb).trans hc, ih,
            List.takeWhile_cons_of_pos hc]
          exact List.flatMap_cons.symm
      | false =>
          -- The first byte of the character already fails.
          obtain ⟨b, bs, hcode⟩ :=
            List.exists_cons_of_ne_nil (String.utf8EncodeChar_ne_nil (c := c))
          have hb : p (asChar b) = false := (hchar b (hcode ▸ List.mem_cons_self)).trans hc
          rw [hcode, List.cons_append,
            List.takeWhile_cons_of_neg (by rw [hb]; exact Bool.false_ne_true),
            List.takeWhile_cons_of_neg (by rw [hc]; exact Bool.false_ne_true)]
          rfl

theorem byteAt_of_getElem? (cs : List Char) (place : Nat) (b : UInt8)
    (h : (bytes cs)[place]? = some b) : byteAt cs place = pure b := by
  rw [byteAt, h]

/-- The loop comes to an end behind all bytes that meet the condition. -/
theorem skip_eq (p : Char → Bool) (cs : List Char) (place : Nat) :
    skip p cs place =
      pure (place + (((bytes cs).drop place).takeWhile fun b => p (asChar b)).length) := by
  -- By induction on the number of bytes that are left, of which every turn takes one.
  induction hleft : size cs - place using Nat.strongRecOn generalizing place with
  | ind left ih =>
      by_cases hlt : place < size cs
      · have hbytes : place < (bytes cs).length := hlt
        have hbyte := byteAt_of_getElem? cs place _ (List.getElem?_eq_getElem hbytes)
        rw [List.drop_eq_getElem_cons hbytes, List.takeWhile_cons]
        cases hb : p (asChar (bytes cs)[place]) with
        | true =>
            have hnext := ih _ (by omega) (place + 1) rfl
            rw [if_pos rfl, List.length_cons, Nat.add_comm _ 1, ← Nat.add_assoc, ← hnext]
            refine loop_next _ place (place + 1) ?_
            rw [if_pos hlt, hbyte, pure_bind, hb]
            rfl
        | false =>
            refine loop_done _ place _ ?_
            rw [if_pos hlt, hbyte, pure_bind, hb]
            rfl
      · -- At the end there is nothing to look at.
        have hnil : (bytes cs).drop place = [] :=
          List.drop_eq_nil_iff.mpr (Nat.le_of_not_lt hlt)
        rw [hnil]
        refine loop_done _ place _ ?_
        rw [if_neg hlt]
        rfl

/-- What is left of a text at a place. There is a rest only at the boundary of a character. -/
def Rest (cs : List Char) (place : Nat) (rest : List Char) : Prop :=
  ∃ before, cs = before ++ rest ∧ size before = place

namespace Rest

variable {cs stretch rest : List Char} {place : Nat}

theorem start (cs : List Char) : Rest cs 0 cs :=
  ⟨[], rfl, rfl⟩

theorem add_size (h : Rest cs place rest) : place + size rest = size cs := by
  obtain ⟨before, rfl, rfl⟩ := h
  exact (size_append before rest).symm

theorem lt_iff (h : Rest cs place rest) : place < size cs ↔ rest ≠ [] := by
  have hsize := h.add_size
  have hzero := size_eq_zero_iff rest
  rw [ne_eq, ← hzero]
  omega

theorem move (h : Rest cs place (stretch ++ rest)) : Rest cs (place + size stretch) rest := by
  obtain ⟨before, rfl, rfl⟩ := h
  exact ⟨before ++ stretch, (List.append_assoc _ _ _).symm, size_append before stretch⟩

theorem move_ascii (c : Char) (hc : c.toNat < 128) (h : Rest cs place (c :: rest)) :
    Rest cs (place + 1) rest := by
  have hone : size [c] = 1 := size_cons_ascii c hc []
  have hmove : Rest cs (place + size [c]) rest := move h
  rw [hone] at hmove
  exact hmove

theorem slice_eq (h : Rest cs place (stretch ++ rest)) :
    slice cs place (place + size stretch) = pure stretch := by
  obtain ⟨before, rfl, rfl⟩ := h
  exact (slice_eq_pure_iff _ _ _ _).mpr
    ⟨before, rest, (List.append_assoc _ _ _).symm, rfl, size_append before stretch⟩

theorem slice_end (h : Rest cs place rest) : slice cs place (size cs) = pure rest := by
  have hall : Rest cs place (rest ++ []) := by
    rw [List.append_nil]
    exact h
  rw [← h.add_size]
  exact hall.slice_eq

/-- A loop that begins at the boundary of a character ends at one, and passes over what a loop
over characters would pass over. -/
theorem skip_eq_pure (p : Char → Bool) (hp : Uniform p) (h : Rest cs place rest) :
    skip p cs place = pure (place + size (rest.takeWhile p)) := by
  obtain ⟨before, rfl, rfl⟩ := h
  rw [skip_eq, bytes_append, size, List.drop_left, takeWhile_bytes p hp]
  rfl

theorem span (p : Char → Bool) (h : Rest cs place rest) :
    Rest cs place (rest.takeWhile p ++ rest.dropWhile p) := by
  rw [List.takeWhile_append_dropWhile]
  exact h

theorem skipped (p : Char → Bool) (h : Rest cs place rest) :
    Rest cs (place + size (rest.takeWhile p)) (rest.dropWhile p) :=
  (h.span p).move

theorem slice_skipped (p : Char → Bool) (h : Rest cs place rest) :
    slice cs place (place + size (rest.takeWhile p)) = pure (rest.takeWhile p) :=
  (h.span p).slice_eq

/-- The byte at a boundary tells which character begins there, as far as a condition can. -/
theorem getElem?_bytes (c : Char) (h : Rest cs place (c :: rest)) :
    ∃ b, (bytes cs)[place]? = some b ∧ ∀ p, Uniform p → p (asChar b) = p c := by
  obtain ⟨before, rfl, rfl⟩ := h
  obtain ⟨b, bs, hcode⟩ := List.exists_cons_of_ne_nil (String.utf8EncodeChar_ne_nil (c := c))
  refine ⟨b, ?_, fun p hp => asChar_of_mem p hp c b (hcode ▸ List.mem_cons_self)⟩
  have hbytes : bytes (c :: rest) = b :: (bs ++ bytes rest) := by
    rw [bytes, List.flatMap_cons, hcode]
    rfl
  rw [bytes_append, size, List.getElem?_append_right (Nat.le_refl _), Nat.sub_self, hbytes]
  rfl

/-- It shows whether it is a certain character of ASCII. -/
theorem map_asChar_iff (d : Char) (hd : d.toNat < 128) (h : Rest cs place rest) :
    (bytes cs)[place]?.map asChar = some d ↔ rest.head? = some d := by
  cases rest with
  | nil =>
      have hend : (bytes cs)[place]? = none :=
        List.getElem?_eq_none (Nat.le_of_eq h.add_size.symm)
      rw [hend]
      exact Iff.rfl
  | cons c rest =>
      obtain ⟨b, hget, hb⟩ := h.getElem?_bytes c
      have hchar : (asChar b == d) = (c == d) := hb _ (uniform_beq d hd)
      rw [hget, Option.map_some, List.head?_cons, Option.some_inj, Option.some_inj,
        ← beq_iff_eq, hchar, beq_iff_eq]

end Rest

end Scan

end SamlConformance
