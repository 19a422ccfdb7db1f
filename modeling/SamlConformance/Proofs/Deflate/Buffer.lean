import SamlConformance.Deflate.Inflate

/-!
# Inflating into a Buffer

A decompressor does not see a stream as a whole. It is called again and again, is offered what
is left of the stream and the room that is left in a buffer, takes some of the bytes and puts
some bytes into the buffer, until it says that the stream has ended. Before a call the buffer
is made larger if it is full. If nothing is taken or given although there was room, the
decompressor waits for bytes that will not come, and the stream is given up as truncated.

What comes out does not depend on the sizes of the buffer, neither on the first one nor on the
steps in which it grows. The case to be looked at is a stream that fills the buffer exactly.
The call that fills it need not be the last one, and the next one may find nothing left to be
done but to say so; but a full buffer is made larger, so there is room in that call, and with
room a decompressor that has all it needs does say so.

Of the decompressor nothing is known but what it promises to its callers. The promises are
about calls with room, after other such calls, since no other calls are made.

## Main definitions

* `Decompressor`, `Call`: A decompressor as its callers see it.
* `Reading`, `Decompressor.Reached`: Where a stream is read, and where calls can lead to.
* `Decompressor.Faithful`: What a decompressor promises.
* `Decompressor.turn`, `Decompressor.Ends`: The loop and its result.
* `allAtOnce`: A decompressor that takes what is offered with one call.

## Theorems

* `ends_of_reached`: From wherever calls can lead to, the loop ends with what the stream holds.
* `ends_iff`: It does so for all sizes of the buffer, and with nothing else.
* `faithful_allAtOnce`: The promises can be kept.
-/

namespace SamlConformance

namespace Deflate

/-- What a call gives when it does not fail. -/
structure Call (σ : Type) where
  /-- The decompressor after the call. -/
  state : σ
  /-- How many of the bytes that were offered it took. -/
  taken : Nat
  /-- The bytes it put into the buffer. -/
  given : List UInt8
  /-- The stream has ended, and all of it was given. -/
  ended : Bool

/-- A decompressor as its callers see it. -/
structure Decompressor (σ : Type) where
  /-- Before the first call. -/
  start : σ
  /-- A call offers bytes and room. It has no result if the bytes are no stream. -/
  call : σ → List UInt8 → Nat → Option (Call σ)

/-- Where a stream is read. -/
structure Reading (σ : Type) where
  /-- The decompressor. -/
  state : σ
  /-- How many bytes of the stream were taken. -/
  taken : Nat
  /-- The bytes that were given. -/
  out : List UInt8

/-- What a turn of the loop leads to. -/
inductive Turn (σ : Type) where
  /-- To the next one, with so much place in the buffer. -/
  | next (r : Reading σ) (capacity : Nat)
  /-- To a result. -/
  | last (result : Except Fault (List UInt8))

def Reading.after {σ : Type} (r : Reading σ) (c : Call σ) : Reading σ :=
  ⟨c.state, r.taken + c.taken, r.out ++ c.given⟩

namespace Decompressor

variable {σ : Type} (D : Decompressor σ) (enlarge : Nat → Nat) (stream : List UInt8)

def first : Reading σ := ⟨D.start, 0, []⟩

/-- A call that offers what is left of the stream. -/
def callAt (r : Reading σ) (room : Nat) : Option (Call σ) :=
  D.call r.state (stream.drop r.taken) room

/-- Where calls with room lead to. -/
inductive Reached : Reading σ → Prop where
  /-- Before the first call. -/
  | first : Reached D.first
  /-- Behind a call that was not the last. -/
  | after (r : Reading σ) (room : Nat) (c : Call σ) (h : Reached r) (hroom : 0 < room)
      (hcall : D.callAt stream r room = some c) (hgoes : c.ended = false) : Reached (r.after c)

/-- What a decompressor promises to its callers. -/
structure Faithful : Prop where
  /-- It takes what is offered, and gives what there is room for. -/
  bounded : ∀ stream r room c, D.Reached stream r → 0 < room →
    D.callAt stream r room = some c →
    c.taken ≤ (stream.drop r.taken).length ∧ c.given.length ≤ room
  /-- It does not give without end. -/
  finite : ∀ stream, ∃ n, ∀ r, D.Reached stream r → r.out.length ≤ n
  /-- A call fails only if the stream is corrupt. -/
  fails : ∀ stream r room, D.Reached stream r → 0 < room →
    D.callAt stream r room = none → inflate stream = .error .corrupt
  /-- When it says that the stream has ended, it has given what the stream holds. -/
  ends : ∀ stream r room c, D.Reached stream r → 0 < room →
    D.callAt stream r room = some c → c.ended = true → inflate stream = .ok (r.after c).out
  /-- It waits only for bytes that are missing. -/
  waits : ∀ stream r room c, D.Reached stream r → 0 < room →
    D.callAt stream r room = some c → c.ended = false → c.taken = 0 → c.given = [] →
    inflate stream = .error .truncated

/-- One turn of the loop, with a buffer that has place for so many bytes. -/
def turn (r : Reading σ) (capacity : Nat) : Turn σ :=
  let place := if r.out.length = capacity then enlarge capacity else capacity
  match D.callAt stream r (place - r.out.length) with
  | none => .last (.error .corrupt)
  | some c =>
    if c.ended then .last (.ok (r.after c).out)
    else if c.taken = 0 ∧ c.given = [] ∧ (r.after c).out.length < place then
      .last (.error .truncated)
    else .next (r.after c) place

/-- The loop ends with a result. -/
inductive Ends : Reading σ → Nat → Except Fault (List UInt8) → Prop where
  /-- With this turn. -/
  | last (r : Reading σ) (capacity : Nat) (result : Except Fault (List UInt8))
      (h : D.turn enlarge stream r capacity = .last result) : Ends r capacity result
  /-- With a later one. -/
  | next (r r' : Reading σ) (capacity place : Nat) (result : Except Fault (List UInt8))
      (h : D.turn enlarge stream r capacity = .next r' place) (hends : Ends r' place result) :
      Ends r capacity result

variable {D} {enlarge} {stream}

theorem Ends.unique {r : Reading σ} {capacity : Nat} {x y : Except Fault (List UInt8)}
    (hx : D.Ends enlarge stream r capacity x) (hy : D.Ends enlarge stream r capacity y) :
    x = y := by
  induction hx with
  | last r capacity x h =>
      cases hy with
      | last _ _ _ h' => exact Turn.last.inj (h.symm.trans h')
      | next _ r' _ place _ h' _ =>
          exact absurd (h.symm.trans h') (by simp only [reduceCtorEq, not_false_eq_true])
  | next r r' capacity place x h _ ih =>
      cases hy with
      | last _ _ _ h' =>
          exact absurd (h.symm.trans h') (by simp only [reduceCtorEq, not_false_eq_true])
      | next _ r'' _ place' _ h' hends =>
          obtain ⟨rfl, rfl⟩ := Turn.next.inj (h.symm.trans h')
          exact ih hends

/-- One turn keeps to what the stream holds, or gets on with it. -/
theorem turn_cases (hD : D.Faithful) (henlarge : ∀ n, n < enlarge n) (r : Reading σ)
    (capacity : Nat) (hr : D.Reached stream r) (hle : r.out.length ≤ capacity) :
    D.turn enlarge stream r capacity = .last (inflate stream) ∨
    ∃ c place, D.turn enlarge stream r capacity = .next (r.after c) place ∧
      D.Reached stream (r.after c) ∧ (r.after c).out.length ≤ place ∧
      c.taken ≤ (stream.drop r.taken).length ∧ 0 < c.taken + c.given.length := by
  have hgrows := henlarge capacity
  unfold turn
  generalize hplace : (if r.out.length = capacity then enlarge capacity else capacity) = place
  have hroom : r.out.length < place := by
    rw [← hplace]
    split <;> omega
  simp only
  cases hcall : D.callAt stream r (place - r.out.length) with
  | none =>
      rw [hD.fails stream r _ hr (by omega) hcall]
      exact Or.inl rfl
  | some c =>
      obtain ⟨htaken, hgiven⟩ := hD.bounded stream r _ c hr (by omega) hcall
      simp only
      cases hended : c.ended with
      | true =>
          rw [hD.ends stream r _ c hr (by omega) hcall hended]
          exact Or.inl rfl
      | false =>
          by_cases hwaits : c.taken = 0 ∧ c.given = []
          · have hless : (r.after c).out.length < place := by
              rw [Reading.after, hwaits.2, List.append_nil]
              exact hroom
            rw [hD.waits stream r _ c hr (by omega) hcall hended hwaits.1 hwaits.2,
              if_neg Bool.false_ne_true, if_pos ⟨hwaits.1, hwaits.2, hless⟩]
            exact Or.inl rfl
          · refine Or.inr ⟨c, place, ?_, .after r _ c hr (by omega) hcall hended, ?_, htaken, ?_⟩
            · rw [if_neg Bool.false_ne_true, if_neg fun h => hwaits ⟨h.1, h.2.1⟩]
            · rw [Reading.after, List.length_append]
              omega
            · refine Nat.pos_of_ne_zero fun hzero => hwaits ⟨by omega, ?_⟩
              exact List.length_eq_zero_iff.mp (by omega)

theorem ends_of_reached (hD : D.Faithful) (henlarge : ∀ n, n < enlarge n) (r : Reading σ)
    (capacity : Nat) (hr : D.Reached stream r) (hle : r.out.length ≤ capacity) :
    D.Ends enlarge stream r capacity (inflate stream) := by
  obtain ⟨n, hn⟩ := hD.finite stream
  -- Every turn takes bytes of which there are only so many, or gives some.
  induction hsize : (stream.length - r.taken) + (n - r.out.length) using Nat.strongRecOn
    generalizing r capacity with
  | ind size ih =>
      rcases turn_cases hD henlarge r capacity hr hle with hlast | ⟨c, place, hnext, hr', hle', hc⟩
      · exact .last r capacity _ hlast
      · refine .next r _ capacity place _ hnext (ih _ ?_ (r.after c) place hr' hle' rfl)
        have hbound := hn _ hr'
        rw [List.length_drop] at hc
        simp only [Reading.after, List.length_append] at hbound ⊢
        omega

/-- Whatever the sizes of the buffer are, the loop ends with what the stream holds. -/
theorem ends_iff (hD : D.Faithful) (henlarge : ∀ n, n < enlarge n) (capacity : Nat)
    (result : Except Fault (List UInt8)) :
    D.Ends enlarge stream D.first capacity result ↔ result = inflate stream := by
  have hends : D.Ends enlarge stream D.first capacity (inflate stream) :=
    ends_of_reached hD henlarge D.first capacity .first (Nat.zero_le capacity)
  exact ⟨fun h => h.unique hends, fun h => h ▸ hends⟩

end Decompressor

/-- A decompressor that takes what is offered with one call, and then gives piece by piece. It
keeps what it took, and how much it gave. -/
def allAtOnce : Decompressor (List UInt8 × Nat) where
  start := ([], 0)
  call := fun (seen, n) offered room =>
    match inflate (seen ++ offered) with
    | .error .corrupt => none
    | .error .truncated => some ⟨(seen ++ offered, n), offered.length, [], false⟩
    | .ok out =>
      let given := (out.drop n).take room
      some ⟨(seen ++ offered, n + given.length), offered.length, given, out.length ≤ n + room⟩

/-- What such a decompressor keeps, and what it has given. -/
structure KeptAtOnce (stream : List UInt8) (r : Reading (List UInt8 × Nat)) : Prop where
  /-- What it took and what is left make up the stream. -/
  seen : r.state.1 ++ stream.drop r.taken = stream
  /-- It counts what it gives. -/
  count : r.state.2 = r.out.length
  /-- It gives what the stream holds from the front. -/
  given : ∀ out, inflate stream = .ok out → r.out <+: out
  /-- If there is nothing in the stream, it gives nothing. -/
  nothing : ∀ f, inflate stream = .error f → r.out = []

section

variable {stream : List UInt8} {r : Reading (List UInt8 × Nat)} {room : Nat}

theorem callAt_allAtOnce (h : KeptAtOnce stream r) :
    allAtOnce.callAt stream r room =
      match inflate stream with
      | .error .corrupt => none
      | .error .truncated =>
        some ⟨(stream, r.out.length), (stream.drop r.taken).length, [], false⟩
      | .ok out =>
        let given := (out.drop r.out.length).take room
        some ⟨(stream, r.out.length + given.length), (stream.drop r.taken).length, given,
          out.length ≤ r.out.length + room⟩ := by
  simp only [Decompressor.callAt, allAtOnce, h.seen, h.count]

/-- With what is given next, so much of what the stream holds was given. -/
theorem append_given (h : KeptAtOnce stream r) (out : List UInt8)
    (hout : inflate stream = .ok out) :
    r.out ++ (out.drop r.out.length).take room = out.take (r.out.length + room) := by
  rw [List.take_add, ← List.prefix_iff_eq_take.mp (h.given out hout)]

theorem keptAtOnce_after (h : KeptAtOnce stream r) (c : Call (List UInt8 × Nat))
    (hcall : allAtOnce.callAt stream r room = some c) : KeptAtOnce stream (r.after c) := by
  rw [callAt_allAtOnce h] at hcall
  have hrest : stream ++ stream.drop (r.taken + (stream.drop r.taken).length) = stream := by
    have hnil : stream.drop (r.taken + (stream.drop r.taken).length) = [] := by
      rw [List.drop_eq_nil_iff, List.length_drop]
      omega
    rw [hnil, List.append_nil]
  cases hstream : inflate stream with
  | error f =>
      rw [hstream] at hcall
      cases f with
      | corrupt => exact absurd hcall.symm (Option.some_ne_none c)
      | truncated =>
          obtain rfl := Option.some.inj hcall
          have hsame : r.out ++ [] = r.out := List.append_nil r.out
          refine ⟨hrest, congrArg List.length hsame.symm, fun out hout => ?_, fun f hf => ?_⟩
          · exact hsame.symm ▸ h.given out hout
          · exact hsame.trans (h.nothing f hf)
  | ok out =>
      rw [hstream] at hcall
      obtain rfl := Option.some.inj hcall
      refine ⟨hrest, List.length_append.symm, fun out' hout => ?_, fun f hf => ?_⟩
      · obtain rfl := Except.ok.inj (hstream.symm.trans hout)
        simp only [Reading.after, append_given h out hstream]
        exact List.take_prefix _ out
      · exact absurd (hstream.symm.trans hf) (by simp only [reduceCtorEq, not_false_eq_true])

theorem keptAtOnce_of_reached (h : allAtOnce.Reached stream r) : KeptAtOnce stream r := by
  induction h with
  | first => exact ⟨rfl, rfl, fun _ _ => List.nil_prefix, fun _ _ => rfl⟩
  | after r room c _ _ hcall _ ih => exact keptAtOnce_after ih c hcall

end

theorem faithful_allAtOnce : allAtOnce.Faithful where
  bounded stream r room c h hroom hcall := by
    rw [callAt_allAtOnce (keptAtOnce_of_reached h)] at hcall
    split at hcall
    · exact absurd hcall.symm (Option.some_ne_none c)
    · obtain rfl := Option.some.inj hcall
      exact ⟨Nat.le_refl _, Nat.zero_le room⟩
    · obtain rfl := Option.some.inj hcall
      exact ⟨Nat.le_refl _, List.length_take_le room _⟩
  finite stream := by
    cases hstream : inflate stream with
    | error f =>
        refine ⟨0, fun r h => ?_⟩
        rw [(keptAtOnce_of_reached h).nothing f hstream]
        exact Nat.le_refl 0
    | ok out =>
        refine ⟨out.length, fun r h => ?_⟩
        exact ((keptAtOnce_of_reached h).given out hstream).length_le
  fails stream r room h hroom hcall := by
    rw [callAt_allAtOnce (keptAtOnce_of_reached h)] at hcall
    split at hcall
    · assumption
    · exact absurd hcall (Option.some_ne_none _)
    · exact absurd hcall (Option.some_ne_none _)
  ends stream r room c h hroom hcall hended := by
    have hkept := keptAtOnce_of_reached h
    rw [callAt_allAtOnce hkept] at hcall
    split at hcall
    · exact absurd hcall.symm (Option.some_ne_none c)
    · obtain rfl := Option.some.inj hcall
      exact absurd hended Bool.false_ne_true
    · rename_i out hstream
      obtain rfl := Option.some.inj hcall
      simp only [Reading.after, append_given hkept out hstream]
      rw [hstream, List.take_of_length_le (of_decide_eq_true hended)]
  waits stream r room c h hroom hcall hgoes htaken hgiven := by
    rw [callAt_allAtOnce (keptAtOnce_of_reached h)] at hcall
    split at hcall
    · exact absurd hcall.symm (Option.some_ne_none c)
    · assumption
    · rename_i out hstream
      obtain rfl := Option.some.inj hcall
      -- With room it gives something, unless it has given everything.
      have hlength := congrArg List.length hgiven
      have hmore := of_decide_eq_false hgoes
      simp only [List.length_take, List.length_drop, List.length_nil] at hlength
      omega

end Deflate

end SamlConformance
