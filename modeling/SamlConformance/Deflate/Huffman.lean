import SamlConformance.Deflate.Bits

/-!
# Canonical Codes

A code is given by the lengths of its words alone: words of equal length are
consecutive numbers in the order of their symbols, and shorter words come
first. So it is enough to know, for each length, how many words there are, and
the symbols in the order of their words.

## Main definitions

* `Code`: Word counts by length, and the symbols.
* `Code.ofLengths`: The code with given word lengths.
* `Code.isComplete`: Every bit sequence begins with a word.
* `Code.isUsable`: The codes a block may hold.
* `Code.symbol`: Reads one word.

## Theorems

* `Code.size_symbol`: Reading a word consumes at least one bit.
-/

namespace SamlConformance

namespace Deflate

/-- A code with words of at most fifteen bits. -/
structure Code where
  /-- How many words have one bit, two bits, and so on. -/
  counts : List Nat
  /-- The symbols in the order of their words. -/
  symbols : Array Nat
deriving Repr, DecidableEq

namespace Code

/-- The longest word. -/
def maxLength : Nat := 15

/-- The lengths a word can have. -/
def wordLengths : List Nat := (List.range maxLength).map (· + 1)

/-- The code in which symbol `i` has a word of the `i`-th length; a symbol of
length zero has no word. -/
def ofLengths (lengths : List Nat) : Code :=
  { counts := wordLengths.map lengths.count
    symbols := (wordLengths.flatMap fun l =>
      (lengths.zipIdx.filter fun p => p.1 == l).map Prod.snd).toArray }

/-- How many sequences of the greatest length begin with a word. -/
def coverage (c : Code) : Nat :=
  c.counts.foldl (fun total n => 2 * total + n) 0

/-- The sequences that begin with a word are all there are, each counted once. -/
def isComplete (c : Code) : Bool :=
  c.coverage == Nat.pow 2 maxLength

/-- The longest a word may be that is the only one of its code. -/
def loneLength : Nat := 9

/-- A code may also stay incomplete if it has no word, or a single one that is short
enough to be looked up in one step. -/
def isUsable (c : Code) : Bool :=
  c.isComplete || c.symbols.isEmpty ||
    (c.symbols.size == 1 && (c.counts.take loneLength).contains 1)

/-- The bits read begin no word. A complete code never lets that happen; the
word of a code that has no other is all zeros, so the first one bit leaves it. -/
def isAstray (symbols : Array Nat) (word : Nat) : Bool :=
  symbols.size ≤ 1 && symbols.size ≤ word

/-- Reads on in a word. So far the bits read give `word`; the words of the next
length begin at `first`, and the symbols of shorter words are `passed`. Bits
that begin no word are a fault as soon as this shows. -/
def symbolFrom (symbols : Array Nat) :
    List Nat → (word first passed : Nat) → Bits → Except Fault (Nat × Bits)
  | [], _, _, _, _ => .error .corrupt
  | count :: counts, word, first, passed, b =>
    match b.bit with
    | .error f => .error f
    | .ok (x, b') =>
      let word := 2 * word + x.toNat
      if word < first + count then .ok (symbols[passed + (word - first)]?.getD 0, b')
      else if isAstray symbols word then .error .corrupt
      else symbolFrom symbols counts word (2 * (first + count)) (passed + count) b'

/-- The symbol whose word comes next. -/
def symbol (c : Code) (b : Bits) : Except Fault (Nat × Bits) :=
  symbolFrom c.symbols c.counts 0 0 0 b

theorem size_symbolFrom {symbols : Array Nat} {counts : List Nat} {word first passed s : Nat}
    {b b' : Bits} (h : symbolFrom symbols counts word first passed b = .ok (s, b')) :
    b'.size < b.size := by
  induction counts generalizing word first passed b with
  | nil => exact absurd h (by simp [symbolFrom])
  | cons count counts ih =>
    simp only [symbolFrom] at h
    split at h
    · exact absurd h (by simp)
    · rename_i x b1 h1
      have hb := Bits.size_bit h1
      split at h
      · simp only [Except.ok.injEq, Prod.mk.injEq] at h
        obtain ⟨-, rfl⟩ := h
        omega
      · split at h
        · exact absurd h (by simp)
        · have := ih h
          omega

theorem size_symbol {c : Code} {s : Nat} {b b' : Bits} (h : c.symbol b = .ok (s, b')) :
    b'.size < b.size :=
  size_symbolFrom h

end Code

end Deflate

end SamlConformance
