/-!
# Cutting a Text at a Separator

Queries, dotted names and addresses are all read by cutting at one character.
Two cuts suffice: at the first occurrence, which keeps later occurrences in the
remainder, and (from the core library) `List.splitOn` at every occurrence.

## Main definitions

* `cutFirst`: The part before the first separator, and what follows it.
* `cutLast`: The same at the last separator.
* `cutAt`: The same at the first occurrence of a whole word.
* `after?`: What follows a character at the front.
* `occursIn`, `endsWith`: A word somewhere in a text, or at its end.
-/

namespace SamlConformance

namespace Text

/-- The part before the first `sep`, and the part after it when there is one. -/
def cutFirst (sep : Char) : List Char → List Char × Option (List Char)
  | [] => ([], none)
  | c :: cs =>
    if c = sep then ([], some cs)
    else
      let r := cutFirst sep cs
      (c :: r.1, r.2)

/-- The parts around the last `sep`, when there is one. -/
def cutLast (sep : Char) (cs : List Char) : Option (List Char × List Char) :=
  match cutFirst sep cs.reverse with
  | (_, none) => none
  | (after, some before) => some (before.reverse, after.reverse)

/-- The parts around the first occurrence of `word`, when there is one. -/
def cutAt (word : List Char) : List Char → Option (List Char × List Char)
  | [] => if word.isEmpty then some ([], []) else none
  | c :: cs =>
    if word.isPrefixOf (c :: cs) then some ([], (c :: cs).drop word.length)
    else (cutAt word cs).map fun r => (c :: r.1, r.2)

/-- What follows a given character at the front. -/
def after? (c : Char) : List Char → Option (List Char)
  | [] => none
  | d :: cs => if d = c then some cs else none

/-- The word stands somewhere in the text. -/
def occursIn (word s : String) : Bool :=
  (cutAt word.toList s.toList).isSome

/-- The text ends with the word. -/
def endsWith (word s : String) : Bool :=
  word.toList.isSuffixOf s.toList

theorem cutFirst_of_not_mem {sep : Char} {cs : List Char} (h : sep ∉ cs) :
    cutFirst sep cs = (cs, none) := by
  induction cs with
  | nil => rfl
  | cons c cs ih =>
    have hc : c ≠ sep := fun hc => h (hc ▸ List.mem_cons_self)
    have hcs : sep ∉ cs := fun hm => h (List.mem_cons_of_mem _ hm)
    simp [cutFirst, hc, ih hcs]

/-- Cutting inverts joining, whatever the second part holds. -/
theorem cutFirst_append {sep : Char} {before : List Char} (after : List Char)
    (h : sep ∉ before) : cutFirst sep (before ++ sep :: after) = (before, some after) := by
  induction before with
  | nil => simp [cutFirst]
  | cons c cs ih =>
    have hc : c ≠ sep := fun hc => h (hc ▸ List.mem_cons_self)
    have hcs : sep ∉ cs := fun hm => h (List.mem_cons_of_mem _ hm)
    simp [cutFirst, hc, ih hcs]

end Text

end SamlConformance
