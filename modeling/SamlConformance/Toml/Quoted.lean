import SamlConformance.Text.Hex

/-!
# Quoted Texts

Texts stand in double quotes, where a backslash introduces escapes, or in single
quotes, where nothing does. Three quotes at each end allow line feeds inside; then
one or two quotes in a row are content, also right before the closing ones.

Lines end with line feeds alone here. To write a text, the plainest way that needs
no escapes but those of tabs is taken.

## Main definitions

* `Toml.quoted?`: Reads a text.
* `Toml.quote`: Writes a text.
-/

namespace SamlConformance

namespace Toml

/-- A character that can stand in a line of a text or a comment. -/
def isPlain (c : Char) : Bool :=
  c == '\t' || (0x20 ≤ c.toNat && c.toNat != 0x7F)

/-- Space and tab. -/
def isBlank (c : Char) : Bool :=
  c == ' ' || c == '\t'

/-- The character with a number in hexadecimal digits. -/
def coded? (digits : List Char) : Option Char :=
  match Text.hexNumber? digits with
  | none => none
  | some n => if h : n.isValidChar then some (Char.ofNatAux n h) else none

/-- The character an escape stands for, and what follows it. -/
def escape? : List Char → Option (Char × List Char)
  | 'b' :: cs => some ('\x08', cs)
  | 't' :: cs => some ('\t', cs)
  | 'n' :: cs => some ('\n', cs)
  | 'f' :: cs => some ('\x0c', cs)
  | 'r' :: cs => some ('\r', cs)
  | '"' :: cs => some ('"', cs)
  | '\\' :: cs => some ('\\', cs)
  | 'u' :: a :: b :: c :: d :: cs => (coded? [a, b, c, d]).map fun x => (x, cs)
  | 'U' :: a :: b :: c :: d :: e :: f :: g :: h :: cs =>
    (coded? [a, b, c, d, e, f, g, h]).map fun x => (x, cs)
  | _ => none

theorem length_escape? {cs rest : List Char} {x : Char} (h : escape? cs = some (x, rest)) :
    rest.length < cs.length := by
  unfold escape? at h
  split at h
  case h_8 | h_9 =>
    obtain ⟨_, _, heq⟩ := Option.map_eq_some_iff.1 h
    obtain ⟨rfl, rfl⟩ := Prod.mk.inj heq
    simp only [List.length_cons]
    omega
  case h_10 => simp at h
  all_goals
    obtain ⟨rfl, rfl⟩ := Prod.mk.inj (Option.some.inj h)
    simp

/-- The text up to a double quote, and what follows it. -/
def basicBody (cs : List Char) : Option (List Char × List Char) :=
  match cs with
  | [] => none
  | '"' :: rest => some ([], rest)
  | '\\' :: rest =>
    match _ : escape? rest with
    | none => none
    | some (x, rest) => (basicBody rest).map fun r => (x :: r.1, r.2)
  | c :: rest => if isPlain c then (basicBody rest).map fun r => (c :: r.1, r.2) else none
termination_by cs.length
decreasing_by
  · have := length_escape? ‹_›
    simp only [List.length_cons]
    omega
  · simp

/-- The text up to a single quote, and what follows it. -/
def literalBody : List Char → Option (List Char × List Char)
  | [] => none
  | '\x27' :: rest => some ([], rest)
  | c :: rest => if isPlain c then (literalBody rest).map fun r => (c :: r.1, r.2) else none

/-- What follows blanks and at least one line feed, up to the next content. -/
def pastLineEnd? (cs : List Char) : Option (List Char) :=
  match cs.dropWhile isBlank with
  | '\n' :: rest => some (rest.dropWhile fun c => isBlank c || c == '\n')
  | _ => none

theorem length_pastLineEnd? {cs rest : List Char} (h : pastLineEnd? cs = some rest) :
    rest.length < cs.length := by
  unfold pastLineEnd? at h
  split at h
  · rename_i more hc
    have h1 := (List.dropWhile_suffix (l := cs) isBlank).length_le
    have h2 := (List.dropWhile_suffix (l := more) fun c => isBlank c || c == '\n').length_le
    rw [hc, List.length_cons] at h1
    simp only [Option.some.injEq] at h
    rw [← h]
    omega
  · simp at h

/-- The text up to three double quotes, and what follows them. A backslash at the
end of a line takes out all blanks up to the next content. -/
def basicLines (cs : List Char) : Option (List Char × List Char) :=
  match cs with
  | [] => none
  | '"' :: '"' :: '"' :: '"' :: '"' :: rest => some (['"', '"'], rest)
  | '"' :: '"' :: '"' :: '"' :: rest => some (['"'], rest)
  | '"' :: '"' :: '"' :: rest => some ([], rest)
  | '\\' :: rest =>
    match _ : pastLineEnd? rest with
    | some rest => basicLines rest
    | none =>
      match _ : escape? rest with
      | none => none
      | some (x, rest) => (basicLines rest).map fun r => (x :: r.1, r.2)
  | c :: rest =>
    if isPlain c || c == '\n' then (basicLines rest).map fun r => (c :: r.1, r.2) else none
termination_by cs.length
decreasing_by
  · have := length_pastLineEnd? ‹_›
    simp only [List.length_cons]
    omega
  · have := length_escape? ‹_›
    simp only [List.length_cons]
    omega
  · simp

/-- The text up to three single quotes, and what follows them. -/
def literalLines : List Char → Option (List Char × List Char)
  | [] => none
  | '\x27' :: '\x27' :: '\x27' :: '\x27' :: '\x27' :: rest => some (['\x27', '\x27'], rest)
  | '\x27' :: '\x27' :: '\x27' :: '\x27' :: rest => some (['\x27'], rest)
  | '\x27' :: '\x27' :: '\x27' :: rest => some ([], rest)
  | c :: rest =>
    if isPlain c || c == '\n' then (literalLines rest).map fun r => (c :: r.1, r.2) else none

/-- The text without a line feed at its start. -/
def pastLineFeed : List Char → List Char
  | '\n' :: cs => cs
  | cs => cs

/-- A text in single or double quotes on one line, and what follows it. -/
def quotedLine? : List Char → Option (String × List Char)
  | '"' :: rest => (basicBody rest).map fun r => (String.ofList r.1, r.2)
  | '\x27' :: rest => (literalBody rest).map fun r => (String.ofList r.1, r.2)
  | _ => none

/-- A text in quotes, and what follows it. -/
def quoted? : List Char → Option (String × List Char)
  | '"' :: '"' :: '"' :: rest =>
    (basicLines (pastLineFeed rest)).map fun r => (String.ofList r.1, r.2)
  | '\x27' :: '\x27' :: '\x27' :: rest =>
    (literalLines (pastLineFeed rest)).map fun r => (String.ofList r.1, r.2)
  | cs => quotedLine? cs

/-! ## Writing -/

/-- A control character that single quotes cannot hold. -/
def needsCode (c : Char) : Bool :=
  !isPlain c && c != '\n'

/-- The longest run of a character, after `run` of them. -/
def longestRun (q : Char) (run : Nat) : List Char → Nat
  | [] => run
  | c :: cs => if c = q then longestRun q (run + 1) cs else max run (longestRun q 0 cs)

/-- The escape of a tab, another control character or a backslash. -/
def escaped (c : Char) : List Char :=
  match c with
  | '\x08' => ['\\', 'b']
  | '\t' => ['\\', 't']
  | '\x0c' => ['\\', 'f']
  | '\r' => ['\\', 'r']
  | '\\' => ['\\', '\\']
  | c => ['\\', 'u'] ++ Text.hexPadded 4 c.toNat

/-- The content between double quotes, of which `limit` may stand in a row. -/
def basicContent (limit run : Nat) : List Char → List Char
  | [] => []
  | c :: cs =>
    if c = '"' then
      if run < limit then c :: basicContent limit (run + 1) cs
      else '\\' :: c :: basicContent limit 0 cs
    else if needsCode c || c == '\t' || c == '\\' then escaped c ++ basicContent limit 0 cs
    else c :: basicContent limit 0 cs

/-- Three quotes at each end, and a line feed after the first three if the content
has any. -/
def onLines (q : Char) (hasLines : Bool) (content : List Char) : List Char :=
  [q, q, q] ++ (if hasLines then ['\n'] else []) ++ content ++ [q, q, q]

/-- A text in double quotes on one line. -/
def quoteBasic (cs : List Char) : List Char :=
  ['"'] ++ basicContent 0 0 cs ++ ['"']

/-- A text in quotes. Tabs are escaped between double quotes, but they are no reason
to avoid those. -/
def quote (s : String) : String :=
  let cs := s.toList
  let hasCodes := cs.any needsCode
  let hasLines := cs.contains '\n'
  let hasBackslash := cs.contains '\\'
  String.ofList <|
    if !hasCodes && !hasBackslash && !cs.contains '"' && !hasLines then quoteBasic cs
    else if !hasCodes && !cs.contains '\x27' && !hasLines then ['\x27'] ++ cs ++ ['\x27']
    else if !hasCodes && !hasBackslash && longestRun '"' 0 cs ≤ 2 then
      onLines '"' hasLines (basicContent 2 0 cs)
    else if !hasCodes && longestRun '\x27' 0 cs ≤ 2 then onLines '\x27' hasLines cs
    else if hasLines then onLines '"' hasLines (basicContent 2 0 cs)
    else quoteBasic cs

end Toml

end SamlConformance
