import SamlConformance.Proofs.Xml.Content
import SamlConformance.Proofs.Xml.Scanning
import SamlConformance.Xml.Document

/-!
# Text in Pieces

A comment can stand in the middle of a text, and any stretch of a text can be written as
a section of literal text. Either of them cuts the text around it, so that the tree has
more pieces than without; but the document says the same.

The proof follows the reader. Up to the cut nothing is changed, except that text that
could have gone on ends there. Behind the cut two readers go on, whose open elements have
the same texts and child elements although not the same pieces; and this stays so with
every further step, until both documents are complete or neither can be read.

## Main definitions

* `Resolves`: A text and what it stands for, from the front.
* `Together`: Two results that are both failures, or are related.
* `Frame.Alike`, `Builder.Alike`: Readers that differ in how text is cut.
* `Builder.document`: The document that a reader gets to with the rest of a text.
* `InContent`: A text ends where text of an element may go on.
* `WrittenAs`: What stands for a text and cuts the text around it.

## Theorems

* `unescapeFrom_append`, `unescape_append`: References are resolved from left to right.
* `Builder.step_alike`, `Builder.run_alike`: Readers that are alike stay alike.
* `Builder.document_alike`: They get to documents that are alike, or fail both.
* `Builder.document_text`: Text can be cut anywhere outside of references.
* `Builder.document_append`: What was read up to a place inside an element stays read.
* `parseChars_writtenAs`: What stands for a text says the same as the text.
-/

namespace SamlConformance

namespace Xml

/-- Both results are failures, or both are there and related. -/
inductive Together {α ε : Type} (R : α → α → Prop) : Except ε α → Except ε α → Prop where
  /-- Both are there. -/
  | ok {a b : α} (h : R a b) : Together R (.ok a) (.ok b)
  /-- Both are failures. -/
  | error (e f : ε) : Together R (.error e) (.error f)

namespace Together

variable {α ε : Type} {R : α → α → Prop}

theorem mono {S : α → α → Prop} (hRS : ∀ a b, R a b → S a b) {x y : Except ε α}
    (h : Together R x y) : Together S x y := by
  cases h with
  | ok hab => exact .ok (hRS _ _ hab)
  | error e f => exact .error e f

theorem exists_ok {a : α} {x y : Except ε α} (h : Together R x y) (hx : x = .ok a) :
    ∃ b, y = .ok b ∧ R a b := by
  cases h with
  | ok hab => exact ⟨_, rfl, Except.ok.inj hx ▸ hab⟩
  | error e f => exact absurd hx (by simp only [reduceCtorEq, not_false_eq_true])

theorem symm (hR : ∀ a b, R a b → R b a) {x y : Except ε α} (h : Together R x y) :
    Together R y x := by
  cases h with
  | ok hab => exact .ok (hR _ _ hab)
  | error e f => exact .error f e

theorem trans (hR : ∀ a b c, R a b → R b c → R a c) {x y z : Except ε α}
    (hxy : Together R x y) (hyz : Together R y z) : Together R x z := by
  cases hxy with
  | ok hab =>
      cases hyz with
      | ok hbc => exact .ok (hR _ _ _ hab hbc)
  | error e f =>
      cases hyz with
      | error _ g => exact .error e g

end Together

theorem closeReference_append (cs inside rest more : List Char)
    (h : closeReference cs = some (inside, rest)) :
    closeReference (cs ++ more) = some (inside, rest ++ more) := by
  induction cs generalizing inside with
  | nil => exact absurd h.symm (Option.some_ne_none _)
  | cons c cs ih =>
      rw [List.cons_append]
      unfold closeReference at h ⊢
      by_cases hend : c = ';'
      · rw [if_pos hend] at h ⊢
        obtain ⟨rfl, rfl⟩ := Prod.mk.inj (Option.some.inj h)
        rfl
      · rw [if_neg hend] at h ⊢
        by_cases hstart : c = '&'
        · rw [if_pos hstart] at h
          exact absurd h.symm (Option.some_ne_none _)
        · rw [if_neg hstart] at h ⊢
          obtain ⟨⟨inside', rest'⟩, hclose, heq⟩ := Option.map_eq_some_iff.mp h
          obtain ⟨rfl, rfl⟩ := Prod.mk.inj heq
          rw [ih inside' hclose, Option.map_some]

/-- What a reference stands for does not depend on its place. -/
theorem resolve_eq_ok (start start' : Nat) (inside : List Char) (c : Char)
    (h : resolve start inside = .ok c) : resolve start' inside = .ok c := by
  unfold resolve at h ⊢
  split at h
  · exact h
  · cases hname : Reference.named? inside with
    | none =>
        simp only [hname] at h
        exact absurd h (by simp only [reduceCtorEq, not_false_eq_true])
    | some c' =>
        simp only [hname] at h ⊢
        exact h

theorem exists_of_unescapeFrom_reference (total pos : Nat) (cs out : List Char)
    (h : unescapeFrom total pos ('&' :: cs) = .ok out) : ∃ inside rest x,
      closeReference cs = some (inside, rest) ∧ resolve pos inside = .ok x := by
  rw [unescapeFrom, if_pos rfl] at h
  split at h
  · exact absurd h (by simp only [reduceCtorEq, not_false_eq_true])
  · rename_i inside rest hclose
    cases hx : resolve pos inside with
    | error f =>
        simp only [hx] at h
        exact absurd h (by simp only [reduceCtorEq, not_false_eq_true])
    | ok x => exact ⟨inside, rest, x, hclose, hx⟩

/-- A text from some place on, and what it stands for: a character at a time, of which each
is written as it is or by a reference. -/
inductive Resolves : Nat → List Char → List Char → Prop where
  /-- Nothing stands for nothing. -/
  | nil (pos : Nat) : Resolves pos [] []
  /-- A reference in front. -/
  | reference {pos : Nat} {cs inside rest out : List Char} {x : Char}
      (hclose : closeReference cs = some (inside, rest)) (hx : resolve pos inside = .ok x)
      (hrest : Resolves (pos + Utf8.width inside + 2) rest out) :
      Resolves pos ('&' :: cs) (x :: out)
  /-- Any other character in front. -/
  | char {pos : Nat} {c : Char} {cs out : List Char} (hc : c ≠ '&')
      (hcs : Resolves (pos + c.utf8Size) cs out) : Resolves pos (c :: cs) (c :: out)

theorem resolves_of_unescapeFrom (total pos : Nat) (cs out : List Char)
    (h : unescapeFrom total pos cs = .ok out) : Resolves pos cs out := by
  induction pos, cs using unescapeFrom.induct generalizing out with
  | case1 pos =>
      rw [unescapeFrom] at h
      exact Except.ok.inj h ▸ .nil pos
  | case2 pos cs hnone =>
      obtain ⟨inside, rest, x, hclose, _⟩ := exists_of_unescapeFrom_reference total pos cs out h
      exact absurd (hclose.symm.trans hnone) (Option.some_ne_none _)
  | case3 pos cs inside rest hclose f hf =>
      obtain ⟨inside', rest', x, hclose', hx⟩ :=
        exists_of_unescapeFrom_reference total pos cs out h
      obtain ⟨rfl, rfl⟩ := Prod.mk.inj (Option.some.inj (hclose.symm.trans hclose'))
      exact absurd (hf.symm.trans hx) (by simp only [reduceCtorEq, not_false_eq_true])
  | case4 pos cs inside rest hclose x hx ih =>
      rw [unescapeFrom_reference total pos cs inside rest x hclose hx] at h
      obtain ⟨out', hout, rfl⟩ := exists_of_map_eq_ok h
      exact .reference hclose hx (ih out' hout)
  | case5 pos c cs hc ih =>
      rw [unescapeFrom_char total pos c cs hc] at h
      obtain ⟨out', hout, rfl⟩ := exists_of_map_eq_ok h
      exact .char hc (ih out' hout)

/-- References are resolved from left to right, wherever the text stands. -/
theorem unescapeFrom_append (total total' pos pos' : Nat) (cs out more : List Char)
    (h : unescapeFrom total pos cs = .ok out) : ∃ next,
      unescapeFrom total' pos' (cs ++ more) = (unescapeFrom total' next more).map (out ++ ·) := by
  have hmap : ∀ (x : Except Reference.Fault (List Char)) (c : Char) (cs : List Char),
      (x.map (cs ++ ·)).map (c :: ·) = x.map (c :: cs ++ ·) := by
    intro x c cs
    cases x <;> rfl
  replace h := resolves_of_unescapeFrom total pos cs out h
  induction h generalizing pos' with
  | nil pos =>
      refine ⟨pos', ?_⟩
      rw [List.nil_append]
      cases unescapeFrom total' pos' more <;> rfl
  | @reference pos cs inside rest out x hclose hx _ ih =>
      obtain ⟨next, hnext⟩ := ih (pos' + Utf8.width inside + 2)
      refine ⟨next, ?_⟩
      rw [List.cons_append, unescapeFrom_reference total' pos' _ inside (rest ++ more) x
        (closeReference_append cs inside rest more hclose) (resolve_eq_ok pos pos' inside x hx),
        hnext, hmap]
  | @char pos c cs out hc _ ih =>
      obtain ⟨next, hnext⟩ := ih (pos' + c.utf8Size)
      refine ⟨next, ?_⟩
      rw [List.cons_append, unescapeFrom_char total' pos' c _ hc, hnext, hmap]

theorem unescape_nil : unescape [] = .ok [] := by
  rw [unescape, unescapeFrom]

/-- Where a text ends outside of references, whatever follows is resolved on its own, and
fails or not whether it stands behind the text or alone. -/
theorem unescape_append (cs out more : List Char) (h : unescape cs = .ok out) :
    Together (fun whole rest => whole = out ++ rest) (unescape (cs ++ more)) (unescape more) := by
  obtain ⟨next, hnext⟩ := unescapeFrom_append (Utf8.width cs) (Utf8.width (cs ++ more)) 0 0 cs out
    more h
  rw [unescape, hnext]
  cases hrest : unescapeFrom (Utf8.width (cs ++ more)) next more with
  | ok rest =>
      -- Where a text is resolved, it is resolved in the same way anywhere else.
      obtain ⟨next', hnext'⟩ := unescapeFrom_append _ (Utf8.width more) next 0 more rest [] hrest
      rw [List.append_nil] at hnext'
      rw [unescape, hnext', unescapeFrom, Except.map, Except.map, List.append_nil]
      exact .ok rfl
  | error f =>
      cases hmore : unescape more with
      | error g => exact .error f g
      | ok rest =>
          obtain ⟨next', hnext'⟩ := unescapeFrom_append _ (Utf8.width (cs ++ more)) 0 next more rest
            [] hmore
          rw [List.append_nil, hrest, unescapeFrom] at hnext'
          exact absurd hnext' (by simp only [Except.map, reduceCtorEq, not_false_eq_true])

theorem textOf_append (ns ms : List Node) : textOf (ns ++ ms) = textOf ns ++ textOf ms := by
  rw [textOf, textOf, textOf, List.filterMap_append, String.join_append]

theorem contentsOfAll_append (ns ms : List Node) :
    Node.contentsOfAll (ns ++ ms) = Node.contentsOfAll ns ++ Node.contentsOfAll ms := by
  induction ns with
  | nil => rfl
  | cons n ns ih =>
      rw [List.cons_append, Node.contentsOfAll, Node.contentsOfAll, ih, List.append_assoc]

/-- Two open elements differ only in the pieces of their texts. -/
structure Frame.Alike (f g : Frame) : Prop where
  /-- Their tags are the same. -/
  tag : f.tag = g.tag
  /-- The namespaces inside are the same. -/
  scope : f.scope = g.scope
  /-- The texts so far are the same. -/
  text : textOf f.content.reverse = textOf g.content.reverse
  /-- The child elements so far say the same. -/
  contents : Node.contentsOfAll f.content.reverse = Node.contentsOfAll g.content.reverse

namespace Frame.Alike

variable {f g : Frame} (h : f.Alike g)

include h

/-- Closing both gives elements that are alike. -/
theorem closed : Element.Alike ⟨f.tag, f.content.reverse⟩ ⟨g.tag, g.content.reverse⟩ := by
  rw [Element.Alike, Element.content, Element.content, Element.text, Element.text, h.tag, h.text,
    h.contents]

/-- Adding pieces with the same texts and contents. -/
theorem push (ns ms : List Node) (htext : textOf ns.reverse = textOf ms.reverse)
    (hcontents : Node.contentsOfAll ns.reverse = Node.contentsOfAll ms.reverse) :
    Frame.Alike { f with content := ns ++ f.content } { g with content := ms ++ g.content } where
  tag := h.tag
  scope := h.scope
  text := by
    rw [List.reverse_append, List.reverse_append, textOf_append, textOf_append, h.text, htext]
  contents := by
    rw [List.reverse_append, List.reverse_append, contentsOfAll_append, contentsOfAll_append,
      h.contents, hcontents]

end Frame.Alike

theorem Frame.alike_refl (f : Frame) : f.Alike f :=
  ⟨rfl, rfl, rfl, rfl⟩

/-- Two readers differ only in the pieces of texts. -/
structure Builder.Alike (b c : Builder) : Prop where
  /-- The document elements say the same, if there are any. -/
  root : Option.Rel Element.Alike b.root c.root
  /-- The open elements are alike one by one. -/
  frames : List.Forall₂ Frame.Alike b.frames c.frames

namespace Builder

theorem alike_refl (b : Builder) : b.Alike b where
  root := by
    cases b.root with
    | none => exact .none
    | some e => exact .some rfl
  frames := List.forall₂_same.mpr fun f _ => f.alike_refl

section

variable {b c : Builder} (h : b.Alike c)

include h

theorem scope_eq_of_alike : b.scope = c.scope := by
  obtain ⟨root, frames⟩ := b
  obtain ⟨root', frames'⟩ := c
  cases h.frames with
  | nil => rfl
  | cons hframe _ => exact hframe.scope

theorem attach_alike {e f : Element} (he : e.Alike f) :
    Together Builder.Alike (b.attach e) (c.attach f) := by
  obtain ⟨root, frames⟩ := b
  obtain ⟨root', frames'⟩ := c
  cases h.frames with
  | nil =>
      cases h.root with
      | none => exact .ok ⟨.some he, .nil⟩
      | some _ => exact .error _ _
  | cons hframe hframes =>
      have hpush := hframe.push [e.node] [f.node] rfl (congrArg (fun c => [c]) he)
      exact .ok ⟨h.root, .cons hpush hframes⟩

theorem addText_alike (cs : List Char) : Together Builder.Alike (b.addText cs) (c.addText cs) := by
  obtain ⟨root, frames⟩ := b
  obtain ⟨root', frames'⟩ := c
  cases h.frames with
  | nil =>
      -- Outside of all elements text is not kept.
      by_cases hblank : (Text.trimmed cs).isEmpty = true
      · simp only [addText, if_pos hblank]
        exact .ok h
      · simp only [addText, if_neg hblank]
        exact .error _ _
  | cons hframe hframes =>
      by_cases hempty : cs.isEmpty = true
      · simp only [addText, if_pos hempty]
        exact .ok h
      · simp only [addText, if_neg hempty]
        exact .ok ⟨h.root, .cons (hframe.push [_] [_] rfl rfl) hframes⟩

theorem close_alike (inside : List Char) :
    Together Builder.Alike (b.close inside) (c.close inside) := by
  obtain ⟨root, frames⟩ := b
  obtain ⟨root', frames'⟩ := c
  cases h.frames with
  | nil => exact .error _ _
  | @cons f g fs gs hframe hframes =>
      have hclosed := hframe.closed
      rw [hframe.tag] at hclosed
      simp only [close, hframe.tag]
      split
      · exact attach_alike (b := ⟨root, fs⟩) (c := ⟨root', gs⟩) ⟨h.root, hframes⟩ hclosed
      · exact .error _ _

/-- Readers that are alike take a piece in the same way. -/
theorem step_alike (m : Except MarkupFault Markup) :
    Together Builder.Alike (b.step m) (c.step m) := by
  have hscope := scope_eq_of_alike h
  rcases m with f | raw | content | inside | inside | inside
  · exact .error _ _
  · simp only [step]
    cases unescape raw with
    | error f => exact .error _ _
    | ok cs => exact addText_alike h cs
  · exact addText_alike h content
  · simp only [step, hscope]
    cases readTag c.scope inside with
    | error e => exact .error _ _
    | ok r => exact .ok ⟨h.root, .cons ⟨rfl, rfl, rfl, rfl⟩ h.frames⟩
  · simp only [step, hscope]
    cases readTag c.scope inside with
    | error e => exact .error _ _
    | ok r => exact attach_alike h rfl
  · exact close_alike h inside

end

/-- Readers that are alike stay alike. -/
theorem run_alike (ms : List (Except MarkupFault Markup)) {b c : Builder} (h : b.Alike c) :
    Together Builder.Alike (b.run ms) (c.run ms) := by
  induction ms generalizing b c with
  | nil => exact .ok h
  | cons m ms ih =>
      have hstep := step_alike h m
      unfold run
      generalize b.step m = x at hstep
      generalize c.step m = y at hstep
      cases hstep with
      | ok hnext => exact ih hnext
      | error e f => exact .error e f

theorem finish_alike {b c : Builder} (h : b.Alike c) :
    Together Element.Alike b.finish c.finish := by
  obtain ⟨root, frames⟩ := b
  obtain ⟨root', frames'⟩ := c
  cases h.frames with
  | nil =>
      cases h.root with
      | none => exact .error _ _
      | some he => exact .ok he
  | cons _ _ => exact .error _ _

/-- The document that a reader gets to with the rest of a text. -/
def document (b : Builder) (cs : List Char) : Except Error Element :=
  match b.run (scan cs) with
  | .error e => .error e
  | .ok b => b.finish

theorem document_of_scan (b b' : Builder) (m : Except MarkupFault Markup) (cs rest : List Char)
    (hscan : scan cs = m :: scan rest) (hstep : b.step m = .ok b') :
    b.document cs = b'.document rest := by
  simp only [document, hscan, run, hstep]

theorem document_eq_error (b : Builder) (m : Except MarkupFault Markup) (e : Error)
    (cs : List Char) (ms : List (Except MarkupFault Markup)) (hscan : scan cs = m :: ms)
    (hstep : b.step m = .error e) : b.document cs = .error e := by
  simp only [document, hscan, run, hstep]

/-- Readers that are alike get to documents that are alike, or fail both. -/
theorem document_alike {b c : Builder} (h : b.Alike c) (cs : List Char) :
    Together Element.Alike (b.document cs) (c.document cs) := by
  have hrun := run_alike (scan cs) h
  unfold document
  generalize b.run (scan cs) = x at hrun
  generalize c.run (scan cs) = y at hrun
  cases hrun with
  | ok hend => exact finish_alike hend
  | error e f => exact .error e f

/-- The reader with more text in the innermost element that is open. -/
def withText (b : Builder) (cs : List Char) : Builder :=
  match b.frames with
  | [] => b
  | f :: fs =>
    if cs.isEmpty then b
    else { b with frames := { f with content := .text (String.ofList cs) :: f.content } :: fs }

theorem withText_nil (b : Builder) : b.withText [] = b := by
  rcases b with ⟨root, _ | ⟨f, fs⟩⟩ <;> rfl

theorem addText_of_open (b : Builder) (hb : b.frames ≠ []) (cs : List Char) :
    b.addText cs = .ok (b.withText cs) := by
  rcases b with ⟨root, _ | ⟨f, fs⟩⟩
  · exact absurd rfl hb
  · simp only [addText, withText]
    split <;> rfl

theorem frames_withText_ne_nil (b : Builder) (hb : b.frames ≠ []) (cs : List Char) :
    (b.withText cs).frames ≠ [] := by
  rcases b with ⟨root, _ | ⟨f, fs⟩⟩
  · exact absurd rfl hb
  · simp only [withText]
    split <;> exact List.cons_ne_nil _ _

/-- A text that is added in two parts is the same text. -/
theorem withText_append (b : Builder) (cs ds : List Char) :
    (b.withText (cs ++ ds)).Alike ((b.withText cs).withText ds) := by
  rcases b with ⟨root, _ | ⟨f, fs⟩⟩
  · exact alike_refl _
  rcases cs with _ | ⟨c, cs⟩
  · rw [withText_nil]
    exact alike_refl _
  rcases ds with _ | ⟨d, ds⟩
  · rw [withText_nil, List.append_nil]
    exact alike_refl _
  have hpieces : Frame.Alike
      { f with content := [.text (String.ofList (c :: cs ++ d :: ds))] ++ f.content }
      { f with content :=
        [.text (String.ofList (d :: ds)), .text (String.ofList (c :: cs))] ++ f.content } := by
    refine f.alike_refl.push _ _ ?_ rfl
    simp [textOf, String.ofList_append, String.append_assoc]
  exact ⟨(alike_refl _).root, .cons hpieces (alike_refl ⟨root, fs⟩).frames⟩

theorem step_text_of_open (b : Builder) (hb : b.frames ≠ []) (raw cs : List Char)
    (h : unescape raw = .ok cs) : b.step (.ok (.text raw)) = .ok (b.withText cs) := by
  simp only [step, h, addText_of_open b hb]

theorem step_text_eq_error (b : Builder) (raw : List Char) (f : Reference.Fault)
    (h : unescape raw = .error f) : b.step (.ok (.text raw)) = .error (.badReference f) := by
  simp only [step, h]

theorem not_mem_takeWhile (cs : List Char) : '<' ∉ cs.takeWhile (· ≠ '<') := by
  intro hmem
  have hne := List.all_eq_true.mp (List.all_takeWhile (p := (· ≠ '<')) (l := cs)) '<' hmem
  exact absurd rfl (of_decide_eq_true hne)

theorem eq_of_mem_head?_dropWhile (cs : List Char) :
    ∀ c ∈ (cs.dropWhile (· ≠ '<')).head?, c = '<' := by
  intro c hc
  have hhead := List.head?_dropWhile_not (· ≠ '<') cs
  rw [Option.mem_def.mp hc] at hhead
  simpa using hhead

/-- Text can be cut anywhere outside of references. -/
theorem document_text (b : Builder) (hb : b.frames ≠ []) (raw cs more : List Char)
    (htext : '<' ∉ raw) (h : unescape raw = .ok cs) :
    Together Element.Alike (b.document (raw ++ more)) ((b.withText cs).document more) := by
  have htext' := not_mem_takeWhile more
  have hrest := eq_of_mem_head?_dropWhile more
  rw [← List.takeWhile_append_dropWhile (p := (· ≠ '<')) (l := more)]
  generalize more.takeWhile (· ≠ '<') = raw' at htext'
  generalize more.dropWhile (· ≠ '<') = rest at hrest
  rcases raw with _ | ⟨c, raw⟩
  · rw [← Except.ok.inj (unescape_nil.symm.trans h), withText_nil]
    exact document_alike b.alike_refl _
  have hwhole := scan_text (c :: raw ++ raw') rest (List.cons_ne_nil _ _)
    (fun hmem => (List.mem_append.mp hmem).elim htext htext') hrest
  rcases raw' with _ | ⟨d, raw'⟩
  · -- The text ends where it is cut.
    rw [List.append_nil] at hwhole
    rw [List.nil_append, document_of_scan b _ _ _ rest hwhole (step_text_of_open b hb _ cs h)]
    exact document_alike (alike_refl _) rest
  rw [← List.append_assoc]
  have hbehind := scan_text (d :: raw') rest (List.cons_ne_nil _ _) htext' hrest
  have hparts := unescape_append (c :: raw) cs (d :: raw') h
  generalize hx : unescape (c :: raw ++ d :: raw') = x at hparts
  generalize hy : unescape (d :: raw') = y at hparts
  cases hparts with
  | error e f =>
      rw [document_eq_error b _ _ _ _ hwhole (step_text_eq_error b _ e hx),
        document_eq_error (b.withText cs) _ _ _ _ hbehind (step_text_eq_error _ _ f hy)]
      exact .error _ _
  | @ok whole cs' hcs =>
      rw [hcs] at hx
      rw [document_of_scan b _ _ _ rest hwhole (step_text_of_open b hb _ _ hx),
        document_of_scan (b.withText cs) _ _ _ rest hbehind
          (step_text_of_open _ (frames_withText_ne_nil b hb cs) _ cs' hy)]
      exact document_alike (withText_append b cs cs') rest

theorem exists_step_of_run (b b' : Builder) (m : Except MarkupFault Markup)
    (ms : List (Except MarkupFault Markup)) (h : b.run (m :: ms) = .ok b') :
    ∃ next, b.step m = .ok next ∧ next.run ms = .ok b' := by
  rw [run] at h
  cases hstep : b.step m with
  | error e =>
      rw [hstep] at h
      exact absurd h (by simp only [reduceCtorEq, not_false_eq_true])
  | ok next =>
      rw [hstep] at h
      exact ⟨next, rfl, h⟩

/-- Where text leaves an element open, the element was open before. -/
theorem exists_unescape_of_step (b b' : Builder) (raw : List Char) (hb' : b'.frames ≠ [])
    (h : b.step (.ok (.text raw)) = .ok b') :
    b.frames ≠ [] ∧ ∃ cs, unescape raw = .ok cs ∧ b' = b.withText cs := by
  cases hraw : unescape raw with
  | error f =>
      rw [step_text_eq_error b raw f hraw] at h
      exact absurd h (by simp only [reduceCtorEq, not_false_eq_true])
  | ok cs =>
      have hopen : b.frames ≠ [] := by
        intro hclosed
        simp only [step, hraw, addText, hclosed] at h
        split at h
        · exact hb' (Except.ok.inj h ▸ hclosed)
        · exact absurd h (by simp only [reduceCtorEq, not_false_eq_true])
      rw [step_text_of_open b hopen raw cs hraw] at h
      exact ⟨hopen, cs, rfl, (Except.ok.inj h).symm⟩

/-- What was read up to a place inside an element stays read, whatever follows. -/
theorem document_append (l more : List Char) (b b' : Builder) (h : b.run (scan l) = .ok b')
    (hb' : b'.frames ≠ []) :
    Together Element.Alike (b.document (l ++ more)) (b'.document more) := by
  -- The induction goes over the pieces of what was read, each of which is the same piece
  -- in the longer text.
  induction l using scan.induct generalizing b with
  | case1 =>
      rw [scan, run] at h
      rw [List.nil_append, Except.ok.inj h]
      exact document_alike b'.alike_refl more
  | case2 cs f hpiece =>
      rw [scan_fault cs f hpiece] at h
      exact absurd h (by simp only [run, step, reduceCtorEq, not_false_eq_true])
  | case3 cs m rest hpiece ih =>
      rw [scan_markup cs rest m hpiece] at h
      have hlonger := scan_markup _ _ m (piece_append cs rest more m hpiece)
      rw [List.cons_append]
      cases m with
      | none =>
          have hsame : b.document ('<' :: (cs ++ more)) = b.document (rest ++ more) := by
            rw [document, hlonger]
            rfl
          rw [hsame]
          exact ih b h
      | some m =>
          obtain ⟨next, hstep, hrun⟩ := exists_step_of_run b b' _ _ h
          rw [document_of_scan b next _ _ _ hlonger hstep]
          exact ih next hrun
  | case4 c cs hc ih =>
      have htext : '<' ∉ c :: cs.takeWhile (· ≠ '<') :=
        List.not_mem_cons_of_ne_of_not_mem (Ne.symm hc) (not_mem_takeWhile cs)
      have hrest := eq_of_mem_head?_dropWhile cs
      rw [← List.takeWhile_append_dropWhile (p := (· ≠ '<')) (l := cs)] at h ⊢
      generalize cs.takeWhile (· ≠ '<') = raw at h htext
      generalize cs.dropWhile (· ≠ '<') = rest at h hrest ih
      rw [← List.cons_append, scan_text _ rest (List.cons_ne_nil c raw) htext hrest] at h
      rw [← List.cons_append, List.append_assoc]
      obtain ⟨next, hstep, hrun⟩ := exists_step_of_run b b' _ _ h
      cases rest with
      | nil =>
          -- A text at the very end may go on in what follows.
          rw [scan, run] at hrun
          rw [Except.ok.inj hrun] at hstep
          obtain ⟨hb, text, hunescape, rfl⟩ := exists_unescape_of_step b b' _ hb' hstep
          exact document_text b hb _ text more htext hunescape
      | cons d rest =>
          rw [document_of_scan b next _ _ _
            (scan_text (c :: raw) (d :: rest ++ more) (List.cons_ne_nil c raw) htext hrest) hstep]
          exact ih next hrun

end Builder

/-- A text ends inside an element, at a place where text of the element may begin or go
on. -/
def InContent (l : List Char) : Prop :=
  ∃ b, Builder.start.run (scan (withoutMark l)) = .ok b ∧ b.frames ≠ []

instance (l : List Char) : Decidable (InContent l) :=
  match h : Builder.start.run (scan (withoutMark l)) with
  | .error e => .isFalse fun ⟨b, hb, _⟩ => by
      rw [h] at hb
      exact absurd hb (by simp only [reduceCtorEq, not_false_eq_true])
  | .ok b =>
    if hb : b.frames.isEmpty then
      .isFalse fun ⟨b', hb', hopen⟩ => hopen (by
        rw [← Except.ok.inj (h.symm.trans hb')]
        exact List.isEmpty_iff.mp hb)
    else .isTrue ⟨b, h, fun hnil => hb (List.isEmpty_iff.mpr hnil)⟩

/-- How a text can be written as a piece of its own. A comment is such a piece too; it
stands for no text at all. -/
inductive WrittenAs : List Char → List Char → Prop where
  /-- A comment. -/
  | comment (content : List Char) (h : ¬ "-->".toList <:+: content) :
      WrittenAs [] ("<!--".toList ++ content ++ "-->".toList)
  /-- Literal text. -/
  | literal (content : List Char) (h : ¬ "]]>".toList <:+: content) :
      WrittenAs content ("<![CDATA[".toList ++ content ++ "]]>".toList)

theorem Builder.document_writtenAs (b : Builder) (hb : b.frames ≠ []) (text written : List Char)
    (h : WrittenAs text written) (more : List Char) :
    b.document (written ++ more) = (b.withText text).document more := by
  cases h with
  | comment content hcontent =>
      rw [document, scan_comment content more hcontent, withText_nil, document]
  | literal content hcontent =>
      exact document_of_scan b _ _ _ more (scan_literal text more hcontent)
        (addText_of_open b hb text)

theorem withoutMark_cons (c : Char) (l : List Char) (hc : c ≠ '\uFEFF') :
    withoutMark (c :: l) = c :: l := by
  unfold withoutMark
  split
  · rename_i heq
    exact absurd (List.cons.inj heq).1 hc
  · rfl

theorem withoutMark_append (l more : List Char) (hl : l ≠ []) :
    withoutMark (l ++ more) = withoutMark l ++ more := by
  rcases l with _ | ⟨c, l⟩
  · exact absurd rfl hl
  by_cases hc : c = '\uFEFF'
  · rw [hc]
    rfl
  · rw [List.cons_append, withoutMark_cons c _ hc, withoutMark_cons c l hc, List.cons_append]

theorem InContent.ne_nil {l : List Char} (hl : InContent l) : l ≠ [] := by
  rintro rfl
  obtain ⟨b, hrun, hb⟩ := hl
  have hstart : Builder.start.run (scan (withoutMark [])) = .ok Builder.start := by
    rw [show withoutMark [] = [] from rfl, scan, Builder.run]
  rw [hstart] at hrun
  exact hb (Except.ok.inj hrun ▸ rfl)

/-- What stands for a text says the same as the text: both documents can be read and say the
same, or neither can be read. -/
theorem parseChars_writtenAs (l raw text written rest : List Char) (hl : InContent l)
    (hraw : '<' ∉ raw) (htext : unescape raw = .ok text) (hwritten : WrittenAs text written) :
    Together Element.Alike (parseChars (l ++ raw ++ rest)) (parseChars (l ++ written ++ rest)) := by
  have htrans : ∀ a b c : Element, a.Alike b → b.Alike c → a.Alike c := fun _ _ _ => Eq.trans
  have hfrom : ∀ more, parseChars (l ++ more) = Builder.start.document (withoutMark l ++ more) := by
    intro more
    rw [parseChars, withoutMark_append l more hl.ne_nil]
    rfl
  obtain ⟨b, hrun, hb⟩ := hl
  have hwhole := Builder.document_append (withoutMark l) (raw ++ rest) Builder.start b hrun hb
  have hparts := Builder.document_append (withoutMark l) (written ++ rest) Builder.start b hrun hb
  rw [Builder.document_writtenAs b hb text written hwritten rest] at hparts
  rw [List.append_assoc, List.append_assoc, hfrom, hfrom]
  -- Between them stands the reader that has the text up to the cut and goes on behind it.
  exact (hwhole.trans htrans (Builder.document_text b hb raw text rest hraw htext)).trans htrans
    (hparts.symm fun _ _ => Eq.symm)

end Xml

end SamlConformance
