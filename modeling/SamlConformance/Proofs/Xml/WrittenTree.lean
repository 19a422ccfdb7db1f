import Mathlib.Data.List.Chain
import SamlConformance.Proofs.Xml.Splitting
import SamlConformance.Proofs.Xml.WrittenTag

/-!
# Writing a Tree and Reading It

What is written of a tree is read as this tree. The writer puts every node in front of what
follows it, and the reader gets to the same place from the other side: having read a node
that was written, it goes on with what follows just as if the node had been in its content
from the start. This is said for any reader, with any elements open around the node, and
for any text behind it. The induction is on the tree.

Two things have to be known of what follows a node. Text is read up to the next markup, so
markup has to follow it; it does, because no text is written beside another one and
because the closing tag stands behind the last node. And names are resolved by what is
declared around them, so the scope of the reader has to reflect the declarations in force.

## Theorems

* `scan_tag`, `scan_single`, `scan_closing`: Written tags are pieces of their own.
* `document_text_write`: A written text is added to the innermost open element.
* `document_element_write`: A written element is attached where it stands.
* `document_writeAll`: Written nodes become the content of the innermost open element.
* `parse_toXml`: A tree that can be written is what its writing is read as.
-/

namespace SamlConformance

namespace Xml

/-- The first character of a written name tells that a tag opens an element. -/
theorem piece_word (name cs : List Char) (hnil : name ≠ [])
    (hword : ∀ c ∈ name, isWordChar c = true) :
    piece (name ++ cs) = match cutTag none (name ++ cs) with
      | some (inside, rest) => .ok (some (.ofTag inside), rest)
      | none => .error .openTag := by
  rcases name with _ | ⟨c, name⟩
  · exact absurd rfl hnil
  have hne := isWordChar_ne c
  have hc := hword c List.mem_cons_self
  exact piece_tag c (name ++ cs) (hne '!' hc (by decide)) (hne '?' hc (by decide))
    (hne '/' hc (by decide))

theorem cutTag_closed (inside rest : List Char) (h : Closed inside) :
    cutTag none (inside ++ '>' :: rest) = some (inside, rest) := by
  rw [h, cutTag, if_pos rfl, Option.map_some, List.append_nil]

section

variable {outer : List Declaration} {t : Tag} (ht : t.WellFormed outer) (rest : List Char)

include ht

/-- A written tag does not end with a slash of its own. -/
theorem getLast?_tag :
    (t.name.written.toList ++ writeSettings t.settings).getLast? ≠ some '/' := by
  intro hlast
  rcases word_element _ t.name ht.name with ⟨-, hword⟩
  rcases List.eq_nil_or_concat t.settings with hnil | ⟨settings, s, hconcat⟩
  · rw [hnil, writeSettings, List.flatMap_nil, List.append_nil] at hlast
    have hslash := hword '/' (List.mem_of_getLast? hlast)
    exact isWordChar_ne '/' '/' hslash (by decide) rfl
  · -- The last character of a setting is its second quote.
    have hquote : writeSettings t.settings =
        writeSettings settings ++ ' ' :: (s.1 ++ '=' :: '"' :: escape s.2) ++ ['"'] := by
      simp only [hconcat, writeSettings, List.concat_eq_append, List.flatMap_append,
        List.flatMap_singleton, List.cons_append, List.append_assoc]
    rw [hquote, ← List.append_assoc, List.getLast?_concat] at hlast
    exact absurd hlast (by decide)

/-- A written tag is one piece. -/
theorem scan_tag : scan ('<' :: t.write ('>' :: rest)) =
    .ok (.opening (t.name.written.toList ++ writeSettings t.settings)) :: scan rest := by
  rcases word_element _ t.name ht.name with ⟨hnil, hword⟩
  have hcut := cutTag_closed _ rest (closed_tag outer t ht)
  have hpiece : piece (t.write ('>' :: rest)) =
      .ok (some (.opening (t.name.written.toList ++ writeSettings t.settings)), rest) := by
    rw [Tag.write_eq, List.append_assoc, piece_word _ _ hnil hword, ← List.append_assoc, hcut]
    simp only [Markup.ofTag, if_neg (getLast?_tag ht)]
  exact scan_markup _ rest _ hpiece

/-- So is one that is a whole element. -/
theorem scan_single : scan ('<' :: t.write ('/' :: '>' :: rest)) =
    .ok (.single (t.name.written.toList ++ writeSettings t.settings)) :: scan rest := by
  rcases word_element _ t.name ht.name with ⟨hnil, hword⟩
  have hclosed := closed_append _ _ (closed_tag outer t ht) (closed_singleton '/' (by decide))
  have hcut := cutTag_closed _ rest hclosed
  have hpiece : piece (t.write ('/' :: '>' :: rest)) =
      .ok (some (.single (t.name.written.toList ++ writeSettings t.settings)), rest) := by
    rw [Tag.write_eq, List.append_assoc, piece_word _ _ hnil hword, ← List.append_assoc,
      ← List.singleton_append, ← List.append_assoc, hcut]
    simp only [Markup.ofTag, List.getLast?_concat, if_true, List.dropLast_concat]
  exact scan_markup _ rest _ hpiece

/-- And so is the tag that closes the element. -/
theorem scan_closing : scan ('<' :: '/' :: (t.name.written.toList ++ '>' :: rest)) =
    .ok (.closing t.name.written.toList) :: scan rest := by
  rcases word_element _ t.name ht.name with ⟨-, hword⟩
  have hcut := cutTag_closed _ rest (closed_word _ hword)
  have hpiece : piece ('/' :: (t.name.written.toList ++ '>' :: rest)) =
      .ok (some (.closing t.name.written.toList), rest) := by
    rw [piece, hcut]
  exact scan_markup _ rest _ hpiece

/-- The name in a written closing tag has no blanks behind it. -/
theorem closedName_written : Builder.closedName t.name.written.toList = t.name.written.toList := by
  rcases word_element _ t.name ht.name with ⟨hnil, hword⟩
  have hkept : t.name.written.toList.reverse.dropWhile isBlank = t.name.written.toList.reverse := by
    rcases hreverse : t.name.written.toList.reverse with _ | ⟨c, cs⟩
    · rfl
    · have hc : c ∈ t.name.written.toList := by
        rw [← List.mem_reverse, hreverse]
        exact List.mem_cons_self
      rw [List.dropWhile_cons, isBlank_of_isWordChar c (hword c hc)]
      rfl
  rw [Builder.closedName, hkept, List.reverse_reverse]
  split
  · rfl
  · rfl

end

namespace Builder

/-- A written text is added to the innermost open element, if markup follows it. -/
theorem document_text_write (root : Option Element) (f : Frame) (fs : List Frame) (s : String)
    (rest : List Char) (hs : s ≠ "") (hrest : ∀ c ∈ rest.head?, c = '<') :
    document ⟨root, f :: fs⟩ (Node.write rest (.text s)) =
      document ⟨root, { f with content := .text s :: f.content } :: fs⟩ rest := by
  have hlist : s.toList ≠ [] := fun hnil => hs (String.toList_inj.mp hnil)
  have hescape : escape s.toList ≠ [] := by
    intro hnil
    have hback := unescape_escape s.toList
    rw [hnil, unescape_nil] at hback
    exact hlist (Except.ok.inj hback).symm
  have htext : '<' ∉ escape s.toList := fun hmem => ne_of_mem_escape _ '<' hmem (by decide)
  rw [Node.write]
  refine document_of_scan _ _ _ _ rest (scan_text _ rest hescape htext hrest) ?_
  have hnonempty : s.toList.isEmpty = false := by
    rw [List.isEmpty_eq_false_iff]
    exact hlist
  simp only [step, unescape_escape, addText, hnonempty, Bool.false_eq_true, if_false,
    String.ofList_toList]

/-- The tag that closes the innermost open element attaches it. -/
theorem document_closing_write (root : Option Element) (t : Tag) (inner : Scope)
    (content : List Node) (fs : List Frame) (outer : List Declaration) (ht : t.WellFormed outer)
    (rest : List Char) (b : Builder)
    (hattach : attach ⟨root, fs⟩ ⟨t, content⟩ = .ok b) :
    document ⟨root, ⟨t, inner, content.reverse⟩ :: fs⟩
        ('<' :: '/' :: (t.name.written.toList ++ '>' :: rest)) = b.document rest := by
  refine document_of_scan _ _ _ _ rest (scan_closing ht rest) ?_
  simp only [step, close, closedName_written ht, String.ofList_toList, if_true,
    List.reverse_reverse]
  exact hattach

/-- What is written of a node begins with markup unless the node is a text. -/
theorem head?_write (n : Node) (rest : List Char) (hn : n.isText = false) :
    ∀ c ∈ (n.write rest).head?, c = '<' := by
  intro c hc
  cases n with
  | text s => exact absurd hn (by simp only [Node.isText, Bool.true_eq_false, not_false_eq_true])
  | element t cs =>
      cases cs with
      | nil => exact (Option.some.inj hc).symm
      | cons m ms => exact (Option.some.inj hc).symm

/-- Markup follows a text, be it that of the next node or that behind the last one. -/
theorem head?_writeAll (ns : List Node) (rest : List Char) (hns : ∀ n ∈ ns.head?, n.isText = false)
    (hrest : ∀ c ∈ rest.head?, c = '<') : ∀ c ∈ (Node.writeAll rest ns).head?, c = '<' := by
  cases ns with
  | nil => exact hrest
  | cons n ns => exact head?_write n _ (hns n rfl)

mutual

/-- A written element is attached where it stands, and reading goes on behind it. -/
theorem document_element_write : ∀ (n : Node) (t : Tag) (cs : List Node) (b b' : Builder)
    (outer : List Declaration) (rest : List Char), n = .element t cs → n.WellFormed outer →
    b.scope.Reflects outer → b.attach ⟨t, cs⟩ = .ok b' →
    b.document (n.write rest) = b'.document rest
  | .text s, t, cs, b, b', outer, rest, hn, _, _, _ => by
      exact absurd hn (by simp only [reduceCtorEq, not_false_eq_true])
  | .element t [], _, _, b, b', outer, rest, rfl, h, hscope, hattach => by
      rcases h with ⟨ht, -, -⟩
      rcases readTag_write ht b.scope hscope with ⟨inner, hread, -⟩
      rw [Node.write]
      refine document_of_scan b b' _ _ rest (scan_single ht rest) ?_
      simp only [step, hread, hattach]
  | .element t (c :: cs), _, _, b, b', outer, rest, rfl, h, hscope, hattach => by
      rcases h with ⟨ht, hchain, hcs⟩
      rcases readTag_write ht b.scope hscope with ⟨inner, hread, hinner⟩
      have hopened : b.document (Node.write rest (.element t (c :: cs))) =
          document ⟨b.root, ⟨t, inner, []⟩ :: b.frames⟩ (Node.writeAll
            ('<' :: '/' :: (t.name.written.toList ++ '>' :: rest)) (c :: cs)) := by
        rw [Node.write]
        refine document_of_scan b _ _ _ _ (scan_tag ht _) ?_
        simp only [step, hread]
      -- The content is read inside, and what follows it is the closing tag.
      have hcontent := document_writeAll (c :: cs) b.root ⟨t, inner, []⟩ b.frames
        (t.declarations ++ outer) ('<' :: '/' :: (t.name.written.toList ++ '>' :: rest)) hcs hchain
        hinner (fun d hd => (Option.some.inj hd).symm)
      rw [hopened, hcontent, List.append_nil]
      exact document_closing_write b.root t inner (c :: cs) b.frames outer ht rest b' hattach

/-- Written nodes become the content of the innermost open element, behind what it has. -/
theorem document_writeAll : ∀ (ns : List Node) (root : Option Element) (f : Frame)
    (fs : List Frame) (outer : List Declaration) (rest : List Char),
    Node.AllWellFormed outer ns →
    ns.IsChain (fun m n => ¬ (m.isText = true ∧ n.isText = true)) → f.scope.Reflects outer →
    (∀ c ∈ rest.head?, c = '<') →
    document ⟨root, f :: fs⟩ (Node.writeAll rest ns) =
      document ⟨root, { f with content := ns.reverse ++ f.content } :: fs⟩ rest
  | [], root, f, fs, outer, rest, _, _, _, _ => rfl
  | .text s :: ns, root, f, fs, outer, rest, h, hchain, hscope, hrest => by
      rcases h with ⟨hs, hns⟩
      have hmarkup : ∀ n ∈ ns.head?, n.isText = false := by
        intro n hn
        cases htext : n.isText with
        | false => rfl
        | true => exact absurd ⟨rfl, htext⟩ (hchain.rel_head? hn)
      rw [Node.writeAll,
        document_text_write root f fs s _ hs (head?_writeAll ns rest hmarkup hrest),
        document_writeAll ns root { f with content := .text s :: f.content } fs outer rest hns
          hchain.tail hscope hrest, List.reverse_cons, List.append_assoc, List.singleton_append]
  | .element t cs :: ns, root, f, fs, outer, rest, h, hchain, hscope, hrest => by
      rcases h with ⟨hn, hns⟩
      have hattach : attach ⟨root, f :: fs⟩ ⟨t, cs⟩ =
          .ok ⟨root, { f with content := .element t cs :: f.content } :: fs⟩ := rfl
      rw [Node.writeAll,
        document_element_write (.element t cs) t cs ⟨root, f :: fs⟩ _ outer _ rfl hn hscope hattach,
        document_writeAll ns root { f with content := .element t cs :: f.content } fs outer rest hns
          hchain.tail hscope hrest, List.reverse_cons, List.append_assoc, List.singleton_append]

end

end Builder

/-- A tree that can be written is what its writing is read as, whatever its values and
texts hold. -/
theorem parse_toXml (e : Element) (h : e.WellFormed) : parse e.toXml = .ok e := by
  have hattach : Builder.start.attach e = .ok ⟨some e, []⟩ := rfl
  have hdocument := Builder.document_element_write e.node e.tag e.children .start ⟨some e, []⟩
    builtIn [] rfl h Scope.reflects_outermost hattach
  have hend : Builder.document ⟨some e, []⟩ [] = .ok e := by
    rw [Builder.document, scan]
    rfl
  -- What is written begins with a tag, and so not with a byte order mark.
  have hmark : withoutMark (e.node.write []) = e.node.write [] := by
    rcases hwrite : e.node.write [] with _ | ⟨c, cs⟩
    · rfl
    · have hc : c = '<' := Builder.head?_write e.node [] rfl c (by rw [hwrite]; rfl)
      exact withoutMark_cons c cs (by rw [hc]; decide)
  rw [Element.toXml, parse_ofList, parseChars, hmark, ← hend, ← hdocument]
  rfl

/-- An element whose content changes all that is declared around it, with markup in its
values and texts. -/
def redeclaring : Element where
  tag :=
    { name := ⟨some "urn:a", none, "root"⟩
      declarations := [⟨none, "urn:a"⟩, ⟨some "p", "urn:b"⟩]
      attributes := [⟨⟨some "urn:b", some "p", "key"⟩, "</root a='1' b=\"2\">\n"⟩,
        ⟨⟨some xmlNamespace, some "xml", "lang"⟩, ""⟩] }
  children := [.text "]]> &amp; <!--\r\n",
    .element
      { name := ⟨some "urn:c", some "p", "inner"⟩
        declarations := [⟨some "p", "urn:c"⟩, ⟨none, ""⟩]
        attributes := [⟨⟨none, none, "key"⟩, "&"⟩] }
      [.element { name := ⟨none, none, "empty"⟩ } [], .text " ",
        .element { name := ⟨some "urn:c", some "p", "empty"⟩ } []]]

theorem parse_toXml_redeclaring :
    redeclaring.WellFormed ∧ parse redeclaring.toXml = .ok redeclaring :=
  ⟨by decide +kernel, parse_toXml redeclaring (by decide +kernel)⟩

end Xml

end SamlConformance
