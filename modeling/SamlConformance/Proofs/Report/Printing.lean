import SamlConformance.Proofs.Report.Views
import SamlConformance.Report.Render

/-!
# What a Report Prints

The printed report goes through the documents on its own and looks every section up again.
It is put together from the lines of the report nevertheless: there is an item for each
line, in the order of the lines, and around them nothing but the headings of documents and
blank lines. The items are the same whether violations are printed or not, so that the two
printed forms differ in what stands below a status line and nowhere else.

Two things need care. A document of which nothing but the document itself is known has no
heading, and its only line is printed under the title of the document. The line says the
same, since this happens to no document but those two whose clauses are counted against the
whole document. And violations are printed below failed sections only, which leaves none
out: a section that holds a violation has failed.

## Main definitions

* `Report.Line.label`: The words that stand for a section.
* `Report.Item`: A piece of the printed report.
* `Report.items`: The pieces, in order.

## Theorems

* `Report.renderDocument_eq`, `Report.render_eq`: A report is printed item by item.
* `Report.outcomes_items`: The items have the lines of the report.
* `Report.lineFeed_not_mem_label`: A status line is a single line.
* `Workspace.views_agree`: All that a report shows is the same, after any history.
-/

namespace SamlConformance

namespace Report

/-- The words that stand for a section: its heading, or else its name. -/
def Line.label (l : Line) : String :=
  l.title.getD l.place.name

/-- The violation that the section holds, line by line behind `tabs`. -/
def Line.details (l : Line) (tabs : String) : String :=
  match l.violation with
  | none => ""
  | some v => String.join ((Text.lines v.text).map fun text => tabs ++ "\t" ++ text ++ "\n")

/-- A piece of the printed report. -/
inductive Item where
  /-- A blank line. -/
  | gap
  /-- The heading of a document. -/
  | heading (d : Document)
  /-- The outcome of a section behind `tabs`, and what is below it. -/
  | outcome (tabs : String) (l : Line)

/-- A piece in print; `quiet` leaves out what is below an outcome. -/
def Item.text (quiet : Bool) : Item → String
  | gap => "\n"
  | heading d => d.title ++ "\n"
  | outcome tabs l =>
    tabs ++ l.label ++ ": " ++ l.status.label ++ "\n" ++ if quiet then "" else l.details tabs

/-- The line of a piece that has one. -/
def Item.line? : Item → Option Line
  | gap => none
  | heading _ => none
  | outcome _ l => some l

/-- The pieces of a document with the given lines. -/
def itemsOf (d : Document) (ls : List Line) : List Item :=
  if ls.isEmpty then []
  else if ls.all fun l => l.place.level == 0 then .gap :: ls.map (.outcome "")
  else .gap :: .heading d :: ls.map (.outcome "\t")

/-- The pieces of the report. -/
def items (r : Report) : List Item :=
  Document.all.flatMap fun d => itemsOf d (r.lines.filter fun l => l.place.document == d)

/-- What a report says of a section. -/
def lineAt (r : Report) (s : Section) : Line :=
  ⟨s, s.title?, r.status s, r.violationFor? s⟩

theorem filter_lines (r : Report) (d : Document) :
    (r.lines.filter fun l => l.place.document == d) =
      (r.knownSections.filter fun s => s.document == d).map r.lineAt := by
  rw [lines, List.filter_map]
  rfl

/-- The lines of all documents, one document behind the other, are those of the report. -/
theorem flatMap_lines (r : Report) :
    (Document.all.flatMap fun d => r.lines.filter fun l => l.place.document == d) = r.lines := by
  have hsorted := flatMap_documents r.knownSections (r.places_eq ▸ r.places_before)
  simp only [filter_lines]
  rw [← List.map_flatMap, hsorted]
  rfl

theorem outcomes_itemsOf (d : Document) (ls : List Line) :
    (itemsOf d ls).filterMap Item.line? = ls := by
  have houtcomes : ∀ tabs, (ls.map (Item.outcome tabs)).filterMap Item.line? = ls := by
    intro tabs
    rw [List.filterMap_map]
    exact List.filterMap_some
  unfold itemsOf
  split
  · rename_i hempty
    rw [List.isEmpty_iff.mp hempty, List.filterMap_nil]
  · split
    · exact houtcomes ""
    · exact houtcomes "\t"

/-- The items have the lines of the report, each once and in order. -/
theorem outcomes_items (r : Report) : r.items.filterMap Item.line? = r.lines := by
  rw [items, List.filterMap_flatMap]
  simp only [outcomes_itemsOf]
  exact r.flatMap_lines

/-- A section that holds a violation has failed. -/
theorem failed_of_violationFor? (r : Report) (s : Section) (v : Violation)
    (h : r.violationFor? s = some v) : r.status s = .failed := by
  refine (r.failed_iff_violation s).mpr ⟨s, ?_, by rw [h]; rfl⟩
  exact (Section.isWithin_iff s s).mpr ⟨rfl, List.prefix_refl _⟩

/-- A section is printed with its outcome, and with all violations unless the reader asked
for none. -/
theorem renderSection_eq (r : Report) (quiet : Bool) (tabs : String) (s : Section) :
    r.renderSection quiet tabs s (r.lineAt s).label =
      (Item.outcome tabs (r.lineAt s)).text quiet := by
  unfold renderSection Item.text Line.details
  cases quiet with
  | true => exact (String.append_empty).symm
  | false =>
      cases hv : r.violationFor? s with
      | none =>
          simp only [lineAt, hv, Bool.false_or, ite_self, Bool.false_eq_true,
            String.append_empty]
      | some v =>
          have hfailed := r.failed_of_violationFor? s v hv
          simp only [lineAt, hv, hfailed, bne_self_eq_false, Bool.or_self, Bool.false_eq_true,
            if_false]

/-- Sections of a document that are all on the outermost level are the document itself. -/
theorem eq_whole (r : Report) (d : Document)
    (hall : ∀ s ∈ r.knownSections.filter fun s => s.document == d, s.level = 0)
    (hne : (r.knownSections.filter fun s => s.document == d) ≠ []) :
    (r.knownSections.filter fun s => s.document == d) = [Section.whole d] := by
  have hwhole : ∀ s ∈ r.knownSections.filter fun s => s.document == d, s = .whole d := by
    rintro ⟨document, path⟩ hs
    have hdocument : document = d := beq_iff_eq.mp (List.mem_filter.mp hs).2
    have hpath : path = [] := List.eq_nil_of_length_eq_zero (hall _ hs)
    rw [hdocument, hpath]
    rfl
  have hsorted : (r.knownSections.filter fun s => s.document == d).Pairwise Section.Before :=
    (r.places_eq ▸ r.places_before).filter _
  generalize (r.knownSections.filter fun s => s.document == d) = ss at hwhole hsorted hne
  rcases ss with _ | ⟨s, _ | ⟨t, ss⟩⟩
  · exact absurd rfl hne
  · rw [hwhole s List.mem_cons_self]
  · -- A second section would be the same as the first.
    have hst := (List.pairwise_cons.mp hsorted).1 t List.mem_cons_self
    exact absurd ((hwhole s List.mem_cons_self).trans
      (hwhole t (List.mem_cons_of_mem s List.mem_cons_self)).symm) hst.2

/-- The title of a document stands for the document wherever nothing else of it is known. -/
theorem label_whole (d : Document)
    (h : ∀ c ∈ Clause.all, c.toSection.document = d → c.toSection.level = 0) :
    (Section.whole d).title?.getD (Section.whole d).name = d.title := by
  cases d with
  | general => decide
  | schema => decide
  | core => exact absurd (h .core_1_3_1_a (Clause.mem_all _) rfl) (by decide)
  | bindings => exact absurd (h .bindings_3_1_2_1_a (Clause.mem_all _) rfl) (by decide)
  | profiles => exact absurd (h .profiles_4_1_2_a (Clause.mem_all _) rfl) (by decide)

theorem itemsOf_map (r : Report) (d : Document) (ss : List Section) (hne : ss ≠ []) :
    itemsOf d (ss.map r.lineAt) = if ss.all fun s => s.level == 0 then
        .gap :: (ss.map r.lineAt).map (.outcome "")
      else .gap :: .heading d :: (ss.map r.lineAt).map (.outcome "\t") := by
  have hnonempty : ¬ (ss.map r.lineAt).isEmpty = true := by
    rw [List.isEmpty_map, List.isEmpty_iff]
    exact hne
  rw [itemsOf, if_neg hnonempty, List.all_map]
  rfl

/-- A document is printed item by item. -/
theorem renderDocument_eq (r : Report) (quiet : Bool) (d : Document) :
    r.renderDocument quiet d =
      String.join ((itemsOf d (r.lines.filter fun l => l.place.document == d)).map
        (Item.text quiet)) := by
  have houtcomes : ∀ (ss : List Section) (tabs : String),
      String.join (ss.map fun s => r.renderSection quiet tabs s (s.title?.getD s.name)) =
        String.join (((ss.map r.lineAt).map (Item.outcome tabs)).map (Item.text quiet)) := by
    intro ss tabs
    rw [List.map_map, List.map_map]
    exact congrArg String.join (List.map_congr_left fun s _ => r.renderSection_eq quiet tabs s)
  rw [filter_lines]
  unfold renderDocument
  split
  · rename_i hnil
    rw [hnil]
    rfl
  rename_i hne
  rw [itemsOf_map r d _ hne]
  by_cases hroot : ((r.knownSections.filter fun s => s.document == d).all
      fun s => s.level == 0) = true
  · have hlevel : ∀ s ∈ r.knownSections.filter fun s => s.document == d, s.level = 0 :=
      fun s hs => beq_iff_eq.mp (List.all_eq_true.mp hroot s hs)
    have htitle : (Section.whole d).title?.getD (Section.whole d).name = d.title := by
      refine label_whole d fun c _ hc => hlevel _ (List.mem_filter.mpr ⟨?_, beq_iff_eq.mpr hc⟩)
      rw [← r.places_eq, mem_places_iff]
      exact Or.inl ⟨c, rfl⟩
    rw [if_pos hroot, if_pos hroot, r.eq_whole d hlevel hne, ← htitle]
    have hone := houtcomes [Section.whole d] ""
    rw [List.map_singleton, String.join_cons, String.join_nil, String.append_empty] at hone
    rw [List.map_cons, String.join_cons, ← hone]
    rfl
  · have hheading : "\n" ++ d.title ++ "\n" =
        Item.text quiet .gap ++ Item.text quiet (.heading d) := String.append_assoc
    rw [if_neg hroot, if_neg hroot, List.map_cons, List.map_cons, String.join_cons,
      String.join_cons, ← houtcomes, ← String.append_assoc, hheading]

theorem tally_eq (r : Report) :
    r.tally = ⟨(r.lines.map Line.status).count .failed, (r.lines.map Line.status).count .skipped,
      r.lines.length⟩ := by
  have hstatuses : r.lines.map Line.status = r.knownSections.map r.status := by
    rw [lines, List.map_map]
    rfl
  rw [hstatuses, tally, lines, List.length_map, List.length_map]

/-- A report is printed item by item, and its numbers are those of its lines. -/
theorem render_eq (r : Report) (quiet : Bool) :
    r.render quiet = heading ++ String.join (r.items.map (Item.text quiet)) ++
      Tally.text ⟨(r.lines.map Line.status).count .failed,
        (r.lines.map Line.status).count .skipped, r.lines.length⟩ := by
  have hjoin : ∀ ds : List Document, String.join (ds.map (r.renderDocument quiet)) =
      String.join ((ds.flatMap fun d =>
        itemsOf d (r.lines.filter fun l => l.place.document == d)).map (Item.text quiet)) := by
    intro ds
    induction ds with
    | nil => rfl
    | cons d ds ih =>
        rw [List.map_cons, String.join_cons, ih, renderDocument_eq, List.flatMap_cons,
          List.map_append, String.join_append]
  rw [render, hjoin, tally_eq]
  rfl

end Report

/-- Apart from digits and dots, a dotted name has no characters but those of the document's
name. -/
theorem Section.not_mem_name (c : Char) (hdigit : c.isDigit = false) (hdot : c ∉ ".".toList)
    (s : Section) (hdocument : c ∉ s.document.name.toList) : c ∉ s.name.toList := by
  have hdigits : ∀ n : Nat, c ∉ (toString n).toList := by
    intro n hmem
    rw [Nat.toString_eq_ofList_toDigits, String.toList_ofList] at hmem
    have hmem' := Nat.isDigit_of_mem_toDigits (by decide) (by decide) hmem
    rw [hdigit] at hmem'
    exact Bool.false_ne_true hmem'
  have hpath : ∀ (path : List UInt16) (front : String), c ∉ front.toList →
      c ∉ (path.foldl (fun acc n => acc ++ "." ++ toString n.toNat) front).toList := by
    intro path
    induction path with
    | nil => exact fun front hfront => hfront
    | cons n path ih =>
        intro front hfront
        refine ih _ ?_
        rw [String.toList_append, String.toList_append, List.mem_append, List.mem_append]
        rintro ((hmem | hmem) | hmem)
        · exact hfront hmem
        · exact hdot hmem
        · exact hdigits _ hmem
  exact hpath s.path s.document.name hdocument

namespace Report

theorem lineFeed_not_mem_name (s : Section) : '\n' ∉ s.name.toList := by
  have hdocument : ∀ d : Document, '\n' ∉ d.name.toList := by
    intro d
    cases d <;> decide
  exact s.not_mem_name '\n' (by decide) (by decide) (hdocument s.document)

/-- A status line is a single line. -/
theorem lineFeed_not_mem_label (r : Report) (l : Line) (hl : l ∈ r.lines) :
    '\n' ∉ l.label.toList := by
  have htitles : ∀ e ∈ Section.titles, '\n' ∉ e.2.toList := by decide
  rw [r.line_shows l hl, Line.label]
  cases htitle : l.place.title? with
  | none => exact lineFeed_not_mem_name l.place
  | some title =>
      rcases List.lookup_eq_some_iff.mp htitle with ⟨front, back, hsplit, -⟩
      refine htitles (l.place, title) ?_
      rw [hsplit]
      exact List.mem_append_right _ List.mem_cons_self

end Report

end SamlConformance
