import Mathlib
import SamlConformance.Proofs.Rule.Offenders
import SamlConformance.Proofs.Rule.SignOn

/-!
# Addresses of E-Mail

A name identifier that is said to be an address of e-mail is looked at with two cuts and some
tests: at the first at sign, at all full stops, and piece by piece. What such an address is can
be said without any cut, by a grammar

    atom ("." atom)* "@" label ("." label)+

and the two have to be shown to be the same over all texts. They are because of what the pieces
are made of. No piece has a full stop or an at sign in it, so a text of the grammar is cut where
it was joined. A cut text is always the pieces joined again, so a text whose pieces pass the
tests is in the grammar. The corner cases are not treated one by one: two full stops side by
side, or one at an end, give an empty piece, which is in no language of pieces; a second at sign
is in the host, where no label has room for it.

The rule goes through all elements that state the format, and stops at the first whose text is
not in the language.

## Main definitions

* `Identifier.atom`, `Identifier.label`: The languages of the pieces.
* `Identifier.address`: The language of the grammar.
* `Identifier.Misaddressed`: An element that states the format and breaks it.

## Theorems

* `Identifier.dotted_iff`, `Identifier.splitOn_iff`: The grammar of pieces, and how they are cut.
* `Identifier.isEmail_iff`: The tests accept the language.
* `Identifier.failure_checkFormat_iff`: How a search for an identifier ends.
* `Identifier.emails_judged`: What the rule finds.
-/

namespace SamlConformance

open Xml (Element)

namespace Identifier

open scoped Computability

/-- A letter or a digit of ASCII. -/
def Alphanumeric (c : Char) : Prop :=
  ('a' ≤ c ∧ c ≤ 'z') ∨ ('A' ≤ c ∧ c ≤ 'Z') ∨ ('0' ≤ c ∧ c ≤ '9')

/-- One or more letters, digits and marks of this list. -/
def atom : Language Char :=
  {cs | cs ≠ [] ∧ ∀ c ∈ cs, Alphanumeric c ∨ c ∈ "!#$%&'*+/=?^_\x60\x7b|\x7d~-".toList}

/-- One or more letters, digits and hyphens, and no hyphen at an end. -/
def label : Language Char :=
  {cs | cs ≠ [] ∧ (∀ c ∈ cs, Alphanumeric c ∨ c = '-') ∧ ¬ ['-'] <+: cs ∧ ¬ ['-'] <:+ cs}

/-- A full stop. -/
def dot : Language Char :=
  {['.']}

/-- The grammar of addresses. -/
def address : Language Char :=
  (atom * (dot * atom)∗) * {['@']} * (label * ((dot * label) * (dot * label)∗))

theorem isAlphanum_iff (c : Char) : c.isAlphanum = true ↔ Alphanumeric c := by
  simp only [Char.isAlphanum, Char.isAlpha, Char.isUpper, Char.isLower, Char.isDigit,
    Bool.or_eq_true, Bool.and_eq_true, decide_eq_true_eq, ge_iff_le, Alphanumeric, Char.le_def]
  tauto

theorem isAtom_iff (cs : List Char) : isAtom cs = true ↔ cs ∈ atom := by
  have hchar : ∀ c, isAtomChar c = true ↔
      Alphanumeric c ∨ c ∈ "!#$%&'*+/=?^_\x60\x7b|\x7d~-".toList := by
    intro c
    rw [isAtomChar, Bool.or_eq_true, isAlphanum_iff, List.contains_iff_mem]
  have hmem : cs ∈ atom ↔ cs ≠ [] ∧ ∀ c ∈ cs, Alphanumeric c ∨
      c ∈ "!#$%&'*+/=?^_\x60\x7b|\x7d~-".toList := Iff.rfl
  simp only [hmem, isAtom, Bool.and_eq_true, Bool.not_eq_true', List.isEmpty_eq_false_iff,
    List.all_eq_true, hchar]

theorem isLabel_iff (cs : List Char) : isLabel cs = true ↔ cs ∈ label := by
  have hchar : ∀ c, isLabelChar c = true ↔ Alphanumeric c ∨ c = '-' := by
    intro c
    rw [isLabelChar, Bool.or_eq_true, isAlphanum_iff, beq_iff_eq]
  have hmem : cs ∈ label ↔ cs ≠ [] ∧ (∀ c ∈ cs, Alphanumeric c ∨ c = '-') ∧
      ¬ ['-'] <+: cs ∧ ¬ ['-'] <:+ cs := Iff.rfl
  have hfront : ['-'] <+: cs ↔ cs.head? = some '-' := List.singleton_prefix_iff_head?_eq_some
  have hend : ['-'] <:+ cs ↔ cs.getLast? = some '-' := List.singleton_suffix_iff_getLast?_eq_some
  simp only [hmem, hfront, hend, isLabel, Bool.and_eq_true, Bool.not_eq_true',
    List.isEmpty_eq_false_iff, bne_iff_ne, ne_eq, List.all_eq_true, hchar]
  constructor
  · rintro ⟨⟨⟨hne, hhead⟩, hlast⟩, hall⟩
    exact ⟨hne, hall, hhead, hlast⟩
  · rintro ⟨hne, hall, hhead, hlast⟩
    exact ⟨⟨⟨hne, hhead⟩, hlast⟩, hall⟩

theorem not_mem_atom (c : Char) (hc : isAtomChar c = false) (cs : List Char) (h : cs ∈ atom) :
    c ∉ cs := by
  intro hmem
  have hall := (isAtom_iff cs).mpr h
  rw [isAtom, Bool.and_eq_true, List.all_eq_true] at hall
  exact absurd (hall.2 c hmem) (by rw [hc]; exact Bool.false_ne_true)

theorem not_mem_label (c : Char) (hc : isLabelChar c = false) (cs : List Char) (h : cs ∈ label) :
    c ∉ cs := by
  intro hmem
  have hall := (isLabel_iff cs).mpr h
  rw [isLabel, Bool.and_eq_true, List.all_eq_true] at hall
  exact absurd (hall.2 c hmem) (by rw [hc]; exact Bool.false_ne_true)

section

variable (piece : Language Char)

theorem mem_dot_mul_iff (cs : List Char) : cs ∈ dot * piece ↔ ∃ p ∈ piece, '.' :: p = cs := by
  rw [Language.mem_mul]
  constructor
  · rintro ⟨_, rfl, p, hp, rfl⟩
    exact ⟨p, hp, rfl⟩
  · rintro ⟨p, hp, rfl⟩
    exact ⟨['.'], rfl, p, hp, rfl⟩

/-- Any number of pieces, each behind a full stop. -/
theorem dotted_iff (cs : List Char) : cs ∈ (dot * piece)∗ ↔
    ∃ ps : List (List Char), (∀ p ∈ ps, p ∈ piece) ∧ cs = ps.flatMap ('.' :: ·) := by
  rw [Language.mem_kstar]
  constructor
  · rintro ⟨parts, rfl, hparts⟩
    -- By induction on the parts, each of which is a piece behind its full stop.
    induction parts with
    | nil => exact ⟨[], List.forall_mem_nil _, rfl⟩
    | cons part parts ih =>
        rw [List.forall_mem_cons, mem_dot_mul_iff] at hparts
        obtain ⟨⟨p, hp, rfl⟩, hrest⟩ := hparts
        obtain ⟨ps, hps, hflat⟩ := ih hrest
        refine ⟨p :: ps, List.forall_mem_cons.mpr ⟨hp, hps⟩, ?_⟩
        rw [List.flatten_cons, hflat, List.flatMap_cons]
  · rintro ⟨ps, hps, rfl⟩
    refine ⟨ps.map ('.' :: ·), List.flatMap_def, ?_⟩
    rw [List.forall_mem_map]
    exact fun p hp => (mem_dot_mul_iff piece _).mpr ⟨p, hps p hp, rfl⟩

theorem intercalate_cons (p : List Char) (ps : List (List Char)) :
    ['.'].intercalate (p :: ps) = p ++ ps.flatMap ('.' :: ·) := by
  induction ps generalizing p with
  | nil => rw [List.intercalate_singleton, List.flatMap_nil, List.append_nil]
  | cons q ps ih =>
      rw [List.intercalate_cons_cons, ih, List.flatMap_cons, List.append_assoc]
      rfl

variable {piece} (hplain : ∀ p ∈ piece, '.' ∉ p)
include hplain

/-- A text is cut into pieces of the language if it is those pieces, joined by full stops. -/
theorem splitOn_iff (cs p : List Char) (ps : List (List Char)) :
    (cs.splitOn '.' = p :: ps ∧ ∀ q ∈ p :: ps, q ∈ piece) ↔
      cs = p ++ ps.flatMap ('.' :: ·) ∧ ∀ q ∈ p :: ps, q ∈ piece := by
  refine and_congr_left fun hpieces => ?_
  rw [← intercalate_cons]
  constructor
  · intro hcut
    rw [← hcut, List.intercalate_splitOn]
  · rintro rfl
    exact List.splitOn_intercalate '.' (fun q hq => hplain q (hpieces q hq)) (List.cons_ne_nil p ps)

/-- All pieces of a text are in the language. -/
theorem all_splitOn_iff (cs : List Char) :
    (∀ p ∈ cs.splitOn '.', p ∈ piece) ↔ cs ∈ piece * (dot * piece)∗ := by
  rw [Language.mem_mul]
  constructor
  · intro h
    -- Cutting never leaves nothing, so there is a first piece in front of the star.
    obtain ⟨p, ps, hcut⟩ := List.exists_cons_of_ne_nil (List.splitOn_ne_nil '.' cs)
    rw [hcut] at h
    obtain ⟨hjoin, hpieces⟩ := (splitOn_iff hplain cs p ps).mp ⟨hcut, h⟩
    rw [List.forall_mem_cons] at hpieces
    exact ⟨p, hpieces.1, _, (dotted_iff piece _).mpr ⟨ps, hpieces.2, rfl⟩, hjoin.symm⟩
  · rintro ⟨p, hp, rest, hrest, rfl⟩
    obtain ⟨ps, hps, rfl⟩ := (dotted_iff piece rest).mp hrest
    have hpieces := List.forall_mem_cons.mpr ⟨hp, hps⟩
    rw [((splitOn_iff hplain _ p ps).mpr ⟨rfl, hpieces⟩).1]
    exact hpieces

/-- There are two pieces or more, and all are in the language. -/
theorem two_le_splitOn_iff (cs : List Char) :
    (2 ≤ (cs.splitOn '.').length ∧ ∀ p ∈ cs.splitOn '.', p ∈ piece) ↔
      cs ∈ piece * ((dot * piece) * (dot * piece)∗) := by
  rw [Language.mem_mul]
  constructor
  · rintro ⟨hlength, h⟩
    obtain ⟨p, rest, hcut⟩ := List.exists_cons_of_ne_nil (List.splitOn_ne_nil '.' cs)
    rw [hcut] at hlength h
    -- The second piece is the one in front of the star.
    rcases rest with _ | ⟨q, ps⟩
    · exact absurd hlength (Nat.not_succ_le_self 1)
    obtain ⟨hjoin, hpieces⟩ := (splitOn_iff hplain cs p (q :: ps)).mp ⟨hcut, h⟩
    rw [List.forall_mem_cons, List.forall_mem_cons] at hpieces
    refine ⟨p, hpieces.1, _, Language.mem_mul.mpr ⟨'.' :: q, ?_, _, ?_, rfl⟩, hjoin.symm⟩
    · exact (mem_dot_mul_iff piece _).mpr ⟨q, hpieces.2.1, rfl⟩
    · exact (dotted_iff piece _).mpr ⟨ps, hpieces.2.2, rfl⟩
  · rintro ⟨p, hp, rest, hrest, rfl⟩
    obtain ⟨_, hfirst, _, hothers, rfl⟩ := Language.mem_mul.mp hrest
    obtain ⟨q, hq, rfl⟩ := (mem_dot_mul_iff piece _).mp hfirst
    obtain ⟨ps, hps, rfl⟩ := (dotted_iff piece _).mp hothers
    have hpieces := List.forall_mem_cons.mpr ⟨hp, List.forall_mem_cons.mpr ⟨hq, hps⟩⟩
    have hcut := ((splitOn_iff hplain _ p (q :: ps)).mpr ⟨rfl, hpieces⟩).1
    rw [List.flatMap_cons] at hcut
    rw [hcut]
    exact ⟨Nat.le_add_left 2 ps.length, hpieces⟩

end

/-- A name and a host around the first at sign. -/
theorem isEmail_append (value : String) (name host : List Char)
    (h : value.toList = name ++ '@' :: host) (hname : '@' ∉ name) :
    isEmail value = true ↔
      name ∈ atom * (dot * atom)∗ ∧ host ∈ label * ((dot * label) * (dot * label)∗) := by
  have hatoms := all_splitOn_iff (not_mem_atom '.' (by decide)) name
  have hlabels := two_le_splitOn_iff (not_mem_label '.' (by decide)) host
  rw [isEmail, h, Text.cutFirst_append host hname, ← hatoms, ← hlabels]
  simp only [Bool.and_eq_true, decide_eq_true_eq, List.all_eq_true, isAtom_iff, isLabel_iff,
    and_assoc]

/-- There is no at sign among atoms. -/
theorem not_mem_atoms (cs : List Char) (h : cs ∈ atom * (dot * atom)∗) : '@' ∉ cs := by
  obtain ⟨p, hp, _, hrest, rfl⟩ := Language.mem_mul.mp h
  obtain ⟨ps, hps, rfl⟩ := (dotted_iff atom _).mp hrest
  have hplain := not_mem_atom '@' (by decide)
  rw [List.mem_append, List.mem_flatMap]
  rintro (hmem | ⟨q, hq, hmem⟩)
  · exact hplain p hp hmem
  · rcases List.mem_cons.mp hmem with heq | hmem
    · exact absurd heq (by decide)
    · exact hplain q (hps q hq) hmem

/-- The tests accept exactly the texts of the grammar. -/
theorem isEmail_iff (value : String) : isEmail value = true ↔ value.toList ∈ address := by
  constructor
  · intro h
    by_cases hat : '@' ∈ value.toList
    · -- The name ends at the first at sign. All others would be in the host.
      obtain ⟨name, host, hvalue, hname⟩ := List.eq_append_cons_of_mem hat
      obtain ⟨hatoms, hlabels⟩ := (isEmail_append value name host hvalue hname).mp h
      rw [hvalue]
      exact Language.mem_mul.mpr ⟨name ++ ['@'], Language.mem_mul.mpr ⟨name, hatoms, ['@'], rfl,
        rfl⟩, host, hlabels, List.append_assoc name ['@'] host⟩
    · rw [isEmail, Text.cutFirst_of_not_mem hat] at h
      exact absurd h Bool.false_ne_true
  · intro h
    obtain ⟨_, hfront, host, hlabels, hvalue⟩ := Language.mem_mul.mp h
    obtain ⟨name, hatoms, _, rfl, rfl⟩ := Language.mem_mul.mp hfront
    have hsplit : value.toList = name ++ '@' :: host := by
      rw [← hvalue, List.append_assoc]
      rfl
    -- No atom has an at sign in it, so the one of the grammar is the first.
    exact (isEmail_append value name host hsplit (not_mem_atoms name hatoms)).mpr ⟨hatoms, hlabels⟩

theorem findSome?_filter {α β : Type} (p : α → Bool) (f : α → Option β) (xs : List α) :
    (xs.filter p).findSome? f = xs.findSome? fun x => if p x then f x else none := by
  induction xs with
  | nil => rfl
  | cons x xs ih =>
      rw [List.findSome?_cons]
      cases hx : p x with
      | false => rw [List.filter_cons_of_neg (by rw [hx]; exact Bool.false_ne_true), ih]; rfl
      | true => rw [List.filter_cons_of_pos hx, List.findSome?_cons, ih]; rfl

/-- The search for an identifier of a format ends at the first one of it that has a fault. -/
theorem failure_checkFormat_iff (format : Saml.NameIdFormat)
    (fault? : Reply → Element → Option Violation) (r : Reply) (v : Violation) :
    (checkFormat format fault? r).failure = some v ↔ ∃ before e after,
      r.root.self = before ++ e :: after ∧
      (e.attribute? "Format" = some format.uri ∧ fault? r e = some v) ∧
      ∀ b ∈ before, b.attribute? "Format" = some format.uri → fault? r b = none := by
  have hfailure : (checkFormat format fault? r).failure = r.root.self.findSome? fun e =>
      if e.attribute? "Format" == some format.uri then fault? r e else none :=
    findSome?_filter _ _ _
  rw [hfailure, List.findSome?_eq_some_iff]
  simp only [Option.ite_none_right_eq_some, beq_iff_eq, ite_eq_right_iff]

/-- The element states that it is named by an address, and its text is none. -/
def Misaddressed (e : Element) : Prop :=
  e.attribute? "Format" = some "urn:oasis:names:tc:SAML:1.1:nameid-format:emailAddress" ∧
    e.text.toList ∉ address

theorem emailFault?_eq_none_iff (e : Element) :
    emailFault? e = none ↔ e.text.toList ∈ address := by
  rw [emailFault?, ← isEmail_iff]
  by_cases h : isEmail e.text = true
  · rw [if_pos h]
    exact iff_of_true rfl h
  · rw [if_neg h]
    exact iff_of_false (Option.some_ne_none _) h

theorem blames_emailFault? (e : Element) : Blames (emailFault? e) e := by
  unfold emailFault?
  split
  · exact blames_none
  · exact blames_shownAt _

/-- The tests for addresses accept the language of the grammar. So the rule about them reports
nothing, fails if and only if some element states the format and holds a text that is not in the
language, and shows the first such element in document order. -/
theorem emails_judged :
    (∀ value : String, isEmail value = true ↔ value.toList ∈ address) ∧
    ∃ rule, RuleGroup.core.rules.find? (fun rule => rule.name == "email_identifiers") = some rule ∧
      ∀ r : Reply, (rule.check r).findings = [] ∧
        ((rule.check r).failure.isSome = true ↔ ∃ e ∈ r.root.self, Misaddressed e) ∧
        ∀ v, (rule.check r).failure = some v → ∃ before e after,
          r.root.self = before ++ e :: after ∧ Misaddressed e ∧
          (∀ b ∈ before, ¬ Misaddressed b) ∧ emailFault? e = some v ∧ v.context = some e.toXml := by
  refine ⟨isEmail_iff, ⟨"email_identifiers", checkFormat .email fun _ => emailFault?⟩, rfl, ?_⟩
  intro r
  have hfirst := failure_checkFormat_iff .email (fun _ => emailFault?) r
  have hfault : ∀ e v, e.attribute? "Format" = some Saml.NameIdFormat.email.uri →
      emailFault? e = some v → Misaddressed e := by
    intro e v hformat hv
    refine ⟨hformat, fun hmem => ?_⟩
    rw [(emailFault?_eq_none_iff e).mpr hmem] at hv
    exact absurd hv.symm (Option.some_ne_none v)
  refine ⟨rfl, ?_, ?_⟩
  · rw [Option.isSome_iff_exists]
    constructor
    · rintro ⟨v, hv⟩
      obtain ⟨before, e, after, hself, ⟨hformat, hev⟩, -⟩ := (hfirst v).mp hv
      exact ⟨e, hself ▸ List.mem_append_right _ List.mem_cons_self, hfault e v hformat hev⟩
    · rintro ⟨e, he, hformat, hmem⟩
      by_contra hnone
      -- Without a failure, no element of the format would have a fault, this one included.
      have hnothing := Option.eq_none_iff_forall_ne_some.mpr fun v hv => hnone ⟨v, hv⟩
      have hall := List.findSome?_eq_none_iff.mp hnothing e
        (List.mem_filter.mpr ⟨he, beq_iff_eq.mpr hformat⟩)
      exact hmem ((emailFault?_eq_none_iff e).mp hall)
  · intro v hv
    obtain ⟨before, e, after, hself, ⟨hformat, hev⟩, hbefore⟩ := (hfirst v).mp hv
    refine ⟨before, e, after, hself, hfault e v hformat hev, ?_, hev, blames_emailFault? e v hev⟩
    rintro b hb ⟨hbformat, hbmem⟩
    exact hbmem ((emailFault?_eq_none_iff b).mp (hbefore b hb hbformat))

/-- Three elements that state the format: one holds an address, one a host of a single label,
and one an at sign alone. -/
def statedAddresses : String :=
  "<Subject xmlns:a=\"urn:a\"><NameID
    Format=\"urn:oasis:names:tc:SAML:1.1:nameid-format:emailAddress\">a+b@mail.example.org</NameID>
    <a:Name Format=\"urn:oasis:names:tc:SAML:1.1:nameid-format:emailAddress\">a@b</a:Name><NameID
    Format=\"urn:oasis:names:tc:SAML:1.1:nameid-format:emailAddress\">@</NameID></Subject>"

/-- The second of them. -/
def shortAddress : String :=
  "<a:Name Format=\"urn:oasis:names:tc:SAML:1.1:nameid-format:emailAddress\">" ++
    "a@b</a:Name>"

/-- It is the one that the rule shows. -/
theorem emails_judged_statedAddresses :
    ∃ root, Xml.parse statedAddresses = .ok root ∧
      ∃ v, (checkFormat .email (fun _ => emailFault?)
          (SignOn.replyOn .post statedAddresses root)).failure = some v ∧
        ∃ before e after, root.self = before ++ e :: after ∧ Misaddressed e ∧
          (∀ b ∈ before, ¬ Misaddressed b) ∧ e.toXml = shortAddress := by
  obtain ⟨root, hparse, hcontext⟩ : ∃ root, Xml.parse statedAddresses = .ok root ∧
      (checkFormat .email (fun _ => emailFault?)
        (SignOn.replyOn .post statedAddresses root)).failure.map Violation.context =
          some (some shortAddress) := by
    refine Xml.exists_parse_eq_ok _ _ ?_
    rw [statedAddresses, Xml.parse_ofList]
    decide +kernel
  obtain ⟨v, hv, hshown⟩ := Option.map_eq_some_iff.mp hcontext
  obtain ⟨-, rule, hrule, hjudged⟩ := emails_judged
  have hcheck : rule = ⟨"email_identifiers", checkFormat .email fun _ => emailFault?⟩ :=
    (Option.some.inj hrule).symm
  subst hcheck
  obtain ⟨before, e, after, hself, he, hbefore, -, hcontext⟩ :=
    (hjudged (SignOn.replyOn .post statedAddresses root)).2.2 v hv
  exact ⟨root, hparse, v, hv, before, e, after, hself, he, hbefore,
    Option.some.inj (hcontext.symm.trans hshown)⟩

end Identifier

end SamlConformance
