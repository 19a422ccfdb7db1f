import SamlConformance.Proofs.Judge.Status
import SamlConformance.Proofs.Message.Breaches
import SamlConformance.Proofs.Rule.Breaches.Protocol

/-!
# Violations Keep to Their Chapters

A violation fails the sections of the clauses it breaches, and a section counts as checked
if a group of rules declares it. Nothing in a group ties the one to the other. They agree
all the same: what the rules of a group breach lies within the sections that it declares,
or in the section about the types of values, and that one is declared by the group that
runs first on every message. So no section ever fails by a rule without counting as
checked.

A provider that uses both bindings is judged by both chapters, each by the responses that
arrived there. What comes of one response stays out of the sections about the other
binding, and what comes of a form stays also out of the sections about signatures of
queries, which a form does not have. This holds of all there is in a judgment: of the
failure to decode, of what was noted in decoding, and of what the rules found.

## Main definitions

* `Saml.Binding.foreignSections`: The sections that responses on a binding stay out of.

## Theorems

* `toSection_of_run`: Where the violations of a group count.
* `Judge.status_of_foreign`: A judgment does not speak about foreign sections.
* `Session.breached_verify_iff_run`: A clause that is in the hands of one group.
* `chapters_kept`: Groups keep to their sections, and runs to their binding.
-/

namespace SamlConformance

/-- The sections that responses on a binding stay out of: those about the other binding,
and for forms those about the signatures of queries. -/
def Saml.Binding.foreignSections : Saml.Binding → List Section
  | .redirect => [⟨.bindings, [3, 5]⟩]
  | .post => [.whole .general, ⟨.bindings, [3, 1]⟩, ⟨.bindings, [3, 4]⟩]

namespace RuleGroup

/-- The violations of a group count within its sections or against that about types. -/
theorem toSection_of_run (b : Saml.Binding) {g : RuleGroup} (hg : g ∈ groups b) (r : Reply)
    {v : Violation} (hv : v ∈ g.run r) {c : Clause} (hc : c ∈ v.clauses) :
    c.toSection ∈ g.sections ∨ c.toSection = .commonTypes :=
  (g.mem_covered_iff c).mp (groups_onlyBreach b hg r v hv hc)

theorem commonTypes_mem_core : Section.commonTypes ∈ core.sections := by
  decide

/-- The section about types is declared by the core group on every message, so that all
violations of rules count against declared sections. -/
theorem toSection_mem_sections (b : Saml.Binding) {g : RuleGroup} (hg : g ∈ groups b) (r : Reply)
    {v : Violation} (hv : v ∈ g.run r) {c : Clause} (hc : c ∈ v.clauses) :
    c.toSection ∈ (groups b).flatMap sections := by
  rcases toSection_of_run b hg r hv hc with hdeclared | htypes
  · exact List.mem_flatMap.mpr ⟨g, hg, hdeclared⟩
  · rw [htypes]
    exact List.mem_flatMap.mpr ⟨core, List.mem_cons_self, commonTypes_mem_core⟩

/-- No declared section lies within a foreign one. -/
theorem declared_not_foreign (b : Saml.Binding) : ∀ s ∈ (groups b).flatMap sections,
    ∀ t ∈ b.foreignSections, ¬ s.isWithin t = true := by
  cases b <;> decide

end RuleGroup

/-- No clause that decoding breaches counts within a foreign section. -/
theorem Saml.Binding.decoding_not_foreign (b : Saml.Binding) :
    ∀ c ∈ b.breachedByPayload ++ b.breachedBySignature ++ b.breachedByFailure,
      ∀ t ∈ b.foreignSections, ¬ c.toSection.isWithin t = true := by
  cases b <;> decide

/-- A judgment neither finds nor checks anything within the sections that are foreign to
the binding. -/
theorem Judge.status_of_foreign (j : Judge) (received : Received) (request : Request)
    (judgment : Judgment) (h : j.judge received request = .ok judgment) :
    ∀ t ∈ received.binding.foreignSections, judgment.status t = .skipped := by
  intro t ht
  rw [Judgment.status_eq_skipped_iff]
  unfold Judge.judge at h
  split at h
  · -- A response that is passed over gives an empty judgment.
    rw [← Except.ok.inj h]
    exact ⟨fun v hv => absurd hv List.not_mem_nil, fun s hs => absurd hs List.not_mem_nil⟩
  split at h
  · rename_i m hm
    have hbinding : m.received.binding = received.binding := by
      rw [Message.received_of_decode _ received m hm]
    rw [← Except.ok.inj h, Judgment.ofReply, hbinding]
    refine ⟨?_, fun s hs => RuleGroup.declared_not_foreign _ s hs t ht⟩
    intro v hv c hc
    -- What was noted in decoding stands in front of what the rules found.
    rcases List.mem_append.mp hv with hv | hv
    · have hfindings := Message.onlyBreach_findings _ received m hm
      exact received.binding.decoding_not_foreign c
        (List.mem_append_left _ (hfindings v hv hc)) t ht
    · rcases List.mem_flatMap.mp hv with ⟨g, hg, hrun⟩
      exact RuleGroup.declared_not_foreign _ _
        (RuleGroup.toSection_mem_sections _ hg _ hrun hc) t ht
  · rename_i e he
    split at h
    · exact absurd h (by simp only [reduceCtorEq, not_false_eq_true])
    · have hbinding := Message.decode_error_binding _ received e he
      rw [← Except.ok.inj h, Judgment.ofDecodeError, hbinding]
      refine ⟨?_, ?_⟩
      · intro v hv c hc
        have herror := Message.onlyBreach_decode_error _ received e he
        exact received.binding.decoding_not_foreign c
          (List.mem_append_right _ (herror v hv hc)) t ht
      · -- Only the group about the binding is declared, which is one of all groups.
        intro s hs
        refine RuleGroup.declared_not_foreign _ s (List.mem_flatMap.mpr ⟨_, ?_, hs⟩) t ht
        simp only [RuleGroup.groups, List.mem_cons, true_or, or_true]

/-- A clause that is in the hands of one group alone, and is not noted in decoding, is breached
by the verdict on a message if and only if it is by what this group finds. -/
theorem Session.breached_verify_iff_run (s : Session) (j : Judge) (w : Worker)
    (check : Option SignatureCheck) (received : Received) (m : Message) (request : Request)
    (hm : Message.decode check received = .ok m) {g : RuleGroup} (before after : List RuleGroup)
    (hgroups : RuleGroup.groups received.binding = before ++ g :: after) (c : Clause)
    (hnoted : c ∉ received.binding.breachedByPayload ++ received.binding.breachedBySignature)
    (hothers : ∀ g' ∈ before ++ after, c ∉ g'.covered) :
    Breached (s.verify j w m request).1 c ↔ Breached (g.run ⟨m, request, j.metadata⟩) c := by
  have hfindings : ¬ Breached m.findings c :=
    (Message.onlyBreach_findings check received m hm).not_breached hnoted
  have hrun : ∀ g' ∈ before ++ after, ¬ Breached (g'.run ⟨m, request, j.metadata⟩) c := by
    intro g' hg'
    have hmem : g' ∈ RuleGroup.groups received.binding := by
      rw [hgroups]
      exact List.mem_append.mpr ((List.mem_append.mp hg').imp_right (List.mem_cons_of_mem g))
    exact (RuleGroup.groups_onlyBreach _ hmem _).not_breached (hothers g' hg')
  have hnone : ∀ gs ⊆ before ++ after,
      ¬ Breached (gs.flatMap fun g' => g'.run ⟨m, request, j.metadata⟩) c := by
    rintro gs hgs ⟨v, hv, hc⟩
    obtain ⟨g', hg', hv⟩ := List.mem_flatMap.mp hv
    exact hrun g' (hgs hg') ⟨v, hv, hc⟩
  rw [verify_eq]
  simp only [Judgment.ofReply, Message.received_of_decode check received m hm, hgroups,
    List.flatMap_append, List.flatMap_cons, breached_append_iff, hfindings,
    hnone before (List.subset_append_left _ _), hnone after (List.subset_append_right _ _),
    false_or, or_false]

/-- Groups of rules keep to the sections they declare, and runs to the binding of the
response. The violations of a group count against its own sections or the section about
types, which the core group declares, and that group is the first of all; so once a
message is verified, every section that a violation of a rule counts against is marked.
And whatever came of a response, nothing in the answer counts within a section that is
foreign to its binding, and such a section holds what it held and has the outcome it
had. -/
theorem Session.chapters_kept (s : Session) (j : Judge) (w : Worker) (request : Request) :
    (∀ b, ∀ g ∈ RuleGroup.groups b, ∀ r : Reply, ∀ v ∈ g.run r, ∀ c ∈ v.clauses,
      c.toSection ∈ g.sections ∨ c.toSection = .commonTypes) ∧
    (∀ b, (RuleGroup.groups b).head? = some RuleGroup.core) ∧
    Section.commonTypes ∈ RuleGroup.core.sections ∧
    (∀ m : Message, ∀ g ∈ RuleGroup.groups m.received.binding,
      ∀ v ∈ g.run ⟨m, request, j.metadata⟩, ∀ t ∈ v.sections,
        t ∈ (s.verify j w m request).2.report.exercised) ∧
    ∀ received : Received,
      let run := s.run j w received request
      (∀ vs, run.1 = .ok vs → ∀ v ∈ vs, ∀ c ∈ v.clauses,
        ∀ t ∈ received.binding.foreignSections, ¬ c.toSection.isWithin t = true) ∧
      ∀ t ∈ received.binding.foreignSections,
        run.2.report.recordingFor? t = s.report.recordingFor? t ∧
          run.2.report.status t = s.report.status t := by
  refine ⟨fun b g hg r v hv c hc => RuleGroup.toSection_of_run b hg r hv hc, fun _ => rfl,
    RuleGroup.commonTypes_mem_core, ?_, ?_⟩
  · intro m g hg v hv t ht
    rcases (v.mem_sections t).mp ht with ⟨c, hc, rfl⟩
    rw [Session.verify_eq]
    exact ((s.report.gained_add w _).exercised _).mpr
      (Or.inr (RuleGroup.toSection_mem_sections _ hg _ hv hc))
  · intro received run
    have hrun : run = _ := Session.run_eq s j w received request
    cases hj : j.judge received request with
    | error e =>
        rw [hrun, hj]
        exact ⟨fun vs h => absurd h (by simp only [reduceCtorEq, not_false_eq_true]),
          fun t _ => ⟨rfl, rfl⟩⟩
    | ok judgment =>
        have hskipped := j.status_of_foreign received request judgment hj
        rw [hrun, hj]
        refine ⟨?_, ?_⟩
        · intro vs hvs v hv c hc t ht
          rw [← Except.ok.inj hvs] at hv
          exact ((judgment.status_eq_skipped_iff t).mp (hskipped t ht)).1 v hv c hc
        · intro t ht
          exact ⟨s.report.recordingFor?_add_of_skipped w judgment t (hskipped t ht),
            s.report.status_add_of_skipped w judgment t (hskipped t ht)⟩

end SamlConformance
