import Mathlib
import Precedence.Log.Trace
import Precedence.Proofs.Log.Filter
/-!
# A filter from the environment is read in lower case

The whole text from the environment is put in lower case before it is read. That does nothing to
levels, which are read in any case, but to the areas, spans and fields. So a filter takes effect as
it was written exactly if there are no capital letters in these
(`FilterLanguage.filter_is_read_in_lower_case`).
-/

namespace Precedence

/-- A directive without capital letters outside of levels. -/
theorem WrittenDirective.lower_eq_lowerLevel {d : WrittenDirective} (formed : d.WellFormed)
    (small : ∀ subject ∈ d.subject?, subject.lower = subject) : d.lower = d.lowerLevel := by
  unfold lowerLevel
  split
  · rfl
  · rename_i told
    have same := small d.subject.told (if_neg told)
    obtain ⟨⟨area, _ | ⟨span, _ | ⟨name, value⟩⟩⟩, level⟩ := d
    · simp_all [Subject.told, Subject.lower, lower]
    · simp_all [Subject.told, Subject.lower, Brackets.told, Brackets.lower, lower]
    · simp only [Subject.told, Subject.lower, Brackets.told, Brackets.lower, Option.map_some,
        Subject.mk.injEq, Option.some.injEq, Brackets.mk.injEq, Prod.mk.injEq] at same
      obtain ⟨sameArea, sameSpan, sameName, sameValue⟩ := same
      have valued : value.map Text.lower = value := by
        cases value with
        | none => rfl
        | some value =>
          obtain ⟨-, wordy | small⟩ :=
            (formed.subject.brackets _ rfl).value (name, some value) rfl value rfl
          · rwa [Option.filter_some, if_pos wordy] at sameValue
          · rw [Option.map_some, small]
      simp [lower, Subject.lower, Brackets.lower, sameArea, sameSpan, sameName, valued]

namespace FilterLanguage

variable {F : Type} {language : FilterLanguage F} {environment : String} {filter : F}
  {ds : List WrittenDirective}

theorem resolve_eq (filled : Text.trim environment ≠ "")
    (other : (Text.trim environment).toLower ≠ "warning") :
    language.resolve none (some environment) =
      match language.read? (Text.lower (Text.trim environment)) with
      | some effective => (effective, none)
      | none => (language.standard, some (Text.trim environment)) := by
  have taken : directives (Text.trim environment) = Text.lower (Text.trim environment) :=
    if_neg other
  rw [← taken]
  unfold resolve
  rw [Option.map_some]
  split
  · rename_i same
    exact absurd same (by simp)
  · rename_i same
    exact absurd same (by simp)
  · rename_i same
    exact absurd (Option.some.inj same) filled
  · rename_i same
    obtain rfl := Option.some.inj same
    rfl

theorem resolve_eq_written_iff (filled : Text.trim environment ≠ "")
    (other : (Text.trim environment).toLower ≠ "warning") :
    language.resolve none (some environment) = (filter, none) ↔
      language.read? (Text.lower (Text.trim environment)) = some filter := by
  rw [resolve_eq filled other]
  cases language.read? (Text.lower (Text.trim environment)) <;> simp

/-- The lower case of a filter is the same filter exactly if all that it is about is in lower case
already. -/
theorem Rules.read?_lower_iff (rules : language.Rules) (formed : ∀ d ∈ ds, d.WellFormed)
    (read : language.read? (WrittenDirective.texts ds) = some filter) :
    language.read? (Text.lower (WrittenDirective.texts ds)) = some filter ↔
      ∀ subject ∈ ds.filterMap WrittenDirective.subject?, subject.lower = subject := by
  rw [WrittenDirective.lower_texts]
  constructor
  · intro read' subject about
    have formed' : ∀ d ∈ ds.map WrittenDirective.lower, d.WellFormed := by
      simpa using fun d member => (formed d member).lower
    have about' := (rules.subjects formed formed' read read' subject).mp about
    rw [List.filterMap_map] at about'
    obtain ⟨d, -, same⟩ := List.mem_filterMap.mp about'
    rw [Function.comp_apply, d.subject?_lower] at same
    obtain ⟨before, -, rfl⟩ := Option.map_eq_some_iff.mp same
    exact before.lower_lower
  · intro small
    have levels : ds.map WrittenDirective.lower = ds.map WrittenDirective.lowerLevel :=
      List.map_congr_left fun d member =>
        WrittenDirective.lower_eq_lowerLevel (formed d member) fun subject about =>
          small subject (List.mem_filterMap.mpr ⟨d, member, about⟩)
    rw [levels, rules.levels formed, read]

/-- What takes effect is the lower case of the text, in which each directive is put in lower case
part by part. It is the filter as it was written exactly if nothing that the filter is about has
capital letters. -/
theorem filter_is_read_in_lower_case (rules : language.Rules) (filled : Text.trim environment ≠ "")
    (other : (Text.trim environment).toLower ≠ "warning")
    (read : language.read? (Text.trim environment) = some filter) :
    language.resolve none (some environment) =
        (match language.read? (Text.lower (Text.trim environment)) with
          | some effective => (effective, none)
          | none => (language.standard, some (Text.trim environment))) ∧
      ∀ ds : List WrittenDirective, (∀ d ∈ ds, d.WellFormed) →
        Text.trim environment = WrittenDirective.texts ds →
        Text.lower (Text.trim environment) =
            WrittenDirective.texts (ds.map WrittenDirective.lower) ∧
          (language.resolve none (some environment) = (filter, none) ↔
            ∀ subject ∈ ds.filterMap WrittenDirective.subject?, subject.lower = subject) := by
  refine ⟨resolve_eq filled other, fun ds formed written => ⟨?_, ?_⟩⟩
  · rw [written, WrittenDirective.lower_texts]
  · rw [resolve_eq_written_iff filled other, written]
    rw [written] at read
    exact rules.read?_lower_iff formed read

/-- The area of the first directive and the span and the value of the second one have capital
letters, and so have their levels. -/
def mixedCase : List WrittenDirective :=
  [⟨⟨"RUNDAG::Exec", none⟩, some "TRACE"⟩, ⟨⟨"", some ⟨"Job", some ("id", some "A")⟩⟩, some "Info"⟩]

theorem mixedCase_wellFormed : ∀ d ∈ mixedCase, d.WellFormed := by
  simp only [mixedCase, List.forall_mem_cons, List.not_mem_nil, false_implies, implies_true,
    and_true]
  constructor
  · refine ⟨⟨?_, by simp, by simp⟩, ?_, by simp⟩
    · simp [Lacks, separators, Text.isBlank]
    · simp only [Option.mem_some_iff, forall_eq']
      decide +kernel
  · refine ⟨⟨by simp [Lacks], ?_, by simp⟩, ?_, by simp⟩
    · simp only [Option.mem_some_iff, forall_eq']
      refine ⟨by simp [Lacks, separators], by simp [Lacks, separators], ?_⟩
      have wordy : isWordy "A" = true := by decide +kernel
      simp [Lacks, wordy]
    · simp only [Option.mem_some_iff, forall_eq']
      decide +kernel

theorem mixedCase_is_read_in_lower_case :
    Filter.language.Rules ∧ (∀ d ∈ mixedCase, d.WellFormed) ∧
      Text.trim " RUNDAG::Exec=TRACE,[Job\x7bid=A\x7d]=Info " =
        WrittenDirective.texts mixedCase ∧
      (WrittenDirective.texts mixedCase).toLower ≠ "warning" ∧
      ∃ written effective : Filter,
        Filter.language.read? (WrittenDirective.texts mixedCase) = some written ∧
        Filter.language.resolve none (some " RUNDAG::Exec=TRACE,[Job\x7bid=A\x7d]=Info ") =
          (effective, none) ∧
        effective ≠ written := by
  have trimmed : Text.trim " RUNDAG::Exec=TRACE,[Job\x7bid=A\x7d]=Info " =
      WrittenDirective.texts mixedCase := by decide +kernel
  have filled : WrittenDirective.texts mixedCase ≠ "" := by decide +kernel
  have other : (WrittenDirective.texts mixedCase).toLower ≠ "warning" := by decide +kernel
  have written : Filter.language.read? (WrittenDirective.texts mixedCase) = some
      ⟨[{ threshold := some .trace, area := some "RUNDAG::Exec" },
        { threshold := some .info, span := some "Job", field := some ("id", some "A") }]⟩ := by
    change Filter.read? _ = _
    rw [Filter.read?_texts mixedCase_wellFormed]
    decide +kernel
  have effective :
      Filter.language.read? (WrittenDirective.texts (mixedCase.map WrittenDirective.lower)) = some
      ⟨[{ threshold := some .trace, area := some "rundag::exec" },
        { threshold := some .info, span := some "job", field := some ("id", some "a") }]⟩ := by
    change Filter.read? _ = _
    rw [Filter.read?_texts (by simpa using fun d member => (mixedCase_wellFormed d member).lower)]
    decide +kernel
  obtain ⟨resolved, parts⟩ := @filter_is_read_in_lower_case Filter Filter.language
    " RUNDAG::Exec=TRACE,[Job\x7bid=A\x7d]=Info " _ Filter.language_rules (trimmed ▸ filled)
    (trimmed ▸ other) (trimmed ▸ written)
  obtain ⟨lowered, -⟩ := parts mixedCase mixedCase_wellFormed trimmed
  rw [lowered, effective] at resolved
  exact ⟨Filter.language_rules, mixedCase_wellFormed, trimmed, other, _, _, written, resolved,
    by decide +kernel⟩

theorem schedulerLevel_wellFormed (area : String) (plain : Lacks separators area)
    (shown : ∀ c ∈ area.toList, Text.isBlank c = false) (filled : area ≠ "") :
    ∀ d ∈ [(⟨⟨area, none⟩, some "info"⟩ : WrittenDirective)], d.WellFormed := by
  simp only [List.forall_mem_cons, List.not_mem_nil, false_implies, implies_true, and_true]
  refine ⟨⟨⟨plain, shown⟩, by simp, fun _ => filled⟩, ?_, by simp⟩
  simp only [Option.mem_some_iff, forall_eq']
  decide +kernel

/-- A directive about an area with a name in capital letters takes effect as the directive about the
area with that name in small letters. So one filter takes effect for two texts whose filters are
different: the one lets through nothing of what the scheduler records, and the other does. -/
theorem capital_area_selects_another :
    (∀ (F : Type) (language : FilterLanguage F), language.Rules → ∀ written effective : F,
      language.read? "RUNDAG=info" = some written → language.read? "rundag=info" = some effective →
      written ≠ effective ∧ language.resolve none (some "RUNDAG=info") = (effective, none) ∧
        language.resolve none (some "rundag=info") = (effective, none)) ∧
      ∃ written effective : Filter, Filter.language.Rules ∧
        Filter.language.read? "RUNDAG=info" = some written ∧
        Filter.language.read? "rundag=info" = some effective ∧
        written.lets ⟨.info, LogRecord.schedulerArea, "starting scheduler run", []⟩ = false ∧
        effective.lets ⟨.info, LogRecord.schedulerArea, "starting scheduler run", []⟩ = true := by
  have capital := schedulerLevel_wellFormed "RUNDAG" (by simp [Lacks, separators])
    (by simp [Text.isBlank]) (by decide)
  have small := schedulerLevel_wellFormed "rundag" (by simp [Lacks, separators])
    (by simp [Text.isBlank]) (by decide)
  have texts : WrittenDirective.texts [⟨⟨"RUNDAG", none⟩, some "info"⟩] = "RUNDAG=info" ∧
      WrittenDirective.texts [⟨⟨"rundag", none⟩, some "info"⟩] = "rundag=info" := by decide +kernel
  constructor
  · intro F language rules written effective read read'
    refine ⟨?_, ?_, ?_⟩
    · rintro rfl
      rw [← texts.1] at read
      rw [← texts.2] at read'
      have same := rules.subjects capital small read read' ⟨"RUNDAG", none⟩
      exact absurd same (by decide +kernel)
    · rw [resolve_eq_written_iff (by decide +kernel) (by decide +kernel)]
      have lowered : Text.lower (Text.trim "RUNDAG=info") = "rundag=info" := by decide +kernel
      rw [lowered, read']
    · rw [resolve_eq_written_iff (by decide +kernel) (by decide +kernel)]
      have lowered : Text.lower (Text.trim "rundag=info") = "rundag=info" := by decide +kernel
      rw [lowered, read']
  · refine ⟨⟨[{ threshold := some .info, area := some "RUNDAG" }]⟩,
      ⟨[{ threshold := some .info, area := some "rundag" }]⟩, Filter.language_rules, ?_, ?_,
      by decide +kernel, by decide +kernel⟩
    · change Filter.read? _ = _
      rw [← texts.1, Filter.read?_texts capital]
      decide +kernel
    · change Filter.read? _ = _
      rw [← texts.2, Filter.read?_texts small]
      decide +kernel

end FilterLanguage

end Precedence
