import Mathlib
import Precedence.Log.Language
import Precedence.Proofs.Text.LowerCase
/-!
# Filters as they are written

Directives stand between commas. A directive is a level, or an area and in brackets a span and a
field, with a level behind them. `FilterLanguage.Rules` is what is relied on about a language of
filters. A written filter is put in lower case part by part (`lower_texts`).
-/

namespace Precedence

/-- A span, and in braces a field, perhaps with its value. -/
structure Brackets where
  span : String
  field : Option (String × Option String)
deriving DecidableEq

/-- What a directive is about. -/
structure Subject where
  area : String
  brackets : Option Brackets
deriving DecidableEq

/-- A directive with its parts as they are written. -/
structure WrittenDirective where
  subject : Subject
  level : Option String
deriving DecidableEq

def levelNames : List String :=
  ["off", "error", "warn", "info", "debug", "trace", "0", "1", "2", "3", "4", "5"]

/-- The name or the number of a level, in any case. -/
def IsLevel (text : String) : Prop := Text.lower text ∈ levelNames

instance : DecidablePred IsLevel := fun text =>
  inferInstanceAs (Decidable (Text.lower text ∈ levelNames))

/-- A value that is no number, however it is read. -/
def isWordy (value : String) : Bool :=
  let small := Text.lower value
  small.toList.head?.all (fun c => !c.isDigit && c ∉ ['+', '-', '.']) &&
    small ∉ ["inf", "infinity", "nan"]

def Lacks (marks : List Char) (text : String) : Prop := ∀ c ∈ text.toList, c ∉ marks

def separators : List Char := [',', '=', '[', ']', '\x7b', '\x7d']

namespace Brackets

def fieldText : String × Option String → String
  | (name, none) => name
  | (name, some value) => name ++ ("=" ++ value)

def text (b : Brackets) : String :=
  match b.field with
  | none => "[" ++ (b.span ++ "]")
  | some field => "[" ++ (b.span ++ ("\x7b" ++ (fieldText field ++ ("\x7d" ++ "]"))))

def lower (b : Brackets) : Brackets where
  span := Text.lower b.span
  field := b.field.map fun field => (Text.lower field.1, field.2.map Text.lower)

/-- Without the value if that might be a number, for a number can be written in several ways. -/
def told (b : Brackets) : Brackets :=
  { b with field := b.field.map fun field => (field.1, field.2.filter isWordy) }

structure WellFormed (b : Brackets) : Prop where
  span : Lacks separators b.span
  name : ∀ field ∈ b.field, field.1 ≠ "" ∧ Lacks separators field.1
  /-- Brackets may stand in a value. Numbers are in lower case. -/
  value : ∀ field ∈ b.field, ∀ value ∈ field.2,
    Lacks [',', '=', '\x7b', '\x7d'] value ∧ (isWordy value = true ∨ Text.lower value = value)

end Brackets

namespace Subject

def text (s : Subject) : String := s.area ++ (s.brackets.map Brackets.text).getD ""

def lower (s : Subject) : Subject := ⟨Text.lower s.area, s.brackets.map Brackets.lower⟩

def told (s : Subject) : Subject := { s with brackets := s.brackets.map Brackets.told }

structure WellFormed (s : Subject) : Prop where
  area : Lacks separators s.area ∧ ∀ c ∈ s.area.toList, Text.isBlank c = false
  brackets : ∀ b ∈ s.brackets, b.WellFormed
  filled : s.brackets = none → s.area ≠ ""

end Subject

namespace WrittenDirective

def text (d : WrittenDirective) : String :=
  match d.level with
  | none => d.subject.text
  | some level => d.subject.text ++ ("=" ++ level)

def texts (ds : List WrittenDirective) : String := ",".intercalate (ds.map text)

/-- A level without anything that it is about. -/
def IsBare (d : WrittenDirective) : Prop :=
  d.subject.brackets = none ∧ d.level = none ∧ IsLevel d.subject.area

instance : DecidablePred IsBare := fun d =>
  inferInstanceAs (Decidable (d.subject.brackets = none ∧ d.level = none ∧ IsLevel d.subject.area))

def lower (d : WrittenDirective) : WrittenDirective := ⟨d.subject.lower, d.level.map Text.lower⟩

/-- Only levels are put in lower case. -/
def lowerLevel (d : WrittenDirective) : WrittenDirective :=
  if d.IsBare then d.lower else { d with level := d.level.map Text.lower }

/-- What the directive is about, as far as filters that are about something else must differ. -/
def subject? (d : WrittenDirective) : Option Subject :=
  if d.IsBare then none else some d.subject.told

structure WellFormed (d : WrittenDirective) : Prop where
  subject : d.subject.WellFormed
  level : ∀ level ∈ d.level, IsLevel level
  /-- A number by itself is a level. -/
  number : d.subject.brackets = none → d.level = none →
    (∀ c ∈ d.subject.area.toList, c.isDigit = true) → IsLevel d.subject.area

end WrittenDirective

/-- What is relied on about a language of filters: the case of a level does not matter, and filters
about different areas, spans or fields are different, be it only in their case. -/
structure FilterLanguage.Rules {F : Type} (language : FilterLanguage F) : Prop where
  levels {ds : List WrittenDirective} (formed : ∀ d ∈ ds, d.WellFormed) :
    language.read? (WrittenDirective.texts (ds.map WrittenDirective.lowerLevel)) =
      language.read? (WrittenDirective.texts ds)
  subjects {ds ds' : List WrittenDirective} {filter : F} (formed : ∀ d ∈ ds, d.WellFormed)
    (formed' : ∀ d ∈ ds', d.WellFormed)
    (read : language.read? (WrittenDirective.texts ds) = some filter)
    (read' : language.read? (WrittenDirective.texts ds') = some filter) (subject : Subject) :
    subject ∈ ds.filterMap WrittenDirective.subject? ↔
      subject ∈ ds'.filterMap WrittenDirective.subject?

/-! ## Parts in lower case -/

theorem isSeparator_of_mem {d : Char} (h : d ∈ separators) : Text.IsSeparator d := by
  simp only [separators, List.mem_cons, List.not_mem_nil, or_false] at h
  rcases h with rfl | rfl | rfl | rfl | rfl | rfl <;>
    exact ⟨⟨by decide, by decide, by decide +kernel⟩, by decide +kernel, by decide +kernel⟩

theorem apart_of_mem {d : Char} (h : d ∈ separators) : Text.Apart d := by
  have place : d.toNat < 0x61 ∨ 0x7A < d.toNat ∧ d.toNat < 0xDF := by
    simp only [separators, List.mem_cons, List.not_mem_nil, or_false] at h
    rcases h with rfl | rfl | rfl | rfl | rfl | rfl <;> decide
  exact Text.apart_of_gap (by omega)

theorem mem_of_mem_lower {c : Char} {text : String} (apart : Text.Apart c)
    (member : c ∈ (Text.lower text).toList) : c ∈ text.toList := by
  rw [Text.toList_lower] at member
  exact apart.of_mem_lowerFrom member

theorem Lacks.lower {marks : List Char} {text : String} (known : marks ⊆ separators)
    (h : Lacks marks text) : Lacks marks (Text.lower text) := fun _ member mark =>
  h _ (mem_of_mem_lower (apart_of_mem (known mark)) member) mark

theorem lower_mark (mark : String) {d : Char} (h : d ∈ separators)
    (same : String.singleton d = mark) (front back : String) :
    Text.lower (front ++ (mark ++ back)) = Text.lower front ++ (mark ++ Text.lower back) := by
  rw [← same]
  exact (isSeparator_of_mem h).lower_append front back

theorem lower_append_closing (front : String) :
    Text.lower (front ++ "]") = Text.lower front ++ "]" := by
  have empty : Text.lower "" = "" := rfl
  simpa [empty] using lower_mark "]" (d := ']') (by decide) rfl front ""

theorem lower_closing : Text.lower "]" = "]" := by
  have empty : Text.lower "" = "" := rfl
  simpa [empty] using lower_append_closing ""

theorem lower_eq_empty_iff {text : String} : Text.lower text = "" ↔ text = "" := by
  rw [Text.lower_eq_iff (by simp), ← String.toList_inj, ← String.toList_inj, String.toLower,
    String.toList_map]
  simp

theorem isCommon_of_mem {name : String} (h : name ∈ levelNames) :
    ∀ c ∈ name.toList, Text.IsCommon c := by
  have ascii : ∀ name ∈ levelNames, ∀ c ∈ name.toList, c.toNat < 0x80 ∧ c ≠ 'k' := by
    simp [levelNames]
  exact fun c member => ⟨(ascii name h c member).1, (ascii name h c member).2⟩

theorem isLevel_of_toLower {text name : String} (h : name ∈ levelNames)
    (same : text.toLower = name) : IsLevel text := by
  rw [IsLevel, (Text.lower_eq_iff (isCommon_of_mem h)).mpr same]
  exact h

namespace IsLevel

variable {text : String} (h : IsLevel text)
include h

theorem lower_eq : Text.lower text = text.toLower :=
  ((Text.lower_eq_iff (isCommon_of_mem h)).mp rfl).symm

theorem isAlphanum {c : Char} (member : c ∈ text.toList) : c.isAlphanum = true := by
  have all : ∀ name ∈ levelNames, ∀ c ∈ name.toList, c.isAlphanum = true := by
    simp [levelNames]
  have lowered : c.toLower ∈ (Text.lower text).toList := by
    rw [h.lower_eq, String.toLower, String.toList_map]
    exact List.mem_map_of_mem member
  have same : c.toLower.isAlphanum = c.isAlphanum := by
    rw [Char.isAlphanum, Char.isAlphanum, Char.isAlpha_toLower_eq_isAlpha, Text.isDigit_toLower]
  rw [← same]
  exact all _ h _ lowered

theorem ne_empty : text ≠ "" := by
  rintro rfl
  exact absurd h (by decide +kernel)

end IsLevel

theorem isLevel_lower {text : String} : IsLevel (Text.lower text) ↔ IsLevel text := by
  rw [IsLevel, IsLevel, Text.lower_lower]

theorem isWordy_lower (value : String) : isWordy (Text.lower value) = isWordy value := by
  rw [isWordy, isWordy, Text.lower_lower]

/-! ## Directives in lower case -/

theorem Brackets.lower_text (b : Brackets) (front : String) :
    Text.lower (front ++ b.text) = Text.lower front ++ b.lower.text := by
  obtain ⟨span, _ | ⟨name, _ | value⟩⟩ := b <;>
    simp only [Brackets.text, Brackets.fieldText, Brackets.lower, Option.map_none, Option.map_some,
      lower_mark "[" (d := '[') (by decide) rfl, lower_mark "=" (d := '=') (by decide) rfl,
      lower_mark "\x7b" (d := '\x7b') (by decide) rfl,
      lower_mark "\x7d" (d := '\x7d') (by decide) rfl, lower_closing, lower_append_closing]

theorem Subject.lower_text (s : Subject) : Text.lower s.text = s.lower.text := by
  obtain ⟨area, _ | b⟩ := s
  · simp [Subject.text, Subject.lower]
  · exact b.lower_text area

theorem Subject.lower_lower (s : Subject) : s.lower.lower = s.lower := by
  obtain ⟨area, _ | ⟨span, _ | ⟨name, _ | value⟩⟩⟩ := s <;>
    simp [Subject.lower, Brackets.lower, Text.lower_lower]

namespace WrittenDirective

theorem lower_text (d : WrittenDirective) : Text.lower d.text = d.lower.text := by
  obtain ⟨subject, _ | level⟩ := d
  · exact subject.lower_text
  · rw [text, lower_mark "=" (d := '=') (by decide) rfl, subject.lower_text]
    rfl

theorem lower_texts (ds : List WrittenDirective) :
    Text.lower (texts ds) = texts (ds.map lower) := by
  unfold texts
  induction ds with
  | nil => rfl
  | cons d ds ih =>
    cases ds with
    | nil => simp [lower_text]
    | cons e ds =>
      simp only [List.map_cons, String.intercalate_cons_cons, String.append_assoc] at ih ⊢
      rw [lower_mark "," (d := ',') (by decide) rfl, lower_text, ih]

theorem isBare_lower {d : WrittenDirective} : d.lower.IsBare ↔ d.IsBare := by
  simp [IsBare, lower, Subject.lower, isLevel_lower]

end WrittenDirective

theorem Brackets.told_lower (b : Brackets) : b.lower.told = b.told.lower := by
  obtain ⟨span, _ | ⟨name, _ | value⟩⟩ := b
  · rfl
  · rfl
  · simp only [Brackets.told, Brackets.lower, Option.map_some, Option.filter_some, isWordy_lower]
    cases isWordy value <;> rfl

theorem WrittenDirective.subject?_lower (d : WrittenDirective) :
    d.lower.subject? = d.subject?.map Subject.lower := by
  unfold subject?
  by_cases bare : d.IsBare
  · rw [if_pos bare, if_pos (isBare_lower.mpr bare)]
    rfl
  · rw [if_neg bare, if_neg (isBare_lower.not.mpr bare), Option.map_some, Option.some_inj]
    simp [lower, Subject.told, Subject.lower, Function.comp_def, Brackets.told_lower]

/-! ## Well-formed directives -/

theorem Brackets.WellFormed.lower {b : Brackets} (h : b.WellFormed) : b.lower.WellFormed where
  span := h.span.lower fun _ => id
  name := by
    intro _ lowered
    obtain ⟨field, given, rfl⟩ := Option.map_eq_some_iff.mp lowered
    obtain ⟨filled, free⟩ := h.name field given
    exact ⟨lower_eq_empty_iff.not.mpr filled, free.lower fun _ => id⟩
  value := by
    intro _ lowered _ lowered'
    obtain ⟨field, given, rfl⟩ := Option.map_eq_some_iff.mp lowered
    obtain ⟨value, valued, rfl⟩ := Option.map_eq_some_iff.mp lowered'
    obtain ⟨free, -⟩ := h.value field given value valued
    exact ⟨free.lower (by simp [separators]), .inr (Text.lower_lower value)⟩

theorem Subject.WellFormed.lower {s : Subject} (h : s.WellFormed) : s.lower.WellFormed where
  area := by
    obtain ⟨free, shown⟩ := h.area
    refine ⟨free.lower fun _ => id, fun c member => Bool.eq_false_iff.mpr fun blank => ?_⟩
    have before := mem_of_mem_lower (Text.apart_of_isBlank blank) member
    rw [shown c before] at blank
    exact absurd blank Bool.false_ne_true
  brackets := by
    intro _ lowered
    obtain ⟨b, given, rfl⟩ := Option.map_eq_some_iff.mp lowered
    exact (h.brackets b given).lower
  filled alone := lower_eq_empty_iff.not.mpr (h.filled (by simpa [Subject.lower] using alone))

/-- A text whose lower case is a number is that number. -/
theorem isDigit_of_lower {text : String} (h : ∀ c ∈ (Text.lower text).toList, c.isDigit = true) :
    ∀ c ∈ text.toList, c.isDigit = true := by
  have same : text.toLower = Text.lower text := (Text.lower_eq_iff fun c member => by
    have last : c.toNat ≤ 0x39 := (Char.isDigit_iff_toNat.mp (h c member)).2
    refine ⟨by omega, ?_⟩
    rintro rfl
    exact absurd last (by decide)).mp rfl
  intro c member
  rw [← Text.isDigit_toLower]
  refine h _ ?_
  rw [← same, String.toLower, String.toList_map]
  exact List.mem_map_of_mem member

theorem WrittenDirective.WellFormed.lower {d : WrittenDirective} (h : d.WellFormed) :
    d.lower.WellFormed where
  subject := h.subject.lower
  level := by
    intro _ lowered
    obtain ⟨level, given, rfl⟩ := Option.map_eq_some_iff.mp lowered
    exact isLevel_lower.mpr (h.level level given)
  number alone none digits := by
    refine isLevel_lower.mpr (h.number ?_ ?_ (isDigit_of_lower digits))
    · simpa [WrittenDirective.lower, Subject.lower] using alone
    · simpa [WrittenDirective.lower] using none

end Precedence
