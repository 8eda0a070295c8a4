import Mathlib
import Precedence.Log.Filter
import Precedence.Proofs.Log.Written
import Precedence.Proofs.Text.Split
import Precedence.Proofs.Text.Utf8
/-!
# Filters are read as they are written

From the text of a directive its parts are read (`Directive.read?_text`), each as the part of the
text between two marks. So the case of a level does not matter, and what a filter is about is found
in what was read: the language of filters obeys the rules (`Filter.language_rules`).
-/

namespace Precedence

namespace Directive

variable {d : Directive} {stage : Stage} {bytes : List UInt8} {i : Nat} {c : Char}
  {front part rest cs : List Char}

/-! ## Reading on -/

def spell (cs : List Char) : List UInt8 := cs.flatMap String.utf8EncodeChar

theorem spell_append (cs ds : List Char) : spell (cs ++ ds) = spell cs ++ spell ds :=
  List.flatMap_append

theorem length_spell_concat : (spell (cs ++ [c])).length = (spell cs).length + c.utf8Size := by
  rw [spell_append, List.length_append, ← String.length_utf8EncodeChar]
  simp [spell]

theorem slice?_spell (front part rest : List Char) :
    slice? (spell (front ++ (part ++ rest))) (spell front).length (spell (front ++ part)).length =
      some (.ofList part) := by
  have cut : (spell (front ++ part)).length - (spell front).length = (spell part).length := by
    rw [spell_append, List.length_append, Nat.add_sub_cancel_left]
  rw [slice?, cut, spell_append, List.drop_left, spell_append, List.take_left, spell,
    Text.Utf8.text?_flatMap]

/-- What is made of the directive where the text ends. -/
def ended? (bytes : List UInt8) (d : Directive) : Stage → Option Directive
  | .levelOrArea start => (slice? bytes start bytes.length).bind fun name =>
    match Threshold.ofText? name with
    | some threshold => some { d with threshold, area := none }
    | none => some { d with threshold := some .trace, area := some name }
  | .level start => (slice? bytes start bytes.length).bind fun name =>
    if name.isEmpty then some { d with threshold := some .trace }
    else (Threshold.ofText? name).map fun threshold => { d with threshold }
  | .bracketEnd => some d
  | _ => none

/-- What is read of `rest` behind `front`. -/
def behind? (front rest : List Char) (d : Directive) (stage : Stage) : Option Directive :=
  (steps (spell (front ++ rest)) d stage (spell front).length rest).bind fun found =>
    ended? (spell (front ++ rest)) found.1 found.2.1

theorem read?_eq {text : String} (trimmed : Text.trim text = text) :
    read? text = behind? [] text.toList {} .start := by
  rw [read?, trimmed, Text.Utf8.encode_eq]
  refine congrArg (Option.bind _) (funext fun found => ?_)
  obtain ⟨d, stage, j⟩ := found
  cases stage <;> rfl

theorem behind?_nil : behind? front [] d stage = ended? (spell front) d stage := by
  rw [behind?, List.append_nil]
  rfl

theorem behind?_cons :
    behind? front (c :: rest) d stage =
      (step (spell (front ++ c :: rest)) d stage (spell front).length c).bind fun found =>
        behind? (front ++ [c]) rest found.1 found.2 := by
  have whole : front ++ c :: rest = front ++ [c] ++ rest := by simp
  simp only [behind?, ← whole, length_spell_concat]
  exact Option.bind_assoc ..

/-- What is passed over without being read yet. -/
theorem behind?_append (passed : ∀ c ∈ part, ∀ bytes i, step bytes d stage i c = some (d, stage)) :
    behind? front (part ++ rest) d stage = behind? (front ++ part) rest d stage := by
  induction part generalizing front with
  | nil => rw [List.append_nil, List.nil_append]
  | cons c part ih =>
    rw [List.cons_append, behind?_cons, passed c List.mem_cons_self, Option.bind_some,
      ih fun c later => passed c (List.mem_cons_of_mem _ later), List.append_assoc,
      List.singleton_append]

theorem behind?_end (passed : ∀ c ∈ part, ∀ bytes i, step bytes d stage i c = some (d, stage)) :
    behind? front part d stage = ended? (spell (front ++ part)) d stage := by
  have whole : behind? front (part ++ []) d stage = behind? (front ++ part) [] d stage :=
    behind?_append passed
  rw [List.append_nil] at whole
  rw [whole, behind?_nil]

/-! ## Reading a part up to the mark behind it -/

theorem step_area {start : Nat} (other : c ∉ separators) :
    step bytes d (.levelOrArea start) i c = some (d, .levelOrArea start) := by
  simp only [separators, List.mem_cons, not_or] at other
  rw [step, if_neg other.2.1, if_neg other.2.2.1]

theorem area_of_mark (free : ∀ c ∈ part, c ∉ separators) :
    behind? front (part ++ '=' :: rest) d (.levelOrArea (spell front).length) =
        behind? (front ++ part ++ ['=']) rest { d with area := some (.ofList part) }
          (.level (spell (front ++ part ++ ['='])).length) ∧
      behind? front (part ++ '[' :: rest) d (.levelOrArea (spell front).length) =
        behind? (front ++ part ++ ['[']) rest { d with area := some (.ofList part) }
          (.span (spell (front ++ part ++ ['['])).length) := by
  have passed : ∀ c ∈ part, ∀ bytes i,
      step bytes d (.levelOrArea (spell front).length) i c =
        some (d, .levelOrArea (spell front).length) :=
    fun c member _ _ => step_area (free c member)
  constructor
  · rw [behind?_append passed, behind?_cons, step, if_pos rfl, List.append_assoc, slice?_spell,
      Option.map_some, Option.bind_some, length_spell_concat]
    rfl
  · rw [behind?_append passed, behind?_cons, step, if_neg (by decide), if_pos rfl,
      List.append_assoc, slice?_spell, Option.map_some, Option.bind_some, length_spell_concat]
    rfl

theorem span_of_mark (free : ∀ c ∈ part, c ∉ separators) :
    behind? front (part ++ ']' :: rest) d (.span (spell front).length) =
        behind? (front ++ part ++ [']']) rest { d with span := some (.ofList part) } .bracketEnd ∧
      behind? front (part ++ '\x7b' :: rest) d (.span (spell front).length) =
        behind? (front ++ part ++ ['\x7b']) rest
          { d with span := if String.ofList part = "" then none else some (.ofList part) }
          (.field (spell (front ++ part ++ ['\x7b'])).length) := by
  have passed : ∀ c ∈ part, ∀ bytes i,
      step bytes d (.span (spell front).length) i c = some (d, .span (spell front).length) := by
    intro c member bytes i
    have other := free c member
    simp only [separators, List.mem_cons, not_or] at other
    rw [step, if_neg other.2.2.2.1, if_neg other.2.2.2.2.1]
  constructor
  · rw [behind?_append passed, behind?_cons, step, if_pos rfl, List.append_assoc, slice?_spell,
      Option.map_some, Option.bind_some]
  · rw [behind?_append passed, behind?_cons, step, if_neg (by decide), if_pos rfl,
      List.append_assoc, slice?_spell, Option.map_some, Option.bind_some, length_spell_concat]
    simp only [String.isEmpty_iff]
    rfl

theorem field_of_mark (free : '\x7d' ∉ part) (filled : String.ofList part ≠ "") :
    behind? front (part ++ '\x7d' :: ']' :: rest) d (.field (spell front).length) =
      (field? (.ofList part)).bind fun field =>
        behind? (front ++ part ++ ['\x7d'] ++ [']']) rest { d with field := some field }
          .bracketEnd := by
  have passed : ∀ c ∈ part, ∀ bytes i,
      step bytes d (.field (spell front).length) i c = some (d, .field (spell front).length) := by
    intro c member bytes i
    exact if_neg (ne_of_mem_of_not_mem member free)
  have full : (String.ofList part).isEmpty = false := by simpa using filled
  rw [behind?_append passed, behind?_cons, step, if_pos rfl, List.append_assoc, slice?_spell]
  simp only [Option.bind_eq_bind, Option.bind_some, full, Bool.false_eq_true, if_false]
  cases field? (.ofList part) with
  | none => rfl
  | some field =>
    rw [Option.map_some, Option.bind_some, Option.bind_some, behind?_cons, step, if_pos rfl,
      Option.bind_some]

theorem slice?_end :
    slice? (spell (front ++ part)) (spell front).length (spell (front ++ part)).length =
      some (.ofList part) := by
  have slice := slice?_spell front part []
  rwa [List.append_nil] at slice

/-- A level, or an area, with nothing behind it. -/
theorem word_of_end (free : ∀ c ∈ part, c ∉ separators) :
    behind? front part d (.levelOrArea (spell front).length) =
      match Threshold.ofText? (.ofList part) with
      | some threshold => some { d with threshold, area := none }
      | none => some { d with threshold := some .trace, area := some (.ofList part) } := by
  rw [behind?_end fun c member _ _ => step_area (free c member), ended?, slice?_end]
  rfl

theorem level_of_end (filled : String.ofList part ≠ "") :
    behind? front part d (.level (spell front).length) =
      (Threshold.ofText? (.ofList part)).map fun threshold => { d with threshold } := by
  have full : (String.ofList part).isEmpty = false := by simpa using filled
  rw [behind?_end fun _ _ _ _ => rfl, ended?, slice?_end, Option.bind_some, full]
  rfl

/-! ## Reading a directive -/

/-- What a level behind the rest of a directive adds. -/
def leveled? (d : Directive) : Option String → Option Directive
  | none => some d
  | some level => (Threshold.ofText? level).map fun threshold => { d with threshold }

theorem behind?_bracketEnd {level : Option String} (formed : ∀ name ∈ level, name ≠ "") :
    behind? front ((level.map fun name => '=' :: name.toList).getD []) d .bracketEnd =
      d.leveled? level := by
  cases level with
  | none => rw [Option.map_none, Option.getD_none, behind?_nil, ended?, leveled?]
  | some name =>
    have filled : String.ofList name.toList ≠ "" := by
      rw [String.ofList_toList]
      exact formed name rfl
    have place : (spell (front ++ ['='])).length = (spell front).length + 1 :=
      length_spell_concat
    rw [Option.map_some, Option.getD_some, behind?_cons, step, if_pos rfl, Option.bind_some,
      ← place, level_of_end filled, String.ofList_toList]
    rfl

/-- Whether a text may be the value of a field. -/
def isValue (text : String) : Bool := Pattern.isNumber text || Pattern.isValid text

/-- What brackets behind an area add. -/
def bracketed? (d : Directive) (b : Brackets) : Option Directive :=
  match b.field with
  | none => some { d with span := some b.span }
  | some field =>
    if field.2.all isValue then
      some { d with span := if b.span = "" then none else some b.span, field := some field }
    else none

theorem field?_fieldText (field : String × Option String) (free : '=' ∉ field.1.toList)
    (free' : ∀ value ∈ field.2, '=' ∉ value.toList) :
    field? (Brackets.fieldText field) = if field.2.all isValue then some field else none := by
  obtain ⟨name, _ | value⟩ := field
  · have split : name.splitOn "=" = [name] :=
      Text.splitOn_intercalate '=' [name] (by simpa using free) (by simp)
    rw [Brackets.fieldText, field?, split]
    rfl
  · have split : (name ++ ("=" ++ value)).splitOn "=" = [name, value] := by
      have parts := Text.splitOn_intercalate '=' [name, value]
        (by simpa using ⟨free, free' value rfl⟩) (by simp)
      rwa [String.intercalate_cons_cons, String.intercalate_singleton, String.append_assoc] at parts
    rw [Brackets.fieldText, field?, split]
    rfl

theorem not_mem_fieldText {b : Brackets} {field : String × Option String} (formed : b.WellFormed)
    (given : field ∈ b.field) (mark : c ∈ [',', '\x7d']) :
    c ∉ (Brackets.fieldText field).toList := by
  have known : c ∈ separators ∧ c ∈ [',', '=', '\x7b', '\x7d'] ∧ c ≠ '=' := by
    rcases List.mem_pair.mp mark with rfl | rfl <;> decide
  have apart := (formed.name field given).2
  obtain ⟨name, _ | value⟩ := field
  · exact fun member => apart c member known.1
  · have apart' := (formed.value _ given value rfl).1
    simp only [Brackets.fieldText, String.toList_append, List.mem_append, not_or]
    exact ⟨fun member => apart c member known.1, by simpa using known.2.2,
      fun member => apart' c member known.2.1⟩

theorem behind?_brackets {b : Brackets} {level : Option String} (formed : b.WellFormed)
    (formed' : ∀ name ∈ level, name ≠ "") {text : List Char}
    (written : b.text.toList = '[' :: text) :
    behind? front (text ++ (level.map fun name => '=' :: name.toList).getD []) d
        (.span (spell front).length) =
      (d.bracketed? b).bind fun d => d.leveled? level := by
  obtain ⟨span, _ | field⟩ := b
  · obtain rfl : span.toList ++ [']'] = text := by
      simpa [Brackets.text] using written
    rw [List.append_assoc, List.singleton_append, (span_of_mark formed.span).1,
      behind?_bracketEnd formed', String.ofList_toList]
    rfl
  · obtain rfl : span.toList ++ '\x7b' :: ((Brackets.fieldText field).toList ++ ['\x7d', ']']) =
        text := by
      simpa [Brackets.text] using written
    obtain ⟨filled, free⟩ := formed.name field rfl
    have read := field?_fieldText field
      (fun member => free _ member (by decide))
      fun value valued member => (formed.value field rfl value valued).1 _ member (by decide)
    have closes : '\x7d' ∉ (Brackets.fieldText field).toList :=
      not_mem_fieldText formed rfl (by decide)
    have full : String.ofList (Brackets.fieldText field).toList ≠ "" := by
      obtain ⟨name, _ | value⟩ := field
      · simpa [Brackets.fieldText] using filled
      · simp [Brackets.fieldText]
    rw [List.append_assoc, List.cons_append, List.append_assoc, (span_of_mark formed.span).2,
      List.cons_append, List.singleton_append, field_of_mark closes full, String.ofList_toList,
      read]
    have added : d.bracketed? ⟨span, some field⟩ =
        if field.2.all isValue then
          some { d with span := if span = "" then none else some span, field := some field }
        else none := rfl
    rw [added]
    by_cases valued : field.2.all isValue = true
    · rw [if_pos valued, if_pos valued, Option.bind_some, Option.bind_some,
        behind?_bracketEnd formed', String.ofList_toList]
    · rw [if_neg valued, if_neg valued]
      rfl

/-- Whether an area may begin with a character. -/
def begins (c : Char) : Bool := c = '-' || c = ':' || c = '_' || Text.isAlphanumeric c

/-- What is read from the text of a directive. -/
def ofWritten? (w : WrittenDirective) : Option Directive :=
  if w.subject.area.toList.head?.all begins then
    match w.subject.brackets, w.level with
    | some b, level =>
      (bracketed? { area := if w.subject.area = "" then none else some w.subject.area } b).bind
        fun d => d.leveled? level
    | none, some level => leveled? { area := some w.subject.area } level
    | none, none =>
      match Threshold.ofText? w.subject.area with
      | some threshold => some { threshold }
      | none => some { area := some w.subject.area }
  else none

/-- An area is read from its first character on. -/
theorem behind?_start {area : List Char} (free : ∀ c ∈ area, c ∉ separators) (filled : area ≠ []) :
    behind? [] (area ++ rest) d .start =
      if area.head?.all begins then behind? [] (area ++ rest) d (.levelOrArea (spell []).length)
      else none := by
  cases area with
  | nil => exact absurd rfl filled
  | cons c cs =>
    have other := free c List.mem_cons_self
    have bracket : c ≠ '[' := by
      rintro rfl
      exact other (by decide)
    have first (bytes : List UInt8) (i : Nat) :
        step bytes d .start i c = if begins c then some (d, .levelOrArea i) else none := by
      rw [step, if_neg bracket]
      rfl
    rw [List.cons_append, behind?_cons, behind?_cons, step_area other, first, List.head?_cons,
      Option.all_some]
    split
    · rfl
    · rfl

theorem toList_text (w : WrittenDirective) :
    w.text.toList = w.subject.text.toList ++
      (w.level.map fun name => '=' :: name.toList).getD [] := by
  obtain ⟨subject, _ | level⟩ := w
  · simp [WrittenDirective.text]
  · simp [WrittenDirective.text]

theorem toList_bracketed (b : Brackets) : ∃ text, b.text.toList = '[' :: text := by
  obtain ⟨span, _ | field⟩ := b <;> simp [Brackets.text]

theorem behind?_text {w : WrittenDirective} (formed : w.WellFormed)
    (named : ∀ name ∈ w.level, name ≠ "") :
    behind? [] w.text.toList {} .start = ofWritten? w := by
  obtain ⟨⟨area, brackets⟩, level⟩ := w
  obtain ⟨⟨free, -⟩, bracketed, filled⟩ := formed.subject
  rw [toList_text]
  cases brackets with
  | some b =>
    obtain ⟨text, written⟩ := toList_bracketed b
    have whole : (Subject.text ⟨area, some b⟩).toList = area.toList ++ '[' :: text := by
      simp [Subject.text, written]
    rw [whole, List.append_assoc, List.cons_append]
    by_cases empty : area = ""
    · subst empty
      have place : (spell ([] ++ ['['])).length = (spell []).length + 1 := length_spell_concat
      rw [String.toList_empty, List.nil_append, behind?_cons, step, if_pos rfl, Option.bind_some,
        ← place, behind?_brackets (bracketed b rfl) named written]
      rfl
    · have letters : area.toList ≠ [] := by simpa using empty
      rw [behind?_start free letters, (area_of_mark free).2,
        behind?_brackets (bracketed b rfl) named written, String.ofList_toList]
      simp only [ofWritten?, if_neg empty]
  | none =>
    have letters : area.toList ≠ [] := by simpa using filled rfl
    have whole : (Subject.text ⟨area, none⟩).toList = area.toList := by
      simp [Subject.text]
    rw [whole, behind?_start free letters]
    cases level with
    | some name =>
      have full : String.ofList name.toList ≠ "" := by
        rw [String.ofList_toList]
        exact named name rfl
      rw [Option.map_some, Option.getD_some, (area_of_mark free).1, level_of_end full,
        String.ofList_toList, String.ofList_toList]
      rfl
    | none =>
      rw [Option.map_none, Option.getD_none, List.append_nil, word_of_end free,
        String.ofList_toList]
      rfl

/-! ## The text of a directive -/

theorem trim_eq {text : String} (first : ∀ c ∈ text.toList.head?, Text.isBlank c = false)
    (last : ∀ c ∈ text.toList.getLast?, Text.isBlank c = false) : Text.trim text = text := by
  have same {cs : List Char} (shown : ∀ c ∈ cs.head?, Text.isBlank c = false) :
      cs.dropWhile Text.isBlank = cs := by
    cases cs with
    | nil => rfl
    | cons c cs => simp [shown c rfl]
  rw [← String.toList_inj, Text.trim, String.toList_ofList, same first, Text.dropEnd,
    same (by simpa using last), List.reverse_reverse]

theorem not_mem_of_isAlphanum (h : c.isAlphanum = true) : c ∉ separators := by
  simp only [separators, List.mem_cons, List.not_mem_nil, or_false]
  rintro (rfl | rfl | rfl | rfl | rfl | rfl) <;> exact absurd h (by decide)

theorem isBlank_of_isAlphanum (h : c.isAlphanum = true) : Text.isBlank c = false := by
  simp only [Char.isAlphanum, Char.isAlpha, Char.isUpper, Char.isLower, Char.isDigit, ge_iff_le,
    UInt32.le_iff_toNat_le, Bool.or_eq_true, Bool.and_eq_true, decide_eq_true_eq] at h
  have inside : 0x41 ≤ c.toNat ∧ c.toNat ≤ 0x5A ∨ 0x61 ≤ c.toNat ∧ c.toNat ≤ 0x7A ∨
      0x30 ≤ c.toNat ∧ c.toNat ≤ 0x39 := by
    obtain (upper | lower) | digit := h
    · exact .inl upper
    · exact .inr (.inl lower)
    · exact .inr (.inr digit)
  simp only [Text.isBlank, Bool.or_eq_false_iff, Bool.and_eq_false_iff, decide_eq_false_iff_not]
  omega

theorem getLast?_bracketed (b : Brackets) : b.text.toList.getLast? = some ']' := by
  have closes : ∃ front, b.text = front ++ "]" := by
    obtain ⟨span, _ | field⟩ := b
    · exact ⟨"[" ++ span, String.append_assoc.symm⟩
    · exact ⟨"[" ++ (span ++ ("\x7b" ++ (Brackets.fieldText field ++ "\x7d"))), by
        simp [Brackets.text, String.append_assoc]⟩
  obtain ⟨front, closed⟩ := closes
  rw [closed, String.toList_append, List.getLast?_append]
  rfl

theorem trim_text {w : WrittenDirective} (formed : w.WellFormed) : Text.trim w.text = w.text := by
  obtain ⟨⟨area, brackets⟩, level⟩ := w
  obtain ⟨⟨-, shown⟩, -, filled⟩ := formed.subject
  refine trim_eq (fun c first => ?_) (fun c last => ?_)
  · rw [toList_text, Subject.text, String.toList_append, List.append_assoc] at first
    cases letters : area.toList with
    | cons d ds =>
      rw [letters] at first
      obtain rfl := Option.some.inj first
      exact shown d (letters ▸ List.mem_cons_self)
    | nil =>
      cases brackets with
      | none => exact absurd (String.toList_eq_nil_iff.mp letters) (filled rfl)
      | some b =>
        obtain ⟨text, written⟩ := toList_bracketed b
        rw [letters, List.nil_append, Option.map_some, Option.getD_some, written] at first
        obtain rfl := Option.some.inj first
        rfl
  · rw [toList_text] at last
    cases level with
    | some name =>
      have member : c ∈ '=' :: name.toList := by
        refine List.mem_of_getLast? ?_
        rwa [Option.map_some, Option.getD_some, List.getLast?_append_of_ne_nil _ (by simp)] at last
      obtain rfl | member := List.mem_cons.mp member
      · rfl
      · exact isBlank_of_isAlphanum ((formed.level name rfl).isAlphanum member)
    | none =>
      rw [Option.map_none, Option.getD_none, List.append_nil, Subject.text] at last
      cases brackets with
      | none => exact shown c (List.mem_of_getLast? (by simpa using last))
      | some b =>
        have closed : (area ++ b.text).toList.getLast? = some ']' := by
          rw [String.toList_append, List.getLast?_append, getLast?_bracketed]
          rfl
        obtain rfl := Option.some.inj (closed.symm.trans last)
        rfl

theorem comma_not_mem_bracketed {b : Brackets} (formed : b.WellFormed) : ',' ∉ b.text.toList := by
  have apart : ',' ∉ b.span.toList := fun member => formed.span _ member (by decide)
  obtain ⟨span, _ | field⟩ := b
  · simpa [Brackets.text] using apart
  · have apart' := not_mem_fieldText formed rfl (c := ',') (by decide)
    simpa [Brackets.text] using ⟨apart, apart'⟩

theorem comma_not_mem_text {w : WrittenDirective} (formed : w.WellFormed) :
    ',' ∉ w.text.toList := by
  obtain ⟨⟨area, brackets⟩, level⟩ := w
  obtain ⟨⟨free, -⟩, bracketed, -⟩ := formed.subject
  have comma : ',' ∈ separators := by decide
  rw [toList_text, Subject.text, String.toList_append, List.mem_append, List.mem_append]
  rintro ((inArea | inBrackets) | inLevel)
  · exact free _ inArea comma
  · cases brackets with
    | none => simp at inBrackets
    | some b => exact comma_not_mem_bracketed (bracketed b rfl) inBrackets
  · cases level with
    | none => simp at inLevel
    | some name =>
      have member : ',' ∈ name.toList := by simpa using inLevel
      exact not_mem_of_isAlphanum ((formed.level name rfl).isAlphanum member) comma

theorem text_ne_empty {w : WrittenDirective} (formed : w.WellFormed) : w.text ≠ "" := by
  obtain ⟨⟨area, brackets⟩, level⟩ := w
  have filled := formed.subject.filled
  rw [← String.toList_inj.ne, toList_text, Subject.text]
  cases brackets with
  | none => 
    have some : area ≠ "" := filled rfl
    simp [some]
  | some b => 
    obtain ⟨text, written⟩ := toList_bracketed b
    simp [written]

theorem read?_text {w : WrittenDirective} (formed : w.WellFormed) :
    read? w.text = ofWritten? w := by
  rw [read?_eq (trim_text formed), behind?_text formed fun name given =>
    (formed.level name given).ne_empty]

/-! ## Levels -/

theorem ofText?_toLower (text : String) :
    Threshold.ofText? text.toLower = Threshold.ofText? text := by
  rw [Threshold.ofText?, Threshold.ofText?, Text.count?_toLower, Text.toLower_toLower]

theorem ofText?_lower {text : String} (h : IsLevel text) :
    Threshold.ofText? (Text.lower text) = Threshold.ofText? text := by
  rw [h.lower_eq, ofText?_toLower]

theorem ofText?_of_isLevel {text : String} (h : IsLevel text) :
    ∃ threshold, Threshold.ofText? text = some threshold := by
  have all : ∀ name ∈ levelNames, (Threshold.ofText? name).isSome = true := by decide +kernel
  rw [← ofText?_lower h]
  exact Option.isSome_iff_exists.mp (all _ h)

/-- Only levels are read as such, if an area does not look like a number. -/
theorem ofText?_eq_none {text : String} (other : ¬ IsLevel text) (filled : text ≠ "")
    (number : (∀ c ∈ text.toList, c.isDigit = true) → IsLevel text)
    (good : text.toList.head?.all begins = true) : Threshold.ofText? text = none := by
  have uncounted : Text.count? text = none := by
    have undigited : Text.countDigits? text.toList = none := by
      refine if_pos ?_
      rw [Bool.or_eq_true, Bool.not_eq_true']
      exact .inr (Bool.eq_false_iff.mpr fun digits => other (number (List.all_eq_true.mp digits)))
    rw [Text.count?]
    split
    · rename_i signed
      have signless : begins '+' = false := by decide +kernel
      rw [signed, List.head?_cons, Option.all_some, signless] at good
      exact absurd good Bool.false_ne_true
    · exact undigited
  have unnamed (name : String) (known : name ∈ levelNames) : text.toLower ≠ name :=
    fun same => other (isLevel_of_toLower known same)
  have full : text.toLower ≠ "" := by
    rw [← String.toList_inj.ne] at filled ⊢
    rw [String.toLower, String.toList_map]
    simpa using filled
  have unlisted : Level.ofName? text.toLower = none := by
    refine List.find?_eq_none.mpr fun level _ => ?_
    have known : level.name ∈ levelNames := by cases level <;> decide
    simpa using (unnamed _ known).symm
  rw [Threshold.ofText?, uncounted, Option.bind_none]
  simp only [String.isEmpty_iff, full, unnamed "off" (by decide), unlisted, if_false,
    Option.map_none]

theorem leveled?_lower {level : Option String} (formed : ∀ name ∈ level, IsLevel name) :
    d.leveled? (level.map Text.lower) = d.leveled? level := by
  cases level with
  | none => rfl
  | some name => rw [Option.map_some, leveled?, leveled?, ofText?_lower (formed name rfl)]

theorem begins_of_isLevel {text : String} (h : IsLevel text) :
    text.toList.head?.all begins = true := by
  cases letters : text.toList with
  | nil => rfl
  | cons c cs =>
    have plain := Text.isAlphanumeric_of_isAlphanum (h.isAlphanum (letters ▸ List.mem_cons_self))
    rw [List.head?_cons, Option.all_some, begins, plain, Bool.or_true]

theorem ofWritten?_lowerLevel {w : WrittenDirective} (formed : w.WellFormed) :
    ofWritten? w.lowerLevel = ofWritten? w := by
  obtain ⟨⟨area, brackets⟩, level⟩ := w
  unfold WrittenDirective.lowerLevel
  split
  · rename_i bare
    obtain ⟨rfl, rfl, isLevel⟩ : brackets = none ∧ level = none ∧ IsLevel area := bare
    have lowered := isLevel_lower.mpr isLevel
    simp only [ofWritten?, WrittenDirective.lower, Subject.lower, Option.map_none,
      begins_of_isLevel isLevel, begins_of_isLevel lowered, if_true, ofText?_lower isLevel]
    obtain ⟨threshold, read⟩ := ofText?_of_isLevel isLevel
    rw [read]
  · cases brackets with
    | none => 
      cases level with
      | none => rfl
      | some name =>
        have same := ofText?_lower (formed.level name rfl)
        simp only [ofWritten?, Option.map_some, leveled?, same]
    | some b =>
      simp only [ofWritten?, leveled?_lower formed.level]

/-! ## What was read -/

def brackets? (d : Directive) : Option Brackets :=
  if d.span = none ∧ d.field = none then none else some (Brackets.told ⟨d.span.getD "", d.field⟩)

/-- What the directive is about. -/
def subject? (d : Directive) : Option Subject :=
  if d.area = none ∧ d.brackets? = none then none else some ⟨d.area.getD "", d.brackets?⟩

theorem subject?_leveled {level : Option String} {e : Directive}
    (read : d.leveled? level = some e) : e.subject? = d.subject? := by
  cases level with
  | none => rw [Option.some.inj read]
  | some name =>
    obtain ⟨threshold, -, rfl⟩ := Option.map_eq_some_iff.mp read
    rfl

theorem brackets?_of_bracketed {area : Option String} {b : Brackets} {e : Directive}
    (read : bracketed? { area } b = some e) : e.area = area ∧ e.brackets? = some b.told := by
  obtain ⟨span, _ | field⟩ := b
  · obtain rfl := Option.some.inj read
    exact ⟨rfl, rfl⟩
  · have added : bracketed? { area } ⟨span, some field⟩ =
        if field.2.all isValue then
          some { area, span := if span = "" then none else some span, field := some field }
        else none := rfl
    rw [added] at read
    split at read
    · obtain rfl := Option.some.inj read
      refine ⟨rfl, ?_⟩
      rw [brackets?, if_neg (by simp)]
      by_cases empty : span = "" <;> simp [empty]
    · simp at read

/-- What a directive is about is found in what was read. -/
theorem subject?_of_ofWritten {w : WrittenDirective} (formed : w.WellFormed)
    (read : ofWritten? w = some d) : d.subject? = w.subject? := by
  obtain ⟨⟨area, brackets⟩, level⟩ := w
  unfold ofWritten? at read
  split at read
  · rename_i good
    cases brackets with
    | some b =>
      obtain ⟨e, bracketed, leveled⟩ := Option.bind_eq_some_iff.mp read
      obtain ⟨sameArea, sameBrackets⟩ := brackets?_of_bracketed bracketed
      have about : WrittenDirective.subject? ⟨⟨area, some b⟩, level⟩ = some ⟨area, some b.told⟩ :=
        if_neg fun bare => absurd bare.1 (by simp)
      rw [about, subject?_leveled leveled, subject?, sameArea, sameBrackets,
        if_neg fun none => absurd none.2 (by simp)]
      by_cases empty : area = "" <;> simp [empty]
    | none =>
      have filled : area ≠ "" := formed.subject.filled rfl
      cases level with
      | some name =>
        rw [subject?_leveled read, WrittenDirective.subject?,
          if_neg fun bare => absurd bare.2.1 (by simp)]
        rfl
      | none =>
        rw [WrittenDirective.subject?]
        by_cases isLevel : IsLevel area
        · obtain ⟨threshold, level⟩ := ofText?_of_isLevel isLevel
          rw [if_pos ⟨rfl, rfl, isLevel⟩]
          simp only [level, Option.some.injEq] at read
          rw [← read]
          rfl
        · have unread := ofText?_eq_none isLevel filled (formed.number rfl rfl) good
          rw [if_neg fun bare => isLevel bare.2.2]
          simp only [unread, Option.some.injEq] at read
          rw [← read]
          rfl
  · simp at read

end Directive

/-! ## Filters -/

namespace Filter

variable {ws : List WrittenDirective} {ds : List Directive}

theorem parts_texts (formed : ∀ w ∈ ws, w.WellFormed) :
    parts (WrittenDirective.texts ws) = ws.map WrittenDirective.text := by
  cases ws with
  | nil =>
    have split : (WrittenDirective.texts []).splitOn "," = [""] :=
      Text.splitOn_intercalate ',' [""] (by simp) (by simp)
    rw [parts, split]
    rfl
  | cons w ws =>
    have split : (WrittenDirective.texts (w :: ws)).splitOn "," =
        (w :: ws).map WrittenDirective.text :=
      Text.splitOn_intercalate ',' _
        (by simpa using fun w member => Directive.comma_not_mem_text (formed w member)) (by simp)
    rw [parts, split, List.filter_eq_self]
    intro text written
    obtain ⟨w, member, rfl⟩ := List.mem_map.mp written
    simpa using Directive.text_ne_empty (formed w member)

theorem mapM_read? (formed : ∀ w ∈ ws, w.WellFormed) :
    (ws.map WrittenDirective.text).mapM Directive.read? = ws.mapM Directive.ofWritten? := by
  induction ws with
  | nil => rfl
  | cons w ws ih =>
    rw [List.map_cons, List.mapM_cons, List.mapM_cons,
      Directive.read?_text (formed w List.mem_cons_self),
      ih fun w later => formed w (List.mem_cons_of_mem _ later)]

theorem read?_texts (formed : ∀ w ∈ ws, w.WellFormed) :
    read? (WrittenDirective.texts ws) = (ws.mapM Directive.ofWritten?).map Filter.mk := by
  rw [read?, parts_texts formed, mapM_read? formed]

theorem wellFormed_lowerLevel {w : WrittenDirective} (formed : w.WellFormed) :
    w.lowerLevel.WellFormed := by
  unfold WrittenDirective.lowerLevel
  split
  · exact formed.lower
  · rename_i told
    refine ⟨formed.subject, fun _ lowered => ?_, fun alone none digits => ?_⟩
    · obtain ⟨name, given, rfl⟩ := Option.map_eq_some_iff.mp lowered
      exact isLevel_lower.mpr (formed.level name given)
    · exact formed.number alone (Option.map_eq_none_iff.mp none) digits

theorem mapM_lowerLevel (formed : ∀ w ∈ ws, w.WellFormed) :
    (ws.map WrittenDirective.lowerLevel).mapM Directive.ofWritten? =
      ws.mapM Directive.ofWritten? := by
  induction ws with
  | nil => rfl
  | cons w ws ih =>
    rw [List.map_cons, List.mapM_cons, List.mapM_cons,
      Directive.ofWritten?_lowerLevel (formed w List.mem_cons_self),
      ih fun w later => formed w (List.mem_cons_of_mem _ later)]

theorem filterMap_subject? (formed : ∀ w ∈ ws, w.WellFormed)
    (read : ws.mapM Directive.ofWritten? = some ds) :
    ds.filterMap Directive.subject? = ws.filterMap WrittenDirective.subject? := by
  induction ws generalizing ds with
  | nil =>
    obtain rfl := Option.some.inj read
    rfl
  | cons w ws ih =>
    rw [List.mapM_cons] at read
    obtain ⟨d, first, read⟩ := Option.bind_eq_some_iff.mp read
    obtain ⟨others, rest, read⟩ := Option.bind_eq_some_iff.mp read
    obtain rfl := Option.some.inj read
    rw [List.filterMap_cons, List.filterMap_cons,
      Directive.subject?_of_ofWritten (formed w List.mem_cons_self) first,
      ih (fun w later => formed w (List.mem_cons_of_mem _ later)) rest]

theorem language_rules : language.Rules where
  levels {ws} formed := by
    have formed' : ∀ w ∈ ws.map WrittenDirective.lowerLevel, w.WellFormed := by
      simpa using fun w member => wellFormed_lowerLevel (formed w member)
    change read? _ = read? _
    rw [read?_texts formed', read?_texts formed, mapM_lowerLevel formed]
  subjects {ws ws' filter} formed formed' read read' subject := by
    change read? _ = _ at read read'
    rw [read?_texts formed] at read
    rw [read?_texts formed'] at read'
    obtain ⟨ds, directives, rfl⟩ := Option.map_eq_some_iff.mp read
    obtain ⟨ds', directives', same⟩ := Option.map_eq_some_iff.mp read'
    obtain rfl : ds' = ds := by simpa using same
    rw [← filterMap_subject? formed directives, filterMap_subject? formed' directives']

end Filter

end Precedence
