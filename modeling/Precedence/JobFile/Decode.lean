import Precedence.JobFile
import Precedence.Toml.Document
/-!
# Job files as documents

A job file is written as a document with a table `job`, which holds one table per job, and a table
`scheduler`. Keys without a meaning are ignored. The entries of a table are visited in ascending
order of their keys, and the first value that does not fit is reported. A table with fixed keys may
also be written as an array of the values of its keys, in their order.
-/

namespace Precedence.JobFile

open Toml (Scalar Node Entries)

/-- The key under which a moment is found when it is read as a table. -/
def momentKey : String := "$__toml_private_datetime"

inductive Offer where
  | scalar (value : Scalar)
  | sequence (items : List Node)
  | mapping (entries : Entries)

def byKey (a b : String × Node) : Bool := decide (a.1 ≤ b.1)

/-- A moment is offered as a table, and the tables of a repeated header as a sequence. -/
def Offer.ofNode : Node → Offer
  | .scalar (.moment value) => .mapping [(momentKey, .scalar (.text value.text))]
  | .scalar value => .scalar value
  | .array items => .sequence items
  | .tables items => .sequence (items.map (.table .defined))
  | .table _ entries => .mapping (entries.mergeSort byKey)

def Offer.describe : Offer → String
  | .scalar (.text value) => s!"string {Text.quote value}"
  | .scalar (.integer value) => s!"integer \x60{value}\x60"
  | .scalar (.float value) => s!"floating point \x60{value.text}\x60"
  | .scalar (.boolean value) => s!"boolean \x60{value}\x60"
  | .scalar (.moment _) | .mapping _ => "map"
  | .sequence _ => "sequence"

def unfit {α : Type} (offer : Offer) (expected : String) : Except String α :=
  .error s!"invalid type: {offer.describe}, expected {expected}"

def text (node : Node) : Except String String :=
  match Offer.ofNode node with
  | .scalar (.text value) => .ok value
  | offer => unfit offer "a string"

/-- Counts go up to 64 bits. -/
def count (node : Node) : Except String Nat :=
  match Offer.ofNode node with
  | .scalar (.integer value) =>
    if 0 ≤ value ∧ value < Nat.pow 2 64 then .ok value.toNat
    else .error s!"invalid value: integer \x60{value}\x60, expected usize"
  | offer => unfit offer "usize"

def texts (node : Node) : Except String (List String) :=
  match Offer.ofNode node with
  | .sequence items => items.mapM text
  | offer => unfit offer "a sequence"

def visit {σ : Type} (field : σ → String → Node → Except String σ) (start : σ)
    (entries : Entries) : Except String σ :=
  entries.foldlM (fun state (key, node) => field state key node) start

def positional (keys : List String) (items : List Node) : Entries := keys.zip items

structure Draft where
  command : Option String := none
  after : List String := []
  description : Option String := none

def Draft.field (draft : Draft) (key : String) (node : Node) : Except String Draft :=
  match key with
  | "cmd" => return { draft with command := some (← text node) }
  | "after" => return { draft with after := ← texts node }
  | "description" => return { draft with description := some (← text node) }
  | _ => return draft

def Draft.finish (draft : Draft) (missing : String) : Except String JobSpec :=
  match draft.command with
  | none => .error missing
  | some command => .ok ⟨command, draft.after.map JobId.mk, draft.description⟩

def job (node : Node) : Except String JobSpec := do
  match Offer.ofNode node with
  | .mapping entries =>
    (← visit Draft.field {} entries).finish "missing field \x60cmd\x60"
  | .sequence items =>
    (← visit Draft.field {} (positional ["cmd", "after", "description"] items)).finish
      "invalid length 0, expected struct JobConfig with 3 elements"
  | offer => unfit offer "struct JobConfig"

def workersField (workers : Option Nat) (key : String) (node : Node) :
    Except String (Option Nat) :=
  if key = "workers" then some <$> count node else .ok workers

def scheduler (node : Node) : Except String (Option Nat) :=
  match Offer.ofNode node with
  | .mapping entries => visit workersField none entries
  | .sequence items => visit workersField none (positional ["workers"] items)
  | offer => unfit offer "struct SchedulerSection"

def jobTable (file : JobFile) (node : Node) : Except String JobFile :=
  match Offer.ofNode node with
  | .mapping entries =>
    visit (fun file name node => return file.put ⟨name⟩ (← job node)) file entries
  | offer => unfit offer "a map"

def field (file : JobFile) (key : String) (node : Node) : Except String JobFile :=
  match key with
  | "job" => jobTable file node
  | "scheduler" => return { file with workers := ← scheduler node }
  | _ => .ok file

/-- Whether a value holds an integer outside of the range of signed 64-bit words. -/
def holdsWide : Node → Bool
  | .scalar (.integer value) => value < -Nat.pow 2 63 || Nat.pow 2 63 ≤ value
  | .scalar _ => false
  | .array items => items.attach.any fun ⟨item, _⟩ => holdsWide item
  | .tables items => items.attach.any fun ⟨table, _⟩ =>
    table.attach.any fun ⟨entry, _⟩ => holdsWide entry.2
  | .table _ entries => entries.attach.any fun ⟨entry, _⟩ => holdsWide entry.2
termination_by node => sizeOf node
decreasing_by
  all_goals simp_wf
  · rename_i member
    have := List.sizeOf_lt_of_mem member
    omega
  · rename_i inner
    have := List.sizeOf_lt_of_mem ‹table ∈ items›
    have := List.sizeOf_lt_of_mem inner
    cases entry
    simp_all
    omega
  · rename_i member
    have := List.sizeOf_lt_of_mem member
    cases entry
    simp_all
    omega

/-- Decodes a document. When a value does not fit, an integer outside of the range of signed 64-bit
words anywhere makes the document malformed. -/
def decode (document : Entries) : Except TomlError JobFile :=
  match visit field {} (document.mergeSort byKey) with
  | .ok file => .ok file
  | .error reason =>
    if document.any fun entry => holdsWide entry.2 then .error .malformed
    else .error (.unfit reason)

def ofText (text : String) : Except TomlError JobFile :=
  match Toml.Document.read? text with
  | none => .error .malformed
  | some document => decode document

def load : Contents → Except Error JobFile := loadBy ofText

def loadChecked (contents : Contents) : Except Error (JobFile × Graph) := do
  (← load contents).validated

end Precedence.JobFile
