import Precedence.Decimal.Binary
import Precedence.Toml.Moment
/-!
# Values of a configuration document

A document is a table. While it is read, a table also knows how it came to be, because that decides
whether it may be extended later (`Kind`). A value that is not a table or an array is a `Scalar`.
-/

namespace Precedence.Toml

inductive Scalar where
  | text (value : String)
  | integer (value : Int)
  | float (value : Decimal.Number)
  | boolean (value : Bool)
  | moment (value : Moment)
deriving DecidableEq, Repr

inductive Kind where
  /-- By a header of its own, or as the document. -/
  | defined
  /-- As a step on the way to a header. -/
  | implied
  /-- As a step of a dotted key. -/
  | dotted
  | inline
deriving DecidableEq, Repr

inductive Node where
  | scalar (value : Scalar)
  | array (items : List Node)
  /-- The tables of a repeated header, in order. -/
  | tables (items : List (List (String × Node)))
  | table (kind : Kind) (entries : List (String × Node))

abbrev Entries := List (String × Node)

namespace Entries

def replace (entries : Entries) (key : String) (node : Node) : Entries :=
  entries.map fun entry => if entry.1 = key then (key, node) else entry

/-- Whether a table may be entered on the way along a dotted key or a header. -/
def mayEnter (dotted : Bool) (kind : Kind) : Bool :=
  kind ≠ .inline && !(dotted && kind = .defined)

/-- Changes the table at the end of a path. Steps that are missing are made; a repeated header is
entered at its last table. -/
def update (dotted : Bool) (change : Kind → Entries → Option Entries) :
    List String → Kind → Entries → Option Entries
  | [], kind, entries => change kind entries
  | key :: path, _, entries =>
    match entries.lookup key with
    | none =>
      let kind : Kind := if dotted then .dotted else .implied
      (update dotted change path kind []).map fun inner => entries ++ [(key, .table kind inner)]
    | some (.table kind inner) =>
      if mayEnter dotted kind then
        (update dotted change path kind inner).map fun inner =>
          entries.replace key (.table kind inner)
      else none
    | some (.tables items) =>
      match items.getLast? with
      | none => none
      | some last =>
        (update dotted change path .defined last).map fun last =>
          entries.replace key (.tables (items.dropLast ++ [last]))
    | some _ => none

/-- Adds a key with its value. Neither may a key be given twice, nor a table be filled both with
dotted keys and in another way. -/
def insert (path : List String) (key : String) (node : Node) (kind : Kind) (entries : Entries) :
    Option Entries :=
  let dotted := !path.isEmpty
  update dotted (fun kind entries =>
    if decide (kind = .dotted) = dotted && (entries.lookup key).isNone then
      some (entries ++ [(key, node)])
    else none) path kind entries

/-- Opens a table with a header: a new one, or one that was only a step before. -/
def openTable (path : List String) (key : String) (entries : Entries) : Option Entries :=
  update false (fun _ entries =>
    match entries.lookup key with
    | none => some (entries ++ [(key, .table .defined [])])
    | some (.table .implied inner) => some (entries.replace key (.table .defined inner))
    | some _ => none) path .defined entries

def openNext (path : List String) (key : String) (entries : Entries) : Option Entries :=
  update false (fun _ entries =>
    match entries.lookup key with
    | none => some (entries ++ [(key, .tables [[]])])
    | some (.tables items) => some (entries.replace key (.tables (items ++ [[]])))
    | some _ => none) path .defined entries

end Entries

end Precedence.Toml
