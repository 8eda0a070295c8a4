import Precedence.Shell.Tool.Awk.Value

namespace Precedence.Shell.Tool.Awk

inductive Operator where
  | add | subtract | multiply | divide | remainder | power
  | less | atMost | equal | unequal | more | atLeast
  | join
deriving DecidableEq

/-- Where `getline` reads from. -/
inductive Source (ε : Type) where
  | records
  | file (path : ε)
  | command (text : ε)

inductive Target (ε : Type) where
  | output
  | file (appending : Bool) (path : ε)
  | command (text : ε)

inductive Expr where
  | number (value : Float)
  | text (value : Bytes)
  /-- Whether the record has a match. -/
  | regex (source : Bytes)
  | named (name : Bytes)
  | element (array : Bytes) (index : List Expr)
  | field (place : Expr)
  /-- An operator in front of the sign joins what was there before. -/
  | assign (place : Expr) (op : Option Operator) (value : Expr)
  | step (place : Expr) (change : Float) (before : Bool)
  | negate (body : Expr)
  | plus (body : Expr)
  | not (body : Expr)
  | binary (op : Operator) (first second : Expr)
  | both (first second : Expr)
  | either (first second : Expr)
  | choice (condition first second : Expr)
  | accepts (subject pattern : Expr)
  | contains (index : List Expr) (array : Bytes)
  | call (function : Bytes) (arguments : List Expr)
  /-- A function that every program has. -/
  | standard (function : String) (arguments : List Expr)
  | getline (source : Source Expr) (place : Option Expr)

inductive Statement where
  | nothing
  | value (body : Expr)
  | print (arguments : List Expr) (target : Target Expr)
  | printf (arguments : List Expr) (target : Target Expr)
  | delete (array : Bytes) (index : Option (List Expr))
  | chain (first second : Statement)
  | branch (condition : Expr) (first second : Statement)
  /-- The condition may be tested for the first time behind the first turn. -/
  | loop (afterwards : Bool) (condition : Option Expr) (step body : Statement)
  | forKeys (name array : Bytes) (body : Statement)
  | next
  | nextFile
  | exit (status : Option Expr)
  | giveBack (value : Option Expr)
  | leave
  | again

inductive Selection where
  | start
  | finish
  | every
  | when (condition : Expr)
  /-- From a record for which the first holds up to the next one for which the second does. -/
  | range (first last : Expr)

structure Function where
  parameters : List Bytes
  body : Statement

/-- What is run for records. Without an action, they are printed. -/
structure Rule where
  selection : Selection
  action : Option Statement

structure Program where
  rules : List Rule := []
  functions : List (Bytes × Function) := []

end Precedence.Shell.Tool.Awk
