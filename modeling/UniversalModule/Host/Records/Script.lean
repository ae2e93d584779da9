import UniversalModule.Host.Regex.Basic

/-!
Scripts that work on records: rules, each with the records to which it applies and with what is done
to them.
-/

namespace UniversalModule.Host.Records

inductive Arithmetic where
  | plus
  | minus
  | times
  | dividedBy
  | remainder
  | power
deriving DecidableEq

inductive Relation where
  | less
  | notMore
  | equal
  | notEqual
  | notLess
  | more
deriving DecidableEq

inductive LineSource where
  | records
  | file
  | command
deriving DecidableEq

inductive Expression where
  | number (value : Float)
  | text (text : Text)
  | regex (regex : Regex)
  | variable (name : Text)
  | element (array : Text) (index : List Expression)
  | field (number : Expression)
  /-- Gives a value to a variable, an element or a field; with an operation, to the old value first. -/
  | assign (operation : Option Arithmetic) (target value : Expression)
  /-- Changes a variable, an element or a field by one; the value is the old or the new one. -/
  | step (isUp givesNew : Bool) (target : Expression)
  | condition (test first second : Expression)
  | both (first second : Expression)
  | either (first second : Expression)
  | not (inner : Expression)
  | negative (inner : Expression)
  | positive (inner : Expression)
  | arithmetic (operation : Arithmetic) (first second : Expression)
  | relation (relation : Relation) (first second : Expression)
  | fits (text pattern : Expression)
  | isIn (index : List Expression) (array : Text)
  | joined (first second : Expression)
  /-- A function of the script. -/
  | call (name : Text) (arguments : List Expression)
  /-- A function that every script has. -/
  | builtin (name : Text) (arguments : List Expression)
  | line (source : LineSource) (from? target : Option Expression)
deriving Inhabited

namespace Expression

/-- Whether a value can be given to what an expression names. -/
def isTarget : Expression → Bool
  | .variable _ => true
  | .element _ _ => true
  | .field _ => true
  | _ => false

end Expression

inductive Direction where
  | over
  | behind
  | command
deriving DecidableEq

structure Target where
  direction : Direction
  name : Expression

inductive Statement where
  | empty
  | expression (expression : Expression)
  | print (values : List Expression) (target : Option Target)
  | format (values : List Expression) (target : Option Target)
  | block (statements : List Statement)
  | cond (test : Expression) (first second : Statement)
  | whilst (test : Expression) (body : Statement)
  | doWhilst (body : Statement) (test : Expression)
  | count (start : Statement) (test : Option Expression) (step body : Statement)
  | each (name array : Text) (body : Statement)
  | delete (array : Text) (index : Option (List Expression))
  | goOn
  | leave
  | next
  | nextFile
  | exit (status : Option Expression)
  | giveBack (value : Option Expression)
deriving Inhabited

inductive Selection where
  | atStart
  | atEnd
  | all
  | those (test : Expression)
  | range (first last : Expression)

structure Rule where
  selection : Selection
  /-- Without one, the record is printed. -/
  action : Option Statement

structure Function where
  parameters : List Text
  body : Statement
deriving Inhabited

structure Script where
  rules : List Rule
  functions : Keyed Text Function

end UniversalModule.Host.Records
