/-!
# Log lines

What the library tells about its work, apart from results. A line is kept as
data and only becomes text when it is printed, so that a filter can judge it by
its level, its target and the names of its fields.
-/

namespace GraphCourier

/-- How important a line is. -/
inductive LogLevel where
  | error
  | warn
  | info
  | debug
  | trace
deriving DecidableEq, Repr

namespace LogLevel

/-- The levels from the most to the least important. -/
def rank : LogLevel → Nat
  | error => 1
  | warn => 2
  | info => 3
  | debug => 4
  | trace => 5

def text : LogLevel → String
  | error => "ERROR"
  | warn => "WARN"
  | info => "INFO"
  | debug => "DEBUG"
  | trace => "TRACE"

end LogLevel

/-- One line, with named values. -/
structure LogLine where
  level : LogLevel
  /-- The part of the program that speaks. -/
  target : String
  message : String
  fields : List (String × String)
deriving DecidableEq, Repr

def LogLine.text (l : LogLine) : String :=
  l.level.text ++ " " ++ l.target ++ ": " ++ l.message ++
    String.join (l.fields.map fun f => " " ++ f.1 ++ "=" ++ f.2)

end GraphCourier
