import GraphCourier.FailurePolicy
import GraphCourier.Operation

/-!
# Command lines

A command line names a command: `run`, `plan`, or a single operation such as
`add-node 7`. `--config` may stand before or after the name, and the one after
it counts; `run` and `plan` take `--nodes`, and `run` takes `--policy`. A value
follows its option after an equals sign or as the next argument. After `--`
everything is an identifier.

Arguments are read from left to right. The first thing that is wrong makes the
whole line useless, unless help or the version was asked for before it.
-/

namespace GraphCourier

/-- What is to be done. -/
inductive Command where
  /-- Run the schedule of a complete graph. -/
  | run (nodes : Option NodeId) (policy : Option FailurePolicy)
  /-- Print the requests of such a run. -/
  | plan (nodes : Option NodeId)
  /-- Send one operation. -/
  | call (op : Operation)
deriving DecidableEq, Repr

/-- A command and the settings file to use. -/
structure Invocation where
  config : Option String
  command : Command
deriving DecidableEq, Repr

/-- What a command line asks for. -/
inductive Wish where
  | help
  | version
  | invoke (i : Invocation)
deriving DecidableEq, Repr

namespace CommandLine

def usage : String :=
  "Usage: graph-driver [--config <FILE>] <COMMAND>\n\n" ++
  "  run [--nodes <N>] [--policy <POLICY>]  send the requests of a run\n" ++
  "  plan [--nodes <N>]                     print them without sending\n" ++
  "  add-node <ID>            remove-node <ID>\n" ++
  "  add-edge <A> <B>         remove-edge <A> <B>\n" ++
  "  get-node <ID>            get-edge <A> <B>\n" ++
  "  get-neighbors <ID>       shortest-path <A> <B>\n" ++
  "  checkpoint\n" ++
  "  help [<COMMAND>]\n\n" ++
  "The policy is continue or abort. -V or --version prints the version.\n"

/-! ## Single arguments -/

/-- What an argument looks like. -/
inductive Argument where
  /-- Two dashes. -/
  | escape
  | long (name : String) (value : Option String)
  | short (letters : List Char)
  | word (text : String)
deriving DecidableEq, Repr

/-- Tells what an argument looks like. A single dash is a word. -/
def Argument.ofText (s : String) : Argument :=
  match s.toList with
  | ['-', '-'] => escape
  | '-' :: '-' :: cs =>
    let name := String.ofList (cs.takeWhile (· != '='))
    match cs.dropWhile (· != '=') with
    | _ :: value => long name (some (String.ofList value))
    | [] => long name none
  | '-' :: c :: cs => short (c :: cs)
  | _ => word s

/-- Whether an argument can be the value of the option before it. -/
def isValue (s : String) : Bool := Argument.ofText s == .word s

/-! ## Arguments of commands -/

/-- The options that take a value. -/
inductive Setting where
  | config
  | nodes
  | policy
deriving DecidableEq, Repr

/-- What the arguments of a command have said so far. -/
structure Draft where
  config : Option String
  nodes : Option NodeId
  policy : Option FailurePolicy
  ids : List NodeId
deriving DecidableEq, Repr

def Draft.empty : Draft := ⟨none, none, none, []⟩

/-- Gives an option its value, once. -/
def Draft.set (d : Draft) (option : Setting) (value : String) :
    Option Draft :=
  match option with
  | .config =>
    if d.config.isSome || value.isEmpty then none
    else some { d with config := some value }
  | .nodes =>
    if d.nodes.isSome then none
    else (NodeId.ofText? value).map fun n => { d with nodes := some n }
  | .policy =>
    if d.policy.isSome then none
    else (FailurePolicy.ofText? value).map fun p => { d with policy := some p }

/-- How a command takes its arguments. -/
structure Shape where
  takesNodes : Bool
  takesPolicy : Bool
  /-- The number of identifiers. -/
  arity : Nat
  /-- The command, once all identifiers are there. -/
  build : Draft → Option Command

/-- The shape of a command for one operation on a node. -/
def Shape.onNode (f : NodeId → Operation) : Shape where
  takesNodes := false
  takesPolicy := false
  arity := 1
  build d := match d.ids with
    | [a] => some (.call (f a))
    | _ => none

/-- The shape of a command for one operation on two nodes. -/
def Shape.onPair (f : NodeId → NodeId → Operation) : Shape where
  takesNodes := false
  takesPolicy := false
  arity := 2
  build d := match d.ids with
    | [a, b] => some (.call (f a b))
    | _ => none

/-- The shape of a command, by its name. -/
def shape? (name : String) : Option Shape :=
  match name with
  | "run" => some ⟨true, true, 0, fun d => some (.run d.nodes d.policy)⟩
  | "plan" => some ⟨true, false, 0, fun d => some (.plan d.nodes)⟩
  | "add-node" => some (.onNode .addNode)
  | "remove-node" => some (.onNode .removeNode)
  | "add-edge" => some (.onPair .addEdge)
  | "remove-edge" => some (.onPair .removeEdge)
  | "get-node" => some (.onNode .getNode)
  | "get-edge" => some (.onPair .getEdge)
  | "get-neighbors" => some (.onNode .getNeighbors)
  | "shortest-path" => some (.onPair .shortestPath)
  | "checkpoint" =>
    some ⟨false, false, 0, fun _ => some (.call .checkpoint)⟩
  | _ => none

/-- The option of a name, if the command takes it. -/
def Shape.option? (shape : Shape) (name : String) : Option Setting :=
  if name = "config" then some .config
  else if name = "nodes" ∧ shape.takesNodes = true then some .nodes
  else if name = "policy" ∧ shape.takesPolicy = true then some .policy
  else none

/-- Adds an identifier, if one is still due. -/
def Shape.addId (shape : Shape) (d : Draft) (text : String) : Option Draft :=
  if d.ids.length < shape.arity then
    (NodeId.ofText? text).map fun n => { d with ids := d.ids ++ [n] }
  else none

/-- What the arguments of a command come to. -/
inductive Reading where
  | help
  | draft (d : Draft)

/-- Reads the arguments of a command. `due` is the option whose value is to
come, and `plain` tells that nothing but identifiers is. -/
def readArguments (shape : Shape) (due : Option Setting) (plain : Bool)
    (d : Draft) : List String → Option Reading
  | [] => if due.isSome then none else some (.draft d)
  | a :: rest =>
    match due with
    | some option =>
      if isValue a then do
        readArguments shape none plain (← d.set option a) rest
      else none
    | none =>
      if plain then do
        readArguments shape none true (← shape.addId d a) rest
      else
        match Argument.ofText a with
        | .escape => readArguments shape none true d rest
        | .long "help" none => some .help
        | .long name value => do
          let option ← shape.option? name
          match value with
          | some v => readArguments shape none false (← d.set option v) rest
          | none => readArguments shape (some option) false d rest
        | .short letters =>
          if letters.head? = some 'h' then some .help else none
        | .word w => do
          readArguments shape none false (← shape.addId d w) rest

/-! ## Whole command lines -/

/-- Reads what follows the word `help`: nothing, or one command. -/
def readHelp : List String → Option Wish
  | [] => some .help
  | [name] =>
    if name = "help" ∨ (shape? name).isSome = true then some .help else none
  | _ => none

/-- Reads a command and its arguments, given the settings file named before
it. -/
def readCommand (config : Option String) (name : String)
    (rest : List String) : Option Wish := do
  let shape ← shape? name
  match ← readArguments shape none false .empty rest with
  | .help => return .help
  | .draft d =>
    if config = some "" then none
    else return .invoke ⟨d.config.or config, ← shape.build d⟩

/-- Reads a command line from the arguments before the command on. `due` tells
that the name of a settings file is to come. -/
def readLine (due : Bool) (config : Option String) :
    List String → Option Wish
  | [] => none
  | a :: rest =>
    if due then
      if isValue a ∧ config = none then readLine false (some a) rest else none
    else
      match Argument.ofText a with
      | .escape => none
      | .word "help" => readHelp rest
      | .word name => readCommand config name rest
      | .long name value =>
        if config = some "" then none
        else
          match name, value with
          | "help", none => some .help
          | "version", none => some .version
          | "config", none => readLine true config rest
          | "config", some v =>
            if v.isEmpty ∨ config.isSome = true then none
            else readLine false (some v) rest
          | _, _ => none
      | .short letters =>
        if config = some "" then none
        else if letters.head? = some 'h' then some .help
        else if letters.head? = some 'V' then some .version
        else none

/-- What a command line asks for, if it makes sense. -/
def parse (arguments : List String) : Option Wish :=
  readLine false none arguments

end CommandLine

end GraphCourier
