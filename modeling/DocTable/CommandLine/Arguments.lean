import DocTable.Text.Search

/-!
The arguments of the command line: `run QUERY` and `ping`, both with `--config PATH`, and the ways
to ask for help. The value of an option stands behind `=` or in the argument that follows; `--` ends
the options. Faults are reported as they are met from left to right, those of an option's value only
when the next argument that is known has been read.
-/

namespace DocTable.CommandLine

inductive Invocation where
  | run (query config : String)
  | ping (config : String)
  deriving DecidableEq, Repr

inductive UsageProblem where
  | helpAsked
  | nothingAsked
  | unknownCommand
  | unknownArgument
  | queryMissing
  | valueMissing
  | optionRepeated
  | valueNotTaken
  deriving DecidableEq, Repr

inductive Argument where
  | separator
  /-- A name behind two dashes, with the value behind `=`, if there is one. -/
  | option (name : String) (value : Option String)
  /-- Letters behind one dash, of which the first decides. -/
  | letters (first : Char)
  | plain (text : String)
  deriving DecidableEq, Repr

/-- A single dash is plain. -/
def Argument.ofText (text : String) : Argument :=
  match text.toList with
  | ['-', '-'] => .separator
  | '-' :: '-' :: rest =>
    match Text.breakOn? ['='] rest with
    | some (name, value) => .option (String.ofList name) (some (String.ofList value))
    | none => .option (String.ofList rest) none
  | '-' :: first :: _ => .letters first
  | _ => .plain text

/-- What an option in front of the command amounts to, and an option of a command that is not its
configuration: help, or a fault. -/
def helpOr : Argument → UsageProblem
  | .option name value =>
    if name = "help" then if value.isSome then .valueNotTaken else .helpAsked else .unknownArgument
  | .letters first => if first = 'h' then .helpAsked else .unknownArgument
  | _ => .unknownArgument

/-! ## Arguments of a command -/

inductive Task where
  | run
  | ping
  deriving DecidableEq, Repr

def Task.ofName? (name : String) : Option Task :=
  if name = "run" then some .run else if name = "ping" then some .ping else none

/-- The state of a `--config` whose value is an argument of its own. -/
inductive Pending where
  | nothing
  /-- The value is still to come. -/
  | option
  /-- The value is there, but not looked at yet. -/
  | value (path : String)
  deriving DecidableEq, Repr

structure Gathered where
  query : Option String
  config : Option String
  pending : Pending
  deriving DecidableEq, Repr

namespace Gathered

def empty : Gathered := ⟨none, none, .nothing⟩

def setConfig (g : Gathered) (path : String) : Except UsageProblem Gathered :=
  if g.config.isSome then .error .optionRepeated else .ok ⟨g.query, some path, .nothing⟩

def settle (g : Gathered) : Except UsageProblem Gathered :=
  match g.pending with
  | .nothing => .ok g
  | .option => .error .valueMissing
  | .value path => g.setConfig path

/-- An argument that is no option: the query, where one is taken and none was given. -/
def addPlain (task : Task) (g : Gathered) (text : String) : Except UsageProblem Gathered :=
  if task = .run ∧ g.query.isNone then do
    let g ← g.settle
    .ok { g with query := some text }
  else .error .unknownArgument

def add (task : Task) (g : Gathered) : Argument → Except UsageProblem Gathered
  | .separator => .ok g
  | .plain text =>
    if g.pending = .option then .ok { g with pending := .value text } else g.addPlain task text
  | .option name value =>
    if name = "config" then do
      let g ← g.settle
      match value with
      | some path => g.setConfig path
      | none => .ok { g with pending := .option }
    else refuse g (helpOr (.option name value))
  | .letters first => refuse g (helpOr (.letters first))
where
  /-- Help is an option that is known, so a value that waits is looked at before. -/
  refuse (g : Gathered) (problem : UsageProblem) : Except UsageProblem Gathered := do
    if problem = .helpAsked then let _ ← g.settle
    .error problem

def addAll (task : Task) : (optionsEnded : Bool) → Gathered → List String →
    Except UsageProblem Gathered
  | _, g, [] => g.settle
  | true, g, text :: rest => do addAll task true (← g.addPlain task text) rest
  | false, g, text :: rest => do
    let argument := Argument.ofText text
    addAll task (decide (argument = .separator)) (← g.add task argument) rest

end Gathered

def defaultConfig : String := "mongo-cli.toml"

namespace Invocation

def ofTask (task : Task) (arguments : List String) : Except UsageProblem Invocation := do
  let g ← Gathered.empty.addAll task false arguments
  let config := g.config.getD defaultConfig
  match task, g.query with
  | .ping, _ => .ok (.ping config)
  | .run, some query => .ok (.run query config)
  | .run, none => .error .queryMissing

def helpOn : List String → UsageProblem
  | [] => .helpAsked
  | [topic] =>
    if topic = "help" ∨ (Task.ofName? topic).isSome then .helpAsked else .unknownCommand
  | _ => .unknownCommand

/-- What the arguments ask for. Behind a separator no command can stand. -/
def ofArguments : List String → Except UsageProblem Invocation
  | [] => .error .nothingAsked
  | first :: rest =>
    match Argument.ofText first with
    | .separator => .error (if rest.isEmpty then .nothingAsked else .unknownArgument)
    | .plain name =>
      if name = "help" then .error (helpOn rest)
      else match Task.ofName? name with
        | some task => ofTask task rest
        | none => .error .unknownCommand
    | argument => .error (helpOr argument)

end Invocation

end DocTable.CommandLine
