/-!
The grammar of command lines: options with and without values, in long and short form, then a
command with options and operands of its own. Arguments are read from left to right, and the first
thing that is wrong, or that asks for help, decides.
-/

namespace MqAdmin.CommandLine

/-- Why reading ends before there are arguments to work with. -/
inductive Stop where
  | usage
  | shown
deriving DecidableEq

/-- What follows the name of an option. -/
inductive Argument where
  | nothing
  | value (accepts : String → Bool)
  /-- Values that pass a test; the option may repeat. -/
  | values (accepts : String → Bool)
  | help

structure OptionRule where
  long : String
  short : Option Char := none
  argument : Argument

/-- What stands for itself behind a command. -/
structure OperandRule where
  required : Bool
  accepts : String → Bool := fun _ => true

/-- What may stand at one level: before the command, or after it. -/
structure Level where
  options : List OptionRule
  operands : List OperandRule := []
  commands : List String := []

structure Found where
  /-- Options without value, by long name. -/
  flags : List String := []
  values : List (String × String) := []
  operands : List String := []
deriving DecidableEq

namespace Found

def has (found : Found) (name : String) : Bool := found.flags.contains name

def value? (found : Found) (name : String) : Option String := found.values.lookup name

def allValues (found : Found) (name : String) : List String :=
  found.values.filterMap fun (other, value) => if other = name then some value else none

/-- Notes a value of an option. It passes the option's test, and only a repeating option may have
been there before. -/
def noteValue (found : Found) (rule : OptionRule) (value : String) : Except Stop Found :=
  let noted := { found with values := found.values ++ [(rule.long, value)] }
  match rule.argument with
  | .value accepts =>
    if accepts value && (found.value? rule.long).isNone then .ok noted else .error .usage
  | .values accepts => if accepts value then .ok noted else .error .usage
  | _ => .error .usage

/-- Notes an option without value, which may stand only once. -/
def noteFlag (found : Found) (rule : OptionRule) : Except Stop Found :=
  if found.has rule.long then .error .usage
  else .ok { found with flags := found.flags ++ [rule.long] }

def noteOperand (found : Found) (rules : List OperandRule) (operand : String) :
    Except Stop Found :=
  match rules[found.operands.length]? with
  | some rule =>
    if rule.accepts operand then .ok { found with operands := found.operands ++ [operand] }
    else .error .usage
  | none => .error .usage

def isComplete (found : Found) (rules : List OperandRule) : Bool :=
  (rules.drop found.operands.length).all (!·.required)

end Found

/-- What an option is still owed. -/
inductive Open where
  | nothing
  | value (rule : OptionRule)
  /-- To note the value that came; this happens when the next argument of the level comes. -/
  | noting (rule : OptionRule) (value : String)

def Open.close (found : Found) : Open → Except Stop Found
  | .nothing => .ok found
  | .value _ => .error .usage
  | .noting rule text => found.noteValue rule text

/-- An option by its long name, with the value that an equals sign attaches. -/
def readLong (level : Level) (found : Found) (name : String) (attached : Option String) :
    Except Stop (Found × Open) :=
  match level.options.find? (·.long = name) with
  | none => .error .usage
  | some rule => match rule.argument, attached with
    | .help, none => .error .shown
    | .nothing, none => do return (← found.noteFlag rule, .nothing)
    | .help, some _ | .nothing, some _ => .error .usage
    | _, some value => do return (← found.noteValue rule value, .nothing)
    | _, none => .ok (found, .value rule)

/-- Options by their short names. The first that takes a value takes the rest of the characters,
without an equals sign before them. -/
def readShort (level : Level) (found : Found) : List Char → Except Stop (Found × Open)
  | [] => .ok (found, .nothing)
  | c :: rest =>
    match level.options.find? (·.short = some c) with
    | none => .error .usage
    | some rule => match rule.argument with
      | .help => .error .shown
      | .nothing => do readShort level (← found.noteFlag rule) rest
      | _ => match rest with
        | [] => .ok (found, .value rule)
        | '=' :: value => do return (← found.noteValue rule (String.ofList value), .nothing)
        | value => do return (← found.noteValue rule (String.ofList value), .nothing)

inductive Look where
  | separator
  | long (name : String) (attached : Option String)
  | short (names : List Char)
  | plain

def lookOf (argument : String) : Look :=
  match argument.toList with
  | ['-', '-'] => .separator
  | '-' :: '-' :: rest =>
    let attached := match rest.dropWhile (· ≠ '=') with
      | _ :: value => some (String.ofList value)
      | [] => none
    .long (String.ofList (rest.takeWhile (· ≠ '='))) attached
  | '-' :: c :: rest => .short (c :: rest)
  | _ => .plain

/-- A command with the arguments after it, and what its level still owes. -/
structure Turn where
  command : String
  rest : List String
  owed : Open

def readOperands (level : Level) (found : Found) : List String → Except Stop Found
  | [] => .ok found
  | operand :: rest => do readOperands level (← found.noteOperand level.operands operand) rest

/-- Reads arguments of one level up to the end or to a command. -/
def readLevel (level : Level) (found : Found) (owed : Open) :
    List String → Except Stop (Found × Option Turn)
  | [] => do return (← owed.close found, none)
  | argument :: rest =>
    match owed, lookOf argument with
    | .value rule, .plain => readLevel level found (.noting rule argument) rest
    | .value _, _ => .error .usage
    | owed, .plain =>
      if level.commands.contains argument then .ok (found, some ⟨argument, rest, owed⟩)
      else do
        let found ← (← owed.close found).noteOperand level.operands argument
        readLevel level found .nothing rest
    | owed, .separator => do return (← readOperands level (← owed.close found) rest, none)
    | owed, .long name attached => do
      let (found, owed) ← readLong level (← owed.close found) name attached
      readLevel level found owed rest
    | owed, .short names => do
      let (found, owed) ← readShort level (← owed.close found) names
      readLevel level found owed rest

/-- A grammar: options that may stand at every level, those for the first level only, and the
commands. -/
structure Grammar where
  shared : List OptionRule
  first : List OptionRule
  commands : List (String × Level)

structure Line where
  before : Found
  command : String
  after : Found
deriving DecidableEq

namespace Line

/-- An option without value counts wherever it stands. -/
def has (line : Line) (name : String) : Bool := line.before.has name || line.after.has name

/-- An option's value; the one after the command counts more. -/
def value? (line : Line) (name : String) : Option String :=
  (line.after.value? name).or (line.before.value? name)

end Line

def helpCommand : String := "help"

/-- Reads a command line. What the first level owes when the command comes is looked at last. -/
def Grammar.read (grammar : Grammar) (arguments : List String) : Except Stop Line := do
  let names := grammar.commands.map (·.1)
  let level : Level :=
    { options := grammar.first ++ grammar.shared, commands := helpCommand :: names }
  match ← readLevel level {} .nothing arguments with
  | (_, none) => throw .usage
  | (found, some turn) =>
    match grammar.commands.lookup turn.command with
    | none =>
      let explained := turn.rest.isEmpty || (turn.rest.length == 1 &&
        turn.rest.all (helpCommand :: names).contains)
      throw (if explained then .shown else .usage)
    | some inner =>
      let inner := { inner with options := inner.options ++ grammar.shared }
      let (after, _) ← readLevel inner {} .nothing turn.rest
      if after.isComplete inner.operands then
        return ⟨← turn.owed.close found, turn.command, after⟩
      else throw .usage

end MqAdmin.CommandLine
