import DocumentSchema.CommandLine.Command

namespace DocumentSchema.CommandLine

/-- Why arguments are no command, or what else they ask for. -/
inductive UsageFault where
  | help
  | version
  | nothing
  | missingArgument
  | unknownArgument
  | unknownCommand
  | invalidValue
  | superfluousValue
  | repeated
  deriving DecidableEq

def UsageFault.exitCode : UsageFault → Nat
  | .help | .version => 0
  | _ => 2

inductive Verb where
  | check
  | validate
  | schema
  deriving DecidableEq

inductive Key where
  | blueprint
  | open
  | root
  | byLine
  | pointer
  | filter
  | input
  | all
  | print
  | out
  | help
  deriving DecidableEq

/-- How many values an option takes. -/
inductive Arity where
  | none
  | one
  | some
  deriving DecidableEq

namespace Key

def long : Key → String
  | blueprint => "blueprint"
  | .open => "open"
  | root => "root"
  | byLine => "ndjson"
  | pointer => "json-pointer"
  | filter => "jq-expr"
  | input => "input"
  | all => "all"
  | print => "print"
  | out => "out"
  | help => "help"

def short? : Key → Option Char
  | blueprint => some 'b'
  | root => some 'r'
  | input => some 'i'
  | out => some 'o'
  | help => some 'h'
  | _ => none

def arity : Key → Arity
  | blueprint | root | pointer | filter | out => .one
  | input => .some
  | .open | byLine | all | print | help => .none

def isPath : Key → Bool
  | blueprint | out => true
  | _ => false

end Key

namespace Verb

def ofName? : String → Option Verb
  | "check" => some check
  | "validate" => some validate
  | "schema" => some schema
  | _ => none

def keys : Verb → List Key
  | check => [.blueprint, .open, .help]
  | validate => [.blueprint, .open, .root, .byLine, .pointer, .filter, .input, .all, .print, .help]
  | schema => [.blueprint, .open, .root, .out, .help]

end Verb

/-- What was read so far. -/
structure Progress where
  given : List (Key × List String)
  pending : Option (Key × List String)
  closed : Bool

namespace Progress

def start : Progress := ⟨[], none, false⟩

def isGiven (p : Progress) (key : Key) : Bool := p.given.any (·.1 = key)

def values (p : Progress) (key : Key) : List String :=
  (p.given.filter (·.1 = key)).flatMap (·.2)

def value? (p : Progress) (key : Key) : Option String := (p.values key).head?

def give (p : Progress) (key : Key) (values : List String) : Except UsageFault Progress :=
  if key.arity ≠ .none ∧ values.isEmpty then .error .invalidValue
  else if key.arity ≠ .some ∧ p.isGiven key then .error .repeated
  else if key.isPath ∧ values.any (·.isEmpty) then .error .invalidValue
  else .ok { p with given := p.given ++ [(key, values)] }

def settle (p : Progress) : Except UsageFault Progress :=
  match p.pending with
  | none => .ok p
  | some (key, values) => { p with pending := none }.give key values

/-- An option by name, with the value that is attached to it. -/
def take (p : Progress) (key : Key) (attached : Option String) : Except UsageFault Progress :=
  match key.arity, attached with
  | .none, some _ => .error .superfluousValue
  | .none, none => do
    let p ← p.settle
    if key = .help then .error .help else p.give key []
  | _, some value => do (← p.settle).give key [value]
  | _, none => do return { (← p.settle) with pending := some (key, []) }

/-- An argument without a name: a value of the option before it. -/
def takePlain (p : Progress) (argument : String) : Except UsageFault Progress :=
  match p.pending with
  | some (key, values) =>
    if key.arity = .some || values.isEmpty then
      .ok { p with pending := some (key, values ++ [argument]) }
    else .error .unknownArgument
  | none => .error .unknownArgument

def step (verb : Verb) (p : Progress) (argument : String) : Except UsageFault Progress :=
  if p.closed then .error .unknownArgument else
    match argument.toList with
    | ['-', '-'] => .ok { p with closed := true }
    | '-' :: '-' :: rest =>
      let name := String.ofList (rest.takeWhile (· ≠ '='))
      let attached := match rest.dropWhile (· ≠ '=') with
        | [] => none
        | _ :: value => some (String.ofList value)
      match verb.keys.find? (·.long = name) with
      | some key => p.take key attached
      | none => .error .unknownArgument
    | '-' :: c :: rest =>
      match verb.keys.find? (·.short? = some c) with
      | none => .error .unknownArgument
      | some key =>
        match rest with
        | [] => p.take key none
        | '=' :: value => p.take key (some (String.ofList value))
        | value => p.take key (if key.arity = .none then none else some (String.ofList value))
    | _ => p.takePlain argument

end Progress

def Verb.command (verb : Verb) (p : Progress) : Except UsageFault Command := do
  let required (key : Key) : Except UsageFault String :=
    match p.value? key with
    | some value => .ok value
    | none => .error .missingArgument
  let blueprint : BlueprintOptions := ⟨← required .blueprint, p.isGiven .open⟩
  match verb with
  | .check => return .check blueprint
  | .validate =>
    let root ← required .root
    let _ ← required .input
    let input : InputOptions :=
      ⟨p.isGiven .byLine, p.value? .pointer, p.value? .filter, p.values .input⟩
    return .validate blueprint root input (p.isGiven .all) (p.isGiven .print)
  | .schema => return .schema blueprint (← required .root) (p.value? .out)

def Verb.read (verb : Verb) (arguments : List String) : Except UsageFault Command := do
  let p ← arguments.foldlM (Progress.step verb) .start
  verb.command (← p.settle)

def helpOn : List String → UsageFault
  | [] => .help
  | [name] => if name = "help" || (Verb.ofName? name).isSome then .help else .unknownCommand
  | _ => .unknownCommand

def Command.ofArguments : List String → Except UsageFault Command
  | [] | ["--"] => .error .nothing
  | "help" :: rest => .error (helpOn rest)
  | "--" :: name :: _ =>
    if name = "help" || (Verb.ofName? name).isSome then .error .unknownArgument
    else .error .unknownCommand
  | name :: rest =>
    match Verb.ofName? name with
    | some verb => verb.read rest
    | none =>
      match name.toList with
      | '-' :: '-' :: long =>
        let (key, attached) := (String.ofList (long.takeWhile (· ≠ '=')), long.contains '=')
        if key = "help" || key = "version" then
          .error (if attached then .superfluousValue else if key = "help" then .help else .version)
        else .error .unknownArgument
      | '-' :: 'h' :: _ => .error .help
      | '-' :: 'V' :: _ => .error .version
      | '-' :: _ :: _ => .error .unknownArgument
      | _ => .error .unknownCommand

end DocumentSchema.CommandLine
