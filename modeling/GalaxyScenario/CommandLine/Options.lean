import GalaxyScenario.Decimal.Numeral

/-!
The arguments of the command line. They are read from left to right, and the first one that makes
no sense ends the reading.
-/
namespace GalaxyScenario.CommandLine

/-- What a run was asked to do. A map called `-` is the standard input, and a script without a file
goes to the standard output. -/
structure Options where
  map : String
  output : Option String := none
  config : Option String := none
  name : Option String := none
  priority : Option UInt32 := none
  fallbackHomes : Bool := false
  check : Bool := false
  verbose : Bool := false
  deriving DecidableEq, Repr

inductive Invocation where
  | run (options : Options)
  | help
  | version
  | misuse
  deriving DecidableEq, Repr

inductive Setting where
  | output | config | name | priority
  deriving DecidableEq, Repr

inductive Switch where
  | fallbackHomes | check | verbose
  deriving DecidableEq, Repr

structure Reading where
  map : Option String := none
  options : Options := { map := "" }
  awaited : Option Setting := none
  optionsEnded : Bool := false
  deriving Repr

/-- A priority: an optional sign and digits that come to a word of 32 bits. -/
def priority? (text : String) : Option UInt32 :=
  let (negative, digits) := Numeral.splitSign text.toList
  let value := Numeral.digitsValue 0 digits
  if digits.isEmpty ∨ ¬ digits.all Char.isDigit then none
  else if UInt32.size ≤ value ∨ (negative ∧ value ≠ 0) then none
  else some (UInt32.ofNat value)

namespace Reading

/-- The reading with one more value, unless there is one already. A file needs a name. -/
def give (r : Reading) (setting : Setting) (value : String) : Except Invocation Reading :=
  let r := { r with awaited := none }
  match setting with
  | .output =>
    if r.options.output.isSome || value.isEmpty then .error .misuse
    else .ok { r with options.output := some value }
  | .config =>
    if r.options.config.isSome || value.isEmpty then .error .misuse
    else .ok { r with options.config := some value }
  | .name =>
    if r.options.name.isSome then .error .misuse
    else .ok { r with options.name := some value }
  | .priority =>
    match r.options.priority, priority? value with
    | none, some priority => .ok { r with options.priority := some priority }
    | _, _ => .error .misuse

def turnOn (r : Reading) (switch : Switch) : Except Invocation Reading :=
  match switch with
  | .fallbackHomes =>
    if r.options.fallbackHomes then .error .misuse else .ok { r with options.fallbackHomes := true }
  | .check => if r.options.check then .error .misuse else .ok { r with options.check := true }
  | .verbose => if r.options.verbose then .error .misuse else .ok { r with options.verbose := true }

def giveMap (r : Reading) (map : String) : Except Invocation Reading :=
  if r.map.isSome || map.isEmpty then .error .misuse else .ok { r with map := some map }

def expect (r : Reading) (setting : Setting) (value : Option String) : Except Invocation Reading :=
  match value with
  | some value => r.give setting value
  | none => .ok { r with awaited := some setting }

def long (r : Reading) (name : String) (value : Option String) : Except Invocation Reading :=
  match name, value with
  | "output", value => r.expect .output value
  | "config", value => r.expect .config value
  | "name", value => r.expect .name value
  | "priority", value => r.expect .priority value
  | "fallback-home-stars", none => r.turnOn .fallbackHomes
  | "check", none => r.turnOn .check
  | "verbose", none => r.turnOn .verbose
  | "help", none => .error .help
  | "version", none => .error .version
  | _, _ => .error .misuse

/-- The reading after joined short options. What follows a `-o` is its value, after an optional
equals sign. -/
def short (r : Reading) : List Char → Except Invocation Reading
  | [] => .ok r
  | 'v' :: rest => (r.turnOn .verbose).bind fun r => r.short rest
  | 'o' :: rest =>
    match rest with
    | [] => r.expect .output none
    | '=' :: value => r.expect .output (some (String.ofList value))
    | value => r.expect .output (some (String.ofList value))
  | 'h' :: _ => .error .help
  | 'V' :: _ => .error .version
  | _ => .error .misuse

/-- The reading after an argument that may be an option. A single `-` is none. -/
def option (r : Reading) (argument : String) : Except Invocation Reading :=
  match argument.toList with
  | ['-', '-'] => .ok { r with optionsEnded := true }
  | '-' :: '-' :: rest =>
    let name := String.ofList (rest.takeWhile (· != '='))
    match rest.dropWhile (· != '=') with
    | _ :: value => r.long name (some (String.ofList value))
    | [] => r.long name none
  | '-' :: c :: rest => r.short (c :: rest)
  | _ => r.giveMap argument

def isOption (argument : String) : Bool :=
  match argument.toList with
  | '-' :: _ :: _ => true
  | _ => false

def step (r : Reading) (argument : String) : Except Invocation Reading :=
  if r.optionsEnded then r.giveMap argument
  else
    match r.awaited with
    | some setting => if isOption argument then .error .misuse else r.give setting argument
    | none => r.option argument

def finish (r : Reading) : Invocation :=
  match r.awaited, r.map with
  | none, some map => .run { r.options with map }
  | _, _ => .misuse

end Reading

def Invocation.ofArguments (arguments : List String) : Invocation :=
  match arguments.foldlM Reading.step {} with
  | .ok reading => reading.finish
  | .error invocation => invocation

end GalaxyScenario.CommandLine
