import WorkSchema.Disk.Path

/-!
The arguments of the program: a command with its operands, and options that may
stand before or after it.
-/

namespace WorkSchema

inductive Command where
  | list
  | showType (id : String)
  | validate (id : String) (payload : Path)
  | check
  deriving DecidableEq, Repr

structure Options where
  debug : Bool := false
  config? : Option Path := none
  root? : Option Path := none
  deriving DecidableEq, Repr

/-- What the arguments ask for. -/
inductive Invocation where
  | run (options : Options) (command : Command)
  | help
  | version
  | misuse
  deriving DecidableEq, Repr

namespace Arguments

/-- An option by what it does. -/
inductive Switch where
  | debug
  | config
  | root
  | help
  | version
  deriving DecidableEq, Repr

def longSwitch? : String → Option Switch
  | "debug" => some .debug
  | "config" => some .config
  | "root" => some .root
  | "help" => some .help
  | "version" => some .version
  | _ => none

def shortSwitch? : Char → Option Switch
  | 'd' => some .debug
  | 'c' => some .config
  | 'h' => some .help
  | 'V' => some .version
  | _ => none

def Switch.takesValue (switch : Switch) : Bool := switch == .config || switch == .root

/-- Options while they are read. Those before the command and those after it
are read apart, and each may be given once in either place. -/
structure Reading where
  options : Options := {}
  operands : List String := []

/-- Sets an option without a value. Only the program as a whole has a version. -/
def setFlag (afterCommand : Bool) (switch : Switch) (options : Options) :
    Except Invocation Options :=
  match switch with
  | .debug => if options.debug then throw .misuse else return {options with debug := true}
  | .help => throw .help
  | .version => throw (if afterCommand then .misuse else .version)
  | .config | .root => throw .misuse

/-- Sets an option to a path, which must not be empty. -/
def setPath (switch : Switch) (value : String) (options : Options) : Except Invocation Options :=
  if value.isEmpty then throw .misuse
  else match switch with
    | .config =>
        if options.config?.isSome then throw .misuse
        else return {options with config? := some ⟨value⟩}
    | .root =>
        if options.root?.isSome then throw .misuse
        else return {options with root? := some ⟨value⟩}
    | .debug | .help | .version => throw .misuse

/-- An option that still needs the next argument as its value. -/
abbrev Pending := Option Switch

/-- A long option with its value behind an equals sign, if it has one there. -/
def readLong (afterCommand : Bool) (options : Options) (text : String) :
    Except Invocation (Options × Pending) :=
  let name := (text.takeWhile (· != '=')).toString
  let value? := if text.contains '=' then some (text.drop (name.length + 1)).toString else none
  match longSwitch? name with
  | none => throw .misuse
  | some switch =>
      match switch.takesValue, value? with
      | true, some value => return (← setPath switch value options, none)
      | true, none => return (options, some switch)
      | false, some _ => throw .misuse
      | false, none => return (← setFlag afterCommand switch options, none)

/-- A run of short options. One that takes a value takes what follows it. -/
def readShort (afterCommand : Bool) (options : Options) :
    List Char → Except Invocation (Options × Pending)
  | [] => return (options, none)
  | c :: rest =>
      match shortSwitch? c with
      | none => throw .misuse
      | some switch =>
          if switch.takesValue then
            match rest with
            | [] => return (options, some switch)
            | '=' :: value => return (← setPath switch (String.ofList value) options, none)
            | value => return (← setPath switch (String.ofList value) options, none)
          else do
            let options ← setFlag afterCommand switch options
            readShort afterCommand options rest

def isOption (argument : String) : Bool := argument.startsWith "-" && argument ≠ "-"

/-- Reads an option that is not the mark of the end of options. -/
def readOption (afterCommand : Bool) (options : Options) (argument : String) :
    Except Invocation (Options × Pending) :=
  if argument.startsWith "--" then readLong afterCommand options (argument.drop 2).toString
  else readShort afterCommand options (argument.toList.drop 1)

/-- The options and operands after a command. -/
def readOperands (count : Nat) (reading : Reading) (pending : Pending) :
    List String → Except Invocation Reading
  | [] => if pending.isSome then throw .misuse else return reading
  | argument :: rest => do
      match pending with
      | some switch =>
          if isOption argument then throw .misuse
          let options ← setPath switch argument reading.options
          readOperands count {reading with options} none rest
      | none =>
          if argument = "--" then
            if count < reading.operands.length + rest.length then throw .misuse
            return {reading with operands := reading.operands ++ rest}
          else if isOption argument then
            let (options, pending) ← readOption true reading.options argument
            readOperands count {reading with options} pending rest
          else if count ≤ reading.operands.length then throw .misuse
          else
            readOperands count {reading with operands := reading.operands ++ [argument]} none rest

/-- The command of a name with its operands. -/
def command? (name : String) (operands : List String) : Option Command :=
  match name, operands with
  | "list", [] => some .list
  | "show", [id] => some (.showType id)
  | "validate", [id, payload] => if payload.isEmpty then none else some (.validate id ⟨payload⟩)
  | "check", [] => some .check
  | _, _ => none

/-- The number of operands of a command. -/
def operandCount? : String → Option Nat
  | "list" | "check" => some 0
  | "show" => some 1
  | "validate" => some 2
  | _ => none

/-- Help can be asked for about the program or one command. -/
def readHelp (topics : List String) : Invocation :=
  match topics with
  | [] => .help
  | [topic] => if topic = "help" ∨ (operandCount? topic).isSome then .help else .misuse
  | _ => .misuse

/-- Options after a command count before those in front of it. -/
def mergeOptions (before after : Options) : Options :=
  { debug := before.debug || after.debug
    config? := after.config?.or before.config?
    root? := after.root?.or before.root? }

def readCommand (options : Options) (name : String) (rest : List String) :
    Except Invocation Invocation := do
  if name = "help" then return readHelp rest
  match operandCount? name with
  | none => throw .misuse
  | some count =>
      let reading ← readOperands count {} none rest
      match command? name reading.operands with
      | some command => return .run (mergeOptions options reading.options) command
      | none => throw .misuse

/-- The options in front of the command. -/
def readAll (options : Options) (pending : Pending) : List String → Except Invocation Invocation
  | [] => throw .misuse
  | argument :: rest => do
      match pending with
      | some switch =>
          if isOption argument then throw .misuse
          let options ← setPath switch argument options
          readAll options none rest
      | none =>
          if argument = "--" then throw .misuse
          else if isOption argument then
            let (options, pending) ← readOption false options argument
            readAll options pending rest
          else readCommand options argument rest

def parse (arguments : List String) : Invocation :=
  match readAll {} none arguments with
  | .ok invocation => invocation
  | .error invocation => invocation

end Arguments

end WorkSchema
