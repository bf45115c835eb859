import EntityGen.Command.Generate

/-! # Command lines

A command line names a command with its options. A value stands after its option or is attached to
it, and no option is given twice. A line that does not fit is a usage error.
-/

namespace EntityGen.Command

/-- What a command line asks for. -/
inductive Request
  | help
  | version
  | generate (level : Option String) (options : GenerateOptions)
  | check (level manifest : Option String)
  | start (level : Option String) (name : String) (directory : Option String)
  deriving Repr, DecidableEq

namespace Arguments

/-- An option by its names. -/
structure OptionName where
  long : String
  short : Option Char
  takesValue : Bool
  deriving Repr, DecidableEq

def levelOption : OptionName := ⟨"log-level", none, true⟩
def manifestOption : OptionName := ⟨"manifest", some 'm', true⟩
def outputOption : OptionName := ⟨"output", some 'o', true⟩
def stdoutOption : OptionName := ⟨"stdout", none, false⟩
def nameOption : OptionName := ⟨"name", some 'n', true⟩
def pathOption : OptionName := ⟨"path", some 'p', true⟩

/-- The options that were given with their values, by their long names. -/
abbrev Given := List (String × String)

/-- Whatever is attached to a short flag comes after its effect. -/
def isFlag (long short arg : String) : Bool :=
  arg == long || short.toList.isPrefixOf arg.toList

def asksForHelp (arg : String) : Bool :=
  isFlag "--help" "-h" arg

def asksForVersion (arg : String) : Bool :=
  isFlag "--version" "-V" arg

def commandNames : List String := ["generate", "check", "init", "help"]

/-- A value on its own may be a hyphen, but does not start with one otherwise. -/
def isValue (arg : String) : Bool :=
  arg == "-" || arg.toList.head? != some '-'

/-- An argument as an option with the value that is attached to it. -/
def option? (options : List OptionName) (arg : String) : Option (OptionName × Option String) :=
  match arg.toList with
  | '-' :: '-' :: body =>
    let name := String.ofList (body.takeWhile (· != '='))
    let attached := match body.dropWhile (· != '=') with
      | [] => none
      | _ :: value => some (String.ofList value)
    (options.find? (·.long == name)).map fun o => (o, attached)
  | '-' :: letter :: body =>
    let attached := match body with
      | [] => none
      | '=' :: value => some (String.ofList value)
      | value => some (String.ofList value)
    (options.find? (·.short == some letter)).map fun o => (o, attached)
  | _ => none

/-- One more option, unless it is given already or its value does not fit. -/
def add? (given : Given) (o : OptionName) (value : Option String) : Option Given :=
  if (given.lookup o.long).isSome then none
  else if o.takesValue then value.map fun v => (o.long, v) :: given
  else if value.isNone then some ((o.long, "") :: given)
  else none

/-- The options of a command, or none where help is asked for. -/
def options? (options : List OptionName) (given : Given) : List String → Option (Option Given)
  | [] => some (some given)
  | ["--"] => some (some given)
  | arg :: rest =>
    if asksForHelp arg then some none
    else
      match option? options arg with
      | none => none
      | some (o, attached) =>
        if o.takesValue && attached.isNone then
          match rest with
          | value :: rest =>
            if isValue value then
              match add? given o (some value) with
              | some given => options? options given rest
              | none => none
            else none
          | [] => none
        else
          match add? given o attached with
          | some given => options? options given rest
          | none => none

/-- The request of a command with its arguments. A log level that is given to the command itself
takes precedence. -/
def command? (level : Option String) (name : String) (args : List String) : Option Request :=
  let parse (own : List OptionName) (request : Option String → Given → Request) :=
    (options? (levelOption :: own) [] args).map fun
      | none => .help
      | some given => request ((given.lookup levelOption.long).or level) given
  match name with
  | "generate" => parse [manifestOption, outputOption, stdoutOption] fun level given =>
    .generate level {
      manifest := given.lookup manifestOption.long
      output := given.lookup outputOption.long
      stdout := (given.lookup stdoutOption.long).isSome }
  | "check" => parse [manifestOption] fun level given =>
    .check level (given.lookup manifestOption.long)
  | "init" => parse [nameOption, pathOption] fun level given =>
    .start level ((given.lookup nameOption.long).getD "blog") (given.lookup pathOption.long)
  | "help" => if args.all commandNames.contains && args.length ≤ 1 then some .help else none
  | _ => none

/-- The request of a whole command line, or none for a usage error. -/
def request? (level : Option String) : List String → Option Request
  | [] => none
  | arg :: rest =>
    if asksForHelp arg then some .help
    else if asksForVersion arg then some .version
    else
      match option? [levelOption] arg with
      | none => command? level arg rest
      | some (_, attached) =>
        if level.isSome then none
        else
          match attached with
          | some value => request? (some value) rest
          | none =>
            match rest with
            | value :: rest => if isValue value then request? (some value) rest else none
            | [] => none

end Arguments

end EntityGen.Command
