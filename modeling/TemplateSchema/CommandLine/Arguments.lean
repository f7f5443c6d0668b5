import TemplateSchema.Text.Digit
/-!
Reading the arguments of a command. An option may be cut short to any beginning that no other option
shares, and its value may follow an equals sign. Behind a double hyphen nothing is an option.
-/
set_option autoImplicit false
namespace TemplateSchema.CommandLine

-- The options that are known at one level of commands.
structure Options where
  flags : List String
  valued : List String

def helpNames : List String :=
  ["-h", "--help"]

namespace Options

def names (o : Options) : List String :=
  helpNames ++ o.flags ++ o.valued

end Options

-- What an argument is taken for.
inductive Argument where
  | plain
  | option (name : String) (value : Option String)
  -- The short form of help, with more behind it in the same argument.
  | helpWith (more : List Char)
  | ambiguous
  | unknown

-- Digits after a hyphen, with at most one point in front of the last of them.
def isNegativeNumber (arg : List Char) : Bool :=
  let isDigit (c : Char) := (Text.digitValue? c).isSome
  let body := if arg.getLast? = some '\n' then (arg.drop 1).dropLast else arg.drop 1
  match body.dropWhile isDigit with
  | [] => !body.isEmpty
  | '.' :: fraction => !fraction.isEmpty && fraction.all isDigit
  | _ => false

def beforeEquals (arg : List Char) : List Char × Option String :=
  let name := arg.takeWhile (· != '=')
  (name, (arg.drop name.length).tail?.map String.ofList)

-- An argument that names no option is an unknown option, a negative number or plain text.
def notAnOption (arg : List Char) : Argument :=
  if isNegativeNumber arg ∨ arg.contains ' ' then .plain else .unknown

def abbreviated (o : Options) (arg : List Char) : Argument :=
  match arg with
  | '-' :: '-' :: _ =>
    let (start, value) := beforeEquals arg
    match o.names.filter fun n => start.isPrefixOf n.toList with
    | [] => notAnOption arg
    | [name] => .option name value
    | _ => .ambiguous
  | _ =>
    if arg.take 2 = ['-', 'h'] then .helpWith (arg.drop 2) else notAnOption arg

def classify (o : Options) (text : String) : Argument :=
  let arg := text.toList
  let (name, value) := beforeEquals arg
  if arg.head? ≠ some '-' ∨ arg = ['-'] then .plain
  else if o.names.contains text then .option text none
  else if value.isSome ∧ o.names.contains (String.ofList name) then .option (String.ofList name) value
  else abbreviated o arg

-- Why arguments lead to no command.
inductive Halt where
  | help
  | misuse
  deriving DecidableEq

-- Help takes no value.
def haltOfHelp (value : Option String) : Halt :=
  if value.isNone then .help else .misuse

-- The short form may be repeated within one argument; a letter that is no option comes too late to matter.
def haltOfHelpWith (more : List Char) : Halt :=
  match more.dropWhile (· == 'h') with
  | '=' :: _ => .misuse
  | '-' :: _ => .misuse
  | _ => .help

-- The plain arguments, the options that were given, and whether something was out of place.
structure Given where
  plain : List String
  options : List (String × String)
  misplaced : Bool

def Given.none : Given :=
  ⟨[], [], false⟩

-- A double hyphen has to stand beside a plain argument.
def afterMark (afterPlain : Bool) (rest : List String) (given : Given) : Given :=
  { given with plain := given.plain ++ rest, misplaced := given.misplaced || (rest.isEmpty && !afterPlain) }

-- The arguments of a command that has no commands of its own.
def readLeaf (flags : List String) (afterPlain : Bool) (given : Given) : List String → Except Halt Given
  | [] => .ok given
  | arg :: rest =>
    if arg = "--" then .ok (afterMark afterPlain rest given)
    else match classify ⟨flags, []⟩ arg with
      | .plain => readLeaf flags true { given with plain := given.plain ++ [arg] } rest
      | .unknown => readLeaf flags false { given with misplaced := true } rest
      | .ambiguous => .error .misuse
      | .helpWith more => .error (haltOfHelpWith more)
      | .option name value =>
        if helpNames.contains name then .error (haltOfHelp value)
        else if value.isSome then .error .misuse
        else readLeaf flags false { given with options := given.options ++ [(name, "")] } rest

-- The options in front of a command, then the command and its arguments.
def readBranch (o : Options) (given : Given) : List String → Except Halt (Given × Option (String × List String))
  | [] => .ok (given, Option.none)
  | [arg] =>
    if arg = "--" then .error .misuse
    else match classify o arg with
      | .plain => .ok (given, some (arg, []))
      | .unknown => .ok ({ given with misplaced := true }, Option.none)
      | .ambiguous => .error .misuse
      | .helpWith more => .error (haltOfHelpWith more)
      | .option name value =>
        if helpNames.contains name then .error (haltOfHelp value)
        else match value with
          | some v => .ok ({ given with options := given.options ++ [(name, v)] }, Option.none)
          | Option.none => .error .misuse
  | arg :: next :: rest =>
    if arg = "--" then .error .misuse
    else match classify o arg with
      | .plain => .ok (given, some (arg, next :: rest))
      | .unknown => readBranch o { given with misplaced := true } (next :: rest)
      | .ambiguous => .error .misuse
      | .helpWith more => .error (haltOfHelpWith more)
      | .option name value =>
        if helpNames.contains name then .error (haltOfHelp value)
        else match value with
          | some v => readBranch o { given with options := given.options ++ [(name, v)] } (next :: rest)
          | Option.none =>
            match next == "--", classify o next with
            | false, .plain => readBranch o { given with options := given.options ++ [(name, next)] } rest
            | _, _ => .error .misuse

inductive Command where
  | extract (template : String) (isNormalized : Bool)
  | defaults (template : String)
  | validate (template values : String) (isStrict : Bool)
  | showSettings
  -- No command of its own follows `config`.
  | settingsHelp
  deriving DecidableEq

structure Invocation where
  logLevel : Option String
  command : Option Command

def normalizedFlag : String := "--normalized"
def strictFlag : String := "--strict"
def logLevelOption : String := "--log-level"

def hasFlag (given : Given) (flag : String) : Bool :=
  given.options.any (·.1 == flag)

-- A command, if nothing was out of place.
def settled (given : Given) (command : Option Command) : Except Halt Command :=
  match given.misplaced, command with
  | false, some c => .ok c
  | _, _ => .error .misuse

def readSettingsCommand (args : List String) : Except Halt Command := do
  match ← readBranch ⟨[], []⟩ Given.none args with
  | (given, Option.none) => settled given (some .settingsHelp)
  | (given, some ("show", rest)) =>
    let leaf ← readLeaf [] false given rest
    settled leaf (if leaf.plain.isEmpty then some .showSettings else Option.none)
  | _ => .error .misuse

def readCommand (name : String) (args : List String) : Except Halt Command := do
  if name = "extract" then
    let given ← readLeaf [normalizedFlag] false Given.none args
    settled given (match given.plain with
      | [template] => some (.extract template (hasFlag given normalizedFlag))
      | _ => Option.none)
  else if name = "defaults" then
    let given ← readLeaf [] false Given.none args
    settled given (match given.plain with
      | [template] => some (.defaults template)
      | _ => Option.none)
  else if name = "validate" then
    let given ← readLeaf [strictFlag] false Given.none args
    settled given (match given.plain with
      | [template, values] => some (.validate template values (hasFlag given strictFlag))
      | _ => Option.none)
  else if name = "config" then readSettingsCommand args
  else .error .misuse

def mainOptions : Options :=
  ⟨[], [logLevelOption]⟩

def isAmbiguous (arg : String) : Bool :=
  match classify mainOptions arg with
  | .ambiguous => true
  | _ => false

-- An option that could be two is refused wherever it stands.
def read (args : List String) : Except Halt Invocation := do
  if (args.takeWhile (· != "--")).any isAmbiguous then .error .misuse
  else
    let (given, command) ← readBranch mainOptions Given.none args
    let level := (given.options.reverse.lookup logLevelOption)
    match command with
    | Option.none => if given.misplaced then .error .misuse else .ok ⟨level, Option.none⟩
    | some (name, rest) =>
      let command ← readCommand name rest
      if given.misplaced then .error .misuse else .ok ⟨level, some command⟩

end TemplateSchema.CommandLine
