import EntitySearch.Text.Integer

/-!
# Command-line arguments

A command line names the site directory, if it differs from the configured one,
and one command with its operands and options.  Options take a value: behind an
equals sign, behind the letter of a short option, or as the next argument.  Two
hyphens end the options.  Arguments are judged from left to right, so a request
for help is answered only if nothing before it was wrong.
-/

namespace EntitySearch.CommandLine

/-- A command with its operands and options. -/
inductive Command
  | list
  | inspect (index : String)
  | count (index query : String)
  | search (index query : String) (offset limit : UInt64)
  | analyze (text : String)
deriving Repr, DecidableEq

/-- A command for a site; without a directory it is for the configured site. -/
structure Invocation where
  siteDirectory : Option String
  command : Command
deriving Repr, DecidableEq

/-- Why no command is run. -/
inductive Stop
  | help
  | misuse
deriving Repr, DecidableEq

/-- An option with a value, and which values it takes. -/
structure OptionSpec where
  letter : Char
  word : String
  accepts : String → Bool

/-- The values of options, each under its letter. -/
abbrev OptionValues := List (Char × String)

/-- Whether the argument stands for options: it begins with a hyphen and has more. -/
def looksLikeOption (argument : String) : Bool :=
  match argument.toList with
  | '-' :: _ :: _ => true
  | _ => false

/-- Adds the value of an option; each option is given once. -/
def addValue (values : OptionValues) (spec : OptionSpec) (value : String) :
    Except Stop OptionValues :=
  if values.any (·.1 == spec.letter) || !spec.accepts value then .error .misuse
  else .ok (values ++ [(spec.letter, value)])

/-- What an argument says about options. -/
inductive OptionArgument
  /-- The argument is an operand or ends the options. -/
  | other
  /-- The argument asks for help. -/
  | help
  /-- The argument is no option that is known. -/
  | unknown
  /-- The argument names an option and may hold its value. -/
  | named (spec : OptionSpec) (attached : Option String)

/-- Reads the name of an option and a value behind an equals sign. -/
def readLongOption (specs : List OptionSpec) (written : List Char) : OptionArgument :=
  let name := String.ofList (written.takeWhile (· != '='))
  let attached := match written.dropWhile (· != '=') with
    | _ :: value => some (String.ofList value)
    | [] => none
  if name == "help" then if attached.isNone then .help else .unknown
  else
    match specs.find? (·.word == name) with
    | some spec => .named spec attached
    | none => .unknown

/-- Reads the letter of an option and a value behind it. -/
def readShortOption (specs : List OptionSpec) (letter : Char) (behind : List Char) :
    OptionArgument :=
  if letter == 'h' then .help
  else
    match specs.find? (·.letter == letter) with
    | none => .unknown
    | some spec =>
        match behind with
        | [] => .named spec none
        | '=' :: value => .named spec (some (String.ofList value))
        | value => .named spec (some (String.ofList value))

/-- Reads an argument where options are still allowed. -/
def readOption (specs : List OptionSpec) (argument : String) : OptionArgument :=
  match argument.toList with
  | ['-', '-'] => .other
  | '-' :: '-' :: written => readLongOption specs written
  | '-' :: letter :: behind => readShortOption specs letter behind
  | _ => .other

def takeOptions (specs : List OptionSpec) (values : OptionValues) :
    List String → Except Stop (OptionValues × List String)
  | [] => .ok (values, [])
  | argument :: rest =>
      match readOption specs argument with
      | .other => .ok (values, argument :: rest)
      | .help => .error .help
      | .unknown => .error .misuse
      | .named spec (some value) =>
          match addValue values spec value with
          | .ok values => takeOptions specs values rest
          | .error stop => .error stop
      | .named spec none =>
          match rest with
          | [] => .error .misuse
          | value :: rest =>
              if looksLikeOption value then .error .misuse
              else
                match addValue values spec value with
                | .ok values => takeOptions specs values rest
                | .error stop => .error stop

/-- Takes up to `room` operands with the options among them. -/
def takeOperands (specs : List OptionSpec) : Nat → OptionValues → List String →
    Except Stop (OptionValues × List String)
  | room, values, arguments =>
      match takeOptions specs values arguments with
      | .error stop => .error stop
      | .ok (values, []) => .ok (values, [])
      | .ok (values, "--" :: rest) =>
          if rest.length ≤ room then .ok (values, rest) else .error .misuse
      | .ok (values, operand :: rest) =>
          match room with
          | 0 => .error .misuse
          | room + 1 =>
              match takeOperands specs room values rest with
              | .error stop => .error stop
              | .ok (values, operands) => .ok (values, operand :: operands)

def siteOption : OptionSpec := ⟨'d', "site-dir", fun value => !value.isEmpty⟩

def isUnsigned (value : String) : Bool := (Text.unsigned? value.toList).isSome

def searchOptions : List OptionSpec := [⟨'o', "offset", isUnsigned⟩, ⟨'l', "limit", isUnsigned⟩]

/-- The number given for an option, or its default. -/
def numberOf (values : OptionValues) (letter : Char) (default : UInt64) : UInt64 :=
  ((values.lookup letter).bind (Text.unsigned? ·.toList)).getD default

def commandNames : List String := ["list", "inspect", "count", "search", "analyze", "help"]

def readPlain (operandCount : Nat) (arguments : List String) : Except Stop (List String) :=
  match takeOperands [] operandCount [] arguments with
  | .error stop => .error stop
  | .ok (_, operands) => .ok operands

def readCommand (name : String) (arguments : List String) : Except Stop Command :=
  match name with
  | "list" => (readPlain 0 arguments).map fun _ => .list
  | "inspect" =>
      match readPlain 1 arguments with
      | .ok [index] => .ok (.inspect index)
      | .ok _ => .error .misuse
      | .error stop => .error stop
  | "count" =>
      match readPlain 2 arguments with
      | .ok [index, query] => .ok (.count index query)
      | .ok _ => .error .misuse
      | .error stop => .error stop
  | "search" =>
      match takeOperands searchOptions 2 [] arguments with
      | .ok (values, [index, query]) =>
          .ok (.search index query (numberOf values 'o' 0) (numberOf values 'l' 20))
      | .ok _ => .error .misuse
      | .error stop => .error stop
  | "analyze" =>
      match readPlain 1 arguments with
      | .ok [text] => .ok (.analyze text)
      | .ok _ => .error .misuse
      | .error stop => .error stop
  | "help" =>
      match arguments with
      | [] => .error .help
      | [topic] => .error (if commandNames.contains topic then .help else .misuse)
      | _ => .error .misuse
  | _ => .error .misuse

def readInvocation (arguments : List String) : Except Stop Invocation :=
  match takeOptions [siteOption] [] arguments with
  | .error stop => .error stop
  | .ok (_, []) => .error .misuse
  | .ok (values, name :: rest) =>
      (readCommand name rest).map fun command => ⟨values.lookup 'd', command⟩

end EntitySearch.CommandLine
