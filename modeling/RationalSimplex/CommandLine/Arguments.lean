import RationalSimplex.Text.Characters

/-!
# Arguments

The command takes two options with a value each, and one that asks for help.
Long options may be shortened as long as they stay unique, and a value follows
its option or is attached to it by an equals sign.  Whatever else is found is
refused, but only once every option has been read; help is given where it is
reached.
-/

namespace RationalSimplex.CommandLine

/-- The options of the command; help has a short form and a long one. -/
inductive Flag where
  | shortHelp
  | help
  | config
  | out
deriving DecidableEq

/-- The spellings of the options. -/
def flagSpellings : List (String × Flag) :=
  [("-h", .shortHelp), ("--help", .help), ("--config", .config),
   ("--out", .out)]

/-- What an argument is by its form alone. -/
inductive Form where
  /-- A value, or something that is out of place. -/
  | plain
  | unknown
  /-- The argument after which all others are plain. -/
  | separator
  | flag (flag : Flag) (attached : Option (List Char))
  | ambiguous
deriving DecidableEq

/-- The characters in front of the first equals sign and those behind it, if
there is one. -/
def splitAtEquals (characters : List Char) : List Char × Option (List Char) :=
  match characters.dropWhile (· ≠ '=') with
  | [] => (characters, none)
  | _ :: rest => (characters.takeWhile (· ≠ '='), some rest)

/-- The option of an exact spelling. -/
def exactFlag? (characters : List Char) : Option Flag :=
  flagSpellings.lookup (String.ofList characters)

/-- The options that a shortened argument may mean. -/
def shortenedFlags (characters : List Char) :
    List (Flag × Option (List Char)) :=
  match characters with
  | '-' :: '-' :: _ =>
      let parts := splitAtEquals characters
      (flagSpellings.filter fun spelling =>
        parts.1.isPrefixOf spelling.1.toList).map
        fun spelling => (spelling.2, parts.2)
  | '-' :: 'h' :: rest => [(.shortHelp, some rest)]
  | _ => []

/-- The characters in front of a line break at the end. -/
def beforeLineBreak (characters : List Char) : List Char :=
  if characters.getLast? = some '\n' then characters.dropLast else characters

/-- Whether the characters are those of a negative number, which may end with a
line break. -/
def isNegativeNumber (characters : List Char) : Bool :=
  match beforeLineBreak characters with
  | '-' :: magnitude =>
      let whole := magnitude.takeWhile Text.isDigit
      match magnitude.dropWhile Text.isDigit with
      | [] => !whole.isEmpty
      | '.' :: fraction => !fraction.isEmpty && fraction.all Text.isDigit
      | _ => false
  | _ => false

/-- The form of an argument that does not stand behind the separator. -/
def formOf (characters : List Char) : Form :=
  match characters with
  | [] | ['-'] => .plain
  | '-' :: _ =>
      match exactFlag? characters with
      | some flag => .flag flag none
      | none =>
          let parts := splitAtEquals characters
          match parts.2, exactFlag? parts.1 with
          | some attached, some flag => .flag flag (some attached)
          | _, _ =>
              match shortenedFlags characters with
              | [(flag, attached)] => .flag flag attached
              | _ :: _ :: _ => .ambiguous
              | [] =>
                  if isNegativeNumber characters || characters.contains ' ' then
                    .plain
                  else
                    .unknown
  | _ => .plain

/-- The arguments with their forms. -/
def classify : List String → List (String × Form)
  | [] => []
  | argument :: arguments =>
      if argument = "--" then
        (argument, .separator) :: arguments.map fun later => (later, .plain)
      else
        (argument, formOf argument.toList) :: classify arguments

/-- The paths that the command works with.  There is none where the separator
was attached to an option. -/
structure Arguments where
  config : Option String
  out : Option String
deriving DecidableEq

/-- Why the command ends before it starts. -/
inductive Exit where
  | help
  | usage
deriving DecidableEq

/-- The exit code. -/
def Exit.code : Exit → Nat
  | .help => 0
  | .usage => 2

/-- What has been read so far: the value of every option that was found. -/
structure Found where
  config : Option (Option String)
  out : Option (Option String)
  surplus : Bool
deriving DecidableEq

namespace Found

/-- Take the value of an option. -/
def take (found : Found) (flag : Flag) (value : Option String) : Found :=
  match flag with
  | .shortHelp | .help => found
  | .config => { found with config := some value }
  | .out => { found with out := some value }

/-- The arguments, if all options have been found and nothing else. -/
def finish (found : Found) : Except Exit Arguments :=
  match found.config, found.out with
  | some config, some out =>
      if found.surplus then .error .usage else .ok ⟨config, out⟩
  | _, _ => .error .usage

end Found

/-- How the short option for help ends the command: more of the same letter may
be attached to it. -/
def shortHelpExit : Option (List Char) → Exit
  | none => .help
  | some [] => .usage
  | some attached => if attached.all (· == 'h') then .help else .usage

/-- The value that is attached to an option; the separator counts as none. -/
def attachedValue (attached : List Char) : Option String :=
  if attached = ['-', '-'] then none else some (String.ofList attached)

/-- Read the arguments in order. -/
def readForms (found : Found) : List (String × Form) → Except Exit Arguments
  | [] => found.finish
  | (_, .flag .shortHelp attached) :: _ => .error (shortHelpExit attached)
  | (_, .flag .help none) :: _ => .error .help
  | (_, .flag .help (some _)) :: _ => .error .usage
  | (_, .flag flag (some attached)) :: rest =>
      readForms (found.take flag (attachedValue attached)) rest
  | (_, .flag flag none) :: (value, .plain) :: rest =>
      readForms (found.take flag (some value)) rest
  | (_, .flag _ none) :: _ => .error .usage
  | _ :: rest => readForms { found with surplus := true } rest

/-- The arguments of the command. -/
def parseArguments (arguments : List String) : Except Exit Arguments :=
  let forms := classify arguments
  if forms.any (·.2 == .ambiguous) then
    .error .usage
  else
    readForms ⟨none, none, false⟩ forms

end RationalSimplex.CommandLine
