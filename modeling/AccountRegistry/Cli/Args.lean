import AccountRegistry.Account

/-!
The command line of the account tool: its grammar as data, the help pages written from
that data, and the reading of an argument list into a command.

Arguments are read left to right. A help or version flag answers as soon as it is met;
an unknown argument, a repeated option, a missing or refused value, or a missing
subcommand is a usage error. Required options are checked once the list is read.
-/

set_option autoImplicit false

namespace AccountRegistry.Cli

/-- An option that takes a value. -/
structure OptionSpec where
  short : Char
  long : String
  placeholder : String
  help : String
  default : Option String := none
  choices : List String := []

/-- A command that does work: its options and at most one positional argument. -/
structure LeafSpec where
  name : String
  about : String
  options : List OptionSpec := []
  /-- The placeholder and help of the positional argument, if it takes one. -/
  positional : Option (String × String) := none

/-- A command that only groups subcommands. -/
structure GroupSpec where
  name : String
  about : String
  leaves : List LeafSpec

/-- An entry of the top level. -/
inductive Entry where
  | leaf (l : LeafSpec)
  | group (g : GroupSpec)

/-- The name of an entry. -/
def Entry.name : Entry → String
  | .leaf l => l.name
  | .group g => g.name

/-- The one-line description of an entry. -/
def Entry.about : Entry → String
  | .leaf l => l.about
  | .group g => g.about

/-- The program's name as usage lines show it. -/
def programName : String := "ci-cli"

/-- The program's description. -/
def programAbout : String := "Customer identity CLI tools"

/-- The text the version flag prints. -/
def versionText : String := "ci-cli 0.1.0\n"

/-- The description of the built-in help subcommand. -/
def helpAbout : String := "Print this message or the help of the given subcommand(s)"

/-- The account kind option shared by the account commands. -/
def kindOption : OptionSpec :=
  { short := 'k', long := "kind", placeholder := "KIND", help := "Account kind",
    default := some "customer", choices := ["customer", "admin"] }

/-- The tax id option shared by the account commands. -/
def cpfOption : OptionSpec :=
  { short := 'c', long := "cpf", placeholder := "CPF", help := "CPF, with or without punctuation" }

/-- The whole grammar. -/
def entries : List Entry :=
  [ .leaf { name := "migrate", about := "Run database migrations" },
    .group { name := "account", about := "Manage customer and admin accounts",
             leaves := [
               { name := "create", about := "Register and store a new account",
                 options := [kindOption,
                   { short := 'n', long := "name", placeholder := "NAME", help := "Display name" },
                   cpfOption,
                   { short := 'e', long := "email", placeholder := "EMAIL", help := "Email address" }] },
               { name := "show", about := "Show a stored account by CPF",
                 options := [kindOption, cpfOption] }] },
    .group { name := "cpf", about := "CPF utilities",
             leaves := [
               { name := "check", about := "Normalize and validate a CPF",
                 positional := some ("VALUE", "CPF, with or without punctuation") }] } ]

/-! Help pages. -/

/-- Spaces to bring a text of width `w` to the width `n`. -/
def pad (w n : Nat) : String := String.ofList (List.replicate (n - w) ' ')

/-- A section of name/description rows, the descriptions aligned two columns after the
widest name. -/
def rows (title : String) (items : List (String × String)) : String :=
  let width := items.foldl (fun m p => max m p.1.length) 0
  title ++ ":\n" ++ String.join (items.map fun (n, a) => "  " ++ n ++ pad n.length width ++ "  " ++ a ++ "\n")

/-- The help text of an option: its description, default and choices. -/
def OptionSpec.helpText (o : OptionSpec) : String :=
  o.help ++
    (match o.default with | some d => " [default: " ++ d ++ "]" | none => "") ++
    (if o.choices.isEmpty then "" else " [possible values: " ++ ", ".intercalate o.choices ++ "]")

/-- The flag column of an option: short form, long form and value placeholder. -/
def OptionSpec.flagText (o : OptionSpec) : String :=
  "-" ++ o.short.toString ++ ", --" ++ o.long ++ " <" ++ o.placeholder ++ ">"

/-- The options section: flags, then help, default and choices. -/
def optionRows (opts : List OptionSpec) (withVersion : Bool) : String :=
  let flags : List (String × String) :=
    [("-h, --help", "Print help")] ++ (if withVersion then [("-V, --version", "Print version")] else [])
  let all := opts.map (fun (o : OptionSpec) => (o.flagText, o.helpText)) ++ flags
  -- the widths are those of the long forms; every short form takes four columns
  let width := all.foldl (fun m p => max m (p.1.length - 4)) 2
  "Options:\n" ++ String.join (all.map fun (n, a) => "  " ++ n ++ pad (n.length - 4) width ++ "  " ++ a ++ "\n")

/-- The help page of the program itself. -/
def topHelp : String :=
  programAbout ++ "\n\nUsage: " ++ programName ++ " <COMMAND>\n\n" ++
  rows "Commands" (entries.map (fun e => (e.name, e.about)) ++ [("help", helpAbout)]) ++ "\n" ++
  optionRows [] true

/-- The help page of a group. -/
def groupHelp (g : GroupSpec) : String :=
  g.about ++ "\n\nUsage: " ++ programName ++ " " ++ g.name ++ " <COMMAND>\n\n" ++
  rows "Commands" (g.leaves.map (fun l => (l.name, l.about)) ++ [("help", helpAbout)]) ++ "\n" ++
  optionRows [] false

/-- The usage line of a command that does work, under the path that leads to it. -/
def leafUsage (path : String) (l : LeafSpec) : String :=
  let required := l.options.filter (·.default.isNone)
  let optional := l.options.filter (·.default.isSome)
  programName ++ " " ++ path ++
    (if optional.isEmpty then "" else " [OPTIONS]") ++
    String.join (required.map fun o => " --" ++ o.long ++ " <" ++ o.placeholder ++ ">") ++
    (match l.positional with | some (p, _) => " <" ++ p ++ ">" | none => "")

/-- The help page of a command that does work. -/
def leafHelp (path : String) (l : LeafSpec) : String :=
  l.about ++ "\n\nUsage: " ++ leafUsage path l ++ "\n\n" ++
  (match l.positional with
   | some (p, h) => rows "Arguments" [("<" ++ p ++ ">", h)] ++ "\n"
   | none => "") ++
  optionRows l.options false

/-- The help page of the built-in help subcommand of the command at `path` (empty for the
program, else a space and the group's name). -/
def helpCommandHelp (path : String) : String :=
  helpAbout ++ "\n\nUsage: " ++ programName ++ path ++ " help [COMMAND]...\n\n" ++
  rows "Arguments" [("[COMMAND]...", "Print help for the subcommand(s)")]

/-! Reading the arguments. -/

/-- The first letter of a cluster of short flags such as `-hk`, which decides what the
cluster does: a help or version letter answers at once, and an option letter takes the rest
of the cluster as its value. -/
def clusterHead? (a : String) : Option Char :=
  match a.toList with
  | '-' :: c :: _ => if c == '-' then none else some c
  | _ => none

/-- Whether an argument asks for help: `--help`, or a cluster of short flags that starts
with `h`. -/
def asksHelp (a : String) : Bool := a == "--help" || clusterHead? a == some 'h'

/-- What an argument list asks for. -/
inductive Command where
  | migrate
  | create (kind : AccountKind) (name cpf email : String)
  | show (kind : AccountKind) (cpf : String)
  | checkCpf (value : String)
  deriving DecidableEq, Repr

/-- The outcome of reading an argument list. -/
inductive Invocation where
  /-- Run a command. -/
  | run (c : Command)
  /-- Print a help page or the version and succeed. -/
  | print (text : String)
  /-- The arguments do not fit the grammar. -/
  | usageError
  deriving DecidableEq, Repr

/-- The values collected for a command that does work. -/
structure Collected where
  values : List (String × String) := []
  positional : Option String := none

/-- Whether an argument has the form of a flag rather than a value. -/
def isFlagLike (a : String) : Bool := a.startsWith "-" && a.length > 1

/-- Records one option value, refusing a repeat or a value outside the choices. -/
def Collected.put (c : Collected) (o : OptionSpec) (v : String) : Option Collected :=
  if c.values.any (·.1 == o.long) then none
  else if !o.choices.isEmpty && !o.choices.contains v then none
  else some { c with values := c.values ++ [(o.long, v)] }

/-- The outcome of reading the arguments of a command that does work. -/
inductive LeafRead where
  | done (c : Collected)
  | help
  | error

/-- Records a value for an option and goes on with the rest, or stops on a refused value. -/
def Collected.step (c : Collected) (o : OptionSpec) (v : String) (k : Collected → LeafRead) : LeafRead :=
  match c.put o v with
  | some c' => k c'
  | none => .error

/-- Reads the arguments of a command that does work; after `--` all are positional. -/
def readLeaf (l : LeafSpec) (raw : Bool) (args : List String) (c : Collected) : LeafRead :=
  match args with
  | [] => .done c
  | a :: rest =>
    if raw || !(a == "--" || asksHelp a || isFlagLike a) then
      match l.positional, c.positional with
      | some _, none => readLeaf l raw rest { c with positional := some a }
      | _, _ => .error
    else if a == "--" then readLeaf l true rest c
    else if asksHelp a then .help
    else
      -- the option, and a value written in the same argument
      let found : Option (OptionSpec × Option String) :=
        if a.startsWith "--" then
          match (a.drop 2).toString.splitOn "=" with
          | k :: vs => (l.options.find? (·.long == k)).map fun o =>
              (o, if vs.isEmpty then none else some ("=".intercalate vs))
          | [] => none
        else
          match a.toList with
          | _ :: s :: tail => (l.options.find? (·.short == s)).map fun o =>
              (o, match tail with
                | '=' :: v => some (String.ofList v)
                | [] => none
                | v => some (String.ofList v))
          | _ => none
      match found with
      | none => .error
      | some (o, some v) => c.step o v (readLeaf l false rest)
      | some (o, none) =>
        match _h : rest with
        | [] => .error
        | v :: rest' =>
          if isFlagLike v then .error
          else c.step o v (readLeaf l false rest')
termination_by args.length
decreasing_by all_goals simp_all +arith

/-- The value of an option after reading, falling back to its default. -/
def Collected.get? (c : Collected) (o : OptionSpec) : Option String :=
  match c.values.find? (·.1 == o.long) with
  | some (_, v) => some v
  | none => o.default

/-- The account kind named on the command line. -/
def kindOf : String → AccountKind
  | "admin" => .adminUser
  | _ => .customer

/-- Turns the collected values of a command into the command, if every required value is there. -/
def finish (name : String) (c : Collected) : Option Command :=
  let opt (long : String) : Option String :=
    match entries.findSome? (fun e => match e with
      | .group g => g.leaves.findSome? (fun l => if l.name == name then l.options.find? (·.long == long) else none)
      | .leaf _ => none) with
    | some o => c.get? o
    | none => none
  match name with
  | "migrate" => some .migrate
  | "create" =>
    match opt "kind", opt "name", opt "cpf", opt "email" with
    | some k, some n, some p, some e => some (.create (kindOf k) n p e)
    | _, _, _, _ => none
  | "show" =>
    match opt "kind", opt "cpf" with
    | some k, some p => some (.show (kindOf k) p)
    | _, _ => none
  | "check" => c.positional.map Command.checkCpf
  | _ => none

/-- Runs a command that does work on the rest of the arguments. -/
def invokeLeaf (path : String) (l : LeafSpec) (args : List String) : Invocation :=
  match readLeaf l false args {} with
  | .help => .print (leafHelp path l)
  | .error => .usageError
  | .done c =>
    match finish l.name c with
    | some cmd => .run cmd
    | none => .usageError

/-- The help page that `help` followed by a path of names asks for: each name must be a
subcommand of the one before, the help subcommands included, which have none of their own. -/
def helpFor : List String → Option String
  | [] => some topHelp
  | ["help"] => some (helpCommandHelp "")
  | "help" :: _ :: _ => none
  | n :: rest =>
    match entries.find? (·.name == n) with
    | some (.leaf l) => if rest.isEmpty then some (leafHelp l.name l) else none
    | some (.group g) =>
      match rest with
      | [] => some (groupHelp g)
      | ["help"] => some (helpCommandHelp (" " ++ g.name))
      | [m] => (g.leaves.find? (·.name == m)).map fun l => leafHelp (g.name ++ " " ++ l.name) l
      | _ => none
    | none => none

/-- Reads the arguments that follow a group's name. -/
def invokeGroup (g : GroupSpec) : List String → Invocation
  | [] => .usageError
  | a :: rest =>
    if asksHelp a then .print (groupHelp g)
    else if a == "help" then
      match (helpFor (g.name :: rest)) with
      | some t => .print t
      | none => .usageError
    else match g.leaves.find? (·.name == a) with
      | some l => invokeLeaf (g.name ++ " " ++ l.name) l rest
      | none => .usageError

/-- Reads a whole argument list (without the program's name). -/
def invoke : List String → Invocation
  | [] => .usageError
  | a :: rest =>
    if asksHelp a then .print topHelp
    else if a == "--version" || clusterHead? a == some 'V' then .print versionText
    else if a == "help" then
      match helpFor rest with
      | some t => .print t
      | none => .usageError
    else match entries.find? (·.name == a) with
      | some (.leaf l) => invokeLeaf l.name l rest
      | some (.group g) => invokeGroup g rest
      | none => .usageError

end AccountRegistry.Cli
