import NavPolicy.Command.Basic

/-!
# Arguments

A command line has two levels: options for all commands, the name of a command, and then
its own options and words.  An option has a name behind two dashes and a value, either
behind an equals sign or as the next argument.  Behind two dashes alone all is words.  No
option may be given twice on one level, but those for all commands may be given on both,
and then the inner one counts.
-/

namespace NavPolicy.Command

/-- Why arguments are not carried out. -/
inductive Refusal where
  /-- They are wrong. -/
  | usage
  /-- They ask for help. -/
  | help
  deriving DecidableEq, Repr

/-- How an argument reads. -/
inductive Argument where
  | option (name : String) (attached : Option String)
  /-- The mark before words. -/
  | mark
  | help
  /-- Something with one dash, which no option has. -/
  | dashed
  | word (text : String)
  deriving DecidableEq, Repr

def Argument.ofText (text : String) : Argument :=
  match text.toList with
  | ['-', '-'] => mark
  | ['-', 'h'] => help
  | ['-'] => word text
  | '-' :: '-' :: rest =>
    let name := String.ofList (rest.takeWhile (· != '='))
    match rest.dropWhile (· != '=') with
    | [] => if name == "help" then help else option name none
    | _ :: value => option name (some (String.ofList value))
  | '-' :: _ => dashed
  | _ => word text

/-- The options and words of one level, and what comes behind the name of a command. -/
structure Level where
  options : List (String × String) := []
  words : List String := []
  command : Option (String × List String) := none
  deriving DecidableEq, Repr

namespace Level

def consOption (name value : String) (l : Level) : Level :=
  { l with options := (name, value) :: l.options }

def consWord (word : String) (l : Level) : Level :=
  { l with words := word :: l.words }

/-- Read the arguments of a level, which has some options and may end with the name of a
command. -/
def ofArguments (known commands : List String) : List String → Except Refusal Level
  | [] => .ok {}
  | arg :: rest =>
    match Argument.ofText arg with
    | .mark => .ok { words := rest }
    | .help => .error .help
    | .dashed => .error .usage
    | .word w =>
      if commands.contains w then .ok { command := some (w, rest) }
      else (ofArguments known commands rest).map (consWord w)
    | .option name attached =>
      if known.contains name then
        match attached, rest with
        | some value, rest => (ofArguments known commands rest).map (consOption name value)
        | none, value :: rest =>
          match Argument.ofText value with
          | .word _ => (ofArguments known commands rest).map (consOption name value)
          | .help => .error .help
          | _ => .error .usage
        | none, [] => .error .usage
      else .error .usage

def value? (l : Level) (name : String) : Option String := l.options.lookup name

/-- Whether no option is given twice. -/
def isSingle (l : Level) : Bool := decide (l.options.map Prod.fst).Nodup

end Level

/-- What is to be done. -/
inductive Task where
  | validate
  | compile (platform : Platform) (id mode : Option String)
  | check (request : CheckRequest)
  deriving DecidableEq, Repr

/-- A command line, read: the paths of the files and what is to be done. -/
structure Invocation where
  policy : Option String
  options : Option String
  task : Task
  deriving DecidableEq, Repr

/-- The names of commands, each with its own options. -/
def commandForms : List (String × List String) :=
  [("validate", []), ("compile", ["platform", "destination", "filter-mode"]),
    ("check", ["platform", "destination", "filter-mode", "resource"])]

def fileOptions : List String := ["policy", "options"]

def needed {α : Type} : Option α → Except Refusal α
  | some a => .ok a
  | none => .error .usage

def Level.platform (l : Level) : Except Refusal Platform :=
  needed ((l.value? "platform").bind Platform.ofName?)

def Level.resource (l : Level) : Except Refusal (Option ResourceType) :=
  match l.value? "resource" with
  | none => .ok none
  | some name => ((ResourceType.ofName name).map some).mapError fun _ => .usage

def Level.word (l : Level) : Except Refusal String :=
  match l.words with
  | [w] => .ok w
  | _ => .error .usage

def Task.ofLevel (name : String) (l : Level) : Except Refusal Task :=
  match name with
  | "validate" => if l.words.isEmpty then .ok .validate else .error .usage
  | "compile" => do
    let platform ← l.platform
    if l.words.isEmpty then
      return .compile platform (l.value? "destination") (l.value? "filter-mode")
    else throw .usage
  | "check" => do
    return .check {
      platform := ← l.platform
      destination := ← needed (l.value? "destination")
      mode := l.value? "filter-mode"
      url := ← l.word
      resource := ← l.resource }
  | _ => .error .usage

/-- The path of a file: from the inner level, else from the outer one, else from the
environment.  Each level falls back on the environment by itself, and no path that it finds
may be empty. -/
def filePath (name : String) (outer inner : Level) (environment : Option String) :
    Except Refusal (Option String) :=
  if [outer, inner].any fun l => (l.value? name).orElse (fun _ => environment) == some "" then
    .error .usage
  else
    .ok (((inner.value? name).orElse fun _ => outer.value? name).orElse fun _ => environment)

def Invocation.ofArguments (policy options : Option String) (args : List String) :
    Except Refusal Invocation := do
  let outer ← Level.ofArguments fileOptions ("help" :: commandForms.map Prod.fst) args
  match outer.command with
  | none => throw .usage
  | some ("help", _) => throw .help
  | some (name, rest) =>
    let own := (commandForms.lookup name).getD []
    let inner ← Level.ofArguments (fileOptions ++ own) [] rest
    if outer.words.isEmpty && outer.isSingle && inner.isSingle then
      return {
        policy := ← filePath "policy" outer inner policy
        options := ← filePath "options" outer inner options
        task := ← Task.ofLevel name inner }
    else throw .usage

end NavPolicy.Command
