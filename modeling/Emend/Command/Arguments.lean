/-! # Arguments

The words of a command line and what they ask for. Options have a long name, and some a
letter; letters can be written together, and the last of them may have its value right
behind it.
-/

namespace Emend

/-- Where the rules of a command come from. -/
inductive RuleSource where
  /-- A rule file. -/
  | file (path : String)
  /-- A built-in set. -/
  | builtIn (name : String)
  deriving Repr, DecidableEq

/-- How a rule set is applied to a file. -/
structure ApplyOptions where
  /-- Nothing is written. -/
  dryRun : Bool
  /-- The lines that change are shown. -/
  diff : Bool
  /-- A copy of the file is made before it is written. -/
  backup : Bool
  /-- Nothing is written if a rule finds nothing. -/
  strict : Bool
  /-- The report is written as JSON. -/
  json : Bool
  deriving Repr, DecidableEq

/-- What a command line can ask for. Without a file, that of the rule set is meant. -/
inductive Command where
  | apply (file : Option String) (source : RuleSource) (options : ApplyOptions)
  | check (file : Option String) (source : RuleSource) (json : Bool)
  /-- Lists the built-in sets. -/
  | list
  deriving Repr, DecidableEq

namespace Command

/-- What a command line asks for, with how much is to be told of it. -/
inductive Request where
  | run (verbosity : Nat) (command : Command)
  | help
  | version
  deriving Repr, DecidableEq

inductive Choice where
  | verbose | help | rules | builtIn | dryRun | diff | backup | strict | json
  deriving Repr, DecidableEq

def Choice.ofName? : String → Option Choice
  | "verbose" => some .verbose
  | "help" => some .help
  | "rules" => some .rules
  | "builtin" => some .builtIn
  | "dry-run" => some .dryRun
  | "diff" => some .diff
  | "backup" => some .backup
  | "strict" => some .strict
  | "json" => some .json
  | _ => none

def Choice.ofLetter? : Char → Option Choice
  | 'v' => some .verbose
  | 'h' => some .help
  | 'r' => some .rules
  | 'b' => some .builtIn
  | 'n' => some .dryRun
  | 'd' => some .diff
  | _ => none

def Choice.hasValue (choice : Choice) : Bool := choice = .rules || choice = .builtIn

/-- What has been read of the words behind a command. -/
structure Settings where
  verbosity : Nat := 0
  file : Option String := none
  rules : Option String := none
  builtIn : Option String := none
  /-- The options without value, each once. -/
  switches : List Choice := []

namespace Settings

/-- Sets an option without value. Only the verbosity may be raised again. -/
def switch (s : Settings) (choice : Choice) : Option Settings :=
  if choice = .verbose then some { s with verbosity := s.verbosity + 1 }
  else if s.switches.contains choice then none
  else some { s with switches := choice :: s.switches }

/-- Gives an option its value. A path cannot be empty. -/
def give (s : Settings) (choice : Choice) (value : String) : Option Settings :=
  match choice, s.rules, s.builtIn with
  | .rules, none, _ => if value = "" then none else some { s with rules := some value }
  | .builtIn, _, none => some { s with builtIn := some value }
  | _, _, _ => none

def take (s : Settings) (word : String) : Option Settings :=
  if s.file.isSome || word = "" then none else some { s with file := some word }

def has (s : Settings) (choice : Choice) : Bool := s.switches.contains choice

/-- The one place the rules come from. -/
def source? (s : Settings) : Option RuleSource :=
  match s.rules, s.builtIn with
  | some path, none => some (.file path)
  | none, some name => some (.builtIn name)
  | _, _ => none

end Settings

/-- A word of a command line. -/
inductive Word where
  /-- Two dashes: no options follow. -/
  | endOfOptions
  /-- A long name, perhaps with a value. -/
  | named (name : String) (value : Option String)
  /-- Letters behind a dash. -/
  | letters (letters : List Char)
  | plain (text : String)
  deriving Repr, DecidableEq

def Word.ofString (text : String) : Word :=
  match text.toList with
  | ['-', '-'] => .endOfOptions
  | '-' :: '-' :: rest =>
      let name := String.ofList (rest.takeWhile (· != '='))
      match rest.dropWhile (· != '=') with
      | [] => .named name none
      | _ :: value => .named name (some (String.ofList value))
  | '-' :: c :: rest => .letters (c :: rest)
  | _ => .plain text

/-- Where the reading of words stands behind an option. -/
inductive Progress where
  | settings (s : Settings)
  /-- The next word is the value of an option. -/
  | awaits (choice : Choice) (s : Settings)
  | help

/-- Reads letters. Behind a letter whose option has a value stands that value, perhaps
after an equals sign. -/
def readLetters (allowed : List Choice) (s : Settings) : List Char → Option Progress
  | [] => some (.settings s)
  | c :: rest =>
      match Choice.ofLetter? c with
      | none => none
      | some choice =>
          if !allowed.contains choice then none
          else if choice = .help then some .help
          else if choice.hasValue then
            match rest with
            | [] => some (.awaits choice s)
            | '=' :: value => (s.give choice (String.ofList value)).map .settings
            | value => (s.give choice (String.ofList value)).map .settings
          else (s.switch choice).bind fun s => readLetters allowed s rest

def readNamed (allowed : List Choice) (s : Settings) (name : String) (value : Option String) :
    Option Progress :=
  match Choice.ofName? name, value with
  | none, _ => none
  | some choice, value =>
      if !allowed.contains choice then none
      else match choice.hasValue, value with
        | true, some value => (s.give choice value).map .settings
        | true, none => some (.awaits choice s)
        | false, some _ => none
        | false, none =>
            if choice = .help then some .help else (s.switch choice).map .settings

/-- Reads the words behind a command. No settings mean that help is asked for. A value
that an option awaits is a plain word. -/
def readWords (allowed : List Choice) (takesFile plainOnly : Bool) :
    (progress : Progress) → List String → Option (Option Settings)
  | .help, _ => some none
  | .settings s, [] => some (some s)
  | .awaits .., [] => none
  | .awaits choice s, word :: words =>
      match Word.ofString word with
      | .plain value =>
          match s.give choice value with
          | none => none
          | some s => readWords allowed takesFile plainOnly (.settings s) words
      | _ => none
  | .settings s, word :: words =>
      let file? := if takesFile then s.take word else none
      match plainOnly, Word.ofString word with
      | true, _ | false, .plain _ =>
          match file? with
          | none => none
          | some s => readWords allowed takesFile plainOnly (.settings s) words
      | false, .endOfOptions => readWords allowed takesFile true (.settings s) words
      | false, .letters letters =>
          match readLetters allowed s letters with
          | none => none
          | some progress => readWords allowed takesFile plainOnly progress words
      | false, .named name value =>
          match readNamed allowed s name value with
          | none => none
          | some progress => readWords allowed takesFile plainOnly progress words

def commonChoices : List Choice := [.verbose, .help]

def checkChoices : List Choice := commonChoices ++ [.rules, .builtIn, .json]

def applyChoices : List Choice := checkChoices ++ [.dryRun, .diff, .backup, .strict]

def applyOf (s : Settings) : Option Command :=
  s.source?.map fun source => .apply s.file source {
    dryRun := s.has .dryRun, diff := s.has .diff, backup := s.has .backup
    strict := s.has .strict, json := s.has .json }

def checkOf (s : Settings) : Option Command :=
  s.source?.map fun source => .check s.file source (s.has .json)

/-- The request that settings describe. A verbosity behind the command counts instead of
one before it. -/
def requestOf (verbosity : Nat) (command : Settings → Option Command) :
    Option (Option Settings) → Option Request
  | none => none
  | some none => some .help
  | some (some s) =>
      (command s).map (.run (if s.verbosity = 0 then verbosity else s.verbosity))

def readCommand (verbosity : Nat) (name : String) (words : List String) : Option Request :=
  let start := Progress.settings {}
  match name with
  | "apply" => requestOf verbosity applyOf (readWords applyChoices true false start words)
  | "check" => requestOf verbosity checkOf (readWords checkChoices true false start words)
  | "list" =>
      requestOf verbosity (fun _ => some .list) (readWords commonChoices false false start words)
  | "help" =>
      if [[], ["apply"], ["check"], ["list"], ["help"]].contains words then some .help else none
  | _ => none

/-- What letters before the command ask for: more to be told, or something else. -/
def readFrontLetters (verbosity : Nat) : List Char → Option (Nat ⊕ Request)
  | [] => some (.inl verbosity)
  | 'v' :: rest => readFrontLetters (verbosity + 1) rest
  | 'h' :: _ => some (.inr .help)
  | 'V' :: _ => some (.inr .version)
  | _ => none

/-- Reads the words of a command line from the options before the command on. -/
def readFrom (verbosity : Nat) : List String → Option Request
  | [] => none
  | word :: words =>
      match Word.ofString word with
      | .plain name => readCommand verbosity name words
      | .named "verbose" none => readFrom (verbosity + 1) words
      | .named "help" none => some .help
      | .named "version" none => some .version
      | .letters letters =>
          match readFrontLetters verbosity letters with
          | none => none
          | some (.inl verbosity) => readFrom verbosity words
          | some (.inr request) => some request
      | _ => none

/-- What a command line asks for, if it is one. -/
def read? (words : List String) : Option Request := readFrom 0 words

end Command

end Emend
