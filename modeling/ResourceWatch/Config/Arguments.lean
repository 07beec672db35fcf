import ResourceWatch.Config.Environment

/-!
Settings from command-line arguments. Each setting has a long name and most have a letter; a value
stands behind the name, after an equals sign or as the next argument, and directly behind a letter,
too. Every argument has to be one of these, and none may be given twice.
-/

namespace ResourceWatch.Config

inductive Parameter where
  | pollInterval
  | waitTimeout
  | pageSize
  | orderBy
  | keepPolling
  | configPath
  deriving DecidableEq, Repr

namespace Parameter

def all : List Parameter :=
  [pollInterval, waitTimeout, pageSize, orderBy, keepPolling, configPath]

def longName : Parameter → String
  | pollInterval => "poll-interval-secs"
  | waitTimeout => "wait-timeout-secs"
  | pageSize => "default-page-size"
  | orderBy => "default-order-by"
  | keepPolling => "keep-polling-on-unknown"
  | configPath => "config-path"

def letter? : Parameter → Option Char
  | pollInterval => some 'p'
  | waitTimeout => some 'w'
  | pageSize => some 'd'
  | orderBy => some 'D'
  | keepPolling => some 'k'
  | configPath => none

def setting : Parameter → String
  | pollInterval => "poll_interval_secs"
  | waitTimeout => "wait_timeout_secs"
  | pageSize => "default_page_size"
  | orderBy => "default_order_by"
  | keepPolling => "keep_polling_on_unknown"
  | configPath => "config_path"

def takesValue (parameter : Parameter) : Bool := parameter != keepPolling

def value? (parameter : Parameter) (text : List Char) : Option Json :=
  match parameter with
  | pollInterval | waitTimeout => (Environment.unsigned? text).map Json.integer
  | pageSize => (Environment.signed? text).map Json.integer
  | orderBy | configPath => some (.string (String.ofList text))
  | keepPolling => some (.boolean true)

def ofLong? (name : List Char) : Option Parameter := all.find? (·.longName.toList == name)

def ofLetter? (letter : Char) : Option Parameter := all.find? (·.letter? == some letter)

end Parameter

abbrev Arguments := List (Parameter × Json)

namespace Arguments

def add (parameter : Parameter) (text : List Char) (given : Arguments) : Option Arguments :=
  if given.any (·.1 == parameter) then none
  else (parameter.value? text).map fun value => given ++ [(parameter, value)]

/-- Letters behind one hyphen. The last one may need the next argument as its value. -/
def letters (given : Arguments) : List Char → Option (Arguments × Option Parameter)
  | [] => some (given, none)
  | letter :: rest => do
      let parameter ← Parameter.ofLetter? letter
      if parameter.takesValue then
        match rest with
        | [] => return (given, some parameter)
        | '=' :: text => return (← given.add parameter text, none)
        | text => return (← given.add parameter text, none)
      else letters (← given.add parameter []) rest

def one (given : Arguments) (argument : List Char) : Option (Arguments × Option Parameter) :=
  match argument with
  | '-' :: '-' :: behind => do
      let (name, rest) := Text.cutAt (· == '=') behind
      let parameter ← Parameter.ofLong? name
      match parameter.takesValue, rest with
      | true, [] => return (given, some parameter)
      | true, _ :: text => return (← given.add parameter text, none)
      | false, [] => return (← given.add parameter [], none)
      | false, _ :: _ => none
  | '-' :: letter :: more => letters given (letter :: more)
  | _ => none

def isValue (argument : List Char) : Bool := argument.head? != some '-' || argument == ['-']

def read (given : Arguments) (awaiting : Option Parameter) : List (List Char) → Option Arguments
  | [] => if awaiting.isSome then none else some given
  | argument :: rest =>
      match awaiting with
      | some parameter =>
          if isValue argument then
            match given.add parameter argument with
            | some given => read given none rest
            | none => none
          else none
      | none =>
          if argument == ['-', '-'] then if rest.isEmpty then some given else none
          else match one given argument with
            | some (given, awaiting) => read given awaiting rest
            | none => none

def parse (arguments : List String) : Option Arguments :=
  read [] none (arguments.map String.toList)

/-- The settings of arguments. One that is not given does not count, but polling on unknown states is
off unless it is given. -/
def fields (given : Arguments) : Fields :=
  Fields.ofList ((Parameter.keepPolling.setting, .boolean false) ::
    given.map fun pair => (pair.1.setting, pair.2))

def configPath? (given : Arguments) : Option String :=
  match given.lookup .configPath with
  | some (.string path) => some path
  | _ => none

end Arguments

end ResourceWatch.Config
