import Replay.Backend.Desktop
import Replay.Backend.DryRun
import Replay.Backend.WebDriver
import Replay.Loading
import Replay.LogLevel
import Replay.Playbook
import Replay.Profile.Schema

/-!
The command line: reading its arguments, and what the program then does and prints. How files are read,
how a WebDriver server is reached and how input is simulated is left open.
-/

namespace Replay

namespace Program

def name : String := "brokerscript"

def version : String := "0.1.0"

end Program

/-- The backend that a run uses: a dry run takes the place of any other. -/
def BackendChoice.forRun (config : BackendChoice) (dryRun : Bool) : BackendChoice :=
  match config, dryRun with
  | .dryRun assumePresent, _ => .dryRun assumePresent
  | _, true => .dryRun true
  | config, false => config

namespace CommandLine

structure Arguments where
  profile : Option String := none
  store : Option String := none
  actionsSection : Option String := none
  logLevel : Option String := none
  /-- In reverse order. -/
  runs : List String := []
  dryRun : Bool := false
  check : Bool := false
  printSchema : Bool := false
  deriving DecidableEq, Repr

inductive Usage
  | help
  | version
  | wrong
  deriving DecidableEq, Repr

inductive ValueOption
  | profile
  | store
  | actionsSection
  | logLevel
  deriving DecidableEq, Repr

inductive SwitchOption
  | dryRun
  | check
  | printSchema
  deriving DecidableEq, Repr

def valueOptions : List (String × ValueOption) :=
  [("profile", .profile), ("store", .store), ("section", .actionsSection), ("log-level", .logLevel)]

def switchOptions : List (String × SwitchOption) :=
  [("dry-run", .dryRun), ("check", .check), ("print-schema", .printSchema)]

def once (current : Option String) (value : String) : Except Usage (Option String) :=
  if current.isSome then .error .wrong else .ok (some value)

def oncePath (current : Option String) (value : String) : Except Usage (Option String) :=
  if value = "" then .error .wrong else once current value

namespace Arguments

def set (args : Arguments) (value : String) : ValueOption → Except Usage Arguments
  | .profile => do return { args with profile := ← oncePath args.profile value }
  | .store => do return { args with store := ← oncePath args.store value }
  | .actionsSection => do return { args with actionsSection := ← once args.actionsSection value }
  | .logLevel => do return { args with logLevel := ← once args.logLevel value }

def switch (args : Arguments) : SwitchOption → Except Usage Arguments
  | .dryRun => if args.dryRun then .error .wrong else .ok { args with dryRun := true }
  | .check => if args.check then .error .wrong else .ok { args with check := true }
  | .printSchema =>
    if args.printSchema then .error .wrong else .ok { args with printSchema := true }

/-- Reads an option of one letter, and its value if that follows at once. Gives the option whose value
is still to come. -/
def readShort (args : Arguments) : List Char → Except Usage (Arguments × Option ValueOption)
  | 'h' :: _ => .error .help
  | 'V' :: _ => .error .version
  | ['p'] => .ok (args, some .profile)
  | 'p' :: '=' :: value => (args.set (String.ofList value) .profile).map (·, none)
  | 'p' :: value => (args.set (String.ofList value) .profile).map (·, none)
  | _ => .error .wrong

def readLong (args : Arguments) (word : List Char) : Except Usage (Arguments × Option ValueOption) :=
  let (name, value) := match Text.cutAtFirst (· == '=') word with
    | some (name, value) => (String.ofList name, some (String.ofList value))
    | none => (String.ofList word, none)
  match Entries.lookup name valueOptions, value with
  | some option, some value => (args.set value option).map (·, none)
  | some option, none => .ok (args, some option)
  | none, some _ => .error .wrong
  | none, none =>
    match Entries.lookup name switchOptions with
    | some option => (args.switch option).map (·, none)
    | none =>
      if name = "help" then .error .help
      else if name = "version" then .error .version
      else .error .wrong

/-- Reads the words of the command line. `pending` is an option that still lacks its value; words
after a double hyphen are never options. -/
def readFrom (args : Arguments) (pending : Option ValueOption) (plain : Bool) :
    List String → Except Usage Arguments
  | [] => if pending.isSome then .error .wrong else .ok { args with runs := args.runs.reverse }
  | word :: rest =>
    match plain, word.toList, pending with
    | true, _, some _ => .error .wrong
    | false, '-' :: '-' :: _, some _ => .error .wrong
    | false, ['-'], some option => do readFrom (← args.set word option) none false rest
    | false, '-' :: _, some _ => .error .wrong
    | false, _, some option => do readFrom (← args.set word option) none false rest
    | false, ['-', '-'], none => readFrom args none true rest
    | false, '-' :: '-' :: name, none => do
      let (args, pending) ← args.readLong name
      readFrom args pending false rest
    | false, '-' :: letter :: letters, none => do
      let (args, pending) ← args.readShort (letter :: letters)
      readFrom args pending false rest
    | plain, _, none => readFrom { args with runs := word :: args.runs } none plain rest

def read (words : List String) : Except Usage Arguments := readFrom {} none false words

end Arguments

inductive RunError
  | load (error : LoadError)
  | noSection (path name : String)
  | backend (error : BackendError)
  | list (error : ListError)
  deriving Repr

def RunError.chain : RunError → List String
  | load error => error.chain
  | noSection path name => [s!"Store {path} has no section [{name}]"]
  | backend error => ["Failed to open backend", error.message]
  | list error => error.chain

def indented (indent : String) (text : String) : String :=
  String.ofList (text.toList.flatMap fun c => if c = '\n' then '\n' :: indent.toList else [c])

def causeLines (several : Bool) (number : Nat) : List String → String
  | [] => ""
  | cause :: rest =>
    let line :=
      if several then
        let digits := toString number
        "\n" ++ String.ofList (List.replicate (5 - digits.length) ' ') ++ digits ++ ": " ++
          indented "       " cause
      else "\n    " ++ indented "    " cause
    line ++ causeLines several (number + 1) rest

def report : List String → String
  | [] => "Error: "
  | [message] => "Error: " ++ message
  | message :: causes =>
    "Error: " ++ message ++ "\n\nCaused by:" ++ causeLines (1 < causes.length) 0 causes

structure Result where
  exit : Nat
  output : String
  error : Option String
  reports : List Report := []
  deriving DecidableEq, Repr

namespace Result

def success (output : String) : Result := ⟨0, output, none, []⟩

def failure (error : RunError) : Result := ⟨1, "", some (report error.chain), []⟩

def ofTexts (results : List (String × List String)) : Result :=
  success (String.join (results.flatMap fun result => result.2.map (· ++ "\n")))

def ofRun : Except ListError (List (String × List String)) → Result
  | .ok results => ofTexts results
  | .error error => failure (.list error)

end Result

def checkAll (playbook : Playbook) (name : String) : List String → Result
  | [] => .success ""
  | key :: rest =>
    match playbook.load name key with
    | .ok _ => checkAll playbook name rest
    | .error error => .failure (.list error)

def runAll {τ : Type} (playbook : Playbook) (name : String) (keys : List String)
    (peer : Http.Peer τ) (device : Input.Device τ) (state : τ) : BackendChoice → Result × τ
  | .dryRun assumePresent =>
    let (results, run) := playbook.runAll DryRun.backend name keys (.start assumePresent)
    ({ Result.ofRun results with reports := run.reports }, state)
  | .desktop =>
    let (results, desktop) := playbook.runAll (Desktop.backend device) name keys (.start state)
    (Result.ofRun results, desktop.device)
  | .webDriver settings =>
    match WebDriver.openSession peer settings state with
    | (.error error, state) => (.failure (.backend error), state)
    | (.ok driver, state) =>
      let (results, state) := playbook.runAll (driver.backend peer) name keys state
      (Result.ofRun results, driver.closeSession peer state)

def runStore {τ : Type} (args : Arguments) (profile : Profile) (path : String) (store : Store)
    (peer : Http.Peer τ) (device : Input.Device τ) (state : τ) : Result × τ :=
  let name := args.actionsSection.getD profile.actionsSection
  let keys := if args.runs = [] then profile.runs else args.runs
  let playbook : Playbook := ⟨store, profile.run⟩
  if !store.hasSection name then (.failure (.noSection path name), state)
  else if keys = [] then (.success "", state)
  else if args.check then (checkAll playbook name keys, state)
  else runAll playbook name keys peer device state (profile.backend.forRun args.dryRun)

variable {m : Type → Type} [Monad m] {τ : Type}

def runArguments (reader : FileReader m) (peer : Http.Peer τ) (device : Input.Device τ) (state : τ)
    (args : Arguments) : m Result := do
  match ← Profile.load reader (args.profile.getD "profile.json") with
  | .error error => return .failure (.load error)
  | .ok profile =>
    let path := args.store.getD profile.store
    match ← Store.load reader path with
    | .error error => return .failure (.load error)
    | .ok store => return (runStore args profile path store peer device state).1

def run (reader : FileReader m) (peer : Http.Peer τ) (device : Input.Device τ) (state : τ)
    (words : List String) : m Result := do
  match Arguments.read words with
  | .error .help => return .success ""
  | .error .version => return .success s!"{Program.name} {Program.version}\n"
  | .error .wrong => return ⟨2, "", none, []⟩
  | .ok args =>
    if args.printSchema then return .success (Schema.profile.pretty ++ "\n")
    else runArguments reader peer device state args

end CommandLine

end Replay
