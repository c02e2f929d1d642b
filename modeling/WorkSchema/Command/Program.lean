import WorkSchema.Command.Arguments
import WorkSchema.Command.Report
import WorkSchema.Config.Load
import WorkSchema.Store.Directory

/-!
The program as a function of its arguments, its environment and the disk.
-/

namespace WorkSchema

/-- What the program leaves behind. -/
structure Outcome where
  exitCode : Nat
  output : String := ""
  errors : String := ""
  disk : Disk

namespace Program

def name : String := "trackerctl"

def versionText : String := name ++ " 0.1.0\n"

def helpText : String :=
  "Inspect work item type schemas and validate field payloads\n\n" ++
    s!"Usage: {name} [OPTIONS] <COMMAND>\n\n" ++
    "Commands:\n" ++
    "  list      List work item types\n" ++
    "  show      Print a work item type with its resolved schema as YAML\n" ++
    "  validate  Validate a JSON object of field values against a work item type\n" ++
    "  check     Resolve every work item type and report broken definitions\n" ++
    "  help      Print this message or the help of the given subcommand(s)\n\n" ++
    "Options:\n" ++
    "  -d, --debug          Enable debug output to stderr\n" ++
    "  -c, --config <FILE>  Configuration file (.toml, .yaml or .json)\n" ++
    "      --root <DIR>     Schema store directory, overriding the configuration\n" ++
    "  -h, --help           Print help\n" ++
    "  -V, --version        Print version\n"

def usageText : String := s!"Usage: {name} [OPTIONS] <COMMAND>\n"

/-- The folder of the store where nothing else names one. -/
def defaultRoot : Path := ⟨".tracker"⟩

/-- A root that is given takes the place of the one in the settings. -/
def withRoot (root? : Option Path) (settings : Settings) : Settings :=
  {settings with storeRoot? := (root?.map Path.text).or settings.storeRoot?}

def storeRoot (settings : Settings) : Path := (settings.storeRoot?.map Path.mk).getD defaultRoot

/-- Loads the settings and opens the store they lead to. -/
def openEngine (environment : List (String × String)) (config? root? : Option Path) :
    EStateM CommandError Disk (Engine DirectoryStore) := do
  match Settings.load (← get) environment config? with
  | .error error => throw (.loadingSettings error)
  | .ok settings =>
      let settings := withRoot root? settings
      let root := storeRoot settings
      let store ← EStateM.adaptExcept (CommandError.openingStore root)
        (DirectoryStore.openAt .yaml root Category.plannerDefaults)
      return {store, settings}

/-- Runs a command. The result tells whether all is well, beside the output. -/
def runCommand (disk : Disk) : Command → CommandM DirectoryStore (Bool × String)
  | .list => return (true, ← Report.listTypes)
  | .showType id => return (true, ← Report.showType id)
  | .validate id payload =>
      return (true, ← Report.validatePayload id payload (disk.readText payload.names))
  | .check => do
      let findings ← Report.onEngine Report.check
      return (Report.isHealthy findings, Report.text findings)

def failure (error : CommandError) (disk : Disk) : Outcome :=
  {exitCode := 1, errors := s!"Error: {error.fullText}\n", disk}

def execute (options : Options) (command : Command) (environment : List (String × String))
    (disk : Disk) : Outcome :=
  match openEngine environment options.config? options.root? disk with
  | .error error disk => failure error disk
  | .ok engine disk =>
      match runCommand disk command engine with
      | .error error _ => failure error disk
      | .ok (healthy, output) _ => {exitCode := if healthy then 0 else 1, output, disk}

/-- The whole program. -/
def run (arguments : List String) (environment : List (String × String)) (disk : Disk) : Outcome :=
  match Arguments.parse arguments with
  | .run options command => execute options command environment disk
  | .help => {exitCode := 0, output := helpText, disk}
  | .version => {exitCode := 0, output := versionText, disk}
  | .misuse => {exitCode := 2, errors := usageText, disk}

end Program

end WorkSchema
