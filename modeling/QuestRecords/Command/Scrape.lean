import QuestRecords.Batch.Run
import QuestRecords.Command.Host
import QuestRecords.Command.ScrapeRequest
import QuestRecords.Quest.ApprovedList

/-! The batch command. It works through a list of approved quests, whose sources come from the
network or from a checkout, and writes one record a quest. -/
namespace QuestRecords.Scrape

variable {m : Type → Type} [Monad m]

/-- Why a batch is not worked through. -/
inductive ScrapeError where
  | settings (error : SettingsError)
  | list (error : ListError)
  | batch (error : BatchError)
  | userAgent (name : String)

namespace ScrapeError

def code : ScrapeError → Code
  | settings error => error.code
  | list error => error.code
  | batch error => error.code
  | userAgent _ => .initializationFailure

def message : ScrapeError → String
  | settings error => error.message
  | list error => error.message
  | batch error => error.message
  | userAgent name => "Cannot build HTTP client: unusable user agent '" ++ name ++ "'"

end ScrapeError

/-- Fetches from the network, unless the name to send with a request cannot be sent. -/
def networkFetcher (settings : FetchSettings) (download : FetchSettings → String → m Fetched) :
    Except ScrapeError (Fetcher m) :=
  let location (className : String) : String :=
    String.ofList (Naming.sourceUrl settings.baseUrl.toList className.toList)
  if FetchSettings.isUsableAgent settings.userAgent then
    .ok { location, fetch := fun className => download settings (location className) }
  else .error (.userAgent settings.userAgent)

/-- Fetches from a checkout if there is one, and else from the network. -/
def fetcherOf (files : FileAccess m) (download : FetchSettings → String → m Fetched)
    (settings : FetchSettings) : Option String → Except ScrapeError (Fetcher m)
  | some root => .ok (LocalCheckout.fetcher files root settings.sizeLimit)
  | none => networkFetcher settings download

/-- The settings of a request: those of the environment, above them those of a file, and above all
those of the command line. -/
def settingsOf (host : Host m) (request : ScrapeRequest) : m (Except SettingsError Settings) := do
  let loaded ← Settings.load host.files host.environment.settings request.settingsFile
  return do
    let settings ← request.overrides.apply host.processors (← loaded)
    settings.validate
    return settings

def startMessage (list : String) (settings : BatchSettings) : Event :=
  .info "Quest scraper starting"
    [("input_list", list), ("output_dir", settings.outputDirectory)]

/-- Works through the list at a path. -/
def runList (host : Host m) (outlet : Outlet) (settings : Settings) (checkout : Option String)
    (list : String) : Session m (Except ScrapeError BatchResults) := do
  match ApprovedList.ofFile list (← host.files.inSession.readText list) with
  | .error error => return .error (.list error)
  | .ok approved =>
    Session.deliver host outlet none (approved.loaded list)
    let download (settings : FetchSettings) (location : String) : Session m Fetched :=
      liftM (host.download settings location)
    match fetcherOf host.files.inSession download settings.fetch checkout with
    | .error error => return .error error
    | .ok fetcher =>
      let workplace : Workplace (Session m) := {
        fetcher
        output := Output.directory host.files.inSession settings.batch.outputDirectory
        deliver := Session.deliver host outlet
        now := liftM host.now }
      return (← Batch.run workplace settings.batch approved.names).mapError .batch

/-- Tells which quests were skipped, and why. -/
def printSkipped (host : Host m) (results : BatchResults) : Session m Unit := do
  if !results.skipped.isEmpty then
    Session.print host .errors "Skipped quests:"
    results.skipped.forM fun outcome =>
      Session.print host .errors ("  " ++ outcome.name ++ ": " ++ outcome.error)

/-- Works through a list and tells what came of it; gives the exit code. -/
def work (host : Host m) (settings : Settings) (checkout : Option String) (list : String) :
    Session m UInt32 := do
  let (outlet, faults) := Outlet.ofSettings host.environment settings.logging
  faults.forM fun fault => Session.print host .errors fault.warning
  Session.deliver host outlet none [Session.readyMessage]
  Session.deliver host outlet none [startMessage list settings.batch]
  let started ← liftM host.now
  match ← runList host outlet settings checkout list with
  | .error error =>
    Session.announce host outlet (.error error.code error.message)
    Session.report host
    return 1
  | .ok results =>
    printSkipped host results
    let passed := (← liftM host.now) - started
    Session.print host .output (results.summary (Calendar.seconds passed))
    Session.report host
    return 0

def version : String := "quest_scraper 0.1.0"

def usage : String := "Usage: quest_scraper [OPTIONS] <INPUT_LIST>"

def help : String := String.intercalate "\n" [
  "Extract quest records from quest helper sources",
  "",
  usage,
  "",
  "Arguments:",
  "  <INPUT_LIST>  JSON object mapping quest display names to true/false",
  "",
  "Options:",
  "  -c, --config <CONFIG>          TOML configuration file",
  "  -o, --output-dir <OUTPUT_DIR>  Directory for the <key>.json records",
  "  -j, --threads <THREADS>        Worker threads; 0 uses one per CPU",
  "      --base-url <BASE_URL>      Source root URL",
  "      --local-root <LOCAL_ROOT>  Read sources from a local checkout instead of HTTP",
  "      --timeout <TIMEOUT>        Fetch timeout in seconds",
  "      --report                   Also write _batch_report.json",
  "      --structured               Log as JSON lines instead of through env_logger",
  "      --log-level <LOG_LEVEL>    error, warning, info or debug",
  "  -h, --help                     Print help",
  "  -V, --version                  Print version"]

/-- Runs the batch that a request asks for; gives the exit code. -/
def runRequest (host : Host m) (request : ScrapeRequest) : m UInt32 := do
  match ← settingsOf host request with
  | .error error =>
    host.print .errors ("[ERROR] " ++ error.code.text ++ " - " ++ error.message)
    return 1
  | .ok settings =>
    let session := work host settings request.checkout (request.list.getD "")
    return (← session.run settings.logging.journal).1

/-- Runs the command; gives its exit code. -/
def run (host : Host m) (arguments : List String) : m UInt32 := do
  match ScrapeRequest.ofArguments arguments with
  | .ok request => runRequest host request
  | .error .help => host.print .output help; return 0
  | .error .version => host.print .output version; return 0
  | .error .refused => host.print .errors usage; return 2

end QuestRecords.Scrape
