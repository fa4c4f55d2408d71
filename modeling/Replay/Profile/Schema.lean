import Replay.Json.Value
import Replay.Profile

namespace Replay

open Json (Value)

def optionalText : Option String → Value
  | none => .null
  | some text => .text text

namespace BrowserSettings

def toJson (settings : BrowserSettings) : Value :=
  .object [
    ("browser_name", .text settings.browserName),
    ("endpoint", .text settings.endpoint),
    ("headless", .bool settings.headless),
    ("implicit_wait_secs", .number (.double settings.implicitWaitSecs)),
    ("locator_strategy", .text settings.locatorStrategy.name),
    ("profile_directory", optionalText settings.profileDirectory),
    ("request_timeout_secs", .nat settings.requestTimeoutSecs),
    ("type", .text "webdriver"),
    ("user_data_directory", optionalText settings.userDataDirectory)]

end BrowserSettings

def BackendChoice.toJson : BackendChoice → Value
  | webDriver settings => settings.toJson
  | desktop => .object [("type", .text "desktop")]
  | dryRun assumePresent =>
    .object [("assume_present", .bool assumePresent), ("type", .text "dry_run")]

def RunSettings.toJson (settings : RunSettings) : Value :=
  .object [
    ("loop_delay_ms", .nat settings.loopDelayMillis),
    ("missing_text", .text settings.missingText.name)]

def Profile.toJson (profile : Profile) : Value :=
  .object [
    ("actions_section", .text profile.actionsSection),
    ("backend", profile.backend.toJson),
    ("interpreter", profile.run.toJson),
    ("runs", .list (profile.runs.map .text)),
    ("store", .text profile.store)]

namespace Schema

def described (description : String) (fields : List (String × Value)) : Value :=
  .object (("description", .text description) :: fields)

def ofType (name : String) : String × Value := ("type", .text name)

def reference (name : String) : String × Value := ("$ref", .text s!"#/$defs/{name}")

def properties (fields : List (String × Value)) : String × Value := ("properties", .object fields)

def required (names : List String) : String × Value := ("required", .list (names.map .text))

def kind (name : String) : String × Value :=
  ("type", .object [ofType "string", ("const", .text name)])

def textOrNull : String × Value := ("type", .list [.text "string", .text "null"])

def defaults : BrowserSettings := {}

def backendChoice : Value :=
  described ("Backend selection.\nUse `type` to select a variant:\n" ++
      "- \"webdriver\": a browser driven over the W3C WebDriver protocol\n" ++
      "- \"desktop\": simulated mouse/keyboard input with coordinate locators\n" ++
      "- \"dry_run\": log every call without touching any UI")
    [("oneOf", .list [
      .object [ofType "object", properties [kind "webdriver"], reference "WebDriverSettings",
        required ["type"]],
      .object [ofType "object", properties [kind "desktop"], required ["type"]],
      .object [ofType "object",
        properties [
          ("assume_present", described
            "Whether `exist`/`text` treat every locator as present (default: true)."
            [ofType "boolean", ("default", .bool true)]),
          kind "dry_run"],
        required ["type"]]])]

def runSettings : Value :=
  described "Interpreter behavior knobs." [
    ofType "object",
    properties [
      ("loop_delay_ms", described "Delay after each `for` iteration, in milliseconds." [
        ofType "integer", ("format", .text "uint64"),
        ("default", .nat ({} : RunSettings).loopDelayMillis), ("minimum", .nat 0)]),
      ("missing_text", described "What `text` records when its locator matches nothing." [
        reference "MissingTextPolicy",
        ("default", .text ({} : RunSettings).missingText.name)])]]

def locatorStrategy : Value :=
  described "WebDriver element location strategy." [
    ofType "string",
    ("enum", .list [.text LocatorStrategy.xpath.name, .text LocatorStrategy.css.name])]

def missingText : Value :=
  described "Policy for `text` actions whose locator matches nothing." [
    ("oneOf", .list [
      described "Record nothing." [ofType "string", ("const", .text MissingText.skip.name)],
      described
        "Record \"<label> does not exist.\" when a label is known, nothing otherwise."
        [ofType "string", ("const", .text MissingText.diagnostic.name)]])]

def browserSettings : Value :=
  described "Settings of a WebDriver browser session." [
    ofType "object",
    properties [
      ("browser_name", described "Value of the `browserName` capability."
        [ofType "string", ("default", .text defaults.browserName)]),
      ("endpoint", described
        "WebDriver server URL (e.g., chromedriver's \"http://localhost:9515\")."
        [ofType "string", ("default", .text defaults.endpoint)]),
      ("headless", described "Run the browser without a window."
        [ofType "boolean", ("default", .bool defaults.headless)]),
      ("implicit_wait_secs", described "Implicit wait applied to element lookups, in seconds."
        [ofType "number", ("format", .text "double"),
          ("default", .number (.double defaults.implicitWaitSecs))]),
      ("locator_strategy", described "How locators are interpreted."
        [reference "LocatorStrategy", ("default", .text defaults.locatorStrategy.name)]),
      ("profile_directory", described
        "Profile directory inside `user_data_directory` (e.g., \"Default\")."
        [textOrNull, ("default", optionalText defaults.profileDirectory)]),
      ("request_timeout_secs", described
        "Timeout of a single HTTP request to the endpoint, in seconds."
        [ofType "integer", ("format", .text "uint64"),
          ("default", .nat defaults.requestTimeoutSecs), ("minimum", .nat 0)]),
      ("user_data_directory", described
        "Browser user data directory; only used together with `profile_directory`."
        [textOrNull, ("default", optionalText defaults.userDataDirectory)])]]

/-- A profile without a store of its own, for the defaults of its fields. -/
def blank : Profile := { store := "" }

def profileProperties : List (String × Value) := [
  ("actions_section", described "Section of the store that holds action lists."
    [ofType "string", ("default", .text blank.actionsSection)]),
  ("backend", described "Backend used to execute actions."
    [reference "BackendConfig", ("default", blank.backend.toJson)]),
  ("interpreter", described "Interpreter pacing and reporting."
    [reference "InterpreterSettings", ("default", blank.run.toJson)]),
  ("runs", described
    "Action list keys executed, in order, when the command line names none."
    [ofType "array", ("default", .list []), ("items", .object [ofType "string"])]),
  ("store", described
    "Path of the INI store (relative paths are resolved against the profile's directory)."
    [ofType "string"])]

def profile : Value :=
  .object [
    ("$schema", .text "https://json-schema.org/draft/2020-12/schema"),
    ("title", .text "Profile"),
    ("description", .text ("Root run profile.\n\n" ++
      "This structure is deserialized from a JSON file and tells the CLI:\n" ++
      "- where the INI `store` with settings and action lists lives\n" ++
      "- which section holds the action lists (`actions_section`)\n" ++
      "- which UI `backend` to drive\n" ++
      "- how the `interpreter` paces loops and reports missing text\n" ++
      "- which lists to `runs` when none are named on the command line")),
    ofType "object",
    properties profileProperties,
    required ["store"],
    ("$defs", .object [
      ("BackendConfig", backendChoice),
      ("InterpreterSettings", runSettings),
      ("LocatorStrategy", locatorStrategy),
      ("MissingTextPolicy", missingText),
      ("WebDriverSettings", browserSettings)])]

end Schema

end Replay
