import Replay.Backend
import Replay.Http
import Replay.Json.Outline
import Replay.Profile

/-!
A backend that drives a browser over the WebDriver protocol. A session is opened before the first call
and deleted after the last one.
-/

namespace Replay

open Http (Method Peer)
open Json (Value)

structure WebDriver where
  endpoint : String
  sessionId : String
  strategy : LocatorStrategy
  deriving DecidableEq, Repr

namespace WebDriver

variable {τ : Type}

def referenceField : String := "element-6066-11e4-a52e-4f735466cecf"

def errorOfCode (code detail : String) : BackendError :=
  match code with
  | "timeout" | "script timeout" => .timeout detail
  | "invalid session id" | "session not created" => .session detail
  | "unknown command" | "unknown method" | "unsupported operation" => .unsupported detail
  | _ => .protocol detail

def errorOfReply (value : Value) : BackendError :=
  let code := ((value.field? "error").bind Value.text?).getD "unknown error"
  let message := ((value.field? "message").bind Value.text?).getD ""
  errorOfCode code (if message = "" then code else s!"{code}: {message}")

def payload (success : Bool) (body : Value) : Except BackendError Value :=
  let value := (body.field? "value").getD .null
  if success then .ok value else .error (errorOfReply value)

def receive : Http.Response → Except BackendError Value
  | .timedOut detail => .error (.timeout detail)
  | .unreachable detail => .error (.session s!"WebDriver endpoint unreachable: {detail}")
  | .reply status body =>
    match Json.readText body with
    | .ok value => payload (Http.isSuccess status) value
    | .error _ =>
      .error (.protocol
        s!"invalid JSON reply ({Http.statusText status}): error decoding response body")

def send (peer : Peer τ) (method : Method) (url : String) (body : Option Value) : Attempt τ Value :=
  fun state =>
    let (response, state) := peer ⟨method, url, body⟩ state
    (receive response, state)

def commandUrl (driver : WebDriver) (path : String) : String :=
  let base := s!"{driver.endpoint}/session/{driver.sessionId}"
  if path = "" then base else s!"{base}/{path}"

def command (driver : WebDriver) (peer : Peer τ) (method : Method) (path : String)
    (body : Option Value) : Attempt τ Value :=
  send peer method (driver.commandUrl path) body

def post (driver : WebDriver) (peer : Peer τ) (path : String) (body : Value) : Attempt τ Unit :=
  fun state =>
    let (answer, state) := driver.command peer .post path (some body) state
    (answer.map fun _ => (), state)

def elementOf (value : Value) : Except BackendError Element :=
  match (value.field? referenceField).bind Value.text? with
  | some id => .ok ⟨id⟩
  | none => .error (.protocol s!"not an element reference: {value.compact}")

/-- A lookup that finds nothing is reported with the locator. -/
def lookupFailure (locator : String) : BackendError → BackendError
  | .protocol detail =>
    if "no such element".toList.isPrefixOf detail.toList then .elementNotFound locator
    else .protocol detail
  | error => error

def locatorBody (driver : WebDriver) (locator : String) : Value :=
  .object [("using", .text driver.strategy.wireName), ("value", .text locator)]

def firstElement (driver : WebDriver) (peer : Peer τ) (locator : String) :
    Attempt τ Element := fun state =>
  let (answer, state) :=
    driver.command peer .post "element" (some (driver.locatorBody locator)) state
  (match answer with
    | .ok value => elementOf value
    | .error error => .error (lookupFailure locator error), state)

def act (driver : WebDriver) (peer : Peer τ) (locator verb : String) (body : Value) :
    Attempt τ Unit := fun state =>
  match driver.firstElement peer locator state with
  | (.error error, state) => (.error error, state)
  | (.ok element, state) => driver.post peer s!"element/{element.id}/{verb}" body state

def navigateFailure (url : String) : BackendError → BackendError
  | .protocol detail => .navigation s!"{url}: {detail}"
  | error => error

def navigate (driver : WebDriver) (peer : Peer τ) (url : String) : Attempt τ Unit := fun state =>
  let (answer, state) := driver.post peer "url" (.object [("url", .text url)]) state
  (answer.mapError (navigateFailure url), state)

def elementsOf : List Value → Except BackendError (List Element)
  | [] => .ok []
  | item :: rest => do
    let element ← elementOf item
    return element :: (← elementsOf rest)

def elementList (value : Value) : Except BackendError (List Element) :=
  match value.list? with
  | some items => elementsOf items
  | none => .error (.protocol s!"find elements reply is not a list: {value.compact}")

def find (driver : WebDriver) (peer : Peer τ) (locator : String) :
    Attempt τ (List Element) := fun state =>
  let (answer, state) :=
    driver.command peer .post "elements" (some (driver.locatorBody locator)) state
  (answer.bind elementList, state)

def elementText (value : Value) : Except BackendError String :=
  match value.text? with
  | some text => .ok text
  | none => .error (.protocol s!"element text reply is not a string: {value.compact}")

def textOf (driver : WebDriver) (peer : Peer τ) (element : Element) :
    Attempt τ String := fun state =>
  let (answer, state) := driver.command peer .get s!"element/{element.id}/text" none state
  (answer.bind elementText, state)

def backend (driver : WebDriver) (peer : Peer τ) : Backend τ where
  name := "webdriver"
  navigate := driver.navigate peer
  click locator := driver.act peer locator "click" (.object [])
  clear locator := driver.act peer locator "clear" (.object [])
  sendKeys locator text := driver.act peer locator "value" (.object [("text", .text text)])
  refresh := driver.post peer "refresh" (.object [])
  find := driver.find peer
  textOf := driver.textOf peer
  pause _ state := state

/-- Deletes the session. A failure is of no consequence. -/
def closeSession (driver : WebDriver) (peer : Peer τ) (state : τ) : τ :=
  (driver.command peer .delete "" none state).2

/-- The arguments for the browser. A profile is named together with the directory that holds it, or
not at all. -/
def browserArgs (settings : BrowserSettings) : List String :=
  (if settings.headless then ["--headless=new"] else []) ++
    match settings.userDataDirectory.filter (· ≠ ""), settings.profileDirectory.filter (· ≠ "") with
    | some userData, some profile =>
      [s!"--user-data-dir={userData}", s!"--profile-directory={profile}"]
    | _, _ => []

def capabilities (settings : BrowserSettings) : Value :=
  .object [("capabilities", .object [("alwaysMatch", .object [
    ("browserName", .text settings.browserName),
    ("goog:chromeOptions", .object [("args", .list ((browserArgs settings).map .text))])])])]

def trimEndpoint (endpoint : String) : String :=
  String.ofList (endpoint.toList.reverse.dropWhile (· == '/')).reverse

def implicitMillis (settings : BrowserSettings) : Nat :=
  (settings.implicitWaitSecs.mul (.ofNat 1000)).toWord

/-- Opens a session and sets its implicit wait. If the wait cannot be set, the session is deleted. -/
def openSession (peer : Peer τ) (settings : BrowserSettings) : Attempt τ WebDriver := fun state =>
  let endpoint := trimEndpoint settings.endpoint
  match send peer .post s!"{endpoint}/session" (some (capabilities settings)) state with
  | (.error error, state) => (.error error, state)
  | (.ok value, state) =>
    match (value.field? "sessionId").bind Value.text? with
    | none =>
      (.error (.protocol s!"new session reply has no sessionId: {value.compact}"), state)
    | some sessionId =>
      let driver : WebDriver := ⟨endpoint, sessionId, settings.locatorStrategy⟩
      let wait := .object [("implicit", .nat (implicitMillis settings))]
      match driver.post peer "timeouts" wait state with
      | (.error error, state) => (.error error, driver.closeSession peer state)
      | (.ok (), state) => (.ok driver, state)

end WebDriver

end Replay
