import Mathlib.Data.List.DropRight
import Replay.CommandLine
import Replay.Proofs.Execution.Calls

namespace Replay

variable {τ : Type}

namespace WebDriver

open Http (Method Peer Request Response logged)
open Json (Value)

def lifetime (peer : Peer τ) (settings : BrowserSettings) (calls : List Call) (state : τ) : τ :=
  match openSession peer settings state with
  | (.error _, state) => state
  | (.ok driver, state) => driver.closeSession peer ((driver.backend peer).performAll state calls)

def sessionIdOf? : Response → Option String
  | .reply status body =>
    match Json.readText body with
    | .ok reply =>
      if Http.isSuccess status then
        ((reply.field? "value").bind (·.field? "sessionId")).bind Value.text?
      else none
    | .error _ => none
  | .unreachable _ | .timedOut _ => none

def opening (endpoint : String) (settings : BrowserSettings) : Request :=
  ⟨.post, s!"{endpoint}/session", some (capabilities settings)⟩

def waiting (base : String) (settings : BrowserSettings) : Request :=
  ⟨.post, s!"{base}/timeouts", some (.object [("implicit", .nat (implicitMillis settings))])⟩

def closing (base : String) : Request := ⟨.delete, base, none⟩

/-- A request of the session with the given address that does not delete it. -/
def Uses (base : String) (request : Request) : Prop :=
  request.method ≠ .delete ∧ (request.url = base ∨ ∃ rest : String, request.url = s!"{base}/{rest}")

def Proceeds (base : String) (before after : τ × List Request) : Prop :=
  ∃ between, after.2 = before.2 ++ between ∧ ∀ request ∈ between, Uses base request

namespace Proceeds

variable {base : String} {first second third : τ × List Request}

theorem refl (state : τ × List Request) : Proceeds base state state :=
  ⟨[], (List.append_nil _).symm, List.forall_mem_nil _⟩

theorem trans (start : Proceeds base first second) (rest : Proceeds base second third) :
    Proceeds base first third := by
  obtain ⟨between, grown, uses⟩ := start
  obtain ⟨between', grown', uses'⟩ := rest
  refine ⟨between ++ between', ?_, List.forall_mem_append.mpr ⟨uses, uses'⟩⟩
  rw [grown', grown, List.append_assoc]

end Proceeds

def base (driver : WebDriver) : String := s!"{driver.endpoint}/session/{driver.sessionId}"

theorem commandUrl_within (driver : WebDriver) (path : String) :
    driver.commandUrl path = driver.base ∨
      ∃ rest : String, driver.commandUrl path = s!"{driver.base}/{rest}" := by
  by_cases empty : path = ""
  · exact .inl (if_pos empty)
  · exact .inr ⟨path, if_neg empty⟩

section Calls

variable (driver : WebDriver) (peer : Peer τ) (state : τ × List Request)

theorem command_proceeds {method : Method} (path : String) (body : Option Value)
    (kept : method ≠ .delete) :
    Proceeds driver.base state (driver.command (logged peer) method path body state).2 :=
  ⟨[⟨method, driver.commandUrl path, body⟩], rfl,
    List.forall_mem_singleton.mpr ⟨kept, driver.commandUrl_within path⟩⟩

theorem post_proceeds (path : String) (body : Value) :
    Proceeds driver.base state (driver.post (logged peer) path body state).2 :=
  driver.command_proceeds peer state path (some body) nofun

theorem firstElement_proceeds (locator : String) :
    Proceeds driver.base state (driver.firstElement (logged peer) locator state).2 :=
  driver.command_proceeds peer state "element" _ nofun

theorem act_proceeds (locator verb : String) (body : Value) :
    Proceeds driver.base state (driver.act (logged peer) locator verb body state).2 := by
  have found := driver.firstElement_proceeds peer state locator
  rw [act]
  split
  · next lookup =>
    rw [lookup] at found
    exact found
  · next lookup =>
    rw [lookup] at found
    exact found.trans (driver.post_proceeds peer _ _ body)

theorem perform_proceeds (call : Call) :
    Proceeds driver.base state ((driver.backend (logged peer)).perform state call) := by
  cases call with
  | navigate url => exact driver.post_proceeds peer state "url" _
  | click locator => exact driver.act_proceeds peer state locator "click" _
  | clear locator => exact driver.act_proceeds peer state locator "clear" _
  | sendKeys locator text => exact driver.act_proceeds peer state locator "value" _
  | refresh => exact driver.post_proceeds peer state "refresh" _
  | find locator => exact driver.command_proceeds peer state "elements" _ nofun
  | textOf element => exact driver.command_proceeds peer state _ none nofun
  | pause nanos => exact .refl state

theorem performAll_proceeds (calls : List Call) :
    Proceeds driver.base state ((driver.backend (logged peer)).performAll state calls) := by
  induction calls generalizing state with
  | nil => exact .refl state
  | cons call rest ih => exact (driver.perform_proceeds peer state call).trans (ih _)

end Calls

theorem trimEndpoint_append (endpoint : String) : ∃ count,
    endpoint.toList = (trimEndpoint endpoint).toList ++ List.replicate count '/' := by
  let slashes := endpoint.toList.rtakeWhile (· == '/')
  have all : slashes = List.replicate slashes.length '/' :=
    List.eq_replicate_of_mem fun c member =>
      eq_of_beq (List.mem_rtakeWhile_imp (p := (· == '/')) member)
  refine ⟨slashes.length, ?_⟩
  rw [← all, trimEndpoint, String.toList_ofList]
  exact List.rdropWhile_append_rtakeWhile.symm

theorem trimEndpoint_ne_concat (endpoint : String) (front : List Char) :
    (trimEndpoint endpoint).toList ≠ front ++ ['/'] := by
  intro concat
  rw [trimEndpoint, String.toList_ofList] at concat
  have trimmed : endpoint.toList.rdropWhile (· == '/') = front ++ ['/'] := concat
  have stable := List.rdropWhile_idempotent (· == '/') endpoint.toList
  rw [trimmed, List.rdropWhile_concat_pos _ _ _ rfl] at stable
  have shorter := (List.rdropWhile_prefix (· == '/') front).length_le
  rw [stable, List.length_append] at shorter
  exact Nat.not_succ_le_self _ shorter

theorem sessionIdOf?_eq (response : Response) :
    sessionIdOf? response = match receive response with
      | .ok value => (value.field? "sessionId").bind Value.text?
      | .error _ => none := by
  cases response with
  | unreachable _ | timedOut _ => rfl
  | reply status body =>
    rw [sessionIdOf?, receive]
    cases Json.readText body with
    | error _ => rfl
    | ok reply =>
      cases Http.isSuccess status with
      | false => rfl
      | true =>
        simp only [payload]
        cases reply.field? "value" <;> rfl

theorem post_waiting (driver : WebDriver) (peer : Peer τ) (settings : BrowserSettings) (state : τ)
    (requests : List Request) :
    let wait : Value := .object [("implicit", .nat (implicitMillis settings))]
    driver.post (logged peer) "timeouts" wait (state, requests) =
      ((driver.post peer "timeouts" wait state).1, (driver.post peer "timeouts" wait state).2,
        requests ++ [waiting driver.base settings]) := by
  have url : driver.commandUrl "timeouts" = s!"{driver.base}/timeouts" :=
    (String.append_assoc : driver.base ++ "/" ++ "timeouts" = driver.base ++ ("/" ++ "timeouts"))
  rw [waiting, ← url]
  rfl

/-- The three ends of opening a session: none was named, it is open, or it was deleted at once because
its wait cannot be set. -/
theorem openSession_requests (peer : Peer τ) (settings : BrowserSettings) (state : τ) :
    let endpoint := trimEndpoint settings.endpoint
    let first := opening endpoint settings
    let outcome := openSession (logged peer) settings (state, [])
    match sessionIdOf? (peer first state).1 with
    | none => (∃ error, outcome.1 = .error error) ∧ outcome.2.2 = [first]
    | some id =>
      let driver : WebDriver := ⟨endpoint, id, settings.locatorStrategy⟩
      let second := waiting driver.base settings
      (outcome.1 = .ok driver ∧ outcome.2.2 = [first, second]) ∨
        (∃ error, outcome.1 = .error error) ∧ outcome.2.2 = [first, second, closing driver.base] := by
  intro endpoint first outcome
  have sent : send (logged peer) .post s!"{endpoint}/session" (some (capabilities settings))
      (state, []) = (receive (peer first state).1, (peer first state).2, [first]) := rfl
  simp only [sessionIdOf?_eq, outcome, openSession]
  rw [sent]
  cases receive (peer first state).1 with
  | error error => exact ⟨⟨error, rfl⟩, rfl⟩
  | ok value =>
    dsimp only
    cases (value.field? "sessionId").bind Value.text? with
    | none => exact ⟨⟨_, rfl⟩, rfl⟩
    | some id =>
      let driver : WebDriver := ⟨endpoint, id, settings.locatorStrategy⟩
      have posted := driver.post_waiting peer settings (peer first state).2 [first]
      dsimp only
      rw [posted]
      cases (driver.post peer "timeouts" _ (peer first state).2).1 with
      | ok _ => exact .inl ⟨rfl, rfl⟩
      | error error => exact .inr ⟨⟨error, rfl⟩, rfl⟩

theorem closeSession_requests (driver : WebDriver) (peer : Peer τ) (state : τ × List Request) :
    (driver.closeSession (logged peer) state).2 = state.2 ++ [closing driver.base] := rfl

section Lifetime

variable {peer : Peer τ} {settings : BrowserSettings} {state : τ} (calls : List Call)

theorem lifetime_of_error {error : BackendError}
    (failed : (openSession peer settings state).1 = .error error) :
    lifetime peer settings calls state = (openSession peer settings state).2 := by
  rw [lifetime]
  split
  · next opened => rw [opened]
  · next opened =>
    rw [opened] at failed
    cases failed

theorem lifetime_of_ok {driver : WebDriver}
    (connected : (openSession peer settings state).1 = .ok driver) :
    lifetime peer settings calls state = driver.closeSession peer
      ((driver.backend peer).performAll (openSession peer settings state).2 calls) := by
  rw [lifetime]
  split
  · next opened =>
    rw [opened] at connected
    cases connected
  · next opened =>
    rw [opened] at connected ⊢
    obtain rfl := Except.ok.inj connected
    rfl

end Lifetime

/-- The requests of a lifetime, by the reply to the first: no session, or one that is deleted by the
last request and by no other, also when its wait cannot be set. -/
theorem session_deleted_once (peer : Peer τ) (settings : BrowserSettings) (calls : List Call)
    (state : τ) : ∃ endpoint count,
    settings.endpoint.toList = endpoint.toList ++ List.replicate count '/' ∧
    (∀ front, endpoint.toList ≠ front ++ ['/']) ∧
    let connection := (openSession (logged peer) settings (state, [])).1
    let requests := (lifetime (logged peer) settings calls (state, [])).2
    let first := opening endpoint settings
    match sessionIdOf? (peer first state).1 with
    | none => (∃ error, connection = .error error) ∧ requests = [first]
    | some id =>
      let base := s!"{endpoint}/session/{id}"
      ∃ between, requests = first :: waiting base settings :: between ++ [closing base] ∧
        (∀ request ∈ between, Uses base request) ∧
        (connection = .ok ⟨endpoint, id, settings.locatorStrategy⟩ ∨
          (∃ error, connection = .error error) ∧ between = []) := by
  obtain ⟨count, cut⟩ := trimEndpoint_append settings.endpoint
  refine ⟨trimEndpoint settings.endpoint, count, cut, trimEndpoint_ne_concat _, ?_⟩
  intro connection requests first
  have opened := openSession_requests peer settings state
  dsimp only at opened
  cases named : sessionIdOf? (peer first state).1 with
  | none =>
    rw [named] at opened
    obtain ⟨⟨error, failed⟩, log⟩ := opened
    have skipped : requests = _ := congrArg Prod.snd (lifetime_of_error calls failed)
    exact ⟨⟨error, failed⟩, skipped.trans log⟩
  | some id =>
    rw [named] at opened
    obtain ⟨connected, log⟩ | ⟨⟨error, failed⟩, log⟩ := opened
    · have driven : requests = _ := congrArg Prod.snd (lifetime_of_ok calls connected)
      let driver : WebDriver := ⟨trimEndpoint settings.endpoint, id, settings.locatorStrategy⟩
      obtain ⟨between, grown, uses⟩ := driver.performAll_proceeds peer
        (openSession (logged peer) settings (state, [])).2 calls
      refine ⟨between, ?_, uses, .inl connected⟩
      rw [driven, closeSession_requests, grown, log]
      rfl
    · have skipped : requests = _ := congrArg Prod.snd (lifetime_of_error calls failed)
      exact ⟨[], skipped.trans log, List.forall_mem_nil _, .inr ⟨⟨error, failed⟩, rfl⟩⟩

end WebDriver

/-- A run of the program over the protocol is a lifetime. -/
theorem CommandLine.runAll_webDriver (playbook : Playbook) (name : String) (keys : List String)
    (peer : Http.Peer τ) (device : Input.Device τ) (state : τ) (settings : BrowserSettings) : ∃ calls,
    (runAll playbook name keys peer device state (.webDriver settings)).2 =
      WebDriver.lifetime peer settings calls state := by
  rw [runAll]
  rcases opened : WebDriver.openSession peer settings state with ⟨error | driver, after⟩
  · refine ⟨[], ?_⟩
    rw [WebDriver.lifetime, opened]
  · obtain ⟨calls, reached⟩ := playbook.runAll_reaches (driver.backend peer) name keys after
    refine ⟨calls, ?_⟩
    rw [WebDriver.lifetime, opened]
    exact congrArg (driver.closeSession peer) reached

end Replay
