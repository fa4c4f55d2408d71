import Replay.Proofs.Backend.Requests
import Replay.Proofs.Execution.Transcript

namespace Replay

variable {τ α : Type}

inductive BackendError.Kind
  | elementNotFound (locator : String)
  | navigation
  | timeout
  | session
  | unsupported
  | protocol
  deriving DecidableEq, Repr

def BackendError.kind : BackendError → Kind
  | elementNotFound locator => .elementNotFound locator
  | navigation _ => .navigation
  | timeout _ => .timeout
  | session _ => .session
  | unsupported _ => .unsupported
  | protocol _ => .protocol

def Answer.failureKind? : Answer → Option BackendError.Kind
  | failed error => some error.kind
  | done | found _ | text _ => none

def Call.target? : Call → Option String
  | click locator | clear locator | sendKeys locator _ => some locator
  | navigate _ | refresh | find _ | textOf _ | pause _ => none

def Call.plainFailure : Call → BackendError.Kind
  | navigate _ => .navigation
  | click _ | clear _ | sendKeys _ _ | refresh | find _ | textOf _ | pause _ => .protocol

def Http.recorded (peer : Http.Peer τ) : Http.Peer (τ × List (Http.Request × Http.Response)) :=
  fun request (state, exchanges) =>
    let (response, state) := peer request state
    (response, state, exchanges ++ [(request, response)])

namespace WebDriver

open Http (Method Peer Request Response recorded)
open Json (Value)

def exchanges (driver : WebDriver) (peer : Peer τ) (state : τ) (call : Call) :
    List (Request × Response) :=
  ((driver.backend (recorded peer)).perform (state, []) call).2

/-- The code of the error that a reply reports. The reply has a body that is JSON, but no status from 200
to 299. -/
def errorCode? : Response → Option String
  | .reply status body =>
    match Json.readText body with
    | .ok reply =>
      if Http.isSuccess status then none
      else
        let code := ((reply.field? "value").bind (·.field? "error")).bind Value.text?
        some (code.getD "unknown error")
    | .error _ => none
  | .unreachable _ | .timedOut _ => none

def timeoutCodes : List String := ["timeout", "script timeout"]

def sessionCodes : List String := ["invalid session id", "session not created"]

def unsupportedCodes : List String := ["unknown command", "unknown method", "unsupported operation"]

def kindOfCode (code : String) (other : BackendError.Kind) : BackendError.Kind :=
  if code ∈ timeoutCodes then .timeout
  else if code ∈ sessionCodes then .session
  else if code ∈ unsupportedCodes then .unsupported
  else other

/-- The locator of the call, if the request looks its element up. -/
def sought? (driver : WebDriver) (call : Call) (request : Request) : Option String :=
  call.target?.filter fun locator => request = driver.lookup "element" locator

/-- The kind of error that a call fails with when the reply to a request of it reports a code. Which codes
mean that nothing matches plays a part only where the element of the call is looked up. -/
def kindOfFailure (driver : WebDriver) (missing : String → Bool) (call : Call) (request : Request)
    (code : String) : BackendError.Kind :=
  kindOfCode code <|
    match driver.sought? call request with
    | some locator => if missing code then .elementNotFound locator else call.plainFailure
    | none => call.plainFailure

def noSuchElement : String := "no such element"

def beginsMissing (text : String) : Bool := noSuchElement.toList.isPrefixOf text.toList

/-! Codes and the texts made of them -/

/-- The message comes after a colon, which the code for a lookup without a match does not have. -/
theorem beginsMissing_detail (code message : String) :
    beginsMissing s!"{code}: {message}" = beginsMissing code := by
  have split : s!"{code}: {message}".toList = code.toList ++ ':' :: ' ' :: message.toList := by
    simp [toString]
  have colonless : ':' ∉ noSuchElement.toList := by decide
  rw [beginsMissing, beginsMissing, split, Bool.eq_iff_iff, List.isPrefixOf_iff_prefix,
    List.isPrefixOf_iff_prefix]
  refine ⟨fun within => ?_, fun within => within.trans (List.prefix_append _ _)⟩
  obtain begins | ⟨rest, whole⟩ := List.prefix_or_prefix_of_prefix within (List.prefix_append _ _)
  · exact begins
  · rw [← whole, List.prefix_append_right_inj] at within
    cases rest with
    | nil => exact ⟨[], by rw [← whole, List.append_nil, List.append_nil]⟩
    | cons first rest =>
      obtain ⟨rfl, -⟩ := List.cons_prefix_cons.mp within
      exact absurd (whole ▸ List.mem_append_right _ List.mem_cons_self) colonless

theorem receive_of_errorCode? {response : Response} {code : String}
    (reported : errorCode? response = some code) :
    ∃ detail, receive response = .error (errorOfCode code detail) ∧
      beginsMissing detail = beginsMissing code := by
  cases response with
  | unreachable _ | timedOut _ => cases reported
  | reply status body =>
    rw [errorCode?] at reported
    rw [receive]
    cases read : Json.readText body with
    | error _ =>
      rw [read] at reported
      cases reported
    | ok reply =>
      rw [read] at reported
      cases failed : Http.isSuccess status with
      | true => simp [failed] at reported
      | false =>
        simp only [failed, Bool.false_eq_true, if_false, Option.some.injEq] at reported
        have named : ((((reply.field? "value").getD .null).field? "error").bind Value.text?).getD
            "unknown error" = code := by
          rw [← reported]
          cases reply.field? "value" <;> rfl
        simp only [payload, Bool.false_eq_true, if_false, errorOfReply, named]
        refine ⟨_, rfl, ?_⟩
        split
        · rfl
        · exact beginsMissing_detail code _

theorem kind_errorOfCode {become : BackendError → BackendError}
    (keeps : ∀ error, error.kind ≠ .protocol → become error = error) (code detail : String) :
    (become (errorOfCode code detail)).kind = kindOfCode code (become (.protocol detail)).kind := by
  unfold errorOfCode
  split
  case h_8 =>
    rw [kindOfCode, if_neg, if_neg, if_neg] <;> simp_all [timeoutCodes, sessionCodes, unsupportedCodes]
  all_goals
    rw [keeps]
    · rfl
    · nofun

section Calls

variable (driver : WebDriver) (peer : Peer τ)

def elementRequest (driver : WebDriver) (id verb : String) (body : Value) : Request :=
  ⟨.post, driver.commandUrl s!"element/{id}/{verb}", some body⟩

theorem sought?_lookup {call : Call} {locator : String} (target : call.target? = some locator) :
    driver.sought? call (driver.lookup "element" locator) = some locator := by
  simp [sought?, target]

theorem sought?_elementRequest (call : Call) (id verb : String) (body : Value) :
    driver.sought? call (driver.elementRequest id verb body) = none := by
  have differ (locator : String) :
      driver.elementRequest id verb body ≠ driver.lookup "element" locator := by
    intro same
    have lengths := congrArg (·.url.toList.length) same
    simp [elementRequest, commandUrl, lookup, request, base, toString] at lengths
  simp [sought?, differ]

theorem act_recorded (locator verb : String) (body : Value) (state : τ)
    (earlier : List (Request × Response)) :
    let first := driver.lookup "element" locator
    let second (element : Element) := driver.elementRequest element.id verb body
    let plain := driver.act peer locator verb body state
    driver.act (recorded peer) locator verb body (state, earlier) =
      (plain.1, plain.2, earlier ++ (first, (peer first state).1) ::
        match driver.firstElement peer locator state with
        | (.error _, _) => []
        | (.ok element, after) => [(second element, (peer (second element) after).1)]) := by
  intro first second plain
  have record : driver.firstElement (recorded peer) locator (state, earlier) =
      ((driver.firstElement peer locator state).1, (driver.firstElement peer locator state).2,
        earlier ++ [(first, (peer first state).1)]) := rfl
  simp only [plain]
  rw [act, act, record]
  rcases driver.firstElement peer locator state with ⟨_ | element, after⟩
  · rfl
  · exact Prod.ext rfl (Prod.ext rfl (List.append_assoc earlier [_] [_]))

/-- Recording the exchanges changes nothing else, and what was recorded before stays in front. -/
theorem perform_recorded (state : τ) (earlier : List (Request × Response)) (call : Call) :
    (driver.backend (recorded peer)).perform (state, earlier) call =
      ((driver.backend peer).perform state call, earlier ++ driver.exchanges peer state call) := by
  have acted (locator verb : String) (body : Value) :
      (driver.act (recorded peer) locator verb body (state, earlier)).2 =
        ((driver.act peer locator verb body state).2,
          earlier ++ (driver.act (recorded peer) locator verb body (state, [])).2.2) := by
    rw [act_recorded, act_recorded, List.nil_append]
  cases call with
  | click locator => exact acted locator "click" _
  | clear locator => exact acted locator "clear" _
  | sendKeys locator text => exact acted locator "value" _
  | pause nanos => exact congrArg (Prod.mk _) (List.append_nil earlier).symm
  | navigate _ | refresh | find _ | textOf _ => rfl

end Calls

/-! The errors of calls -/

def FailsWith (kind : BackendError.Kind) (result : Except BackendError α) : Prop :=
  ∃ error, result = .error error ∧ error.kind = kind

theorem FailsWith.answer {kind : BackendError.Kind} {result : Except BackendError α}
    (fails : FailsWith kind result) (value : α → Answer) :
    (Answer.ofResult value result).failureKind? = some kind := by
  obtain ⟨error, rfl, rfl⟩ := fails
  rfl

theorem navigateFailure_eq_self {error : BackendError} (url : String) (other : error.kind ≠ .protocol) :
    navigateFailure url error = error := by
  cases error with
  | protocol _ => exact absurd rfl other
  | _ => rfl

theorem lookupFailure_eq_self {error : BackendError} (locator : String)
    (other : error.kind ≠ .protocol) : lookupFailure locator error = error := by
  cases error with
  | protocol _ => exact absurd rfl other
  | _ => rfl

theorem kind_lookupFailure (locator detail : String) :
    (lookupFailure locator (.protocol detail)).kind =
      if beginsMissing detail then .elementNotFound locator else .protocol :=
  apply_ite BackendError.kind _ _ _

section Reports

variable {driver : WebDriver} {peer : Peer τ} {state : τ} {code : String}

/-- A call that turns the errors of a reply into others fails with the kind of the code. For a code
without one, it is what becomes of the text made of the code. -/
theorem failsWith_of_reported {response : Response} (reported : errorCode? response = some code)
    {result : Except BackendError α} {become : BackendError → BackendError} {other : BackendError.Kind}
    (passes : ∀ error, receive response = .error error → result = .error (become error))
    (keeps : ∀ error, error.kind ≠ .protocol → become error = error)
    (becomes : ∀ detail, beginsMissing detail = beginsMissing code →
      (become (.protocol detail)).kind = other) :
    FailsWith (kindOfCode code other) result := by
  obtain ⟨detail, received, begins⟩ := receive_of_errorCode? reported
  rw [passes _ received, ← becomes detail begins]
  exact ⟨_, rfl, kind_errorOfCode keeps code detail⟩

theorem failsWith_of_read {response : Response} (reported : errorCode? response = some code)
    (read : Except BackendError Value → Except BackendError α)
    (passes : ∀ error, read (.error error) = .error error) :
    FailsWith (kindOfCode code .protocol) (read (receive response)) :=
  failsWith_of_reported reported (fun error received => received ▸ passes error) (fun _ _ => rfl)
    fun _ _ => rfl

theorem failsWith_of_firstElement {locator : String}
    (reported : errorCode? (peer (driver.lookup "element" locator) state).1 = some code) :
    FailsWith (kindOfCode code (if beginsMissing code then .elementNotFound locator else .protocol))
      (driver.firstElement peer locator state).1 := by
  refine failsWith_of_reported reported (fun error received => ?_)
    (fun _ => lookupFailure_eq_self locator) fun detail begins => ?_
  · have asked : driver.command peer .post "element" (some (driver.locatorBody locator)) state =
        (.error error, (peer (driver.lookup "element" locator) state).2) := Prod.ext received rfl
    rw [firstElement, asked]
  · rw [kind_lookupFailure, begins]

theorem failsWith_of_post {path : String} {body : Value}
    (reported : errorCode? (peer ⟨.post, driver.commandUrl path, some body⟩ state).1 = some code) :
    FailsWith (kindOfCode code .protocol) (driver.post peer path body state).1 :=
  failsWith_of_read reported (·.map fun _ => ()) fun _ => rfl

theorem failsWith_of_act {call : Call} {locator verb : String} {body : Value}
    (target : call.target? = some locator) {exchange : Request × Response}
    (made : exchange ∈ (driver.act (recorded peer) locator verb body (state, [])).2.2)
    (reported : errorCode? exchange.2 = some code) :
    FailsWith (driver.kindOfFailure beginsMissing call exchange.1 code)
      (driver.act peer locator verb body state).1 := by
  have plain : call.plainFailure = .protocol := by
    cases call <;> first | rfl | cases target
  rw [act_recorded, List.nil_append] at made
  rw [kindOfFailure, plain, act]
  rcases looked : driver.firstElement peer locator state with ⟨looking | element, after⟩
  · rw [looked] at made
    obtain rfl := List.mem_singleton.mp made
    have failed := failsWith_of_firstElement reported
    rw [looked] at failed
    obtain ⟨_, ⟨⟩, kind⟩ := failed
    rw [sought?_lookup driver target]
    exact ⟨_, rfl, kind⟩
  · rw [looked] at made
    obtain rfl | made := List.mem_cons.mp made
    · have failed := failsWith_of_firstElement reported
      rw [looked] at failed
      obtain ⟨_, ⟨⟩, -⟩ := failed
    · obtain rfl := List.mem_singleton.mp made
      rw [sought?_elementRequest]
      exact failsWith_of_post reported

end Reports

theorem failureKind?_of_errorCode? {driver : WebDriver} {peer : Peer τ} {state : τ} {call : Call}
    {exchange : Request × Response} {code : String}
    (made : exchange ∈ driver.exchanges peer state call) (reported : errorCode? exchange.2 = some code) :
    ((driver.backend peer).answer state call).failureKind? =
      some (driver.kindOfFailure beginsMissing call exchange.1 code) := by
  cases call with
  | click _ | clear _ | sendKeys _ _ => exact (failsWith_of_act rfl made reported).answer _
  | refresh =>
    obtain rfl := List.mem_singleton.mp made
    exact (failsWith_of_post reported).answer _
  | navigate url =>
    obtain rfl := List.mem_singleton.mp made
    let read (answer : Except BackendError Value) :=
      (answer.map fun _ => ()).mapError (navigateFailure url)
    exact (failsWith_of_reported reported (fun _ => congrArg read)
      (fun _ => navigateFailure_eq_self url) fun _ _ => rfl).answer _
  | find _ =>
    obtain rfl := List.mem_singleton.mp made
    exact (failsWith_of_read reported (·.bind elementList) fun _ => rfl).answer _
  | textOf _ =>
    obtain rfl := List.mem_singleton.mp made
    exact (failsWith_of_read reported (·.bind elementText) fun _ => rfl).answer _
  | pause _ => cases made

theorem kindOfCode_of_beginsMissing {code : String} (begins : beginsMissing code)
    (other : BackendError.Kind) : kindOfCode code other = other := by
  have apart : ∀ listed ∈ timeoutCodes ++ sessionCodes ++ unsupportedCodes, ¬beginsMissing listed := by
    decide
  have unlisted : code ∉ timeoutCodes ++ sessionCodes ++ unsupportedCodes := fun listed =>
    apart code listed begins
  simp only [List.mem_append, not_or] at unlisted
  rw [kindOfCode, if_neg unlisted.1.1, if_neg unlisted.1.2, if_neg unlisted.2]

/-- It makes a difference whether the code must be the one for a lookup without a match or only begin so
just for the lookup of a call and a longer code. -/
theorem kindOfFailure_agree_iff (driver : WebDriver) (call : Call) (request : Request) (code : String) :
    driver.kindOfFailure beginsMissing call request code =
        driver.kindOfFailure (· == noSuchElement) call request code ↔
      ¬((driver.sought? call request).isSome ∧ beginsMissing code ∧ code ≠ noSuchElement) := by
  rw [kindOfFailure, kindOfFailure]
  cases driver.sought? call request with
  | none => simp
  | some locator =>
    have other : BackendError.Kind.elementNotFound locator ≠ call.plainFailure := by
      cases call <;> nofun
    by_cases exact : code = noSuchElement
    · subst exact
      exact iff_of_true rfl fun longer => longer.2.2 rfl
    · by_cases begins : beginsMissing code
      · simp [kindOfCode_of_beginsMissing begins, begins, exact, other]
      · simp [begins, exact]

/-- If the reply to a request of a call reports an error, the call fails with a kind that the call, the
request and the code settle, whatever the message is. This is the kind for an exact comparison of codes
unless the element of the call was looked up and the code only begins as the one for a lookup without a
match. -/
theorem failure_goes_by_code {driver : WebDriver} {peer : Peer τ} {state : τ} {call : Call}
    {exchange : Request × Response} {code : String}
    (made : exchange ∈ driver.exchanges peer state call) (reported : errorCode? exchange.2 = some code) :
    let kind := ((driver.backend peer).answer state call).failureKind?
    kind = some (driver.kindOfFailure beginsMissing call exchange.1 code) ∧
      (kind = some (driver.kindOfFailure (· == noSuchElement) call exchange.1 code) ↔
        ¬((driver.sought? call exchange.1).isSome ∧ beginsMissing code ∧ code ≠ noSuchElement)) := by
  intro kind
  have settled : kind = _ := failureKind?_of_errorCode? made reported
  refine ⟨settled, ?_⟩
  rw [settled, Option.some_inj]
  exact kindOfFailure_agree_iff ..

def replying (status : Nat) (body : String) : Peer Unit := fun _ _ => (.reply status body, ())

theorem failure_goes_by_code_of_absent_element :
    let driver : WebDriver := ⟨"http://wd", "s", .xpath⟩
    let peer := replying 404
      "\x7b\"value\":\x7b\"error\":\"no such element\",\"message\":\"gone\"\x7d\x7d"
    ((driver.backend peer).answer () (.click "//a")).failureKind? = some (.elementNotFound "//a") := by
  intro driver peer
  let exchange := (driver.lookup "element" "//a", (peer (driver.lookup "element" "//a") ()).1)
  have made : exchange ∈ driver.exchanges peer () (.click "//a") := by decide +kernel
  have reported : errorCode? exchange.2 = some "no such element" := by decide +kernel
  exact (failure_goes_by_code made reported).1.trans (by decide +kernel)

/-- A report with a longer code on the lookup of a call counts as one that there is no element. -/
theorem longer_code_taken_as_missing :
    let driver : WebDriver := ⟨"http://wd", "s", .xpath⟩
    let peer := replying 404
      "\x7b\"value\":\x7b\"error\":\"no such elementary\",\"message\":\"gone\"\x7d\x7d"
    let exchange := (driver.lookup "element" "#a", (peer (driver.lookup "element" "#a") ()).1)
    exchange ∈ driver.exchanges peer () (.click "#a") ∧
      errorCode? exchange.2 = some "no such elementary" ∧
      ((driver.backend peer).answer () (.click "#a")).failureKind? ≠
        some (driver.kindOfFailure (· == noSuchElement) (.click "#a") exchange.1 "no such elementary") := by
  decide +kernel

end WebDriver

end Replay
