import Replay.Proofs.Backend.Session

namespace Replay.WebDriver

variable {τ α : Type}

open Http (Method Peer Request Response logged)
open Json (Value)

/-- The payload of a successful reply, which has a status from 200 to 299 and a body that is JSON. Without
a field `value` it is null. -/
def accepted? : Response → Option Value
  | .reply status body =>
    match Json.readText body with
    | .ok reply =>
      if 200 ≤ status ∧ status < 300 then some ((reply.field? "value").getD .null) else none
    | .error _ => none
  | .unreachable _ | .timedOut _ => none

def elementId? (value : Value) : Option String := (value.field? referenceField).bind Value.text?

/-- The call makes one request. It succeeds if the reply does and its payload is read as a result, which
is then the result of the call. -/
def AsksOnce (peer : Peer τ) (request : Request) (reads : Value → α → Prop)
    (call : Attempt (τ × List Request) α) : Prop :=
  ∀ state requests,
    let (response, after) := peer request state
    (call (state, requests)).2 = (after, requests ++ [request]) ∧
      ∀ result, (call (state, requests)).1 = .ok result ↔
        ∃ value, accepted? response = some value ∧ reads value result

def request (driver : WebDriver) (method : Method) (path : String) (body : Option Value) : Request :=
  ⟨method, s!"{driver.base}/{path}", body⟩

def lookup (driver : WebDriver) (path locator : String) : Request :=
  driver.request .post path
    (some (.object [("using", .text driver.strategy.wireName), ("value", .text locator)]))

/-- The call looks an element up. If the reply refers to one, it makes one more request, to act on that
element, and succeeds just when this has a successful reply. If not, it makes no other request and
fails. -/
def LooksUpThenActs (driver : WebDriver) (peer : Peer τ) (locator verb : String) (body : Value)
    (call : Attempt (τ × List Request) Unit) : Prop :=
  ∀ state requests,
    let first := driver.lookup "element" locator
    let (found, after) := peer first state
    let outcome := call (state, requests)
    match (accepted? found).bind elementId? with
    | none => outcome.2 = (after, requests ++ [first]) ∧ ∃ error, outcome.1 = .error error
    | some id =>
      let second := driver.request .post s!"element/{id}/{verb}" (some body)
      let (done, last) := peer second after
      outcome.2 = (last, requests ++ [first, second]) ∧
        (outcome.1 = .ok () ↔ ∃ value, accepted? done = some value)

/-! What replies are read as -/

theorem receive_eq_ok_iff {response : Response} {value : Value} :
    receive response = .ok value ↔ accepted? response = some value := by
  cases response with
  | unreachable _ | timedOut _ => simp [receive, accepted?]
  | reply status body =>
    rw [receive, accepted?]
    cases Json.readText body with
    | error _ => simp
    | ok reply =>
      have success : Http.isSuccess status = true ↔ 200 ≤ status ∧ status < 300 := by
        simp [Http.isSuccess]
      by_cases fits : 200 ≤ status ∧ status < 300
      · simp [payload, success.mpr fits, if_pos fits]
      · simp [payload, mt success.mp fits, if_neg fits]

theorem elementOf_eq_ok_iff {value : Value} {element : Element} :
    elementOf value = .ok element ↔ elementId? value = some element.id := by
  rw [elementOf, elementId?]
  cases (value.field? referenceField).bind Value.text? with
  | none => exact iff_of_false nofun nofun
  | some id =>
    rw [Except.ok.injEq, Option.some.injEq, Element.mk.injEq]

theorem elementsOf_eq_ok_iff {items : List Value} {elements : List Element} :
    elementsOf items = .ok elements ↔ items.map elementId? = elements.map (some ·.id) := by
  induction items generalizing elements with
  | nil => cases elements <;> simp [elementsOf]
  | cons item rest ih =>
    have split : elementsOf (item :: rest) = .ok elements ↔ ∃ first others,
        elementOf item = .ok first ∧ elementsOf rest = .ok others ∧ first :: others = elements := by
      rw [elementsOf]
      cases elementOf item with
      | error _ => exact iff_of_false nofun nofun
      | ok first =>
        cases elementsOf rest with
        | error _ => exact iff_of_false nofun nofun
        | ok others => simp [Bind.bind, Except.bind, Pure.pure, Except.pure]
    rw [split]
    cases elements with
    | nil => simp
    | cons first others => simp [elementOf_eq_ok_iff, ih]

theorem elementList_eq_ok_iff {value : Value} {elements : List Element} :
    elementList value = .ok elements ↔
      ∃ items, value = .list items ∧ items.map elementId? = elements.map (some ·.id) := by
  cases value with
  | list items => simp [elementList, Value.list?, elementsOf_eq_ok_iff]
  | _ => simp [elementList, Value.list?]

theorem elementText_eq_ok_iff {value : Value} {text : String} :
    elementText value = .ok text ↔ value = .text text := by
  cases value <;> simp [elementText, Value.text?]

/-! Calls -/

theorem AsksOnce.of_read {driver : WebDriver} {peer : Peer τ} {method : Method} {path : String}
    {body : Option Value} {reads : Value → α → Prop} {call : Attempt (τ × List Request) α}
    (read : Except BackendError Value → Except BackendError α) (named : path ≠ "")
    (calls : ∀ state, call state =
      (read (driver.command (logged peer) method path body state).1,
        (driver.command (logged peer) method path body state).2))
    (exact : ∀ answer result, read answer = .ok result ↔
      ∃ value, answer = .ok value ∧ reads value result) :
    AsksOnce peer (driver.request method path body) reads call := by
  have url : driver.commandUrl path = s!"{driver.base}/{path}" := if_neg named
  intro state requests
  rw [calls, request, ← url]
  refine ⟨rfl, fun result => (exact _ result).trans ?_⟩
  simp only [← receive_eq_ok_iff]
  rfl

section Calls

variable (driver : WebDriver) (peer : Peer τ)

theorem post_asksOnce {path : String} (named : path ≠ "") (body : Value) :
    AsksOnce peer (driver.request .post path (some body)) (fun _ _ => True)
      (driver.post (logged peer) path body) := by
  refine .of_read (·.map fun _ => ()) named (fun _ => rfl) fun answer _ => ?_
  cases answer <;> simp [Except.map]

theorem navigate_asksOnce (url : String) :
    AsksOnce peer (driver.request .post "url" (some (.object [("url", .text url)]))) (fun _ _ => True)
      (driver.navigate (logged peer) url) := by
  let read (answer : Except BackendError Value) := (answer.map fun _ => ()).mapError (navigateFailure url)
  refine .of_read read (by decide) (fun _ => rfl) fun answer _ => ?_
  cases answer <;> simp [read, Except.map, Except.mapError]

theorem firstElement_asksOnce (locator : String) :
    AsksOnce peer (driver.lookup "element" locator)
      (fun value element => elementId? value = some element.id)
      (driver.firstElement (logged peer) locator) := by
  let read (answer : Except BackendError Value) := (answer.mapError (lookupFailure locator)).bind elementOf
  refine .of_read read (by decide) (fun state => ?_) fun answer element => ?_
  · rw [firstElement, locatorBody]
    rcases driver.command (logged peer) .post "element" _ state with ⟨_ | _, _⟩ <;> rfl
  · cases answer <;> simp [read, Except.mapError, Except.bind, elementOf_eq_ok_iff]

theorem find_asksOnce (locator : String) :
    AsksOnce peer (driver.lookup "elements" locator)
      (fun value elements =>
        ∃ items, value = .list items ∧ items.map elementId? = elements.map (some ·.id))
      (driver.find (logged peer) locator) := by
  refine .of_read (·.bind elementList) (by decide) (fun _ => rfl) fun answer elements => ?_
  cases answer <;> simp [Except.bind, elementList_eq_ok_iff]

theorem textOf_asksOnce (element : Element) :
    AsksOnce peer (driver.request .get s!"element/{element.id}/text" none)
      (fun value text => value = .text text) (driver.textOf (logged peer) element) := by
  have named : s!"element/{element.id}/text" ≠ "" := by simp [toString]
  refine .of_read (·.bind elementText) named (fun _ => rfl) fun answer text => ?_
  cases answer <;> simp [Except.bind, elementText_eq_ok_iff]

theorem act_looksUpThenActs (locator verb : String) (body : Value) :
    driver.LooksUpThenActs peer locator verb body (driver.act (logged peer) locator verb body) := by
  intro state requests first
  obtain ⟨log, exact⟩ := driver.firstElement_asksOnce peer locator state requests
  rcases tried : driver.firstElement (logged peer) locator (state, requests) with ⟨answer, between⟩
  rw [tried] at log exact
  obtain rfl : between = ((peer first state).2, requests ++ [first]) := log
  cases answer with
  | error error =>
    have unreferred : (accepted? (peer first state).1).bind elementId? = none := by
      refine Option.eq_none_iff_forall_ne_some.mpr fun id referred => ?_
      cases (exact ⟨id⟩).mpr (Option.bind_eq_some_iff.mp referred)
    have acted : driver.act (logged peer) locator verb body (state, requests) =
        (.error error, (peer first state).2, requests ++ [first]) := by rw [act, tried]
    dsimp only
    rw [unreferred, acted]
    exact ⟨rfl, error, rfl⟩
  | ok element =>
    have referred : (accepted? (peer first state).1).bind elementId? = some element.id :=
      Option.bind_eq_some_iff.mpr ((exact element).mp rfl)
    have acted : driver.act (logged peer) locator verb body (state, requests) =
        driver.post (logged peer) s!"element/{element.id}/{verb}" body
          ((peer first state).2, requests ++ [first]) := by rw [act, tried]
    have named : s!"element/{element.id}/{verb}" ≠ "" := by simp [toString]
    obtain ⟨log, exact⟩ := driver.post_asksOnce peer named body (peer first state).2 (requests ++ [first])
    dsimp only
    rw [referred, acted]
    refine ⟨?_, (exact ()).trans ?_⟩
    · rw [log, List.append_assoc, List.singleton_append]
    · simp only [and_true]

end Calls

/-- The requests of the calls, whatever the peer answers. A click, a clearing or the typing of a text looks
an element up and acts on it only if the reply refers to one. The other calls make one request each, and
the elements or the text that they result in are those of the reply, all of them or none. -/
theorem calls_look_up_then_act (driver : WebDriver) (peer : Peer τ) :
    let backend := driver.backend (logged peer)
    (∀ locator,
      driver.LooksUpThenActs peer locator "click" (.object []) (backend.click locator) ∧
      driver.LooksUpThenActs peer locator "clear" (.object []) (backend.clear locator) ∧
      ∀ text, driver.LooksUpThenActs peer locator "value" (.object [("text", .text text)])
        (backend.sendKeys locator text)) ∧
    (∀ url, AsksOnce peer (driver.request .post "url" (some (.object [("url", .text url)])))
      (fun _ _ => True) (backend.navigate url)) ∧
    AsksOnce peer (driver.request .post "refresh" (some (.object []))) (fun _ _ => True) backend.refresh ∧
    (∀ locator, AsksOnce peer (driver.lookup "elements" locator)
      (fun value elements =>
        ∃ items, value = .list items ∧ items.map elementId? = elements.map (some ·.id))
      (backend.find locator)) ∧
    ∀ element, AsksOnce peer (driver.request .get s!"element/{element.id}/text" none)
      (fun value text => value = .text text) (backend.textOf element) := by
  refine ⟨fun locator => ⟨?_, ?_, fun text => ?_⟩, fun url => ?_, ?_, fun locator => ?_,
    fun element => ?_⟩
  · exact driver.act_looksUpThenActs peer locator "click" _
  · exact driver.act_looksUpThenActs peer locator "clear" _
  · exact driver.act_looksUpThenActs peer locator "value" _
  · exact driver.navigate_asksOnce peer url
  · exact driver.post_asksOnce peer (by decide) _
  · exact driver.find_asksOnce peer locator
  · exact driver.textOf_asksOnce peer element

end Replay.WebDriver
