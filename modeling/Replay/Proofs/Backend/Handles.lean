import Replay.Backend.Recording
import Replay.Proofs.Execution.Calls
import Replay.Proofs.Number.Numerals
import Replay.Proofs.Text.Lines

namespace Replay

open Numeral

theorem splitNumbered_numberedElement (locator : String) (index : Nat) :
    splitNumbered (numberedElement locator index) = some (locator, index.repr.toList) := by
  have digits : ∀ c ∈ index.repr.toList, (c == '#') = false :=
    Text.beq_false_of_not_mem ((writesNat_repr index).not_mem (by decide))
  have whole : (numberedElement locator index).id.toList =
      locator.toList ++ '#' :: index.repr.toList := by
    simp [numberedElement]
  rw [splitNumbered, whole, Text.cutAtLast_append _ rfl digits]
  simp

theorem numberedElement_inj {locator other : String} {index number : Nat}
    (same : numberedElement locator index = numberedElement other number) :
    locator = other ∧ index = number := by
  have parts := congrArg splitNumbered same
  rw [splitNumbered_numberedElement, splitNumbered_numberedElement] at parts
  obtain ⟨locators, digits⟩ := Prod.mk.inj (Option.some.inj parts)
  exact ⟨locators, eq_of_toList_repr_eq digits⟩

theorem eq_numberedElement_of_getElem? {locator : String} {count index : Nat} {element : Element}
    (placed : (numberedElements locator count)[index]? = some element) :
    index < count ∧ element = numberedElement locator index := by
  rw [numberedElements, List.getElem?_map] at placed
  obtain ⟨number, ranged, rfl⟩ := Option.map_eq_some_iff.mp placed
  obtain ⟨inside, rfl⟩ := List.getElem?_eq_some_iff.mp ranged
  rw [List.length_range] at inside
  refine ⟨inside, ?_⟩
  rw [List.getElem_range]

namespace Recording

inductive Setup
  | element (locator text : String)
  | fault (locator message : String)
  deriving DecidableEq, Repr

def setUp (recording : Recording) : Setup → Recording
  | .element locator text => recording.addElement locator text
  | .fault locator message => recording.addFault locator message

def ofSetup (steps : List Setup) : Recording := steps.foldl setUp empty

def Setup.textFor? (locator : String) : Setup → Option String
  | .element other text => if other = locator then some text else none
  | .fault _ _ => none

def registered (steps : List Setup) (locator : String) : List String :=
  steps.filterMap (Setup.textFor? locator)

theorem texts_setUp (recording : Recording) (step : Setup) (locator : String) :
    (recording.setUp step).texts locator =
      recording.texts locator ++ (step.textFor? locator).toList := by
  cases step with
  | element other text =>
    rw [setUp, addElement, texts, Dict.get?_insert, Setup.textFor?]
    by_cases same : locator = other
    · subst same
      simp
    · rw [if_neg same, if_neg (Ne.symm same), Option.toList_none, List.append_nil, texts]
  | fault other message => exact (List.append_nil _).symm

theorem texts_foldl_setUp (recording : Recording) (steps : List Setup) (locator : String) :
    (steps.foldl setUp recording).texts locator =
      recording.texts locator ++ registered steps locator := by
  induction steps generalizing recording with
  | nil => exact (List.append_nil _).symm
  | cons step rest ih =>
    rw [List.foldl_cons, ih, texts_setUp, List.append_assoc, registered, registered,
      List.filterMap_cons]
    cases step.textFor? locator <;> rfl

theorem texts_ofSetup (steps : List Setup) (locator : String) :
    (ofSetup steps).texts locator = registered steps locator := by
  rw [ofSetup, texts_foldl_setUp]
  rfl

theorem fault_ofSetup {steps : List Setup} {locator : String}
    (spared : ∀ message, .fault locator message ∉ steps) : (ofSetup steps).fault locator = .ok () := by
  have kept : ∀ recording : Recording, recording.failing.get? locator = none →
      (steps.foldl setUp recording).failing.get? locator = none := by
    induction steps with
    | nil => exact fun _ => id
    | cons step rest ih =>
      intro recording absent
      apply ih fun message member => spared message (List.mem_cons_of_mem _ member)
      cases step with
      | element other text => exact absent
      | fault other message =>
        have differ : locator ≠ other := by
          rintro rfl
          exact spared message List.mem_cons_self
        rw [setUp, addFault, Dict.get?_insert, if_neg differ, absent]
  rw [fault, ofSetup, kept empty rfl]

theorem perform_eq (recording : Recording) (call : Call) :
    backend.perform recording call = recording.note call := by
  cases call <;> rfl

theorem performAll_eq (recording : Recording) (calls : List Call) :
    backend.performAll recording calls =
      { recording with calls := recording.calls ++ calls } := by
  induction calls generalizing recording with
  | nil => rw [List.append_nil, Backend.performAll, List.foldl_nil]
  | cons call rest ih =>
    have first := ih (backend.perform recording call)
    rw [perform_eq, note, List.append_assoc] at first
    rw [Backend.performAll, List.foldl_cons, perform_eq]
    exact first

/-- What a reference reads. An index that is no word is no index. -/
theorem textOf_numberedElement {recording : Recording} {locator text : String} {index : Nat}
    (placed : (recording.texts locator)[index]? = some text) :
    recording.textOf (numberedElement locator index) =
      if index < twoTo 64 then .ok text
      else .error (.protocol s!"bad handle {(numberedElement locator index).id}") := by
  rw [textOf, splitNumbered_numberedElement]
  dsimp only
  rw [readWord?_writesNat (writesNat_repr index)]
  by_cases word : index < twoTo 64
  · rw [if_pos word, if_pos word]
    dsimp only
    rw [placed]
  · rw [if_neg word, if_neg word]

def foundAfter (steps : List Setup) (calls : List Call) (locator : String) :
    Except BackendError (List Element) :=
  (backend.find locator (backend.performAll (ofSetup steps) calls)).1

def readAfter (steps : List Setup) (calls : List Call) (element : Element) :
    Except BackendError String :=
  (backend.textOf element (backend.performAll (ofSetup steps) calls)).1

theorem foundAfter_eq (steps : List Setup) (calls : List Call) (locator : String) :
    foundAfter steps calls locator = ((ofSetup steps).fault locator).map fun _ =>
      numberedElements locator (registered steps locator).length := by
  rw [← texts_ofSetup, foundAfter, performAll_eq]
  rfl

theorem readAfter_eq (steps : List Setup) (calls : List Call) (element : Element) :
    readAfter steps calls element = (ofSetup steps).textOf element := by
  rw [readAfter, performAll_eq]
  rfl

theorem eq_of_foundAfter {steps : List Setup} {calls : List Call} {locator : String}
    {found : List Element} (answered : foundAfter steps calls locator = .ok found) :
    found = numberedElements locator (registered steps locator).length := by
  rw [foundAfter_eq] at answered
  cases fault : (ofSetup steps).fault locator with
  | error error =>
    rw [fault] at answered
    cases answered
  | ok =>
    rw [fault] at answered
    exact (Except.ok.inj answered).symm

/-- However a page was set up and whatever was called since, a locator that does not fail is found once
for each of its texts. The reference with an index reads the text with that index, then and later (an
index that is no machine word is none), and no other locator or index gives the same reference. Every
call, failed or not, is noted once behind the earlier ones and leaves the page as it is. -/
theorem references_denote_texts {steps : List Setup} {locator : String}
    (spared : ∀ message, .fault locator message ∉ steps) (calls : List Call) :
    (∃ found, foundAfter steps calls locator = .ok found ∧
      found.length = (registered steps locator).length ∧
      (∀ index element, found[index]? = some element →
        ∃ text, (registered steps locator)[index]? = some text ∧ ∀ later,
          readAfter steps later element =
            if index < twoTo 64 then .ok text
            else .error (.protocol s!"bad handle {element.id}")) ∧
      ∀ other later others, foundAfter steps later other = .ok others →
        ∀ (index number : Nat) element reference, found[index]? = some element →
          others[number]? = some reference → element.id = reference.id →
          locator = other ∧ index = number) ∧
    ∀ recording call,
      (backend.perform recording call).calls = recording.calls ++ [call] ∧
      (backend.perform recording call).elements = recording.elements ∧
      (backend.perform recording call).failing = recording.failing := by
  constructor
  · refine ⟨numberedElements locator (registered steps locator).length, ?_, ?_, ?_, ?_⟩
    · rw [foundAfter_eq, fault_ofSetup spared]
      rfl
    · simp [numberedElements]
    · intro index element placed
      obtain ⟨inside, rfl⟩ := eq_numberedElement_of_getElem? placed
      obtain ⟨text, listed⟩ : ∃ text, (registered steps locator)[index]? = some text :=
        ⟨_, List.getElem?_eq_getElem inside⟩
      refine ⟨text, listed, ?_⟩
      intro later
      rw [← texts_ofSetup] at listed
      rw [readAfter_eq]
      exact textOf_numberedElement listed
    · intro other later others answered index number element reference placed placedOther same
      rw [eq_of_foundAfter answered] at placedOther
      obtain ⟨_, rfl⟩ := eq_numberedElement_of_getElem? placed
      obtain ⟨_, rfl⟩ := eq_numberedElement_of_getElem? placedOther
      exact numberedElement_inj (congrArg Element.mk same)
  · intro recording call
    rw [perform_eq]
    exact ⟨rfl, rfl, rfl⟩

def signedPage : List Setup :=
  [.element "a#0" "zero", .element "a" "one", .fault "b" "gone", .element "a" "two"]

/-- The second match of `a` reads its second text, also after a click that fails. -/
theorem references_denote_texts_of_signedPage :
    (∀ message, Setup.fault "a" message ∉ signedPage) ∧
      foundAfter signedPage [.click "b"] "a" = .ok [⟨"a#0"⟩, ⟨"a#1"⟩] ∧
      readAfter signedPage [.click "b", .find "a"] ⟨"a#1"⟩ = .ok "two" := by
  have spared : ∀ message, Setup.fault "a" message ∉ signedPage := by
    intro message
    simp [signedPage]
  have answered : foundAfter signedPage [.click "b"] "a" = .ok [⟨"a#0"⟩, ⟨"a#1"⟩] := by rfl
  obtain ⟨⟨found, answer, _, reads, _⟩, _⟩ := references_denote_texts spared [.click "b"]
  rw [answered] at answer
  obtain rfl := Except.ok.inj answer
  obtain ⟨text, listed, read⟩ := reads 1 ⟨"a#1"⟩ rfl
  obtain rfl : "two" = text := Option.some.inj listed
  exact ⟨spared, answered, read [.click "b", .find "a"]⟩

end Recording

end Replay
