import Replay.Backend
import Replay.Dict
import Replay.Text.Split
import Replay.Number.Numeral

/-!
A page for rehearsals: elements with texts, and rules that change the page or make a call fail when it
is made for the first, second, … time.
-/

namespace Replay

def numberedElement (locator : String) (index : Nat) : Element :=
  ⟨locator ++ "#" ++ index.repr⟩

def numberedElements (locator : String) (count : Nat) : List Element :=
  (List.range count).map (numberedElement locator)

/-- The locator and the index of a reference: the parts around its last number sign. -/
def splitNumbered (element : Element) : Option (String × List Char) :=
  (Text.cutAtLast (· == '#') element.id.toList).map fun parts => (String.ofList parts.1, parts.2)

namespace Call

def word : Call → String
  | navigate _ => "navigate"
  | click _ => "click"
  | clear _ => "clear"
  | sendKeys .. => "send_keys"
  | refresh => "refresh"
  | find _ => "find_all"
  | textOf _ => "text_content_of"
  | pause _ => "pause"

def subject : Call → String
  | navigate url => url
  | click locator => locator
  | clear locator => locator
  | sendKeys locator _ => locator
  | refresh => ""
  | find locator => locator
  | textOf element => element
  | pause nanos => nanos.repr

end Call

structure PageRule where
  call : String
  subject : Option String := none
  /-- The first and the last of the matching calls on which the rule acts. -/
  first : Nat := 1
  last : Option Nat := none
  fails : Option BackendError := none
  sets : List (String × List String) := []
  deriving DecidableEq, Repr

namespace PageRule

def fits (rule : PageRule) (call : Call) : Bool :=
  rule.call == call.word && rule.subject.all (· == call.subject)

def acts (rule : PageRule) (hits : Nat) : Bool := rule.first ≤ hits && rule.last.all (hits ≤ ·)

end PageRule

structure ScriptedPage where
  elements : Dict (List String)
  /-- Each rule with the number of calls that fitted it. -/
  rules : List (PageRule × Nat)
  calls : List Call
  deriving DecidableEq, Repr

namespace ScriptedPage

def start (elements : Dict (List String)) (rules : List PageRule) : ScriptedPage :=
  ⟨elements, rules.map (·, 0), []⟩

def texts (page : ScriptedPage) (locator : String) : List String :=
  (page.elements.get? locator).getD []

/-- Applies the rules to a call in order; the first of those that fail decides the error. -/
def applyRules (call : Call) :
    List (PageRule × Nat) → Dict (List String) →
      Option BackendError × List (PageRule × Nat) × Dict (List String)
  | [], elements => (none, [], elements)
  | (rule, hits) :: rest, elements =>
    let hits := if rule.fits call then hits + 1 else hits
    let active := rule.fits call && rule.acts hits
    let elements :=
      if active then rule.sets.foldl (fun elements set => elements.insert set.1 set.2) elements
      else elements
    let (later, rules, elements) := applyRules call rest elements
    ((if active then rule.fails else none).or later, (rule, hits) :: rules, elements)

def note (page : ScriptedPage) (call : Call) : Option BackendError × ScriptedPage :=
  let (failure, rules, elements) := applyRules call page.rules page.elements
  (failure, ⟨elements, rules, page.calls ++ [call]⟩)

def plain (call : Call) : Attempt ScriptedPage Unit := fun page =>
  let (failure, page) := page.note call
  (match failure with
    | some error => .error error
    | none => .ok (), page)

/-- A call on the first match of a locator, which must be there before the rules are applied. -/
def act (locator : String) (call : Call) : Attempt ScriptedPage Unit := fun page =>
  let present := page.texts locator ≠ []
  let (failure, page) := page.note call
  (match failure with
    | some error => .error error
    | none => if present then .ok () else .error (.elementNotFound locator), page)

def find (locator : String) : Attempt ScriptedPage (List Element) := fun page =>
  let (failure, page) := page.note (.find locator)
  (match failure with
    | some error => .error error
    | none => .ok (numberedElements locator (page.texts locator).length), page)

def textOf (element : Element) : Attempt ScriptedPage String := fun page =>
  let (failure, page) := page.note (.textOf element.id)
  (match failure with
    | some error => .error error
    | none =>
      match splitNumbered element with
      | none => .error (.elementNotFound element.id)
      | some (locator, index) =>
        match (Numeral.readWord? index).bind ((page.texts locator)[·]?) with
        | some text => .ok text
        | none => .error (.elementNotFound locator), page)

def backend : Backend ScriptedPage where
  name := "page"
  navigate url := plain (.navigate url)
  click locator := act locator (.click locator)
  clear locator := act locator (.clear locator)
  sendKeys locator text := act locator (.sendKeys locator text)
  refresh := plain .refresh
  find := find
  textOf := textOf
  pause nanos page := (page.note (.pause nanos)).2

end ScriptedPage

end Replay
