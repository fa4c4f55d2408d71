import Replay.Script

/-!
How scripts are spelled in JSON: the encoding of a script, the other spellings that mean the same, the
place of every action in its script, and how deep an encoding nests.
-/

namespace Replay

open Json (Value)

mutual

def Action.placed (path : Path) : Action → List (Path × Action)
  | .ifExists locator body => (path, .ifExists locator body) :: placedFrom path 0 body
  | .forEachToken source body => (path, .forEachToken source body) :: placedFrom path 0 body
  | action => [(path, action)]

def placedFrom (parent : Path) (index : Nat) : List Action → List (Path × Action)
  | [] => []
  | action :: rest => action.placed (parent.child index) ++ placedFrom parent (index + 1) rest

end

def placed (script : List Action) : List (Path × Action) := placedFrom .root 0 script

/-- An action with a body has a path of at most 32 indices, and one that types the token of a loop has
an empty text. -/
def Fits : Path × Action → Prop
  | (path, .ifExists _ _) => path.depth ≤ 32
  | (path, .forEachToken _ _) => path.depth ≤ 32
  | (_, .typeText _ text .loop) => text = ""
  | _ => True

def WaitsWhole : Path × Action → Prop
  | (_, .wait nanos) => ∃ seconds, seconds ≤ twoTo 53 ∧ nanos = seconds * 1000000000
  | _ => True

namespace Script

def modeName : TypingMode → String
  | .literal => "literal"
  | .submit => "enter"
  | .loop => "loop"

mutual

/-- The command of an action and its arguments, with an explicit mode and a whole number of seconds. -/
def encodeAction : Action → Value
  | .navigate url => .list [.text "get", .text url]
  | .click locator => .list [.text "click", .text locator]
  | .clear locator => .list [.text "clear", .text locator]
  | .typeText locator text mode =>
    .list [.text "send_keys", .text locator, .text text, .text (modeName mode)]
  | .wait nanos => .list [.text "sleep", .nat (nanos / 1000000000)]
  | .refresh => .list [.text "refresh"]
  | .readText locator none => .list [.text "text", .text locator]
  | .readText locator (some label) => .list [.text "text", .text locator, .text label]
  | .ifExists locator body => .list [.text "exist", .text locator, .list (encodeActions body)]
  | .forEachToken source body => .list [.text "for", .text source, .list (encodeActions body)]

def encodeActions : List Action → List Value
  | [] => []
  | action :: rest => encodeAction action :: encodeActions rest

end

def encode (script : List Action) : Value := .list (encodeActions script)

inductive SpellsSpan (nanos : Nat) : Value → Prop
  | number {number : Json.Number} :
      Duration.ofSeconds number.toBinary64 = .ok nanos → SpellsSpan nanos (.number number)
  | text {text : String} {seconds : Binary64} :
      Numeral.readBinary64? (Text.trim text.toList) = some seconds →
      Duration.ofSeconds seconds = .ok nanos → SpellsSpan nanos (.text text)

mutual

/-- The values that spell an action: its encoding, but for the mode of a literal text, which may be left
out, and the span of a wait, which may be spelled in another way. -/
inductive SpellsAction : Action → Value → Prop
  | navigate {url : String} : SpellsAction (.navigate url) (.list [.text "get", .text url])
  | click {locator : String} :
      SpellsAction (.click locator) (.list [.text "click", .text locator])
  | clear {locator : String} :
      SpellsAction (.clear locator) (.list [.text "clear", .text locator])
  | typeText {locator text : String} {mode : TypingMode} :
      SpellsAction (.typeText locator text mode)
        (.list [.text "send_keys", .text locator, .text text, .text (modeName mode)])
  | typeLiteral {locator text : String} :
      SpellsAction (.typeText locator text .literal)
        (.list [.text "send_keys", .text locator, .text text])
  | wait {nanos : Nat} {span : Value} :
      SpellsSpan nanos span → SpellsAction (.wait nanos) (.list [.text "sleep", span])
  | refresh : SpellsAction .refresh (.list [.text "refresh"])
  | unlabelled {locator : String} :
      SpellsAction (.readText locator none) (.list [.text "text", .text locator])
  | labelled {locator label : String} :
      SpellsAction (.readText locator (some label))
        (.list [.text "text", .text locator, .text label])
  | ifExists {locator : String} {body : List Action} {items : List Value} :
      SpellsActions body items →
      SpellsAction (.ifExists locator body) (.list [.text "exist", .text locator, .list items])
  | forEachToken {source : String} {body : List Action} {items : List Value} :
      SpellsActions body items →
      SpellsAction (.forEachToken source body) (.list [.text "for", .text source, .list items])

inductive SpellsActions : List Action → List Value → Prop
  | nil : SpellsActions [] []
  | cons {action : Action} {rest : List Action} {item : Value} {items : List Value} :
      SpellsAction action item → SpellsActions rest items →
      SpellsActions (action :: rest) (item :: items)

end

end Script

namespace Json

mutual

def Value.nesting : Value → Nat
  | .list items => 1 + itemsNesting items
  | .object fields => 1 + fieldsNesting fields
  | _ => 0

def itemsNesting : List Value → Nat
  | [] => 0
  | item :: rest => max item.nesting (itemsNesting rest)

def fieldsNesting : List (String × Value) → Nat
  | [] => 0
  | (_, value) :: rest => max value.nesting (fieldsNesting rest)

end

end Json

end Replay
