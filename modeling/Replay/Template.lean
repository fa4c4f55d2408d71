import Replay.Store
import Replay.Text.Split

/-!
Texts with placeholders. Raw text refers to the store by `${Section:Key}` and to the current token of
a loop by `${loop}`. Resolving raw text gives a template: the store's values are spliced in with each
dollar doubled, and only the loop placeholder is left. Rendering a template gives the final text.
-/

namespace Replay

structure Reference where
  name : String
  key : String
  deriving DecidableEq, Repr

def Reference.message (reference : Reference) : String :=
  "unresolved reference $\x7b" ++ reference.name ++ ":" ++ reference.key ++ "\x7d"

namespace Template

open Text

def loopPlaceholder : List Char := ['$', '{', 'l', 'o', 'o', 'p', '}']

inductive Piece
  | plain (c : Char)
  | escapedDollar
  | loop
  deriving DecidableEq, Repr

/-- Reads a template from the left. A dollar that opens neither an escape nor the placeholder stands
for itself. -/
def scan : List Char → List Piece
  | [] => []
  | '$' :: '$' :: rest => .escapedDollar :: scan rest
  | '$' :: '{' :: 'l' :: 'o' :: 'o' :: 'p' :: '}' :: rest => .loop :: scan rest
  | c :: rest => .plain c :: scan rest

def Piece.render (binding : Option (List Char)) : Piece → List Char
  | .plain c => [c]
  | .escapedDollar => ['$']
  | .loop => binding.getD loopPlaceholder

def renderChars (binding : Option (List Char)) (template : List Char) : List Char :=
  (scan template).flatMap (Piece.render binding)

def render (template : String) (binding : Option String) : String :=
  String.ofList (renderChars (binding.map String.toList) template.toList)

def mentionsLoopChars (template : List Char) : Bool := (scan template).contains .loop

def mentionsLoop (template : String) : Bool := mentionsLoopChars template.toList

inductive RawPiece
  | plain (c : Char)
  | escapedDollar
  | loneDollar
  | token (body : List Char)
  | unclosed (body : List Char)
  deriving DecidableEq, Repr

theorem length_lt_of_cutAtFirst {p : Char → Bool} {text before after : List Char}
    (cut : cutAtFirst p text = some (before, after)) : after.length < text.length := by
  obtain ⟨c, _, rfl, _⟩ := eq_of_cutAtFirst cut
  simp only [List.length_append, List.length_cons]
  omega

/-- Reads a raw text from the left. A token reaches to the first closing brace; without one, the
rest of the text stands for itself. -/
def scanRaw : List Char → List RawPiece
  | [] => []
  | '$' :: '$' :: rest => .escapedDollar :: scanRaw rest
  | '$' :: '{' :: rest =>
    match _h : cutAtFirst (· == '}') rest with
    | none => [.unclosed rest]
    | some (body, after) => .token body :: scanRaw after
  | '$' :: rest => .loneDollar :: scanRaw rest
  | c :: rest => .plain c :: scanRaw rest
termination_by text => text.length
decreasing_by
  · simp only [List.length_cons]
    omega
  · have := length_lt_of_cutAtFirst _h
    simp only [List.length_cons]
    omega
  · simp only [List.length_cons]
    omega
  · simp only [List.length_cons]
    omega

def escape (text : List Char) : List Char :=
  text.flatMap fun c => if c = '$' then ['$', '$'] else [c]

/-- The template text of a token. A token without a colon that is not the placeholder keeps its
braces, and its dollar is escaped. -/
def resolveToken (store : Store) (body : List Char) : Except Reference (List Char) :=
  match cutAtFirst (· == ':') body with
  | some (name, key) =>
    let reference : Reference := ⟨String.ofList name, String.ofList key⟩
    match store.get? reference.name reference.key with
    | some value => .ok (escape value.toList)
    | none => .error reference
  | none =>
    if body = ['l', 'o', 'o', 'p'] then .ok loopPlaceholder
    else .ok ('$' :: '$' :: '{' :: body ++ ['}'])

def RawPiece.resolve (store : Store) : RawPiece → Except Reference (List Char)
  | .plain c => .ok [c]
  | .escapedDollar => .ok ['$', '$']
  | .loneDollar => .ok ['$', '$']
  | .token body => resolveToken store body
  | .unclosed body => .ok (escape ('$' :: '{' :: body))

def resolvePieces (store : Store) : List RawPiece → Except Reference (List Char)
  | [] => .ok []
  | piece :: rest =>
    match piece.resolve store with
    | .error reference => .error reference
    | .ok text =>
      match resolvePieces store rest with
      | .error reference => .error reference
      | .ok texts => .ok (text ++ texts)

def resolveChars (store : Store) (raw : List Char) : Except Reference (List Char) :=
  resolvePieces store (scanRaw raw)

def resolve (store : Store) (raw : String) : Except Reference String :=
  (resolveChars store raw.toList).map String.ofList

def plainText (store : Store) (raw : String) : Except Reference String :=
  (resolve store raw).map (render · none)

end Template

end Replay
