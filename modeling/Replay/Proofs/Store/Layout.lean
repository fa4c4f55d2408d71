import Mathlib.Data.List.Nodup
import Replay.Store.Ini

/-!
The layout of INI text: which lines are headers, entries and continuations, which of them cannot stand
where they do, and what the entries say. Nothing here looks at a store.
-/

namespace Replay.Ini

open Text

inductive LineKind
  | header (name : String)
  | entry (content : List Char)
  | continuation (content : List Char)
  deriving DecidableEq, Repr

structure Line where
  number : Nat
  kind : LineKind
  deriving DecidableEq, Repr

def isLeftOut (content : List Char) : Bool :=
  content == [] || content.head? == some '#' || content.head? == some ';'

def isBracketed (content : List Char) : Bool :=
  content.head? == some '[' && content.tail.getLast? == some ']'

/-- The lines that are not left out, by what they are. The first has the given number, and `inEntry`
tells whether an entry precedes it since the latest header. -/
def classify (inEntry : Bool) (number : Nat) : List (List Char) → List Line
  | [] => []
  | raw :: rest =>
    let content := trim raw
    if isLeftOut content then classify inEntry (number + 1) rest
    else if inEntry && startsBlank raw then
      ⟨number, .continuation content⟩ :: classify inEntry (number + 1) rest
    else if isBracketed content then
      ⟨number, .header (String.ofList (trim content.tail.dropLast))⟩ ::
        classify false (number + 1) rest
    else ⟨number, .entry content⟩ :: classify true (number + 1) rest

def isSeparator (c : Char) : Bool := c == '=' || c == ':'

def keyPart (content : List Char) : List Char := content.takeWhile (!isSeparator ·)

def valuePart (content : List Char) : List Char := (content.dropWhile (!isSeparator ·)).tail

def isWellFormed (content : List Char) : Bool :=
  content.any isSeparator && trim (keyPart content) != []

/-- An entry line, the section it stands in, and the continuation lines right below it. -/
structure Entry where
  name? : Option String
  content : List Char
  more : List (List Char)
  deriving DecidableEq, Repr

namespace Entry

def key (entry : Entry) : String := normalKey (String.ofList (keyPart entry.content))

def value (entry : Entry) : String :=
  String.ofList
    (['\n'].intercalate ((trim (valuePart entry.content) :: entry.more).filter (· ≠ [])))

def place (entry : Entry) : Option String × String := (entry.name?, entry.key)

end Entry

def continuations : List Line → List (List Char)
  | ⟨_, .continuation content⟩ :: rest => content :: continuations rest
  | _ => []

def Line.header? (line : Line) : Option String :=
  match line.kind with
  | .header name => some name
  | _ => none

def Line.entry? (line : Line) : Option (List Char) :=
  match line.kind with
  | .entry content => some content
  | _ => none

def headers (lines : List Line) : List String := lines.filterMap Line.header?

def entriesIn (name? : Option String) : List Line → List Entry
  | [] => []
  | ⟨_, .header name⟩ :: rest => entriesIn (some name) rest
  | ⟨_, .entry content⟩ :: rest => ⟨name?, content, continuations rest⟩ :: entriesIn name? rest
  | ⟨_, .continuation _⟩ :: rest => entriesIn name? rest

def entries (lines : List Line) : List Entry := entriesIn none lines

/-- Why a line cannot stand behind the lines before it. An entry without a header is that, whether or
not it is well formed. -/
def fault? (before : List Line) (line : Line) : Option IniError :=
  match line.kind with
  | .continuation _ => none
  | .header name =>
    if name ∈ headers before then some (.repeatedSection line.number name) else none
  | .entry content =>
    match (headers before).getLast? with
    | none => some (.missingHeader line.number)
    | some name =>
      if isWellFormed content = false then some (.malformed line.number (String.ofList content))
      else
        let entry : Entry := ⟨some name, content, []⟩
        if entry.place ∈ (entries before).map Entry.place then
          some (.repeatedKey line.number name entry.key)
        else none

def Sound (lines : List Line) : Prop :=
  ∀ front line back, lines = front ++ line :: back → fault? front line = none

section Lemmas

variable {lines front back conts : List Line} {name? : Option String}

theorem headers_append (front back : List Line) : headers (front ++ back) = headers front ++ headers back :=
  List.filterMap_append

theorem sound_nil : Sound [] := by
  intro front line back split
  simp at split

theorem sound_concat_iff (lines : List Line) (last : Line) :
    Sound (lines ++ [last]) ↔ Sound lines ∧ fault? lines last = none := by
  constructor
  · intro sound
    constructor
    · intro front line back split
      apply sound front line (back ++ [last])
      rw [split, List.append_assoc, List.cons_append]
    · exact sound lines last [] rfl
  · rintro ⟨sound, lastSound⟩ front line back split
    rcases List.eq_nil_or_concat back with rfl | ⟨back, other, rfl⟩
    · obtain ⟨rfl, same⟩ := List.append_inj' split rfl
      obtain rfl := List.singleton_inj.mp same
      exact lastSound
    · rw [List.concat_eq_append, ← List.cons_append, ← List.append_assoc] at split
      obtain ⟨same, _⟩ := List.append_inj' split rfl
      exact sound front line back same

theorem not_sound_of_fault {line : Line} {error : IniError} (fault : fault? front line = some error) :
    ¬ Sound (front ++ line :: back) := by
  intro sound
  rw [sound front line back rfl] at fault
  cases fault

/-- At most one line is the first that cannot stand where it does. -/
theorem first_fault_unique {front₁ front₂ back₁ back₂ : List Line} {line₁ line₂ : Line}
    {error₁ error₂ : IniError} (same : front₁ ++ line₁ :: back₁ = front₂ ++ line₂ :: back₂)
    (sound₁ : Sound front₁) (fault₁ : fault? front₁ line₁ = some error₁)
    (sound₂ : Sound front₂) (fault₂ : fault? front₂ line₂ = some error₂) : error₁ = error₂ := by
  rcases List.append_eq_append_iff.mp same with ⟨middle, rfl, rest⟩ | ⟨middle, rfl, rest⟩
  · cases middle with
    | nil =>
      obtain ⟨rfl, _⟩ := List.cons.inj rest
      rw [List.append_nil] at fault₂
      exact Option.some.inj (fault₁.symm.trans fault₂)
    | cons head middle =>
      obtain ⟨rfl, _⟩ := List.cons.inj rest
      exact absurd sound₂ (not_sound_of_fault fault₁)
  · cases middle with
    | nil =>
      obtain ⟨rfl, _⟩ := List.cons.inj rest
      rw [List.append_nil] at fault₁
      exact Option.some.inj (fault₁.symm.trans fault₂)
    | cons head middle =>
      obtain ⟨rfl, _⟩ := List.cons.inj rest
      exact absurd sound₁ (not_sound_of_fault fault₂)

def Line.isContinuation (line : Line) : Bool :=
  match line.kind with
  | .continuation _ => true
  | _ => false

theorem Line.eq_of_isContinuation {line : Line} (continues : line.isContinuation = true) :
    ∃ number content, line = ⟨number, .continuation content⟩ := by
  obtain ⟨number, kind⟩ := line
  cases kind with
  | continuation content => exact ⟨number, content, rfl⟩
  | header name => cases continues
  | entry content => cases continues

theorem continuations_append_of_stop {start : Line} (stop : start.isContinuation = false)
    (front rest : List Line) : continuations (front ++ start :: rest) = continuations front := by
  induction front with
  | nil =>
    obtain ⟨number, kind⟩ := start
    cases kind with
    | continuation content => cases stop
    | header name => rfl
    | entry content => rfl
  | cons line front ih =>
    obtain ⟨number, kind⟩ := line
    cases kind with
    | continuation content => exact congrArg (content :: ·) ih
    | header name => rfl
    | entry content => rfl

theorem entriesIn_append {start : Line} (stop : start.isContinuation = false)
    (name? : Option String) (front rest : List Line) :
    entriesIn name? (front ++ start :: rest) =
      entriesIn name? front ++ entriesIn ((headers front).getLast?.or name?) (start :: rest) := by
  induction front generalizing name? with
  | nil => rfl
  | cons line front ih =>
    obtain ⟨number, kind⟩ := line
    cases kind with
    | continuation content => exact ih name?
    | header name =>
      have latest : (headers (⟨number, .header name⟩ :: front)).getLast?.or name? =
          (headers front).getLast?.or (some name) := by
        change (name :: headers front).getLast?.or name? = _
        rw [List.getLast?_cons]
        cases (headers front).getLast? <;> rfl
      rw [latest]
      exact ih (some name)
    | entry content =>
      rw [List.cons_append, entriesIn, entriesIn, continuations_append_of_stop stop, ih name?]
      rfl

theorem entriesIn_continuations (all : ∀ line ∈ conts, line.isContinuation = true) :
    entriesIn name? conts = [] := by
  induction conts with
  | nil => rfl
  | cons line conts ih =>
    obtain ⟨_, _, rfl⟩ := Line.eq_of_isContinuation (all line List.mem_cons_self)
    exact ih fun other member => all other (List.mem_cons_of_mem _ member)

theorem continuations_concat (all : ∀ line ∈ conts, line.isContinuation = true) (number : Nat)
    (content : List Char) :
    continuations (conts ++ [⟨number, .continuation content⟩]) =
      continuations conts ++ [content] := by
  induction conts with
  | nil => rfl
  | cons line conts ih =>
    obtain ⟨_, first, rfl⟩ := Line.eq_of_isContinuation (all line List.mem_cons_self)
    have rest := ih fun other member => all other (List.mem_cons_of_mem _ member)
    exact congrArg (first :: ·) rest

theorem headers_continuations (all : ∀ line ∈ conts, line.isContinuation = true) :
    headers conts = [] := by
  rw [headers, List.filterMap_eq_nil_iff]
  intro line member
  obtain ⟨_, _, rfl⟩ := Line.eq_of_isContinuation (all line member)
  rfl

theorem map_content_entriesIn (name? : Option String) (lines : List Line) :
    (entriesIn name? lines).map Entry.content = lines.filterMap Line.entry? := by
  induction lines generalizing name? with
  | nil => rfl
  | cons line lines ih =>
    obtain ⟨number, kind⟩ := line
    cases kind with
    | header name => exact ih (some name)
    | entry content => exact congrArg (content :: ·) (ih name?)
    | continuation content => exact ih name?

theorem headers_append_entry (all : ∀ line ∈ conts, line.isContinuation = true)
    (before : List Line) (number : Nat) (content : List Char) :
    headers (before ++ ⟨number, .entry content⟩ :: conts) = headers before := by
  rw [headers_append]
  change headers before ++ headers conts = headers before
  rw [headers_continuations all, List.append_nil]

theorem entries_concat_header (before : List Line) (number : Nat) (name : String) :
    entries (before ++ [⟨number, .header name⟩]) = entries before := by
  rw [entries, entriesIn_append rfl]
  exact List.append_nil _

theorem entries_append_entry (all : ∀ line ∈ conts, line.isContinuation = true)
    (before : List Line) (number : Nat) (content : List Char) :
    entries (before ++ ⟨number, .entry content⟩ :: conts) =
      entries before ++ [⟨(headers before).getLast?, content, continuations conts⟩] := by
  rw [entries, entriesIn_append rfl, Option.or_none, entriesIn, entriesIn_continuations all]
  rfl

end Lemmas

end Replay.Ini
