import Mathlib.Data.List.Basic
import Replay.Proofs.Store.Reading
import Replay.Proofs.Text.Lines
import Replay.Proofs.Text.Trim

/-!
Writing a store as INI text, in blocks of a header and its entries. Blocks and entries may stand in any
order; what is read back is the store.
-/

namespace Replay.Ini

open Text

/-! What can be written -/

def PlainName (name : String) : Prop := IsTrimmed name.toList ∧ '\n' ∉ name.toList

instance (name : String) : Decidable (PlainName name) := inferInstanceAs (Decidable (_ ∧ _))

/-- A key that is found again in front of a separator, on a line that is taken for an entry. -/
structure PlainKey (key : String) : Prop where
  nonempty : key ≠ ""
  normal : normalKey key = key
  inside : '=' ∉ key.toList ∧ ':' ∉ key.toList ∧ '\n' ∉ key.toList
  opening : key.toList.head? ≠ some '[' ∧ key.toList.head? ≠ some '#' ∧ key.toList.head? ≠ some ';'

instance (key : String) : Decidable (PlainKey key) :=
  decidable_of_iff (key ≠ "" ∧ normalKey key = key ∧
      ('=' ∉ key.toList ∧ ':' ∉ key.toList ∧ '\n' ∉ key.toList) ∧
      key.toList.head? ≠ some '[' ∧ key.toList.head? ≠ some '#' ∧ key.toList.head? ≠ some ';')
    ⟨fun ⟨nonempty, normal, inside, opening⟩ => ⟨nonempty, normal, inside, opening⟩,
      fun ⟨nonempty, normal, inside, opening⟩ => ⟨nonempty, normal, inside, opening⟩⟩

def valueLines (value : String) : List (List Char) := pieces (· == '\n') value.toList

/-- An empty value, or one of trimmed lines, none of which is empty or, behind the first, a comment. -/
def PlainValue (value : String) : Prop :=
  value = "" ∨ (∀ line ∈ valueLines value, line ≠ [] ∧ IsTrimmed line) ∧
    ∀ line ∈ (valueLines value).tail, line.head? ≠ some '#' ∧ line.head? ≠ some ';'

instance (value : String) : Decidable (PlainValue value) :=
  inferInstanceAs (Decidable (_ ∨ _ ∧ _))

abbrev Block := String × List (String × String)

structure PlainBlock (block : Block) : Prop where
  name : PlainName block.1
  keys : ∀ entry ∈ block.2, PlainKey entry.1
  values : ∀ entry ∈ block.2, PlainValue entry.2

/-! The text -/

def printHeader (name : String) : List Char := '[' :: name.toList ++ [']']

def printEntry (entry : String × String) : List (List Char) :=
  (entry.1.toList ++ ' ' :: '=' :: ' ' :: (valueLines entry.2).headD []) ::
    (valueLines entry.2).tail.map (' ' :: ·)

def printBlock (block : Block) : List (List Char) :=
  printHeader block.1 :: block.2.flatMap printEntry

def printBlocks (blocks : List Block) : List (List Char) := blocks.flatMap printBlock

def print (blocks : List Block) : String := String.ofList (unlines (printBlocks blocks))

/-- The text is the printed one, perhaps without the line feed at its end. -/
def Prints (text : String) (blocks : List Block) : Prop :=
  text = print blocks ∨ text ++ "\n" = print blocks

end Ini

open Ini

namespace Store

def Plain (store : Store) : Prop :=
  ∀ listed ∈ store.sections.entries, PlainName listed.1 ∧
    ∀ entry ∈ listed.2.entries, PlainKey entry.1 ∧ PlainValue entry.2

instance (store : Store) : Decidable store.Plain :=
  inferInstanceAs (Decidable (∀ listed ∈ store.sections.entries, PlainName listed.1 ∧
    ∀ entry ∈ listed.2.entries, PlainKey entry.1 ∧ PlainValue entry.2))

/-- The blocks are the sections of the store in some order, each with its entries in some order. -/
structure ArrangedAs (store : Store) (blocks : List Block) : Prop where
  names : (blocks.map (·.1)).Perm store.sectionNames
  entries : ∀ block ∈ blocks, ∃ values, store.sections.get? block.1 = some values ∧
    block.2.Perm values.entries

def blocks (store : Store) : List Block :=
  store.sections.entries.map fun listed => (listed.1, listed.2.entries)

theorem arrangedAs_blocks (store : Store) : store.ArrangedAs store.blocks where
  names := by
    rw [blocks, List.map_map]
    exact List.Perm.refl _
  entries := by
    intro block member
    obtain ⟨listed, within, rfl⟩ := List.mem_map.mp member
    exact ⟨listed.2, (store.sections.get?_eq_some_iff _ _).mpr within, List.Perm.refl _⟩

end Store

namespace Ini

open Text

/-! Printed lines -/

theorem PlainKey.isTrimmed {key : String} (plain : PlainKey key) : IsTrimmed key.toList := by
  have normal : lowercase (trim key.toList) = key.toList := by
    rw [← String.toList_ofList (l := lowercase _), ← normalKey, plain.normal]
  rw [← normal]
  exact isTrimmed_lowercase (isTrimmed_trim _)

theorem PlainKey.toList_ne_nil {key : String} (plain : PlainKey key) : key.toList ≠ [] :=
  mt String.toList_eq_nil_iff.mp plain.nonempty

theorem not_mem_valueLines {value : String} {line : List Char} (member : line ∈ valueLines value) :
    '\n' ∉ line := by
  intro feed
  exact absurd (not_mem_of_mem_pieces member '\n' feed) (by decide)

theorem valueLines_empty : valueLines "" = [[]] := rfl

theorem PlainValue.isTrimmed {value : String} (plain : PlainValue value) :
    ∀ line ∈ valueLines value, IsTrimmed line := by
  rcases plain with rfl | ⟨lines, -⟩
  · rw [valueLines_empty]
    exact List.forall_mem_singleton.mpr isTrimmed_nil
  · exact fun line member => (lines line member).2

theorem PlainValue.exists_lines {value : String} (plain : PlainValue value) :
    ∃ first more, valueLines value = first :: more ∧ (first = [] → more = []) ∧
      ∀ line ∈ more, line ≠ [] ∧ line.head? ≠ some '#' ∧ line.head? ≠ some ';' := by
  obtain ⟨first, more, split⟩ := List.exists_cons_of_ne_nil (pieces_ne_nil (· == '\n') value.toList)
  refine ⟨first, more, split, ?_⟩
  rcases plain with rfl | ⟨lines, comments⟩
  · obtain ⟨rfl, rfl⟩ := List.cons.inj split
    exact ⟨fun _ => rfl, nofun⟩
  · rw [valueLines, split] at lines comments
    refine ⟨fun empty => absurd empty (lines first List.mem_cons_self).1, fun line member => ?_⟩
    exact ⟨(lines line (List.mem_cons_of_mem _ member)).1, comments line member⟩

theorem isLine_append {front line : List Char} (isLine : IsLine front) (trimmed : IsTrimmed line)
    (noFeed : '\n' ∉ line) : IsLine (front ++ line) := by
  refine ⟨fun member => (List.mem_append.mp member).elim isLine.1 noFeed, ?_⟩
  by_cases empty : line = []
  · rw [empty, List.append_nil]
    exact isLine.2
  · rw [List.getLast?_append_of_ne_nil _ empty]
    intro ending
    exact absurd (trimmed.2 '\r' ending) (by decide)

theorem isLine_concat {front : List Char} (noFeed : '\n' ∉ front) {c : Char} (notFeed : c ≠ '\n')
    (notReturn : c ≠ '\r') : IsLine (front ++ [c]) := by
  constructor
  · simp [noFeed, Ne.symm notFeed]
  · simp [notReturn]

theorem isLine_printEntry {entry : String × String} (key : PlainKey entry.1)
    (value : PlainValue entry.2) : ∀ line ∈ printEntry entry, IsLine line := by
  have noFeed := key.inside.2.2
  obtain ⟨first, more, split, -⟩ := value.exists_lines
  have part : ∀ front line, IsLine front → line ∈ first :: more → IsLine (front ++ line) :=
    fun front line isLine member =>
      isLine_append isLine (value.isTrimmed line (split ▸ member)) (not_mem_valueLines (split ▸ member))
  rw [printEntry, split, List.forall_mem_cons]
  constructor
  · have isLine : IsLine (entry.1.toList ++ [' ', '='] ++ [' ']) :=
      isLine_concat (by simp [noFeed]) (by decide) (by decide)
    simpa using part _ first isLine List.mem_cons_self
  · intro printed member
    obtain ⟨line, within, rfl⟩ := List.mem_map.mp member
    exact part [' '] line ⟨by decide, by decide⟩ (List.mem_cons_of_mem _ within)

theorem isLine_printBlock {block : Block} (plain : PlainBlock block) :
    ∀ line ∈ printBlock block, IsLine line := by
  rw [printBlock, List.forall_mem_cons]
  constructor
  · have noFeed : '\n' ∉ '[' :: block.1.toList := by simp [plain.name.2]
    exact isLine_concat noFeed (by decide) (by decide)
  · intro line member
    obtain ⟨entry, within, printed⟩ := List.mem_flatMap.mp member
    exact isLine_printEntry (plain.keys entry within) (plain.values entry within) line printed

theorem printBlock_nonempty (block : Block) : ∀ line ∈ printBlock block, line ≠ [] := by
  rw [printBlock, List.forall_mem_cons]
  refine ⟨List.cons_ne_nil _ _, fun line member => ?_⟩
  obtain ⟨entry, -, printed⟩ := List.mem_flatMap.mp member
  rcases List.mem_cons.mp printed with rfl | later
  · simp
  · obtain ⟨rest, -, rfl⟩ := List.mem_map.mp later
    exact List.cons_ne_nil _ _

theorem lines_of_prints {text : String} {blocks : List Block} (plain : ∀ block ∈ blocks, PlainBlock block)
    (printed : Prints text blocks) : lines text.toList = printBlocks blocks := by
  have whole : text.toList = unlines (printBlocks blocks) ∨
      text.toList ++ ['\n'] = unlines (printBlocks blocks) := by
    refine printed.imp (fun same => ?_) (fun same => ?_)
    · rw [same, print, String.toList_ofList]
    · have lists := congrArg String.toList same
      rwa [String.toList_append, print, String.toList_ofList, String.toList_ofList] at lists
  refine lines_of_unlines ?_ ?_ whole
  · intro line member
    obtain ⟨block, within, line_mem⟩ := List.mem_flatMap.mp member
    exact isLine_printBlock (plain block within) line line_mem
  · intro line member
    obtain ⟨block, within, line_mem⟩ := List.mem_flatMap.mp member
    exact printBlock_nonempty block line line_mem

/-! Reading them -/

theorem readLines_append (cursor : Cursor) (number : Nat) (front back : List (List Char)) :
    cursor.readLines number (front ++ back) =
      (cursor.readLines number front).bind fun next => next.readLines (number + front.length) back := by
  induction front generalizing cursor number with
  | nil => rfl
  | cons raw front ih =>
    rw [List.cons_append, readLines_cons, readLines_cons]
    cases cursor.readLine number raw with
    | error error => rfl
    | ok next =>
      have shifted : number + (raw :: front).length = number + 1 + front.length := by
        rw [List.length_cons]
        omega
      rw [shifted]
      exact ih next (number + 1)

namespace Cursor

def Passes (cursor : Cursor) (lines : List (List Char)) (next : Cursor) : Prop :=
  ∀ number, cursor.readLines number lines = .ok next

theorem Passes.nil (cursor : Cursor) : cursor.Passes [] cursor := fun _ => rfl

theorem Passes.cons {cursor middle next : Cursor} {line : List Char} {lines : List (List Char)}
    (first : ∀ number, cursor.readLine number line = .ok middle) (rest : middle.Passes lines next) :
    cursor.Passes (line :: lines) next := by
  intro number
  rw [readLines_cons, first number]
  exact rest (number + 1)

theorem Passes.append {cursor middle next : Cursor} {front back : List (List Char)}
    (first : cursor.Passes front middle) (rest : middle.Passes back next) :
    cursor.Passes (front ++ back) next := by
  intro number
  rw [readLines_append, first number]
  exact rest (number + front.length)

def within (sections : Dict (Dict String)) (name : String) (values : Dict String)
    (key? : Option String) : Cursor :=
  ⟨⟨sections.insert name values⟩, some name, key?⟩

end Cursor

theorem isBlankText_space : IsBlankText [' '] := List.forall_mem_singleton.mpr rfl

theorem trim_space (text : List Char) : trim (' ' :: text) = trim text :=
  congrArg trimEnd (trimStart_blanks isBlankText_space text)

theorem normalKey_space {key : String} (plain : PlainKey key) :
    normalKey (String.ofList (key.toList ++ [' '])) = key := by
  rw [normalKey, String.toList_ofList, trim_blanks_behind isBlankText_space, ← normalKey, plain.normal]

theorem trim_printHeader (name : String) : trim (printHeader name) = printHeader name :=
  (trim_eq_self_iff _).mpr
    (isTrimmed_append (List.cons_ne_nil '[' name.toList) (List.cons_ne_nil ']' [])
      (fun c first => by obtain rfl := Option.some.inj first; decide)
      (fun c last => by obtain rfl := Option.some.inj last; decide))

theorem readLine_printHeader {cursor : Cursor} {name : String} (plain : PlainName name)
    (fresh : cursor.store.sections.get? name = none) (number : Nat) :
    cursor.readLine number (printHeader name) =
      .ok (.within cursor.store.sections name ∅ none) := by
  have kept : ¬ isLeftOut (trim (printHeader name)) = true := by
    rw [trim_printHeader]
    simp [isLeftOut, printHeader]
  have starts : ¬ (cursor.key?.isSome && startsBlank (printHeader name)) = true := by
    have opening : startsBlank (printHeader name) = false := rfl
    simp [opening]
  have bracketed : isBracketed (printHeader name) = true := by
    simp [isBracketed, printHeader]
  have inside : (printHeader name).tail.dropLast = name.toList := by
    simp [printHeader]
  rw [readLine_other number kept starts, trim_printHeader, if_pos bracketed, inside,
    (trim_eq_self_iff _).mpr plain.1, String.ofList_toList, Cursor.openSection, Dict.contains, fresh]
  rfl

theorem trim_entryLine {key : String} (plain : PlainKey key) (first : List Char) :
    ∃ tail, trim (key.toList ++ ' ' :: '=' :: ' ' :: first) = key.toList ++ ' ' :: '=' :: tail ∧
      trim tail = trim first := by
  refine ⟨trimEnd (' ' :: first), ?_, ?_⟩
  · have start : trimStart (key.toList ++ ' ' :: '=' :: ' ' :: first) =
        key.toList ++ ' ' :: '=' :: ' ' :: first := by
      apply dropWhile_eq_self
      rw [List.head?_append_of_ne_nil _ plain.toList_ne_nil]
      exact plain.isTrimmed.1
    have split (tail : List Char) : key.toList ++ ' ' :: '=' :: tail = key.toList ++ [' ', '='] ++ tail := by
      simp
    have last : ∀ c ∈ (key.toList ++ [' ', '=']).getLast?, isBlank c = false := by
      rw [List.getLast?_append_of_ne_nil _ (List.cons_ne_nil _ _)]
      intro c last
      obtain rfl : '=' = c := Option.some.inj last
      decide
    rw [trim, start, split, trimEnd_append last, ← split]
  · rw [trim_trimEnd, trim_space]

theorem entry?_printed {key : String} (plain : PlainKey key) (tail : List Char) :
    entry? (key.toList ++ ' ' :: '=' :: tail) = some (key, String.ofList (trim tail)) := by
  have front : entry? (key.toList ++ [' '] ++ '=' :: tail) =
      some (normalKey (String.ofList (key.toList ++ [' '])), String.ofList (trim tail)) := by
    have absent : ∀ c ∈ key.toList ++ [' '], (c == '=' || c == ':') = false := by
      refine List.forall_mem_append.mpr ⟨fun c member => ?_, List.forall_mem_singleton.mpr (by decide)⟩
      have notEquals : c ≠ '=' := fun same => plain.inside.1 (same ▸ member)
      have notColon : c ≠ ':' := fun same => plain.inside.2.1 (same ▸ member)
      simp [notEquals, notColon]
    have written : normalKey (String.ofList (key.toList ++ [' '])) ≠ "" := by
      rw [normalKey_space plain]
      exact plain.nonempty
    unfold entry?
    rw [cutAtFirst_append tail absent (by decide), Option.bind_some]
    exact if_neg written
  rw [normalKey_space plain] at front
  rw [← front, List.append_assoc]
  rfl

theorem not_isLeftOut {content : List Char} (written : content ≠ [])
    (notNumberSign : content.head? ≠ some '#') (notSemicolon : content.head? ≠ some ';') :
    ¬ isLeftOut content = true := by
  simp [isLeftOut, written, notNumberSign, notSemicolon]

section Within

variable {sections : Dict (Dict String)} {name : String} {values : Dict String}

theorem readLine_printEntry {key : String} (plain : PlainKey key) (first : List Char)
    (fresh : values.get? key = none) (key? : Option String) (number : Nat) :
    (Cursor.within sections name values key?).readLine number
        (key.toList ++ ' ' :: '=' :: ' ' :: first) =
      .ok (.within sections name (values.insert key (String.ofList (trim first))) (some key)) := by
  obtain ⟨tail, content, value⟩ := trim_entryLine plain first
  obtain ⟨notBracket, notNumberSign, notSemicolon⟩ := plain.opening
  -- whatever stands behind it, the key is what a line begins with
  have head : ∀ behind, (key.toList ++ behind).head? = key.toList.head? := fun behind =>
    List.head?_append_of_ne_nil _ plain.toList_ne_nil
  have kept : ¬ isLeftOut (trim (key.toList ++ ' ' :: '=' :: ' ' :: first)) = true := by
    rw [content]
    refine not_isLeftOut (by simp) ?_ ?_ <;> rwa [head]
  have starts : startsBlank (key.toList ++ ' ' :: '=' :: ' ' :: first) = false := by
    obtain ⟨c, rest, opening⟩ := List.exists_cons_of_ne_nil plain.toList_ne_nil
    have notBlank := plain.isTrimmed.1 c
    rw [opening] at notBlank ⊢
    exact notBlank rfl
  have bare : ¬ isBracketed (key.toList ++ ' ' :: '=' :: tail) = true := by
    rw [isBracketed, head]
    simp [notBracket]
  have added := entry?_printed plain tail
  rw [readLine_other number kept (by simp [starts]), content, if_neg bare, Cursor.addEntry]
  simp [Cursor.within, added, value, Dict.get?_insert, Dict.contains, fresh, Dict.insert_insert]

theorem readLine_more (key value : String) {line : List Char} (written : trim line ≠ [])
    (noComment : (trim line).head? ≠ some '#' ∧ (trim line).head? ≠ some ';') (number : Nat) :
    (Cursor.within sections name (values.insert key value) (some key)).readLine number (' ' :: line) =
      .ok (.within sections name (values.insert key (extendValue value (trim line))) (some key)) := by
  have content : trim (' ' :: line) = trim line := trim_space line
  have kept : ¬ isLeftOut (trim (' ' :: line)) = true := by
    rw [content]
    exact not_isLeftOut written noComment.1 noComment.2
  rw [readLine_continuation number kept rfl rfl rfl, content, Cursor.continueValue]
  simp [Cursor.within, Dict.get?_insert, Dict.insert_insert]

/-- The lines below the first one of a value are trimmed and added to it one by one, except for blank
ones. -/
theorem passes_more (key value : String) {more : List (List Char)}
    (plain : ∀ line ∈ more, (trim line).head? ≠ some '#' ∧ (trim line).head? ≠ some ';') :
    (Cursor.within sections name (values.insert key value) (some key)).Passes (more.map (' ' :: ·))
      (.within sections name (values.insert key
        (((more.map trim).filter fun line => !line.isEmpty).foldl extendValue value)) (some key)) := by
  induction more generalizing value with
  | nil => exact .nil _
  | cons line more ih =>
    obtain ⟨noComment, restPlain⟩ := List.forall_mem_cons.mp plain
    by_cases blank : trim line = []
    · have leftOut : isLeftOut (trim (' ' :: line)) = true := by
        rw [trim_space, blank]
        rfl
      simp only [List.map_cons, List.filter_cons, blank, List.isEmpty_nil, Bool.not_true,
        Bool.false_eq_true, ↓reduceIte]
      exact .cons (fun number => readLine_leftOut number leftOut) (ih value restPlain)
    · simp only [List.map_cons, List.filter_cons, List.isEmpty_eq_false_iff.mpr blank, Bool.not_false,
        ↓reduceIte, List.foldl_cons]
      exact .cons (readLine_more key value blank noComment) (ih _ restPlain)

theorem foldl_extendValue {first : List Char} (written : first ≠ []) (more : List (List Char)) :
    more.foldl extendValue (String.ofList first) =
      String.ofList (['\n'].intercalate (first :: more)) := by
  induction more generalizing first with
  | nil => simp
  | cons line more ih =>
    have longer : extendValue (String.ofList first) line = String.ofList (first ++ '\n' :: line) := by
      have split : first ++ '\n' :: line = first ++ ['\n'] ++ line := by simp
      rw [extendValue, if_neg (mt String.ofList_eq_empty_iff.mp written), split, String.ofList_append,
        String.ofList_append]
    have joined : ['\n'].intercalate ((first ++ '\n' :: line) :: more) =
        ['\n'].intercalate (first :: line :: more) := by
      cases more <;> simp [List.intercalate]
    rw [List.foldl_cons, longer, ih (by simp), joined]

theorem foldl_valueLines {value : String} {first : List Char} {more : List (List Char)}
    (split : valueLines value = first :: more) (short : first = [] → more = []) :
    more.foldl extendValue (String.ofList first) = value := by
  have whole : String.ofList (['\n'].intercalate (first :: more)) = value := by
    rw [← split, valueLines, intercalate_pieces, String.ofList_toList]
  by_cases empty : first = []
  · rw [short empty] at whole ⊢
    simpa using whole
  · rw [foldl_extendValue empty, whole]

theorem passes_printEntry {entry : String × String} (key : PlainKey entry.1)
    (value : PlainValue entry.2) (fresh : values.get? entry.1 = none) (key? : Option String) :
    (Cursor.within sections name values key?).Passes (printEntry entry)
      (.within sections name (values.insert entry.1 entry.2) (some entry.1)) := by
  obtain ⟨first, more, split, short, plain⟩ := value.exists_lines
  have trimmed := value.isTrimmed
  rw [split] at trimmed
  obtain ⟨firstTrimmed, moreTrimmed⟩ := List.forall_mem_cons.mp trimmed
  have itself : ∀ line ∈ more, trim line = line :=
    fun line member => (trim_eq_self_iff line).mpr (moreTrimmed line member)
  have kept : ((more.map trim).filter fun line => !line.isEmpty) = more := by
    rw [List.map_congr_left itself, List.map_id', List.filter_eq_self]
    intro line member
    simpa using (plain line member).1
  have noComment : ∀ line ∈ more, (trim line).head? ≠ some '#' ∧ (trim line).head? ≠ some ';' := by
    intro line member
    rw [itself line member]
    exact (plain line member).2
  have firstLine := @readLine_printEntry sections name values entry.1 key first fresh key?
  have rest := @passes_more sections name values entry.1 (String.ofList first) more noComment
  rw [(trim_eq_self_iff first).mpr firstTrimmed] at firstLine
  rw [kept, foldl_valueLines split short] at rest
  rw [printEntry, split]
  exact .cons firstLine rest

theorem passes_entries {entries : List (String × String)} (keys : ∀ entry ∈ entries, PlainKey entry.1)
    (plain : ∀ entry ∈ entries, PlainValue entry.2) (nodup : (entries.map (·.1)).Nodup)
    (fresh : ∀ entry ∈ entries, values.get? entry.1 = none) (key? : Option String) :
    ∃ last?, (Cursor.within sections name values key?).Passes (entries.flatMap printEntry)
      (.within sections name
        (entries.foldl (fun values entry => values.insert entry.1 entry.2) values) last?) := by
  induction entries generalizing values key? with
  | nil => exact ⟨key?, .nil _⟩
  | cons entry entries ih =>
    obtain ⟨absent, nodup⟩ := List.nodup_cons.mp nodup
    obtain ⟨firstKey, restKeys⟩ := List.forall_mem_cons.mp keys
    obtain ⟨firstPlain, restPlain⟩ := List.forall_mem_cons.mp plain
    obtain ⟨firstFresh, restFresh⟩ := List.forall_mem_cons.mp fresh
    have stillFresh := Dict.get?_insert_fresh absent restFresh entry.2
    obtain ⟨last?, rest⟩ := ih restKeys restPlain nodup stillFresh (some entry.1)
    exact ⟨last?, (passes_printEntry firstKey firstPlain firstFresh key?).append rest⟩

end Within

theorem passes_printBlock {cursor : Cursor} {block : Block} (plain : PlainBlock block)
    (nodup : (block.2.map (·.1)).Nodup) (fresh : cursor.store.sections.get? block.1 = none) :
    ∃ next, cursor.Passes (printBlock block) next ∧
      next.store.sections = cursor.store.sections.insert block.1 (Dict.ofList block.2) := by
  obtain ⟨last?, entries⟩ := @passes_entries cursor.store.sections block.1 ∅ block.2 plain.keys
    plain.values nodup (fun entry _ => Dict.get?_empty entry.1) none
  exact ⟨_, .cons (readLine_printHeader plain.name fresh) entries, rfl⟩

theorem passes_printBlocks {cursor : Cursor} {blocks : List Block}
    (plain : ∀ block ∈ blocks, PlainBlock block)
    (keys_nodup : ∀ block ∈ blocks, (block.2.map (·.1)).Nodup) (nodup : (blocks.map (·.1)).Nodup)
    (fresh : ∀ block ∈ blocks, cursor.store.sections.get? block.1 = none) :
    ∃ next, cursor.Passes (printBlocks blocks) next ∧
      next.store.sections = (blocks.map fun block => (block.1, Dict.ofList block.2)).foldl
        (fun sections listed => sections.insert listed.1 listed.2) cursor.store.sections := by
  induction blocks generalizing cursor with
  | nil => exact ⟨cursor, .nil _, rfl⟩
  | cons block blocks ih =>
    obtain ⟨absent, nodup⟩ := List.nodup_cons.mp nodup
    obtain ⟨firstPlain, restPlain⟩ := List.forall_mem_cons.mp plain
    obtain ⟨firstKeys, restKeys⟩ := List.forall_mem_cons.mp keys_nodup
    obtain ⟨firstFresh, restFresh⟩ := List.forall_mem_cons.mp fresh
    obtain ⟨middle, first, sections⟩ := passes_printBlock firstPlain firstKeys firstFresh
    have stillFresh := Dict.get?_insert_fresh absent restFresh (Dict.ofList block.2)
    rw [← sections] at stillFresh
    obtain ⟨next, rest, final⟩ := ih restPlain restKeys nodup stillFresh
    refine ⟨next, first.append rest, ?_⟩
    rw [final, sections]
    rfl

theorem ofIni_of_prints {text : String} {blocks : List Block}
    (plain : ∀ block ∈ blocks, PlainBlock block)
    (keys_nodup : ∀ block ∈ blocks, (block.2.map (·.1)).Nodup) (nodup : (blocks.map (·.1)).Nodup)
    (printed : Prints text blocks) :
    Store.ofIni text = .ok ⟨Dict.ofList (blocks.map fun block => (block.1, Dict.ofList block.2))⟩ := by
  obtain ⟨next, passes, sections⟩ := @passes_printBlocks .start blocks plain keys_nodup nodup
    fun block _ => Dict.get?_empty block.1
  rw [Store.ofIni, lines_of_prints plain printed, passes 1, Dict.ofList]
  exact congrArg (fun sections => Except.ok (Store.mk sections)) sections

end Ini

namespace Store

section Arranged

variable {store : Store} {blocks : List Block}

theorem ArrangedAs.names_nodup (arranged : store.ArrangedAs blocks) : (blocks.map (·.1)).Nodup :=
  arranged.names.nodup_iff.mpr store.sections.ordered.nodup_keys

theorem ArrangedAs.section_mem (arranged : store.ArrangedAs blocks) {block : Block}
    (member : block ∈ blocks) :
    ∃ values, (block.1, values) ∈ store.sections.entries ∧ block.2.Perm values.entries := by
  obtain ⟨values, found, same⟩ := arranged.entries block member
  exact ⟨values, (store.sections.get?_eq_some_iff _ _).mp found, same⟩

theorem ArrangedAs.keys_nodup (arranged : store.ArrangedAs blocks) :
    ∀ block ∈ blocks, (block.2.map (·.1)).Nodup := by
  intro block member
  obtain ⟨values, -, same⟩ := arranged.section_mem member
  exact (same.map _).nodup_iff.mpr values.ordered.nodup_keys

theorem ArrangedAs.plain (arranged : store.ArrangedAs blocks) (plain : store.Plain) :
    ∀ block ∈ blocks, PlainBlock block := by
  intro block member
  obtain ⟨values, listed, same⟩ := arranged.section_mem member
  obtain ⟨name, entries⟩ := plain _ listed
  exact {
    name := name
    keys := fun entry within => (entries entry (same.mem_iff.mp within)).1
    values := fun entry within => (entries entry (same.mem_iff.mp within)).2 }

theorem ArrangedAs.ofList_eq (arranged : store.ArrangedAs blocks) :
    Dict.ofList (blocks.map fun block => (block.1, Dict.ofList block.2)) = store.sections := by
  have listed : ∀ block ∈ blocks, (block.1, Dict.ofList block.2) ∈ store.sections.entries := by
    intro block member
    obtain ⟨values, listed, same⟩ := arranged.section_mem member
    rwa [Dict.ofList_eq_of_perm same]
  have nodup : (blocks.map fun block => (block.1, Dict.ofList block.2)).Nodup := by
    refine List.Nodup.of_map (·.1) ?_
    rw [List.map_map]
    exact arranged.names_nodup
  have nodupStore : store.sections.entries.Nodup := List.Nodup.of_map _ store.sections.ordered.nodup_keys
  refine Dict.ofList_eq_of_perm ((List.perm_ext_iff_of_nodup nodup nodupStore).mpr fun entry => ?_)
  constructor
  · intro member
    obtain ⟨block, within, rfl⟩ := List.mem_map.mp member
    exact listed block within
  · intro member
    obtain ⟨name, values⟩ := entry
    have named : name ∈ blocks.map (·.1) :=
      arranged.names.mem_iff.mpr (List.mem_map.mpr ⟨_, member, rfl⟩)
    obtain ⟨block, within, rfl⟩ := List.mem_map.mp named
    have found := (store.sections.get?_eq_some_iff _ _).mpr member
    rw [(store.sections.get?_eq_some_iff _ _).mpr (listed block within)] at found
    obtain rfl := Option.some.inj found
    exact List.mem_map.mpr ⟨block, within, rfl⟩

end Arranged

/-- A store that can be written is read back from what is written, in whatever order that is. -/
theorem ofIni_print {store : Store} (plain : store.Plain) :
    (∃ blocks, store.ArrangedAs blocks) ∧
      ∀ (blocks : List Block) (text : String), store.ArrangedAs blocks → Prints text blocks →
        Store.ofIni text = .ok store := by
  refine ⟨⟨store.blocks, store.arrangedAs_blocks⟩, fun blocks text arranged printed => ?_⟩
  rw [ofIni_of_prints (arranged.plain plain) arranged.keys_nodup arranged.names_nodup printed,
    arranged.ofList_eq]

/-- Sections out of order, one of them without entries, an empty value and one of several lines. -/
theorem ofIni_print_tradingStore :
    Store.ofIni "[Empty]\n[DEFAULT]\nuser = kim\nnote = \n[Actions]\nlogin = [\n [\"click\", \"=x\"]\n ]" =
      .ok ⟨Dict.ofList [("Actions", Dict.ofList [("login", "[\n[\"click\", \"=x\"]\n]")]),
        ("DEFAULT", Dict.ofList [("note", ""), ("user", "kim")]), ("Empty", ∅)]⟩ := by
  refine (ofIni_print (by decide +kernel)).2
    [("Empty", []), ("DEFAULT", [("user", "kim"), ("note", "")]),
      ("Actions", [("login", "[\n[\"click\", \"=x\"]\n]")])] _ ?_ (.inr (by decide +kernel))
  refine ⟨by decide +kernel, fun block member => ?_⟩
  simp only [List.mem_cons, List.not_mem_nil, or_false] at member
  rcases member with rfl | rfl | rfl
  · exact ⟨∅, by decide +kernel, by decide +kernel⟩
  · exact ⟨Dict.ofList [("note", ""), ("user", "kim")], by decide +kernel, by decide +kernel⟩
  · exact ⟨Dict.ofList [("login", "[\n[\"click\", \"=x\"]\n]")], by decide +kernel, by decide +kernel⟩

end Store

end Replay
