import Replay.Proofs.Store.Layout

namespace Replay

theorem Store.own?_put (store : Store) (name key value other otherKey : String) :
    own? ⟨store.sections.insert name (((store.sections.get? name).getD ∅).insert key value)⟩
        other otherKey =
      if other = name ∧ otherKey = key then some value else store.own? other otherKey := by
  rw [own?, own?, Dict.get?_insert]
  by_cases sameName : other = name
  · subst sameName
    rw [if_pos rfl, Option.bind_some, Dict.get?_insert]
    by_cases sameKey : otherKey = key
    · rw [if_pos sameKey, if_pos ⟨rfl, sameKey⟩]
    · rw [if_neg sameKey, if_neg fun both => sameKey both.2]
      cases store.sections.get? other <;> rfl
  · rw [if_neg sameName, if_neg fun both => sameName both.1]

theorem Store.contains_own (store : Store) (name key : String) :
    ((store.sections.get? name).getD ∅).contains key = (store.own? name key).isSome := by
  rw [own?]
  cases store.sections.get? name <;> rfl

theorem Store.own?_fresh {store : Store} {name : String}
    (fresh : ¬ store.sections.contains name = true) (other key : String) :
    own? ⟨store.sections.insert name ∅⟩ other key = store.own? other key := by
  rw [own?, own?, Dict.get?_insert]
  by_cases same : other = name
  · subst same
    rw [Dict.contains, Option.not_isSome_iff_eq_none] at fresh
    rw [if_pos rfl, fresh]
    rfl
  · rw [if_neg same]

namespace Ini

open Text

theorem isSilent_eq (content : List Char) : isSilent content = isLeftOut content := by
  cases content with
  | nil => rfl
  | cons c rest => simp [isSilent, isLeftOut]

theorem headerName?_eq (content : List Char) :
    headerName? content =
      if isBracketed content then some (trim content.tail.dropLast) else none := by
  rcases content with _ | ⟨c, rest⟩
  · rfl
  · by_cases opens : c = '['
    · subst opens
      by_cases closes : rest.getLast? = some ']' <;> simp [headerName?, isBracketed, closes]
    · simp [headerName?, isBracketed, opens]

theorem entry?_eq (content : List Char) :
    entry? content =
      if isWellFormed content then
        some (normalKey (String.ofList (keyPart content)), String.ofList (trim (valuePart content)))
      else none := by
  have blank := normalKey_eq_empty_iff (String.ofList (keyPart content))
  rw [String.toList_ofList] at blank
  change (cutAtFirst isSeparator content).bind _ = _
  rw [cutAtFirst_eq, isWellFormed]
  by_cases separated : content.any isSeparator = true
  · rw [if_pos separated, separated, Bool.true_and, Option.bind_some]
    change (if normalKey (String.ofList (keyPart content)) = "" then none
      else some (_, String.ofList (trim (valuePart content)))) = _
    by_cases empty : trim (keyPart content) = []
    · rw [if_pos (blank.mpr empty), if_neg (by simp [empty])]
    · rw [if_neg (mt blank.mp empty), if_pos (by simpa using empty)]
      rfl
  · rw [if_neg separated, if_neg (by simp [separated])]
    rfl

theorem intercalate_concat (separator : List Char) {parts : List (List Char)} (nonempty : parts ≠ [])
    (last : List Char) :
    separator.intercalate (parts ++ [last]) = separator.intercalate parts ++ separator ++ last := by
  induction parts with
  | nil => exact absurd rfl nonempty
  | cons part parts ih =>
    cases parts with
    | nil => simp [List.intercalate]
    | cons next rest =>
      have tail := ih (List.cons_ne_nil _ _)
      simp only [List.intercalate, List.cons_append, List.intersperse_cons_cons, List.flatten_cons] at tail ⊢
      rw [tail, List.append_assoc, List.append_assoc, List.append_assoc, List.append_assoc]

theorem value_concat (name? : Option String) (content : List Char) (more : List (List Char))
    {line : List Char} (written : line ≠ []) :
    (Entry.mk name? content (more ++ [line])).value =
      extendValue (Entry.mk name? content more).value line := by
  let parts := (trim (valuePart content) :: more).filter (· ≠ [])
  have longer : (trim (valuePart content) :: (more ++ [line])).filter (· ≠ []) = parts ++ [line] := by
    rw [← List.cons_append, List.filter_append]
    simp [parts, written]
  change String.ofList (['\n'].intercalate _) = extendValue (String.ofList (['\n'].intercalate parts)) line
  rw [longer, extendValue]
  rcases empty : parts with _ | ⟨first, rest⟩
  · have nothing : String.ofList (['\n'].intercalate []) = "" := rfl
    rw [if_pos nothing]
    simp
  · have kept : first ≠ [] := by
      have member : first ∈ parts := empty ▸ List.mem_cons_self
      simpa [parts] using List.of_mem_filter member
    have long : ['\n'].intercalate (first :: rest) ≠ [] := by
      intro none
      cases rest <;> simp [List.intercalate, kept] at none
    rw [if_neg (mt String.ofList_eq_empty_iff.mp long),
      intercalate_concat _ (List.cons_ne_nil _ _), String.ofList_append, String.ofList_append]

def Holds (store : Store) (entries : List Entry) : Prop :=
  ∀ name key value, store.own? name key = some value ↔
    ∃ entry ∈ entries, entry.place = (some name, key) ∧ entry.value = value

theorem Holds.isSome_iff {store : Store} {entries : List Entry} (holds : Holds store entries)
    (name key : String) :
    (store.own? name key).isSome = true ↔ (some name, key) ∈ entries.map Entry.place := by
  rw [Option.isSome_iff_exists, List.mem_map]
  constructor
  · rintro ⟨value, found⟩
    obtain ⟨entry, member, place, _⟩ := (holds name key value).mp found
    exact ⟨entry, member, place⟩
  · rintro ⟨entry, member, place⟩
    exact ⟨entry.value, (holds name key _).mpr ⟨entry, member, place, rfl⟩⟩

theorem Holds.put {store : Store} {others before : List Entry} {last : Entry} {name : String}
    (holds : Holds store before) (named : last.name? = some name)
    (fresh : last.place ∉ others.map Entry.place)
    (same : ∀ entry, entry.place ≠ last.place → (entry ∈ before ↔ entry ∈ others)) :
    Holds ⟨store.sections.insert name
      (((store.sections.get? name).getD ∅).insert last.key last.value)⟩ (others ++ [last]) := by
  intro other otherKey value
  rw [Store.own?_put]
  by_cases here : other = name ∧ otherKey = last.key
  · obtain ⟨rfl, rfl⟩ := here
    have place : last.place = (some other, last.key) := by rw [Entry.place, named]
    rw [if_pos ⟨rfl, rfl⟩, Option.some.injEq]
    constructor
    · intro found
      exact ⟨last, List.mem_append_right _ (List.mem_singleton_self _), place, found⟩
    · rintro ⟨entry, member, samePlace, found⟩
      rcases List.mem_append.mp member with earlier | isLast
      · exact absurd (List.mem_map.mpr ⟨entry, earlier, samePlace.trans place.symm⟩) fresh
      · obtain rfl := List.mem_singleton.mp isLast
        exact found
  · have elsewhere : ∀ entry : Entry, entry.place = (some other, otherKey) →
        entry.place ≠ last.place := by
      intro entry samePlace clash
      rw [samePlace, Entry.place, named, Prod.mk.injEq, Option.some.injEq] at clash
      exact here clash
    rw [if_neg here, holds]
    constructor
    · rintro ⟨entry, member, samePlace, found⟩
      have kept := (same entry (elsewhere entry samePlace)).mp member
      exact ⟨entry, List.mem_append_left _ kept, samePlace, found⟩
    · rintro ⟨entry, member, samePlace, found⟩
      rcases List.mem_append.mp member with earlier | isLast
      · exact ⟨entry, (same entry (elsewhere entry samePlace)).mpr earlier, samePlace, found⟩
      · obtain rfl := List.mem_singleton.mp isLast
        exact absurd rfl (elsewhere entry samePlace)

/-- The cursor holds what the lines before it say, and stands in their last entry unless a header is
behind it. -/
structure Reads (before : List Line) (cursor : Cursor) : Prop where
  name_eq : cursor.name? = (headers before).getLast?
  sections : ∀ name, cursor.store.sections.contains name = true ↔ name ∈ headers before
  headers_nodup : (headers before).Nodup
  named : ∀ entry ∈ entries before, ∃ name ∈ headers before, entry.name? = some name
  places_nodup : ((entries before).map Entry.place).Nodup
  holds : Holds cursor.store (entries before)
  open_entry : ∀ key, cursor.key? = some key → ∃ front number content conts,
    before = front ++ ⟨number, .entry content⟩ :: conts ∧
      (∀ line ∈ conts, line.isContinuation = true) ∧ normalKey (String.ofList (keyPart content)) = key

theorem reads_start : Reads [] .start where
  name_eq := rfl
  sections name := by simp [Cursor.start, Dict.contains, headers]; rfl
  headers_nodup := List.nodup_nil
  named := nofun
  places_nodup := List.nodup_nil
  holds name key value := by
    have absent : (Cursor.start.store).own? name key = none := rfl
    simp [absent, entries, entriesIn]
  open_entry := nofun

/-- The reading of lines behind others: the whole can stand and the cursor holds it, or the first line
that cannot stand decides the error. -/
inductive ReadAs (before lines : List Line) : Except IniError Cursor → Prop
  | ok {final : Cursor} :
      Sound (before ++ lines) → Reads (before ++ lines) final → ReadAs before lines (.ok final)
  | error (front back : List Line) {line : Line} {error : IniError} :
      lines = front ++ line :: back → Sound (before ++ front) →
      fault? (before ++ front) line = some error → ReadAs before lines (.error error)

section Steps

variable {before : List Line} {cursor : Cursor}

theorem Reads.put (reads : Reads before cursor) {lines : List Line} {others : List Entry}
    (last : Entry) {name : String} (latest : cursor.name? = some name)
    (named : last.name? = some name) (same : headers (before ++ lines) = headers before)
    (split : entries (before ++ lines) = others ++ [last])
    (kept : ∀ entry ∈ others, entry ∈ entries before)
    (others_nodup : (others.map Entry.place).Nodup) (fresh : last.place ∉ others.map Entry.place)
    (elsewhere : ∀ entry, entry.place ≠ last.place → (entry ∈ entries before ↔ entry ∈ others))
    (ending : ∃ front number conts, before ++ lines = front ++ ⟨number, .entry last.content⟩ :: conts ∧
      ∀ line ∈ conts, line.isContinuation = true) :
    Reads (before ++ lines)
      ⟨⟨cursor.store.sections.insert name
        (((cursor.store.sections.get? name).getD ∅).insert last.key last.value)⟩,
        some name, some last.key⟩ := by
  have member : name ∈ headers before :=
    List.mem_of_getLast? (reads.name_eq.symm.trans latest)
  exact {
    name_eq := by rw [same, ← reads.name_eq, latest]
    sections := by
      intro other
      rw [same, ← reads.sections, Dict.contains, Dict.contains, Dict.get?_insert]
      by_cases here : other = name
      · have present : (cursor.store.sections.get? other).isSome = true :=
          (reads.sections other).mpr (here ▸ member)
        rw [if_pos here, present]
        exact iff_of_true rfl rfl
      · rw [if_neg here]
    headers_nodup := same ▸ reads.headers_nodup
    named := by
      rw [split, same]
      have earlier : ∀ entry ∈ others, ∃ name ∈ headers before, entry.name? = some name :=
        fun entry within => reads.named entry (kept entry within)
      exact List.forall_mem_append.mpr
        ⟨earlier, List.forall_mem_singleton.mpr ⟨name, member, named⟩⟩
    places_nodup := by
      rw [split, List.map_append, List.map_singleton, ← List.concat_eq_append]
      exact List.Nodup.concat fresh others_nodup
    holds := by
      rw [split]
      exact reads.holds.put named fresh elsewhere
    open_entry := by
      intro key found
      obtain rfl := Option.some.inj found
      obtain ⟨front, number, conts, whole, all⟩ := ending
      exact ⟨front, number, last.content, conts, whole, all, rfl⟩ }

theorem readAs_of_fault (sound : Sound before) {line : Line} {error : IniError}
    (fault : fault? before line = some error) : ReadAs before [line] (.error error) := by
  refine .error [] [] rfl (by rwa [List.append_nil]) ?_
  rwa [List.append_nil]

theorem readAs_openSection (sound : Sound before) (reads : Reads before cursor) (number : Nat)
    (name : String) :
    ReadAs before [⟨number, .header name⟩] (cursor.openSection number name) := by
  rw [Cursor.openSection]
  have contains := reads.sections name
  by_cases present : name ∈ headers before
  · rw [if_pos (contains.mpr present)]
    exact readAs_of_fault sound (if_pos present)
  · rw [if_neg (mt contains.mp present)]
    have names : headers (before ++ [⟨number, .header name⟩]) = headers before ++ [name] :=
      headers_append _ _
    have kept := entries_concat_header before number name
    refine .ok ((sound_concat_iff _ _).mpr ⟨sound, if_neg present⟩) ?_
    exact {
      name_eq := by rw [names, List.getLast?_concat]
      sections := by
        intro other
        rw [names, List.mem_append, List.mem_singleton, ← reads.sections, Dict.contains,
          Dict.contains, Dict.get?_insert]
        by_cases same : other = name <;> simp [same]
      headers_nodup := by
        rw [names, ← List.concat_eq_append]
        exact List.Nodup.concat present reads.headers_nodup
      named := by
        rw [kept, names]
        intro entry member
        obtain ⟨other, earlier, found⟩ := reads.named entry member
        exact ⟨other, List.mem_append_left _ earlier, found⟩
      places_nodup := kept ▸ reads.places_nodup
      holds := by
        rw [kept]
        intro other key value
        rw [← reads.holds, Store.own?_fresh (mt contains.mp present)]
      open_entry := nofun }

theorem value_of_no_continuation (name? : Option String) (content : List Char) :
    (Entry.mk name? content []).value = String.ofList (trim (valuePart content)) := by
  by_cases empty : trim (valuePart content) = [] <;> simp [Entry.value, empty]

theorem addEntry_of_isWellFormed {name : String} {content : List Char}
    (latest : cursor.name? = some name) (formed : isWellFormed content = true) (number : Nat) :
    cursor.addEntry number content =
      let last : Entry := ⟨some name, content, []⟩
      let values := (cursor.store.sections.get? name).getD ∅
      if values.contains last.key then .error (.repeatedKey number name last.key)
      else .ok ⟨⟨cursor.store.sections.insert name (values.insert last.key last.value)⟩,
        some name, some last.key⟩ := by
  simp only [Cursor.addEntry, latest, entry?_eq, formed, if_true, value_of_no_continuation,
    Entry.key]

theorem readAs_addEntry (sound : Sound before) (reads : Reads before cursor) (number : Nat)
    (content : List Char) :
    ReadAs before [⟨number, .entry content⟩] (cursor.addEntry number content) := by
  cases latest : cursor.name? with
  | none =>
    rw [Cursor.addEntry, latest]
    refine readAs_of_fault sound ?_
    rw [fault?, ← reads.name_eq, latest]
  | some name =>
    have named : (headers before).getLast? = some name := reads.name_eq ▸ latest
    by_cases formed : isWellFormed content = true
    · have step := addEntry_of_isWellFormed latest formed number
      have judged : fault? before ⟨number, .entry content⟩ =
          let last : Entry := ⟨some name, content, []⟩
          if last.place ∈ (entries before).map Entry.place then
            some (.repeatedKey number name last.key)
          else none := by
        simp only [fault?, named, formed, Bool.true_eq_false, if_false]
      have split := entries_append_entry (List.forall_mem_nil _) before number content
      rw [named] at split
      change entries _ = _ ++ [⟨some name, content, []⟩] at split
      have written : (⟨some name, content, []⟩ : Entry).content = content := rfl
      have within : (⟨some name, content, []⟩ : Entry).name? = some name := rfl
      -- what the entry's value is plays no part from here on
      generalize (⟨some name, content, []⟩ : Entry) = last at step judged split written within
      have place : last.place = (some name, last.key) := by rw [Entry.place, within]
      have repeated : ((cursor.store.sections.get? name).getD ∅).contains last.key = true ↔
          last.place ∈ (entries before).map Entry.place := by
        rw [Store.contains_own, place]
        exact reads.holds.isSome_iff name last.key
      rw [step]
      by_cases present : last.place ∈ (entries before).map Entry.place
      · rw [if_pos (repeated.mpr present)]
        exact readAs_of_fault sound (judged.trans (if_pos present))
      · rw [if_neg (mt repeated.mp present)]
        refine .ok ((sound_concat_iff _ _).mpr ⟨sound, judged.trans (if_neg present)⟩) ?_
        have sameHeaders := headers_append_entry (List.forall_mem_nil _) before number content
        exact reads.put last latest within sameHeaders split (fun _ member => member) reads.places_nodup
          present (fun _ _ => Iff.rfl) ⟨before, number, [], by rw [written], nofun⟩
    · rw [Cursor.addEntry, latest, entry?_eq, if_neg formed]
      refine readAs_of_fault sound ?_
      simp only [fault?, named]
      exact if_pos (Bool.eq_false_iff.mpr formed)

theorem continueValue_of_own {name key value : String} (latest : cursor.name? = some name)
    (isOpen : cursor.key? = some key) (found : cursor.store.own? name key = some value)
    (line : List Char) :
    cursor.continueValue name key line =
      ⟨⟨cursor.store.sections.insert name
        (((cursor.store.sections.get? name).getD ∅).insert key (extendValue value line))⟩,
        some name, some key⟩ := by
  obtain ⟨values, here, inside⟩ := Option.bind_eq_some_iff.mp found
  rw [Cursor.continueValue, here]
  dsimp only
  rw [inside, latest, isOpen]
  rfl

theorem readAs_continueValue (sound : Sound before) (reads : Reads before cursor) (number : Nat)
    {name key : String} {content : List Char} (written : content ≠ [])
    (latest : cursor.name? = some name) (isOpen : cursor.key? = some key) :
    ReadAs before [⟨number, .continuation content⟩] (.ok (cursor.continueValue name key content)) := by
  obtain ⟨front, entryNumber, line, conts, rfl, all, rfl⟩ := reads.open_entry key isOpen
  have longer : ∀ other ∈ conts ++ [⟨number, .continuation content⟩], other.isContinuation = true :=
    List.forall_mem_append.mpr ⟨all, List.forall_mem_singleton.mpr rfl⟩
  have whole : front ++ ⟨entryNumber, .entry line⟩ :: conts ++ [⟨number, .continuation content⟩] =
      front ++ ⟨entryNumber, .entry line⟩ :: (conts ++ [⟨number, .continuation content⟩]) :=
    List.append_assoc _ _ _
  have named : (headers front).getLast? = some name := by
    rw [← latest, reads.name_eq, headers_append_entry all]
  -- the entry in which the cursor stands, before and after the line is added to it
  have old := entries_append_entry all front entryNumber line
  have new := entries_append_entry longer front entryNumber line
  rw [named] at old new
  rw [continuations_concat all, ← whole] at new
  have nodup := reads.places_nodup
  rw [old, List.map_append, List.map_singleton, ← List.concat_eq_append, List.nodup_concat] at nodup
  have found : cursor.store.own? name (normalKey (String.ofList (keyPart line))) =
      some (Entry.mk (some name) line (continuations conts)).value := by
    refine (reads.holds _ _ _).mpr ⟨_, ?_, rfl, rfl⟩
    rw [old]
    exact List.mem_append_right _ (List.mem_singleton_self _)
  rw [continueValue_of_own latest isOpen found, ← value_concat _ _ _ written]
  refine .ok ((sound_concat_iff _ _).mpr ⟨sound, rfl⟩) ?_
  refine reads.put ⟨some name, line, continuations conts ++ [content]⟩ latest rfl ?_ new
    ?_ nodup.2 nodup.1 ?_ ⟨front, entryNumber, _, whole, longer⟩
  · rw [headers_append]
    exact List.append_nil _
  · intro entry member
    rw [old]
    exact List.mem_append_left _ member
  · intro entry elsewhere
    rw [old, List.mem_append, List.mem_singleton]
    constructor
    · rintro (earlier | rfl)
      · exact earlier
      · exact absurd rfl elsewhere
    · exact .inl

end Steps

theorem ReadAs.cons {before lines : List Line} {line : Line}
    {step : Except IniError Cursor} {run : Cursor → Except IniError Cursor}
    (first : ReadAs before [line] step)
    (rest : ∀ next, step = .ok next → Sound (before ++ [line]) → Reads (before ++ [line]) next →
      ReadAs (before ++ [line]) lines (run next)) :
    ReadAs before (line :: lines) (step.bind run) := by
  cases first with
  | @ok next sound reads =>
    have whole : before ++ [line] ++ lines = before ++ line :: lines := List.append_assoc _ _ _
    change ReadAs before (line :: lines) (run next)
    generalize result : run next = outcome
    have later := rest next rfl sound reads
    rw [result] at later
    cases later with
    | ok allSound final => exact .ok (whole ▸ allSound) (whole ▸ final)
    | @error front back faulty error split frontSound fault =>
      refine .error (line :: front) back (by rw [split]; rfl) ?_ ?_
      · simpa using frontSound
      · simpa using fault
  | @error front back faulty error split frontSound fault =>
    refine .error front (back ++ lines) ?_ frontSound fault
    rw [← List.cons_append, ← List.append_assoc, ← split]
    rfl

section Lines

variable {before : List Line} {cursor : Cursor} {raw : List Char}

theorem Reads.name_of_key (reads : Reads before cursor) (isOpen : cursor.key?.isSome = true) :
    ∃ name, cursor.name? = some name := by
  obtain ⟨key, found⟩ := Option.isSome_iff_exists.mp isOpen
  obtain ⟨front, number, content, conts, rfl, all, _⟩ := reads.open_entry key found
  have member := entries_append_entry all front number content
  obtain ⟨name, _, named⟩ := reads.named ⟨(headers front).getLast?, content, continuations conts⟩ (by
    rw [member]
    exact List.mem_append_right _ (List.mem_singleton_self _))
  refine ⟨name, ?_⟩
  rw [reads.name_eq, headers_append_entry all]
  exact named

theorem key?_of_openSection {number : Nat} {name : String} {next : Cursor}
    (opened : cursor.openSection number name = .ok next) : next.key? = none := by
  rw [Cursor.openSection] at opened
  split at opened
  · cases opened
  · obtain rfl := Except.ok.inj opened
    rfl

theorem key?_of_addEntry {number : Nat} {content : List Char} {next : Cursor}
    (added : cursor.addEntry number content = .ok next) : next.key?.isSome = true := by
  rw [Cursor.addEntry] at added
  split at added
  · cases added
  · split at added
    · cases added
    · dsimp only at added
      split at added
      · cases added
      · obtain rfl := Except.ok.inj added
        rfl

theorem key?_continueValue (cursor : Cursor) (name key : String) (line : List Char) :
    (cursor.continueValue name key line).key? = cursor.key? := by
  rw [Cursor.continueValue]
  split
  · rfl
  · split <;> rfl

theorem readLine_leftOut (number : Nat) (leftOut : isLeftOut (trim raw) = true) :
    cursor.readLine number raw = .ok cursor := by
  rw [Cursor.readLine, isSilent_eq]
  exact if_pos leftOut

theorem readLine_continuation {name key : String} (number : Nat)
    (kept : ¬ isLeftOut (trim raw) = true) (blank : startsBlank raw = true)
    (latest : cursor.name? = some name) (isOpen : cursor.key? = some key) :
    cursor.readLine number raw = .ok (cursor.continueValue name key (trim raw)) := by
  rw [Cursor.readLine, isSilent_eq, blank, latest, isOpen]
  exact if_neg kept

theorem readLine_other (number : Nat) (kept : ¬ isLeftOut (trim raw) = true)
    (starts : ¬ (cursor.key?.isSome && startsBlank raw) = true) :
    cursor.readLine number raw =
      if isBracketed (trim raw) then
        cursor.openSection number (String.ofList (trim (trim raw).tail.dropLast))
      else cursor.addEntry number (trim raw) := by
  rw [Cursor.readLine, isSilent_eq, if_neg kept]
  split
  · next blank _ isOpen =>
    rw [blank, isOpen] at starts
    exact absurd rfl starts
  · rw [headerName?_eq]
    by_cases bracketed : isBracketed (trim raw) = true
    · rw [if_pos bracketed, if_pos bracketed]
    · rw [if_neg bracketed, if_neg bracketed]

theorem readLines_cons (number : Nat) (rest : List (List Char)) :
    cursor.readLines number (raw :: rest) =
      (cursor.readLine number raw).bind fun next => next.readLines (number + 1) rest := by
  rw [Cursor.readLines]
  cases cursor.readLine number raw <;> rfl

theorem readAs_readLines (raws : List (List Char)) (number : Nat) (sound : Sound before)
    (reads : Reads before cursor) :
    ReadAs before (classify cursor.key?.isSome number raws) (cursor.readLines number raws) := by
  induction raws generalizing before cursor number with
  | nil =>
    rw [classify, Cursor.readLines]
    exact .ok ((List.append_nil before).symm ▸ sound) ((List.append_nil before).symm ▸ reads)
  | cons raw rest ih =>
    rw [readLines_cons, classify]
    by_cases leftOut : isLeftOut (trim raw) = true
    · rw [if_pos leftOut, readLine_leftOut number leftOut]
      exact ih (number + 1) sound reads
    rw [if_neg leftOut]
    by_cases continues : (cursor.key?.isSome && startsBlank raw) = true
    · have both := Bool.and_eq_true_iff.mp continues
      obtain ⟨key, isOpen⟩ := Option.isSome_iff_exists.mp both.1
      obtain ⟨name, latest⟩ := reads.name_of_key both.1
      have written : trim raw ≠ [] := by
        intro none
        rw [none] at leftOut
        exact leftOut rfl
      rw [if_pos continues, readLine_continuation number leftOut both.2 latest isOpen]
      refine (readAs_continueValue sound reads number written latest isOpen).cons ?_
      intro next same nextSound nextReads
      obtain rfl := Except.ok.inj same
      have tail := ih (number + 1) nextSound nextReads
      rwa [key?_continueValue] at tail
    rw [if_neg continues, readLine_other number leftOut continues]
    by_cases bracketed : isBracketed (trim raw) = true
    · rw [if_pos bracketed, if_pos bracketed]
      refine (readAs_openSection sound reads number _).cons ?_
      intro next opened nextSound nextReads
      have tail := ih (number + 1) nextSound nextReads
      rwa [key?_of_openSection opened] at tail
    · rw [if_neg bracketed, if_neg bracketed]
      refine (readAs_addEntry sound reads number _).cons ?_
      intro next added nextSound nextReads
      have tail := ih (number + 1) nextSound nextReads
      rwa [key?_of_addEntry added] at tail

end Lines

/-- Reading INI text is what its layout says. It fails exactly if some line cannot stand where it does,
and the first such line decides the error, whatever follows it. Else the sections are the headers, and
the values of the store are those of the entries, each under a section and a key of its own. -/
theorem ofIni_eq_layout (text : String) :
    let lines := classify false 1 (Text.lines text.toList)
    (∀ error, Store.ofIni text = .error error ↔
        ∃ front line back, lines = front ++ line :: back ∧ Sound front ∧
          fault? front line = some error) ∧
      ((∃ store, Store.ofIni text = .ok store) ↔ Sound lines) ∧
      ∀ store, Store.ofIni text = .ok store →
        (headers lines).Nodup ∧ (∀ name, store.hasSection name = true ↔ name ∈ headers lines) ∧
          (entries lines).map Entry.content = lines.filterMap Line.entry? ∧
          ((entries lines).map Entry.place).Nodup ∧
          (∀ entry ∈ entries lines, ∃ name ∈ headers lines, entry.name? = some name) ∧
          ∀ name key value, store.own? name key = some value ↔
            ∃ entry ∈ entries lines, entry.place = (some name, key) ∧ entry.value = value := by
  intro lines
  have read : ReadAs [] lines (Cursor.start.readLines 1 (Text.lines text.toList)) :=
    readAs_readLines _ 1 sound_nil reads_start
  have result : Store.ofIni text =
      (Cursor.start.readLines 1 (Text.lines text.toList)).map (·.store) := rfl
  generalize Cursor.start.readLines 1 (Text.lines text.toList) = outcome at read result
  rw [result]
  cases read with
  | @ok final sound reads =>
    rw [List.nil_append] at sound reads
    refine ⟨?_, iff_of_true ⟨final.store, rfl⟩ sound, ?_⟩
    · intro error
      refine iff_of_false nofun ?_
      rintro ⟨front, line, back, split, _, fault⟩
      exact not_sound_of_fault fault (split ▸ sound)
    · intro store found
      obtain rfl := Except.ok.inj found
      exact ⟨reads.headers_nodup, reads.sections, map_content_entriesIn none lines,
        reads.places_nodup, reads.named, reads.holds⟩
  | @error front back line error split sound fault =>
    rw [List.nil_append] at sound fault
    refine ⟨?_, iff_of_false ?_ ?_, nofun⟩
    · intro other
      constructor
      · intro found
        obtain rfl := Except.error.inj found
        exact ⟨front, line, back, split, sound, fault⟩
      · rintro ⟨front', line', back', split', sound', fault'⟩
        exact congrArg Except.error
          (first_fault_unique (split.symm.trans split') sound fault sound' fault')
    · rintro ⟨store, found⟩
      cases found
    · rw [split]
      exact not_sound_of_fault fault

/-- A value that begins below its key and goes on behind a comment, in a section whose header is
indented. -/
theorem ofIni_eq_layout_of_spread_value :
    ∃ store, Store.ofIni "  [A]\nKey =\n  one\n# note\n  two\n[B]\n  k: [x]" = .ok store ∧
      store.own? "A" "key" = some "one\ntwo" ∧ store.own? "B" "k" = some "[x]" := by
  let text := "  [A]\nKey =\n  one\n# note\n  two\n[B]\n  k: [x]"
  have read : (Store.ofIni text).isOk = true := by decide +kernel
  obtain ⟨_, _, values⟩ := ofIni_eq_layout text
  cases result : Store.ofIni text with
  | error error =>
    rw [result] at read
    cases read
  | ok store =>
    obtain ⟨_, _, _, _, _, own⟩ := values store result
    refine ⟨store, rfl, (own _ _ _).mpr ?_, (own _ _ _).mpr ?_⟩
    · exact ⟨⟨some "A", "Key =".toList, ["one".toList, "two".toList]⟩, by decide +kernel⟩
    · exact ⟨⟨some "B", "k: [x]".toList, []⟩, by decide +kernel⟩

end Ini

end Replay
