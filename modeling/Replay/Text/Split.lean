namespace Replay.Text

def cutAtFirst (p : Char → Bool) : List Char → Option (List Char × List Char)
  | [] => none
  | c :: rest =>
    if p c then some ([], rest)
    else (cutAtFirst p rest).map fun parts => (c :: parts.1, parts.2)

def cutAtLast (p : Char → Bool) : List Char → Option (List Char × List Char)
  | [] => none
  | c :: rest =>
    match cutAtLast p rest with
    | some parts => some (c :: parts.1, parts.2)
    | none => if p c then some ([], rest) else none

def consFirst (c : Char) : List (List Char) → List (List Char)
  | [] => [[c]]
  | piece :: pieces => (c :: piece) :: pieces

def pieces (p : Char → Bool) : List Char → List (List Char)
  | [] => [[]]
  | c :: rest => if p c then [] :: pieces p rest else consFirst c (pieces p rest)

/-- The pieces between the separators, a comma and a space each, found from the left. -/
def commaPieces : List Char → List (List Char)
  | [] => [[]]
  | ',' :: ' ' :: rest => [] :: commaPieces rest
  | c :: rest => consFirst c (commaPieces rest)

/-- The lines of a text. A line ends with a line feed, which may follow a carriage return; the last
line may do without. -/
def lines : List Char → List (List Char)
  | [] => []
  | '\n' :: rest => [] :: lines rest
  | '\r' :: '\n' :: rest => [] :: lines rest
  | c :: rest => consFirst c (lines rest)

theorem eq_of_cutAtFirst {p : Char → Bool} {text before after : List Char}
    (cut : cutAtFirst p text = some (before, after)) :
    ∃ c, p c = true ∧ text = before ++ c :: after ∧ before.all (!p ·) = true := by
  induction text generalizing before with
  | nil => simp [cutAtFirst] at cut
  | cons c rest ih =>
    by_cases accepted : p c
    · simp [cutAtFirst, accepted] at cut
      obtain ⟨rfl, rfl⟩ := cut
      exact ⟨c, accepted, rfl, rfl⟩
    · simp only [cutAtFirst, accepted, Bool.false_eq_true, ↓reduceIte, Option.map_eq_some_iff,
        Prod.mk.injEq, Prod.exists] at cut
      obtain ⟨head, tail, found, rfl, rfl⟩ := cut
      obtain ⟨d, hd, rfl, none⟩ := ih found
      exact ⟨d, hd, rfl, by simp [none, accepted]⟩

theorem cutAtFirst_eq (p : Char → Bool) (text : List Char) :
    cutAtFirst p text =
      if text.any p then some (text.takeWhile (!p ·), (text.dropWhile (!p ·)).tail) else none := by
  induction text with
  | nil => rfl
  | cons c rest ih =>
    by_cases accepted : p c
    · simp [cutAtFirst, accepted]
    · by_cases later : rest.any p <;> simp [cutAtFirst, accepted, ih, later]

theorem pieces_ne_nil (p : Char → Bool) (text : List Char) : pieces p text ≠ [] := by
  cases text with
  | nil => exact List.cons_ne_nil _ _
  | cons c rest =>
    simp only [pieces]
    split
    · exact List.cons_ne_nil _ _
    · cases pieces p rest <;> exact List.cons_ne_nil _ _

theorem intercalate_consFirst (separator : List Char) (c : Char) {parts : List (List Char)}
    (nonempty : parts ≠ []) :
    separator.intercalate (consFirst c parts) = c :: separator.intercalate parts := by
  match parts, nonempty with
  | [piece], _ => simp [consFirst]
  | piece :: next :: rest, _ => simp [consFirst, List.intercalate]

theorem intercalate_pieces (separator : Char) (text : List Char) :
    [separator].intercalate (pieces (· == separator) text) = text := by
  induction text with
  | nil => rfl
  | cons c rest ih =>
    simp only [pieces]
    split
    · next same =>
      obtain ⟨piece, parts, found⟩ := List.exists_cons_of_ne_nil (pieces_ne_nil (· == separator) rest)
      rw [found] at ih ⊢
      obtain rfl : c = separator := by simpa using same
      simpa [List.intercalate] using ih
    · rw [intercalate_consFirst _ _ (pieces_ne_nil _ _), ih]

theorem cutAtLast_eq_none {p : Char → Bool} {text : List Char}
    (absent : ∀ c ∈ text, p c = false) : cutAtLast p text = none := by
  induction text with
  | nil => rfl
  | cons c rest ih =>
    simp [cutAtLast, ih fun other member => absent other (List.mem_cons_of_mem _ member),
      absent c List.mem_cons_self]

theorem cutAtLast_append {p : Char → Bool} {c : Char} {after : List Char} (before : List Char)
    (accepted : p c = true) (absent : ∀ other ∈ after, p other = false) :
    cutAtLast p (before ++ c :: after) = some (before, after) := by
  induction before with
  | nil => simp [cutAtLast, cutAtLast_eq_none absent, accepted]
  | cons first before ih => simp [cutAtLast, ih]

end Replay.Text
