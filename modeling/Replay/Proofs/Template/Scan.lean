import Replay.Template

/-!
Reading templates piece by piece. A text is closed when no piece that begins in it reaches beyond its
end. Escaped texts, the placeholder and whatever ends in a closing brace are closed, so that a template
made of them is read as each of them alone.
-/

namespace Replay.Template

theorem scan_other {c : Char} {rest : List Char}
    (noDollar : ∀ tail, c = '$' → rest = '$' :: tail → False)
    (noLoop : ∀ tail, c = '$' → rest = '{' :: 'l' :: 'o' :: 'o' :: 'p' :: '}' :: tail → False) :
    scan (c :: rest) = .plain c :: scan rest :=
  scan.eq_4 c rest noDollar noLoop

theorem scan_plain {c : Char} (ordinary : c ≠ '$') (rest : List Char) :
    scan (c :: rest) = .plain c :: scan rest :=
  scan_other (fun _ dollar => absurd dollar ordinary) fun _ dollar => absurd dollar ordinary

theorem scan_placeholder (rest : List Char) :
    scan (loopPlaceholder ++ rest) = .loop :: scan rest :=
  scan.eq_3 rest

def Closed (text : List Char) : Prop :=
  ∀ rest, scan (text ++ rest) = scan text ++ scan rest

theorem closed_nil : Closed [] := fun _ => rfl

theorem closed_append {left right : List Char} (first : Closed left) (second : Closed right) :
    Closed (left ++ right) := by
  intro rest
  rw [List.append_assoc, first, second, first right, List.append_assoc]

theorem closed_plain {c : Char} (ordinary : c ≠ '$') : Closed [c] := by
  intro rest
  rw [List.singleton_append, scan_plain ordinary, scan_plain ordinary []]
  rfl

theorem closed_dollars : Closed ['$', '$'] := fun _ => rfl

theorem closed_placeholder : Closed loopPlaceholder := fun _ => rfl

/-- A closing brace ends every piece: only the placeholder holds one, at its end. -/
theorem closed_brace (text : List Char) : Closed (text ++ ['}']) := by
  intro rest
  rw [List.append_assoc, List.singleton_append]
  induction text using scan.induct with
  | case1 => exact closed_plain (by decide) rest
  | case2 text ih => simp only [List.cons_append, scan, ih]
  | case3 text ih => simp only [List.cons_append, scan, ih]
  | case4 c text noDollar noLoop ih =>
    by_cases opens : c = '$' ∧ text = ['{', 'l', 'o', 'o', 'p']
    · obtain ⟨rfl, rfl⟩ := opens
      exact closed_placeholder rest
    -- the brace completes nothing, so the first character stands for itself on both sides
    have single : ∀ tail, scan (c :: (text ++ '}' :: tail)) = .plain c :: scan (text ++ '}' :: tail) := by
      intro tail
      refine scan_other (fun next dollar second => ?_) fun next dollar second => ?_
      · rcases text with _ | ⟨d, text⟩
        · simp at second
        · exact noDollar text dollar (by simp_all)
      · rcases text with _ | ⟨c₁, _ | ⟨c₂, _ | ⟨c₃, _ | ⟨c₄, _ | ⟨c₅, _ | ⟨c₆, text⟩⟩⟩⟩⟩⟩ <;>
          simp_all
    rw [List.cons_append, single, ih, List.cons_append, single, List.cons_append]

def literalPiece (c : Char) : Piece := if c = '$' then .escapedDollar else .plain c

theorem escape_cons (c : Char) (text : List Char) :
    escape (c :: text) = (if c = '$' then ['$', '$'] else [c]) ++ escape text := rfl

theorem closed_escape (text : List Char) : Closed (escape text) := by
  induction text with
  | nil => exact closed_nil
  | cons c text ih =>
    rw [escape_cons]
    refine closed_append ?_ ih
    by_cases dollar : c = '$'
    · simpa only [dollar, ↓reduceIte] using closed_dollars
    · simpa only [dollar, ↓reduceIte] using closed_plain dollar

theorem scan_escape (text : List Char) : scan (escape text) = text.map literalPiece := by
  induction text with
  | nil => rfl
  | cons c text ih =>
    by_cases dollar : c = '$'
    · simp only [escape_cons, literalPiece, dollar, ↓reduceIte, List.map_cons, ← ih]
      rfl
    · simp only [escape_cons, literalPiece, dollar, ↓reduceIte, List.map_cons, ← ih]
      exact scan_plain dollar _

theorem render_closed_append {text : List Char} (closed : Closed text) (binding : Option (List Char))
    (rest : List Char) :
    renderChars binding (text ++ rest) = renderChars binding text ++ renderChars binding rest := by
  rw [renderChars, closed, List.flatMap_append]
  rfl

theorem render_escape (binding : Option (List Char)) (text : List Char) :
    renderChars binding (escape text) = text := by
  rw [renderChars, scan_escape, List.flatMap_map]
  induction text with
  | nil => rfl
  | cons c text ih =>
    rw [List.flatMap_cons, ih]
    by_cases dollar : c = '$' <;> simp [literalPiece, Piece.render, dollar]

theorem mentionsLoop_escape (text : List Char) : mentionsLoopChars (escape text) = false := by
  rw [mentionsLoopChars, scan_escape, List.contains_eq_any_beq, List.any_map, List.any_eq_false]
  intro c _
  by_cases dollar : c = '$' <;> simp [literalPiece, dollar]

theorem mentionsLoop_closed_append {text : List Char} (closed : Closed text) (rest : List Char) :
    mentionsLoopChars (text ++ rest) = (mentionsLoopChars text || mentionsLoopChars rest) := by
  simp only [mentionsLoopChars, closed rest, List.contains_eq_any_beq, List.any_append]

end Replay.Template
