import Replay.Proofs.Template.Scan

/-!
Interpolation in one pass. Resolving a raw text and rendering the template gives what one scan from the
left gives, but for brace tokens that are neither references nor the placeholder: their bodies go into
the template as they are, and rendering reads them again.
-/

namespace Replay.Template

open Text

/-- A brace token that names no reference and is not the placeholder stands for itself. -/
def isCopied (body : List Char) : Bool :=
  (cutAtFirst (· == ':') body).isNone && body != ['l', 'o', 'o', 'p']

def expandToken (store : Store) (binding : Option (List Char)) (body : List Char) :
    Except Reference (List Char) :=
  match cutAtFirst (· == ':') body with
  | some (name, key) =>
    match store.get? (String.ofList name) (String.ofList key) with
    | some value => .ok value.toList
    | none => .error ⟨String.ofList name, String.ofList key⟩
  | none =>
    if body = ['l', 'o', 'o', 'p'] then .ok (binding.getD loopPlaceholder)
    else .ok ('$' :: '{' :: body ++ ['}'])

/-- The final text of a raw text, by one scan from the left. Nothing that is put in is read again. -/
def expandChars (store : Store) (binding : Option (List Char)) :
    List Char → Except Reference (List Char)
  | [] => .ok []
  | '$' :: '$' :: rest => (expandChars store binding rest).map ('$' :: ·)
  | '$' :: '{' :: rest =>
    match _h : cutAtFirst (· == '}') rest with
    | none => .ok ('$' :: '{' :: rest)
    | some (body, after) => do
      let text ← expandToken store binding body
      (expandChars store binding after).map (text ++ ·)
  | c :: rest => (expandChars store binding rest).map (c :: ·)
termination_by text => text.length
decreasing_by
  · simp only [List.length_cons]
    omega
  · have := length_lt_of_cutAtFirst _h
    simp only [List.length_cons]
    omega
  · simp only [List.length_cons]
    omega

def expand (store : Store) (raw : String) (binding : Option String) : Except Reference String :=
  (expandChars store (binding.map String.toList) raw.toList).map String.ofList

theorem expandChars_unclosed (store : Store) (binding : Option (List Char)) {rest : List Char}
    (unclosed : cutAtFirst (· == '}') rest = none) :
    expandChars store binding ('$' :: '{' :: rest) = .ok ('$' :: '{' :: rest) := by
  rw [expandChars]
  split
  · rfl
  · simp_all

theorem expandChars_token (store : Store) (binding : Option (List Char))
    {rest body after : List Char} (cut : cutAtFirst (· == '}') rest = some (body, after)) :
    expandChars store binding ('$' :: '{' :: rest) = (do
      let text ← expandToken store binding body
      (expandChars store binding after).map (text ++ ·)) := by
  rw [expandChars]
  split
  · simp_all
  · simp_all

theorem scanRaw_unclosed {rest : List Char} (unclosed : cutAtFirst (· == '}') rest = none) :
    scanRaw ('$' :: '{' :: rest) = [.unclosed rest] := by
  rw [scanRaw]
  split
  · rfl
  · simp_all

theorem scanRaw_token {rest body after : List Char}
    (cut : cutAtFirst (· == '}') rest = some (body, after)) :
    scanRaw ('$' :: '{' :: rest) = .token body :: scanRaw after := by
  rw [scanRaw]
  split
  · simp_all
  · simp_all

theorem scanRaw_loneDollar {rest : List Char} (noDollar : ∀ tail, rest = '$' :: tail → False)
    (noBrace : ∀ tail, rest = '{' :: tail → False) :
    scanRaw ('$' :: rest) = .loneDollar :: scanRaw rest := by
  rw [scanRaw] <;> assumption

theorem scanRaw_plain {c : Char} {rest : List Char} (ordinary : c ≠ '$') :
    scanRaw (c :: rest) = .plain c :: scanRaw rest := by
  rw [scanRaw] <;> simp_all

inductive Part
  | final (text : List Char)
  | copied (body : List Char)
  deriving DecidableEq, Repr

def Part.written : Part → List Char
  | .final text => text
  | .copied body => '$' :: '{' :: body ++ ['}']

def Part.rendered (binding : Option (List Char)) : Part → List Char
  | .final text => text
  | .copied body => '$' :: '{' :: renderChars binding (body ++ ['}'])

def RawPiece.part (store : Store) (binding : Option (List Char)) : RawPiece → Except Reference Part
  | .plain c => .ok (.final [c])
  | .escapedDollar => .ok (.final ['$'])
  | .loneDollar => .ok (.final ['$'])
  | .token body =>
    if isCopied body then .ok (.copied body)
    else (expandToken store binding body).map .final
  | .unclosed body => .ok (.final ('$' :: '{' :: body))

def partsOf (store : Store) (binding : Option (List Char)) :
    List RawPiece → Except Reference (List Part)
  | [] => .ok []
  | piece :: rest => do
    let part ← piece.part store binding
    (partsOf store binding rest).map (part :: ·)

theorem expandToken_copied (store : Store) (binding : Option (List Char)) {body : List Char}
    (copied : isCopied body = true) :
    expandToken store binding body = .ok ('$' :: '{' :: body ++ ['}']) := by
  simp only [isCopied, Bool.and_eq_true, Option.isNone_iff_eq_none, bne_iff_ne] at copied
  simp only [expandToken, copied.1, copied.2, ↓reduceIte]

theorem expandToken_eq_part (store : Store) (binding : Option (List Char)) (body : List Char) :
    expandToken store binding body = (RawPiece.part store binding (.token body)).map Part.written := by
  by_cases copied : isCopied body = true
  · rw [expandToken_copied store binding copied, RawPiece.part, if_pos copied]
    rfl
  · rw [RawPiece.part, if_neg copied]
    cases expandToken store binding body <;> rfl

theorem flatMap_partsOf_cons (f : Part → List Char) (store : Store) (binding : Option (List Char))
    (piece : RawPiece) (rest : List RawPiece) :
    (partsOf store binding (piece :: rest)).map (·.flatMap f) = (do
      let text ← (piece.part store binding).map f
      ((partsOf store binding rest).map (·.flatMap f)).map (text ++ ·)) := by
  rw [partsOf]
  cases piece.part store binding with
  | error reference => rfl
  | ok part => cases partsOf store binding rest <;> rfl

theorem expandChars_eq_parts (store : Store) (binding : Option (List Char)) (raw : List Char) :
    expandChars store binding raw =
      (partsOf store binding (scanRaw raw)).map (·.flatMap Part.written) := by
  induction raw using scanRaw.induct with
  | case1 =>
    rw [expandChars, scanRaw]
    rfl
  | case2 rest ih =>
    rw [expandChars, scanRaw, flatMap_partsOf_cons, ← ih]
    rfl
  | case3 rest unclosed =>
    rw [expandChars_unclosed store binding unclosed, scanRaw_unclosed unclosed]
    simp [partsOf, RawPiece.part, Except.map, Part.written, bind, Except.bind]
  | case4 rest body after cut ih =>
    rw [expandChars_token store binding cut, scanRaw_token cut, flatMap_partsOf_cons, ← ih,
      expandToken_eq_part]
  | case5 rest noDollar noBrace ih =>
    have expanded : expandChars store binding ('$' :: rest) =
        (expandChars store binding rest).map ('$' :: ·) := by
      rw [expandChars] <;> simpa
    rw [expanded, scanRaw_loneDollar noDollar noBrace, flatMap_partsOf_cons, ← ih]
    rfl
  | case6 c rest noDollar noBrace ordinary ih =>
    have expanded : expandChars store binding (c :: rest) =
        (expandChars store binding rest).map (c :: ·) := by
      rw [expandChars] <;> assumption
    rw [expanded, scanRaw_plain ordinary, flatMap_partsOf_cons, ← ih]
    rfl

theorem ne_plain_dollar_of_mem_scanRaw (raw : List Char) :
    ∀ piece ∈ scanRaw raw, piece ≠ .plain '$' := by
  induction raw using scanRaw.induct with
  | case1 => simp [scanRaw]
  | case2 rest ih => simpa [scanRaw] using ih
  | case3 rest unclosed => simp [scanRaw_unclosed unclosed]
  | case4 rest body after cut ih => simpa [scanRaw_token cut] using ih
  | case5 rest noDollar noBrace ih =>
    simpa [scanRaw_loneDollar noDollar noBrace] using ih
  | case6 c rest noDollar noBrace ordinary ih =>
    rw [scanRaw_plain ordinary]
    intro piece member
    rcases List.mem_cons.mp member with rfl | member
    · simpa using ordinary
    · exact ih piece member

theorem resolveToken_copied (store : Store) {body : List Char} (copied : isCopied body = true) :
    resolveToken store body = .ok ('$' :: '$' :: '{' :: body ++ ['}']) := by
  simp only [isCopied, Bool.and_eq_true, Option.isNone_iff_eq_none, bne_iff_ne] at copied
  simp only [resolveToken, copied.1, copied.2, ↓reduceIte]

theorem render_resolveToken (store : Store) (binding : Option (List Char)) {body : List Char}
    (notCopied : isCopied body = false) :
    (resolveToken store body).map (renderChars binding) = expandToken store binding body := by
  rcases cut : cutAtFirst (· == ':') body with _ | ⟨name, key⟩
  · have placeholder : body = ['l', 'o', 'o', 'p'] := by simpa [isCopied, cut] using notCopied
    simp only [resolveToken, expandToken, cut, if_pos placeholder, Except.map]
    exact congrArg Except.ok (List.append_nil _)
  · simp only [resolveToken, expandToken, cut]
    cases store.get? (String.ofList name) (String.ofList key) with
    | none => rfl
    | some value => simp only [Except.map, render_escape]

theorem closed_resolveToken {store : Store} {body text : List Char}
    (resolved : resolveToken store body = .ok text) : Closed text := by
  simp only [resolveToken] at resolved
  split at resolved
  · split at resolved
    · obtain rfl := Except.ok.inj resolved
      exact closed_escape _
    · cases resolved
  · split at resolved
    · obtain rfl := Except.ok.inj resolved
      exact closed_placeholder
    · obtain rfl := Except.ok.inj resolved
      exact closed_brace ('$' :: '$' :: '{' :: body)

theorem closed_resolve {store : Store} {piece : RawPiece} {text : List Char}
    (regular : piece ≠ .plain '$') (resolved : piece.resolve store = .ok text) : Closed text := by
  cases piece with
  | plain c =>
    obtain rfl := Except.ok.inj resolved
    exact closed_plain (by simpa using regular)
  | escapedDollar =>
    obtain rfl := Except.ok.inj resolved
    exact closed_dollars
  | loneDollar =>
    obtain rfl := Except.ok.inj resolved
    exact closed_dollars
  | token body => exact closed_resolveToken resolved
  | unclosed body =>
    obtain rfl := Except.ok.inj resolved
    exact closed_escape _

theorem render_resolve_piece (store : Store) (binding : Option (List Char)) {piece : RawPiece}
    (regular : piece ≠ .plain '$') :
    (piece.resolve store).map (renderChars binding) =
      (piece.part store binding).map (Part.rendered binding) := by
  cases piece with
  | plain c =>
    have ordinary : c ≠ '$' := by simpa using regular
    simp [RawPiece.resolve, RawPiece.part, Except.map, Part.rendered, renderChars,
      scan_plain ordinary, scan, Piece.render]
  | escapedDollar => rfl
  | loneDollar => rfl
  | token body =>
    by_cases copied : isCopied body = true
    · rw [RawPiece.resolve, resolveToken_copied store copied, RawPiece.part, if_pos copied]
      rfl
    · rw [RawPiece.resolve, RawPiece.part, if_neg copied,
        render_resolveToken store binding (Bool.eq_false_iff.mpr copied)]
      cases expandToken store binding body <;> rfl
  | unclosed body =>
    simp only [RawPiece.resolve, RawPiece.part, Except.map, Part.rendered, render_escape]

theorem render_resolvePieces (store : Store) (binding : Option (List Char)) (pieces : List RawPiece)
    (regular : ∀ piece ∈ pieces, piece ≠ .plain '$') :
    (resolvePieces store pieces).map (renderChars binding) =
      (partsOf store binding pieces).map (·.flatMap (Part.rendered binding)) := by
  induction pieces with
  | nil => rfl
  | cons piece rest ih =>
    rw [flatMap_partsOf_cons, ← ih fun other member => regular other (List.mem_cons_of_mem _ member),
      ← render_resolve_piece store binding (regular piece List.mem_cons_self), resolvePieces]
    cases resolved : piece.resolve store with
    | error reference => rfl
    | ok text =>
      have closed := closed_resolve (regular piece List.mem_cons_self) resolved
      cases resolvePieces store rest with
      | error reference => rfl
      | ok texts => exact congrArg Except.ok (render_closed_append closed binding texts)

theorem render_resolveChars (store : Store) (binding : Option (List Char)) (raw : List Char) :
    (resolveChars store raw).map (renderChars binding) =
      (partsOf store binding (scanRaw raw)).map (·.flatMap (Part.rendered binding)) :=
  render_resolvePieces store binding (scanRaw raw) (ne_plain_dollar_of_mem_scanRaw raw)

end Replay.Template
