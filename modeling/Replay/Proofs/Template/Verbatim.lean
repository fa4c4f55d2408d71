import Replay.Proofs.Parallel
import Replay.Proofs.Template.Weight

namespace Replay.Template

open Text

def Verbatim (binding : Option (List Char)) (body : List Char) : Prop :=
  renderChars binding (body ++ ['}']) = body ++ ['}']

instance (binding : Option (List Char)) (body : List Char) : Decidable (Verbatim binding body) :=
  inferInstanceAs (Decidable (_ = _))

def RawPiece.copied? : RawPiece → Option (List Char)
  | .token body => if isCopied body then some body else none
  | _ => none

def copiedTokens (raw : List Char) : List (List Char) := (scanRaw raw).filterMap RawPiece.copied?

theorem partsOf_cons_ok {store : Store} {binding : Option (List Char)} {piece : RawPiece}
    {pieces : List RawPiece} {parts : List Part}
    (found : partsOf store binding (piece :: pieces) = .ok parts) :
    ∃ part rest, piece.part store binding = .ok part ∧ partsOf store binding pieces = .ok rest ∧
      parts = part :: rest := by
  rw [partsOf] at found
  cases first : piece.part store binding with
  | error reference =>
    rw [first] at found
    cases found
  | ok part =>
    cases others : partsOf store binding pieces with
    | error reference =>
      rw [first, others] at found
      cases found
    | ok rest =>
      rw [first, others] at found
      exact ⟨part, rest, rfl, rfl, (Except.ok.inj found).symm⟩

theorem part_kept_iff {store : Store} {binding : Option (List Char)} {piece : RawPiece} {part : Part}
    (found : piece.part store binding = .ok part) :
    part.rendered binding = part.written ↔ ∀ body ∈ piece.copied?, Verbatim binding body := by
  cases piece with
  | plain c =>
    obtain rfl := Except.ok.inj found
    simp [Part.rendered, Part.written, RawPiece.copied?]
  | escapedDollar =>
    obtain rfl := Except.ok.inj found
    simp [Part.rendered, Part.written, RawPiece.copied?]
  | loneDollar =>
    obtain rfl := Except.ok.inj found
    simp [Part.rendered, Part.written, RawPiece.copied?]
  | unclosed body =>
    obtain rfl := Except.ok.inj found
    simp [Part.rendered, Part.written, RawPiece.copied?]
  | token body =>
    by_cases copied : isCopied body = true
    · rw [RawPiece.part, if_pos copied] at found
      obtain rfl := Except.ok.inj found
      simp [Part.rendered, Part.written, RawPiece.copied?, copied, Verbatim]
    · rw [RawPiece.part, if_neg copied] at found
      cases expanded : expandToken store binding body with
      | error reference =>
        rw [expanded] at found
        cases found
      | ok text =>
        rw [expanded] at found
        obtain rfl := Except.ok.inj found
        simp [Part.rendered, Part.written, RawPiece.copied?, copied]

theorem kept_iff_verbatim {store : Store} {binding : Option (List Char)} {pieces : List RawPiece}
    {parts : List Part} (found : partsOf store binding pieces = .ok parts) :
    (∀ part ∈ parts, part.rendered binding = part.written) ↔
      ∀ body ∈ pieces.filterMap RawPiece.copied?, Verbatim binding body := by
  induction pieces generalizing parts with
  | nil =>
    obtain rfl := Except.ok.inj found
    simp
  | cons piece pieces ih =>
    obtain ⟨part, rest, first, others, rfl⟩ := partsOf_cons_ok found
    rw [List.forall_mem_cons, part_kept_iff first, ih others, List.filterMap_cons]
    cases piece.copied? <;> simp

def Piece.written : Piece → List Char
  | .plain c => [c]
  | .escapedDollar => ['$', '$']
  | .loop => loopPlaceholder

theorem flatMap_written_scan (text : List Char) : (scan text).flatMap Piece.written = text := by
  induction text using scan.induct with
  | case1 => rfl
  | case2 rest ih => simp [scan, Piece.written, ih]
  | case3 rest ih => simp [scan, Piece.written, loopPlaceholder, ih]
  | case4 c rest noDollar noLoop ih =>
    rw [scan_other noDollar noLoop]
    simp [Piece.written, ih]

theorem length_renderChars_none (text : List Char) :
    (renderChars none text).length + (scan text).count .escapedDollar = text.length := by
  conv => rhs; rw [← flatMap_written_scan text]
  rw [renderChars]
  induction scan text with
  | nil => rfl
  | cons piece pieces ih =>
    rw [List.flatMap_cons, List.flatMap_cons, List.length_append, List.length_append, ← ih]
    cases piece <;> simp [Piece.render, Piece.written] <;> omega

theorem renderChars_of_forall_written {binding : Option (List Char)} {text : List Char}
    (each : ∀ piece ∈ scan text, piece.render binding = piece.written) :
    renderChars binding text = text := by
  rw [renderChars, List.flatMap_congr each, flatMap_written_scan]

theorem escapedDollar_mem_scan_iff (text : List Char) :
    .escapedDollar ∈ scan text ↔ ['$', '$'] <:+: text := by
  induction text using scan.induct with
  | case1 => simp [scan]
  | case2 rest ih => simp [scan, List.infix_cons_iff]
  | case3 rest ih => simp [scan, List.infix_cons_iff, ih]
  | case4 c rest noDollar noLoop ih =>
    rw [scan_other noDollar noLoop, List.infix_cons_iff, ← ih]
    have noPrefix : ¬ ['$', '$'] <+: c :: rest := by
      rintro ⟨tail, split⟩
      obtain ⟨rfl, rfl⟩ := List.cons.inj split
      exact noDollar tail rfl rfl
    simp [noPrefix]

theorem loop_mem_scan_iff {text : List Char} (single : ¬ ['$', '$'] <:+: text) :
    .loop ∈ scan text ↔ loopPlaceholder <:+: text := by
  induction text using scan.induct with
  | case1 => simp [scan, loopPlaceholder]
  | case2 rest ih => exact absurd ⟨[], rest, rfl⟩ single
  | case3 rest ih =>
    refine iff_of_true ?_ ⟨[], rest, rfl⟩
    rw [scan]
    exact List.mem_cons_self
  | case4 c rest noDollar noLoop ih =>
    have inner : ¬ ['$', '$'] <:+: rest := fun found => single (found.trans (List.suffix_cons c rest).isInfix)
    rw [scan_other noDollar noLoop, List.infix_cons_iff, ← ih inner]
    have noPrefix : ¬ loopPlaceholder <+: c :: rest := by
      rintro ⟨tail, split⟩
      obtain ⟨rfl, rfl⟩ := List.cons.inj split
      exact noLoop tail rfl rfl
    simp [noPrefix]

theorem dollars_infix_brace_iff (body : List Char) :
    ['$', '$'] <:+: body ++ ['}'] ↔ ['$', '$'] <:+: body := by
  rw [List.infix_concat_iff]
  constructor
  · rintro (⟨front, split⟩ | inside)
    · have last := congrArg List.getLast? split
      simp at last
    · exact inside
  · exact .inr

theorem verbatim_none_iff (body : List Char) : Verbatim none body ↔ ¬ ['$', '$'] <:+: body := by
  rw [← dollars_infix_brace_iff, ← escapedDollar_mem_scan_iff]
  constructor
  · intro kept
    have lengths := length_renderChars_none (body ++ ['}'])
    rw [kept] at lengths
    exact List.count_eq_zero.mp (by omega)
  · intro absent
    refine renderChars_of_forall_written fun piece member => ?_
    cases piece with
    | plain c => rfl
    | escapedDollar => exact absurd member absent
    | loop => rfl

/-- A copied token is kept in every loop unless it holds neighbouring dollars or ends in the
placeholder. -/
theorem forall_verbatim_iff (body : List Char) :
    (∀ binding, Verbatim binding body) ↔
      ¬ ['$', '$'] <:+: body ∧ ¬ loopPlaceholder <:+: body ++ ['}'] := by
  constructor
  · intro kept
    have single := (verbatim_none_iff body).mp (kept none)
    refine ⟨single, ?_⟩
    rw [← dollars_infix_brace_iff] at single
    rw [← loop_mem_scan_iff single]
    have weights := letters_renderChars (some []) (body ++ ['}'])
    rw [kept (some [])] at weights
    have empty : letters ((some []).getD loopPlaceholder) = 0 := rfl
    rw [empty] at weights
    exact List.count_eq_zero.mp (by omega)
  · rintro ⟨single, noLoop⟩ binding
    rw [← dollars_infix_brace_iff] at single
    rw [← loop_mem_scan_iff single] at noLoop
    rw [← escapedDollar_mem_scan_iff] at single
    refine renderChars_of_forall_written fun piece member => ?_
    cases piece with
    | plain c => rfl
    | escapedDollar => exact absurd member single
    | loop => exact absurd member noLoop

theorem render_resolveChars_iff (store : Store) (binding : Option (List Char)) (raw : List Char) :
    Parallel Eq
      (fun template text =>
        renderChars binding template = text ↔ ∀ body ∈ copiedTokens raw, Verbatim binding body)
      (resolveChars store raw) (expandChars store binding raw) := by
  have rendered := render_resolveChars store binding raw
  have written := expandChars_eq_parts store binding raw
  cases found : partsOf store binding (scanRaw raw) with
  | error reference =>
    rw [found] at rendered written
    cases resolved : resolveChars store raw with
    | error other =>
      rw [resolved] at rendered
      rw [written]
      exact Except.error.inj rendered
    | ok template =>
      rw [resolved] at rendered
      cases rendered
  | ok parts =>
    rw [found] at rendered written
    cases resolved : resolveChars store raw with
    | error other =>
      rw [resolved] at rendered
      cases rendered
    | ok template =>
      rw [resolved] at rendered
      rw [written]
      change renderChars binding template = parts.flatMap Part.written ↔ _
      rw [Except.ok.inj rendered, rendered_eq_written_iff, kept_iff_verbatim found]
      rfl

/-- Two-stage interpolation against the one-pass reading. Both fail on the same texts, with the same
reference. Else they agree under a binding exactly if every copied token is kept under it; outside
every loop, exactly if no copied token holds neighbouring dollars; and under all bindings, exactly if
moreover none ends in the placeholder. -/
theorem render_resolve_eq_expand_iff (store : Store) (raw : String) :
    (∀ binding : Option String, Parallel Eq
      (fun template text => render template binding = text ↔
        ∀ body ∈ copiedTokens raw.toList, Verbatim (binding.map String.toList) body)
      (resolve store raw) (expand store raw binding)) ∧
    Parallel Eq
      (fun plain text => plain = text ↔ ∀ body ∈ copiedTokens raw.toList, ¬ ['$', '$'] <:+: body)
      (plainText store raw) (expand store raw none) ∧
    ∀ template, resolve store raw = .ok template →
      ((∀ binding, expand store raw binding = .ok (render template binding)) ↔
        ∀ body ∈ copiedTokens raw.toList,
          ¬ ['$', '$'] <:+: body ∧ ¬ loopPlaceholder <:+: body ++ ['}']) := by
  have each (binding : Option String) : Parallel Eq
      (fun template text => render template binding = text ↔
        ∀ body ∈ copiedTokens raw.toList, Verbatim (binding.map String.toList) body)
      (resolve store raw) (expand store raw binding) := by
    refine (render_resolveChars_iff store (binding.map String.toList) raw.toList).map ?_
    intro template text agree
    rw [← agree, render, String.toList_ofList]
    exact String.ofList_inj
  refine ⟨each, ?_, ?_⟩
  · have outside : Parallel Eq
        (fun plain text => plain = text ↔ ∀ body ∈ copiedTokens raw.toList, Verbatim none body)
        ((resolve store raw).map (render · none)) ((expand store raw none).map id) :=
      (each none).map fun _ _ agree => agree
    rw [Except.map_id] at outside
    exact outside.mono (fun _ _ same => same) fun plain text agree => by
      simpa only [verbatim_none_iff] using agree
  · intro template resolved
    constructor
    · intro agree body member
      refine (forall_verbatim_iff body).mp fun binding => ?_
      have here := each (binding.map String.ofList)
      rw [resolved, agree] at here
      have kept := here.mp rfl body member
      simpa [Option.map_map, Function.comp_def] using kept
    · intro kept binding
      have here := each binding
      rw [resolved] at here
      cases expanded : expand store raw binding with
      | error reference =>
        rw [expanded] at here
        exact here.elim
      | ok text =>
        rw [expanded] at here
        have same := here.mpr fun body member =>
          (forall_verbatim_iff body).mpr (kept body member) (binding.map String.toList)
        rw [same]

/-- An escaped placeholder and a copied token with no dollars in its body are kept in a loop. -/
theorem render_resolve_eq_expand_of_plain_token :
    resolve ∅ "$$\x7bloop\x7d of $\x7bname\x7d" = .ok "$$\x7bloop\x7d of $$\x7bname\x7d" ∧
      expand ∅ "$$\x7bloop\x7d of $\x7bname\x7d" (some "7203") =
        .ok (render "$$\x7bloop\x7d of $$\x7bname\x7d" (some "7203")) := by
  have resolved : resolve ∅ "$$\x7bloop\x7d of $\x7bname\x7d" =
      .ok "$$\x7bloop\x7d of $$\x7bname\x7d" := by
    decide +kernel
  refine ⟨resolved, ?_⟩
  refine ((render_resolve_eq_expand_iff ∅ _).2.2 _ resolved).mpr ?_ (some "7203")
  decide +kernel

/-- A copied token loses a dollar, and one that ends in the placeholder turns into a loop reference. -/
theorem copied_token_not_kept :
    (resolve ∅ "$\x7ba$$b\x7d").toOption.map (render · none) ≠
      (expand ∅ "$\x7ba$$b\x7d" none).toOption ∧
    (resolve ∅ "$\x7b$\x7bloop\x7d").toOption.map (render · (some "7203")) ≠
      (expand ∅ "$\x7b$\x7bloop\x7d" (some "7203")).toOption := by
  decide +kernel

end Replay.Template
