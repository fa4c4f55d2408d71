import Replay.Proofs.Parallel
import Replay.Proofs.Template.OnePass

namespace Replay

/-- The stores define the same references; their values may differ. -/
def SameReferences (left right : Store) : Prop :=
  ∀ name key, (left.get? name key).isSome = (right.get? name key).isSome

namespace Template

open Text

def RawPiece.refersToStore : RawPiece → Bool
  | .token body => (cutAtFirst (· == ':') body).isSome
  | _ => false

def refersToStore (raw : String) : Bool := (scanRaw raw.toList).any RawPiece.refersToStore

theorem resolvePieces_cons (store : Store) (piece : RawPiece) (rest : List RawPiece) :
    resolvePieces store (piece :: rest) = (do
      let text ← piece.resolve store
      (resolvePieces store rest).map (text ++ ·)) := by
  rw [resolvePieces]
  cases piece.resolve store with
  | error reference => rfl
  | ok text => cases resolvePieces store rest <;> rfl

variable {left right : Store}

theorem resolveToken_parallel (same : SameReferences left right) (body : List Char) :
    Parallel Eq
      (fun text text' => mentionsLoopChars text = mentionsLoopChars text' ∧
        ((cutAtFirst (· == ':') body).isSome = false → text = text'))
      (resolveToken left body) (resolveToken right body) := by
  rcases cut : cutAtFirst (· == ':') body with _ | ⟨name, key⟩
  · simp only [resolveToken, cut]
    split
    · exact ⟨rfl, fun _ => rfl⟩
    · exact ⟨rfl, fun _ => rfl⟩
  · simp only [resolveToken, cut]
    have presence := same (String.ofList name) (String.ofList key)
    cases first : left.get? (String.ofList name) (String.ofList key) with
    | none =>
      cases second : right.get? (String.ofList name) (String.ofList key) with
      | none => rfl
      | some value' => simp [first, second] at presence
    | some value =>
      cases second : right.get? (String.ofList name) (String.ofList key) with
      | none => simp [first, second] at presence
      | some value' =>
        refine ⟨?_, fun none => by simp at none⟩
        rw [mentionsLoop_escape, mentionsLoop_escape]

theorem resolve_piece_parallel (same : SameReferences left right) {piece : RawPiece}
    (regular : piece ≠ .plain '$') :
    Parallel Eq
      (fun text text' => (Closed text ∧ Closed text') ∧
        mentionsLoopChars text = mentionsLoopChars text' ∧
        (piece.refersToStore = false → text = text'))
      (piece.resolve left) (piece.resolve right) := by
  have closed := fun store text => @closed_resolve store piece text regular
  have agree : Parallel Eq
      (fun text text' => mentionsLoopChars text = mentionsLoopChars text' ∧
        (piece.refersToStore = false → text = text'))
      (piece.resolve left) (piece.resolve right) := by
    cases piece with
    | token body => exact resolveToken_parallel same body
    | _ => exact ⟨rfl, fun _ => rfl⟩
  rcases agree.cases with
    ⟨reference, _, first, second, rfl⟩ | ⟨text, text', first, second, related⟩
  · rw [first, second]
    rfl
  · rw [first, second]
    exact ⟨⟨closed left text first, closed right text' second⟩, related⟩

theorem resolvePieces_parallel (same : SameReferences left right) (pieces : List RawPiece)
    (regular : ∀ piece ∈ pieces, piece ≠ .plain '$') :
    Parallel Eq
      (fun text text' => mentionsLoopChars text = mentionsLoopChars text' ∧
        (pieces.any RawPiece.refersToStore = false → text = text'))
      (resolvePieces left pieces) (resolvePieces right pieces) := by
  induction pieces with
  | nil => exact ⟨rfl, fun _ => rfl⟩
  | cons piece pieces ih =>
    rw [resolvePieces_cons, resolvePieces_cons]
    refine (resolve_piece_parallel same (regular piece List.mem_cons_self)).bind ?_
    rintro text text' ⟨⟨closed, closed'⟩, mentions, equal⟩
    refine (ih fun other member => regular other (List.mem_cons_of_mem _ member)).map ?_
    rintro texts texts' ⟨restMentions, restEqual⟩
    refine ⟨?_, fun none => ?_⟩
    · rw [mentionsLoop_closed_append closed, mentionsLoop_closed_append closed', mentions,
        restMentions]
    · rw [List.any_cons, Bool.or_eq_false_iff] at none
      rw [equal none.1, restEqual none.2]

/-- The values of a store decide neither whether a text resolves nor whether its template mentions the
loop. -/
theorem resolve_parallel (same : SameReferences left right) (raw : String) :
    Parallel Eq
      (fun template template' => mentionsLoop template = mentionsLoop template' ∧
        (refersToStore raw = false → template = template'))
      (resolve left raw) (resolve right raw) := by
  refine (resolvePieces_parallel same (scanRaw raw.toList)
    (ne_plain_dollar_of_mem_scanRaw raw.toList)).map ?_
  rintro text text' ⟨mentions, equal⟩
  refine ⟨?_, fun none => congrArg String.ofList (equal none)⟩
  rw [mentionsLoop, mentionsLoop, String.toList_ofList, String.toList_ofList, mentions]

end Template

end Replay
