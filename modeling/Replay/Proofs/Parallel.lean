/-!
Two computations side by side: either both give values, or both fail.
-/

namespace Replay

variable {ε ε' α α' β β' : Type}

def Parallel (E : ε → ε' → Prop) (R : α → α' → Prop) : Except ε α → Except ε' α' → Prop
  | .ok value, .ok value' => R value value'
  | .error error, .error error' => E error error'
  | _, _ => False

namespace Parallel

variable {E : ε → ε' → Prop} {R : α → α' → Prop} {S : β → β' → Prop}

theorem cases {left : Except ε α} {right : Except ε' α'} (both : Parallel E R left right) :
    (∃ error error', left = .error error ∧ right = .error error' ∧ E error error') ∨
      ∃ value value', left = .ok value ∧ right = .ok value' ∧ R value value' := by
  cases left with
  | error error =>
    cases right with
    | error error' => exact .inl ⟨error, error', rfl, rfl, both⟩
    | ok value' => exact both.elim
  | ok value =>
    cases right with
    | error error' => exact both.elim
    | ok value' => exact .inr ⟨value, value', rfl, rfl, both⟩

theorem pure {value : α} {value' : α'} (related : R value value') :
    Parallel E R (Pure.pure value) (Pure.pure value') := related

theorem bind {left : Except ε α} {right : Except ε' α'} {f : α → Except ε β} {g : α' → Except ε' β'}
    (first : Parallel E R left right)
    (next : ∀ value value', R value value' → Parallel E S (f value) (g value')) :
    Parallel E S (left >>= f) (right >>= g) := by
  rcases first.cases with ⟨error, error', rfl, rfl, related⟩ | ⟨value, value', rfl, rfl, related⟩
  · exact related
  · exact next value value' related

theorem map {left : Except ε α} {right : Except ε' α'} {f : α → β} {g : α' → β'}
    (first : Parallel E R left right)
    (next : ∀ value value', R value value' → S (f value) (g value')) :
    Parallel E S (left.map f) (right.map g) :=
  bind first next

theorem mono {E' : ε → ε' → Prop} {R' : α → α' → Prop} {left : Except ε α} {right : Except ε' α'}
    (both : Parallel E R left right) (errors : ∀ error error', E error error' → E' error error')
    (values : ∀ value value', R value value' → R' value value') : Parallel E' R' left right := by
  rcases both.cases with ⟨error, error', rfl, rfl, related⟩ | ⟨value, value', rfl, rfl, related⟩
  · exact errors error error' related
  · exact values value value' related

end Parallel

end Replay
