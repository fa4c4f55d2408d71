import Replay.Text.CaseTable

/-!
Lower case for any script. Each character has a lower-case form of its own, except for the capital
sigma, whose form depends on whether it ends a word.
-/

namespace Replay.Text

def isCaseIgnorable (c : Char) : Bool := inSpans ignorableSpans c.toNat

def isCased (c : Char) : Bool := inSpans casedSpans c.toNat

def capitalSigma : Char := Char.ofNat 0x3A3
def smallSigma : Char := Char.ofNat 0x3C3
def finalSigma : Char := Char.ofNat 0x3C2

def lowercaseChar (c : Char) : List Char :=
  if c.toNat = 0x130 then ['i', Char.ofNat 0x307]
  else
    match shifted? lowerRuns c.toNat with
    | some code => [Char.ofNat code]
    | none => [c]

def continuesCased : List Char → Bool
  | [] => false
  | c :: rest => if isCaseIgnorable c then continuesCased rest else isCased c

/-- `afterCased` tells whether the letter before the text, marks and signs left aside, has case. -/
def lowercaseFrom (afterCased : Bool) : List Char → List Char
  | [] => []
  | c :: rest =>
    let form :=
      if c = capitalSigma then
        [if afterCased && !continuesCased rest then finalSigma else smallSigma]
      else lowercaseChar c
    form ++ lowercaseFrom (if isCaseIgnorable c then afterCased else isCased c) rest

def lowercase (text : List Char) : List Char := lowercaseFrom false text

@[simp] theorem lowercase_nil : lowercase [] = [] := rfl

theorem lowercaseChar_ne_nil (c : Char) : lowercaseChar c ≠ [] := by
  rw [lowercaseChar]
  split
  · exact List.cons_ne_nil _ _
  · split <;> exact List.cons_ne_nil _ _

@[simp] theorem lowercase_eq_nil_iff (text : List Char) : lowercase text = [] ↔ text = [] := by
  cases text with
  | nil => exact iff_of_true rfl rfl
  | cons c rest =>
    refine iff_of_false (fun none => ?_) (List.cons_ne_nil _ _)
    rw [lowercase, lowercaseFrom] at none
    have first := (List.append_eq_nil_iff.mp none).1
    split at first
    · exact List.cons_ne_nil _ _ first
    · exact lowercaseChar_ne_nil c first

end Replay.Text
