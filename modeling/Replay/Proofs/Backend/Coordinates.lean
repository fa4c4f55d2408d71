import Replay.Proofs.Backend.Input
import Replay.Proofs.Number.Numerals
import Replay.Proofs.Text.Lines
import Replay.Proofs.Text.Trim

namespace Replay

open Numeral Text

def IsCoordinate (n : Int) : Prop := -2147483648 ≤ n ∧ n ≤ 2147483647

theorem isCoordinate_toInt (n : Int32) : IsCoordinate n.toInt := by
  have low := n.le_toInt
  have high := n.toInt_lt
  exact ⟨by omega, by omega⟩

/-- The locator is two numbers around its first comma, with white space around each or without. -/
def Places (locator : String) (x y : Int) : Prop :=
  ∃ first second, locator.toList = first ++ ',' :: second ∧ ',' ∉ first ∧
    WritesInt (trim first) x ∧ WritesInt (trim second) y

theorem Places.unique {locator : String} {x y x' y' : Int} (one : Places locator x y)
    (other : Places locator x' y') : x = x' ∧ y = y' := by
  obtain ⟨first, second, whole, plain, writesX, writesY⟩ := one
  obtain ⟨first', second', whole', plain', writesX', writesY'⟩ := other
  obtain ⟨rfl, rfl⟩ := parts_unique plain plain' (whole.symm.trans whole')
  exact ⟨writesX.unique writesX', writesY.unique writesY'⟩

theorem readCoordinates_eq_some_iff (locator : String) (x y : Int) :
    readCoordinates locator = some (x, y) ↔ Places locator x y ∧ IsCoordinate x ∧ IsCoordinate y := by
  rw [readCoordinates]
  constructor
  · intro read
    obtain ⟨⟨first, second⟩, cut, read⟩ := Option.bind_eq_some_iff.mp read
    obtain ⟨left, readLeft, read⟩ := Option.bind_eq_some_iff.mp read
    obtain ⟨right, readRight, same⟩ := Option.map_eq_some_iff.mp read
    obtain ⟨rfl, rfl⟩ := Prod.mk.inj same
    obtain ⟨whole, plain⟩ := cutAtFirst_eq_some_iff.mp cut
    obtain ⟨writesX, inRangeX⟩ := (readInt32?_eq_some_iff _ _).mp readLeft
    obtain ⟨writesY, inRangeY⟩ := (readInt32?_eq_some_iff _ _).mp readRight
    exact ⟨⟨first, second, whole, plain, writesX, writesY⟩, inRangeX, inRangeY⟩
  · rintro ⟨⟨first, second, whole, plain, writesX, writesY⟩, inRangeX, inRangeY⟩
    have readLeft := (readInt32?_eq_some_iff _ _).mpr ⟨writesX, inRangeX⟩
    have readRight := (readInt32?_eq_some_iff _ _).mpr ⟨writesY, inRangeY⟩
    rw [cutAtFirst_eq_some_iff.mpr ⟨whole, plain⟩, Option.bind_some]
    dsimp only
    rw [readLeft, readRight]
    rfl

theorem readCoordinates_eq_none_iff {locator : String} {x y : Int} (places : Places locator x y) :
    readCoordinates locator = none ↔ ¬(IsCoordinate x ∧ IsCoordinate y) := by
  rw [Option.eq_none_iff_forall_ne_some]
  constructor
  · intro refused fits
    exact refused (x, y) ((readCoordinates_eq_some_iff locator x y).mpr ⟨places, fits⟩)
  · rintro misfit ⟨x', y'⟩ read
    obtain ⟨other, fits⟩ := (readCoordinates_eq_some_iff locator x' y').mp read
    obtain ⟨rfl, rfl⟩ := places.unique other
    exact misfit fits

theorem comma_not_mem_of_writesInt {text : List Char} {n : Int} (written : WritesInt text n) :
    ',' ∉ text := by
  intro member
  have possible := written.sign_or_digit ',' member
  simp at possible

theorem isTrimmed_of_writesInt {text : List Char} {n : Int} (written : WritesInt text n) :
    IsTrimmed text := by
  apply isTrimmed_of_forall
  intro c member
  rcases written.sign_or_digit c member with rfl | rfl | digit
  · decide
  · decide
  · by_contra blank
    rw [Bool.not_eq_false] at blank
    rw [isDigit_of_isBlank blank] at digit
    cases digit

theorem places_coordinatesText (x y : Int) : Places (coordinatesText x y) x y := by
  have writesX := writesInt_toString x
  have writesY := writesInt_toString y
  have blank : IsBlankText [' '] := by
    intro c member
    obtain rfl := List.mem_singleton.mp member
    decide
  have inner : trim (' ' :: (toString y).toList) = (toString y).toList := by
    calc
      trim (' ' :: (toString y).toList) = trim ([' '] ++ (toString y).toList ++ []) := by simp
      _ = trim (toString y).toList := trim_blanks blank (List.forall_mem_nil _) _
      _ = (toString y).toList := (trim_eq_self_iff _).mpr (isTrimmed_of_writesInt writesY)
  refine ⟨(toString x).toList, ' ' :: (toString y).toList, ?_, comma_not_mem_of_writesInt writesX, ?_, ?_⟩
  · simp [coordinatesText]
  · rw [(trim_eq_self_iff _).mpr (isTrimmed_of_writesInt writesX)]
    exact writesX
  · rw [inner]
    exact writesY

theorem readCoordinates_coordinatesText {x y : Int} (fitsX : IsCoordinate x) (fitsY : IsCoordinate y) :
    readCoordinates (coordinatesText x y) = some (x, y) :=
  (readCoordinates_eq_some_iff _ x y).mpr ⟨places_coordinatesText x y, fitsX, fitsY⟩

namespace Desktop

variable {τ : Type} (device : Input.Device τ)

def elementAt? (locator : String) : Option Element :=
  (readCoordinates locator).map fun place => ⟨coordinatesText place.1 place.2⟩

theorem find_eq (locator : String) (desktop : Desktop τ) :
    (backend device).find locator desktop = (.ok (elementAt? locator).toList, desktop) := by
  change (Except.ok _, desktop) = _
  rw [elementAt?]
  cases readCoordinates locator <;> rfl

theorem elementAt?_toList_eq_nil_iff (locator : String) :
    (elementAt? locator).toList = [] ↔ readCoordinates locator = none := by
  rw [Option.toList_eq_nil_iff, elementAt?, Option.map_eq_none_iff]

theorem readCoordinates_of_mem_elementAt? {locator : String} {element : Element}
    (member : element ∈ (elementAt? locator).toList) :
    readCoordinates element.id = readCoordinates locator := by
  rw [Option.mem_toList, elementAt?] at member
  obtain ⟨⟨x, y⟩, read, rfl⟩ := Option.map_eq_some_iff.mp member
  obtain ⟨_, fitsX, fitsY⟩ := (readCoordinates_eq_some_iff locator x y).mp read
  rw [read]
  exact readCoordinates_coordinatesText fitsX fitsY

theorem absent_iff {locator : String} {attempt : Attempt (Desktop τ) Unit}
    (acts : ActsAt locator attempt) (desktop : Desktop τ) :
    (elementAt? locator).toList = [] ↔
      (attempt desktop).1 = .error (.elementNotFound locator) :=
  (elementAt?_toList_eq_nil_iff locator).trans (acts.elementNotFound_iff desktop).symm

/-- Whatever the input device does, at most one element is found, and none just if a click, clearing, or
typing any text, fails for want of it. The element has the coordinates of the locator, and is found in
its place. Coordinates are two numbers of 32 bits around the first comma, each of them rejected if it
does not fit, and any two that fit are read back from their text. -/
theorem presence_decides_input :
    (∀ {τ : Type} (device : Input.Device τ) (locator : String) (desktop : Desktop τ), ∃ found,
      (backend device).find locator desktop = (.ok found, desktop) ∧
      found.length ≤ 1 ∧
      (found = [] ↔
        ((backend device).click locator desktop).1 = .error (.elementNotFound locator)) ∧
      (found = [] ↔
        ((backend device).clear locator desktop).1 = .error (.elementNotFound locator)) ∧
      (∀ text, found = [] ↔
        ((backend device).sendKeys locator text desktop).1 = .error (.elementNotFound locator)) ∧
      ∀ element ∈ found, readCoordinates element.id = readCoordinates locator ∧
        (backend device).find element.id desktop = (.ok found, desktop)) ∧
    (∀ locator x y, readCoordinates locator = some (x, y) ↔
      Places locator x y ∧ IsCoordinate x ∧ IsCoordinate y) ∧
    (∀ locator x y, Places locator x y →
      (readCoordinates locator = none ↔ ¬(IsCoordinate x ∧ IsCoordinate y))) ∧
    ∀ x y : Int32, readCoordinates (coordinatesText x.toInt y.toInt) = some (x.toInt, y.toInt) := by
  refine ⟨?_, readCoordinates_eq_some_iff, fun _ _ _ => readCoordinates_eq_none_iff, ?_⟩
  · intro τ device locator desktop
    refine ⟨_, find_eq device locator desktop, Option.length_toList_le, ?_, ?_, ?_, ?_⟩
    · exact absent_iff (actsAt_clickAt device locator) desktop
    · exact absent_iff (actsAt_clear device locator) desktop
    · intro text
      exact absent_iff (actsAt_sendKeys device locator text) desktop
    · intro element member
      have same := readCoordinates_of_mem_elementAt? member
      refine ⟨same, ?_⟩
      rw [find_eq, elementAt?, same, elementAt?]
  · intro x y
    exact readCoordinates_coordinatesText (isCoordinate_toInt x) (isCoordinate_toInt y)

example : ((backend (.refusing Unit "no display")).clear "3, 4" (.start ())).1 =
    .error (.session "failed to initialize Enigo: no display") := by decide

end Desktop

end Replay
