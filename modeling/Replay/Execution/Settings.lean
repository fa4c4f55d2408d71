namespace Replay

/-- What a `text` action records when nothing matches its locator. -/
inductive MissingText
  | skip
  /-- `<label> does not exist.`, where a label is known. -/
  | diagnostic
  deriving DecidableEq, Repr

structure RunSettings where
  loopDelayMillis : Nat := 1000
  missingText : MissingText := .skip
  deriving DecidableEq, Repr

end Replay
