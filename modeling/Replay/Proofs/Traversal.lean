import Replay.Proofs.Execution.Unbound
import Replay.Proofs.Script.Spelling

namespace Replay

section Places

variable {path parent : Path} {place : Path × Action}

theorem Action.placed_eq (path : Path) (action : Action) :
    action.placed path = (path, action) :: placedFrom path 0 action.body := by
  cases action <;> rfl

theorem mem_placedFrom_iff {index : Nat} {script : List Action} :
    place ∈ placedFrom parent index script ↔ ∃ (offset : Nat) (action : Action),
      script[offset]? = some action ∧ place ∈ action.placed (parent.child (index + offset)) := by
  induction script generalizing index with
  | nil => simp [placedFrom]
  | cons first rest ih =>
    rw [placedFrom, List.mem_append, ih]
    constructor
    · rintro (here | ⟨offset, action, placed, member⟩)
      · exact ⟨0, first, rfl, here⟩
      · rw [Nat.add_right_comm] at member
        exact ⟨offset + 1, action, placed, member⟩
    · rintro ⟨offset, action, placed, member⟩
      cases offset with
      | zero =>
        obtain rfl : first = action := Option.some.inj placed
        exact .inl member
      | succ offset =>
        rw [← Nat.add_assoc, Nat.add_right_comm] at member
        exact .inr ⟨offset, action, placed, member⟩

def LiesAt (path : Path) (find : List Nat → Option Action) (place : Path × Action) : Prop :=
  ∃ indices, place.1 = ⟨path.indices ++ indices⟩ ∧ find indices = some place.2

theorem liesAt_among_iff {script : List Action} :
    LiesAt path (descendantAmong? script) place ↔ ∃ (offset : Nat) (action : Action),
      script[offset]? = some action ∧ LiesAt (path.child offset) action.descendant? place := by
  have step (offset : Nat) (below : List Nat) :
      (path.child offset).indices ++ below = path.indices ++ offset :: below := by
    rw [Path.child, List.append_assoc, List.singleton_append]
  constructor
  · rintro ⟨_ | ⟨offset, below⟩, placed, found⟩
    · cases found
    · obtain ⟨action, here, found⟩ := Option.bind_eq_some_iff.mp found
      exact ⟨offset, action, here, below, step offset below ▸ placed, found⟩
  · rintro ⟨offset, action, here, below, placed, found⟩
    refine ⟨offset :: below, step offset below ▸ placed, ?_⟩
    rw [descendantAmong?, here, Option.bind_some, found]

theorem liesAt_iff {action : Action} :
    LiesAt path action.descendant? place ↔
      place = (path, action) ∨ LiesAt path (descendantAmong? action.body) place := by
  constructor
  · rintro ⟨_ | ⟨offset, below⟩, placed, found⟩
    · refine .inl (Prod.ext ?_ (Option.some.inj found).symm)
      rw [placed, List.append_nil]
    · exact .inr ⟨offset :: below, placed, found⟩
  · rintro (rfl | ⟨indices, placed, found⟩)
    · exact ⟨[], by rw [List.append_nil], rfl⟩
    · exact ⟨indices, placed, descendant?_of_body found⟩

theorem Action.sizeOf_lt_of_mem_body {action inner : Action} (member : inner ∈ action.body) :
    sizeOf inner < sizeOf action := by
  have smaller := List.sizeOf_lt_of_mem member
  cases action <;> simp only [body, List.not_mem_nil] at member smaller ⊢
  all_goals
    simp only [ifExists.sizeOf_spec, forEachToken.sizeOf_spec]
    omega

/-- The places of an action and of those below it are the ones to which indices lead. -/
theorem Action.mem_placed_iff (action : Action) (path : Path) :
    place ∈ action.placed path ↔ LiesAt path action.descendant? place := by
  rw [placed_eq, List.mem_cons, liesAt_iff, mem_placedFrom_iff, liesAt_among_iff]
  refine or_congr_right (exists_congr fun offset => exists_congr fun inner => ?_)
  refine and_congr_right fun here => ?_
  rw [Nat.zero_add]
  exact mem_placed_iff inner (path.child offset)
termination_by sizeOf action
decreasing_by exact sizeOf_lt_of_mem_body (List.mem_of_getElem? here)

theorem mem_placedFrom_zero_iff {script : List Action} :
    place ∈ placedFrom parent 0 script ↔ LiesAt parent (descendantAmong? script) place := by
  rw [mem_placedFrom_iff, liesAt_among_iff]
  simp only [Nat.zero_add, Action.mem_placed_iff]

theorem pairwise_placedFrom {script : List Action}
    (each : ∀ action ∈ script, ∀ path, (action.placed path).Pairwise (·.1.Before ·.1))
    (parent : Path) (index : Nat) : (placedFrom parent index script).Pairwise (·.1.Before ·.1) := by
  induction script generalizing index with
  | nil => exact .nil
  | cons first rest ih =>
    obtain ⟨here, others⟩ := List.forall_mem_cons.mp each
    rw [placedFrom, List.pairwise_append]
    refine ⟨here _, ih others (index + 1), ?_⟩
    rintro ⟨_, action⟩ member ⟨_, other⟩ later
    obtain ⟨below, rfl, -⟩ := (first.mem_placed_iff _).mp member
    obtain ⟨offset, inner, -, later⟩ := mem_placedFrom_iff.mp later
    obtain ⟨below', rfl, -⟩ := (inner.mem_placed_iff _).mp later
    rw [Path.child, Path.child, List.append_assoc, List.append_assoc]
    exact List.Lex.append_left _ (.rel (by omega)) parent.indices

theorem Action.pairwise_placed (action : Action) (path : Path) :
    (action.placed path).Pairwise (·.1.Before ·.1) := by
  rw [placed_eq, List.pairwise_cons]
  constructor
  · rintro ⟨_, inner⟩ member
    obtain ⟨indices, rfl, found⟩ := mem_placedFrom_zero_iff.mp member
    cases indices with
    | nil => cases found
    | cons index below =>
      have start : List.Lex (· < ·) [] (index :: below) := .nil
      have longer := List.Lex.append_left (· < ·) start path.indices
      rwa [List.append_nil] at longer
  · exact pairwise_placedFrom (fun inner member => inner.pairwise_placed) path 0
termination_by sizeOf action
decreasing_by exact sizeOf_lt_of_mem_body member

end Places

def textsAt (places : List (Path × Action)) : List (String × Path) :=
  places.flatMap fun place => place.2.ownTexts.map fun text => (text, place.1)

theorem textsAt_append (front back : List (Path × Action)) :
    textsAt (front ++ back) = textsAt front ++ textsAt back := List.flatMap_append

theorem textsAt_placed (path : Path) (action : Action) :
    textsAt (action.placed path) =
      action.ownTexts.map (fun text => (text, path)) ++ textsAt (placedFrom path 0 action.body) := by
  rw [Action.placed_eq]
  rfl

mutual

def Action.shape : Action → Action
  | .navigate _ => .navigate ""
  | .click _ => .click ""
  | .clear _ => .clear ""
  | .typeText _ _ mode => .typeText "" "" mode
  | .wait nanos => .wait nanos
  | .refresh => .refresh
  | .readText _ label => .readText "" (label.map fun _ => "")
  | .ifExists _ body => .ifExists "" (shapes body)
  | .forEachToken _ body => .forEachToken "" (shapes body)

def shapes : List Action → List Action
  | [] => []
  | action :: rest => action.shape :: shapes rest

end

/-- The rewritten action is the given one with the answers for its texts, in order. -/
def Action.Reworded (path : Path) (action : Action) (answers : List String) (rewritten : Action) :
    Prop :=
  rewritten.shape = action.shape ∧ (textsAt (rewritten.placed path)).map Prod.fst = answers

def Reworded (parent : Path) (index : Nat) (script : List Action) (answers : List String)
    (rewritten : List Action) : Prop :=
  shapes rewritten = shapes script ∧ (textsAt (placedFrom parent index rewritten)).map Prod.fst = answers

theorem Reworded.cons {parent : Path} {index : Nat} {action action' : Action}
    {rest rest' : List Action} {answers more : List String}
    (first : action.Reworded (parent.child index) answers action')
    (others : Reworded parent (index + 1) rest more rest') :
    Reworded parent index (action :: rest) (answers ++ more) (action' :: rest') := by
  obtain ⟨shape, rfl⟩ := first
  obtain ⟨shapes, rfl⟩ := others
  refine ⟨?_, ?_⟩
  · rw [Replay.shapes, Replay.shapes, shape, shapes]
  · rw [placedFrom, textsAt_append, List.map_append]

/-- A way to run the computations of a monad from a state, to a value or to a failure. -/
structure Runner (m : Type → Type) [Monad m] (ε σ : Type) where
  run : {α : Type} → m α → σ → Except ε α × σ
  run_pure : ∀ {α : Type} (value : α) (state : σ), run (pure value) state = (.ok value, state)
  run_bind : ∀ {α β : Type} (first : m α) (next : α → m β) (state : σ),
    run (first >>= next) state = match run first state with
      | (.ok value, after) => run (next value) after
      | (.error error, after) => (.error error, after)

section Visits

variable {m : Type → Type} [Monad m] {ε σ α β : Type}

namespace Runner

def stateful : Runner (ExceptT ε (StateM σ)) ε σ where
  run computation state := computation.run.run state
  run_pure _ _ := rfl
  run_bind first next state := by
    rw [ExceptT.run_bind, StateT.run_bind]
    rcases first.run.run state with ⟨_ | _, after⟩ <;> rfl

def plain : Runner (Except ε) ε Unit where
  run computation state := (computation, state)
  run_pure _ _ := rfl
  run_bind first next state := by cases first <;> rfl

end Runner

variable {runner : Runner m ε σ} {f : String → Path → m String}

/-- The callback answers the texts one after the other, from the first state to the last. -/
inductive Answers (runner : Runner m ε σ) (f : String → Path → m String) :
    List (String × Path) → σ → List String → σ → Prop
  | nil {state : σ} : Answers runner f [] state [] state
  | cons {text : String} {path : Path} {rest : List (String × Path)} {before middle after : σ}
      {answer : String} {answers : List String} :
      runner.run (f text path) before = (.ok answer, middle) →
      Answers runner f rest middle answers after →
      Answers runner f ((text, path) :: rest) before (answer :: answers) after

def Refuses (runner : Runner m ε σ) (f : String → Path → m String) (visits : List (String × Path))
    (state : σ) (error : ε) (after : σ) : Prop :=
  ∃ front text path back answers before, visits = front ++ (text, path) :: back ∧
    Answers runner f front state answers before ∧ runner.run (f text path) before = (.error error, after)

/-- The computation asks for the texts in order. Its value agrees with the answers, and if one is refused
the computation stops there and fails in the same way. -/
def Visits (runner : Runner m ε σ) (f : String → Path → m String) (visits : List (String × Path))
    (agrees : List String → α → Prop) (computation : m α) : Prop :=
  ∀ state,
    (∃ answers after value, Answers runner f visits state answers after ∧
      runner.run computation state = (.ok value, after) ∧ agrees answers value) ∨
    ∃ error after, Refuses runner f visits state error after ∧
      runner.run computation state = (.error error, after)

theorem Answers.append {front back : List (String × Path)} {first middle last : σ}
    {answers more : List String} (start : Answers runner f front first answers middle)
    (rest : Answers runner f back middle more last) :
    Answers runner f (front ++ back) first (answers ++ more) last := by
  induction start with
  | nil => exact rest
  | cons answered _ ih => exact .cons answered (ih rest)

namespace Visits

variable {visits more : List (String × Path)} {agrees : List String → α → Prop}
  {agrees' : List String → β → Prop} {first : m α}

theorem pure {value : α} (agreed : agrees [] value) : Visits runner f [] agrees (Pure.pure value) :=
  fun state => .inl ⟨[], state, value, .nil, runner.run_pure value state, agreed⟩

theorem ask (text : String) (path : Path) :
    Visits runner f [(text, path)] (fun answers value => answers = [value]) (f text path) := by
  intro state
  rcases asked : runner.run (f text path) state with ⟨error | answer, after⟩
  · exact .inr ⟨error, after, ⟨[], text, path, [], [], state, rfl, .nil, asked⟩, rfl⟩
  · exact .inl ⟨[answer], after, answer, .cons asked .nil, rfl, rfl⟩

theorem bind {next : α → m β} (start : Visits runner f visits agrees first)
    (rest : ∀ answers value, agrees answers value →
      Visits runner f more (fun others result => agrees' (answers ++ others) result) (next value)) :
    Visits runner f (visits ++ more) agrees' (first >>= next) := by
  intro state
  rcases start state with ⟨answers, middle, value, answered, ran, agreed⟩ |
    ⟨error, after, ⟨front, text, path, back, answers, before, rfl, answered, refused⟩, ran⟩
  · rcases rest answers value agreed middle with ⟨others, after, result, further, ran', agreed'⟩ |
      ⟨error, after, ⟨front, text, path, back, others, before, rfl, further, refused⟩, ran'⟩
    · refine .inl ⟨answers ++ others, after, result, answered.append further, ?_, agreed'⟩
      rw [runner.run_bind, ran]
      exact ran'
    · refine .inr ⟨error, after, ⟨visits ++ front, text, path, back, answers ++ others, before, ?_,
        answered.append further, refused⟩, ?_⟩
      · rw [List.append_assoc]
      · rw [runner.run_bind, ran]
        exact ran'
  · refine .inr ⟨error, after, ⟨front, text, path, back ++ more, answers, before, ?_, answered,
      refused⟩, ?_⟩
    · rw [List.append_assoc, List.cons_append]
    · rw [runner.run_bind, ran]

theorem map {g : α → β} (start : Visits runner f visits agrees first)
    (rest : ∀ answers value, agrees answers value → agrees' answers (g value)) :
    Visits runner f visits agrees' (first >>= fun value => Pure.pure (g value)) := by
  have whole : Visits runner f (visits ++ []) agrees' (first >>= fun value => Pure.pure (g value)) := by
    refine start.bind fun answers value agreed => .pure ?_
    rw [List.append_nil]
    exact rest answers value agreed
  rwa [List.append_nil] at whole

end Visits

mutual

theorem Action.mapTexts_visits (path : Path) : (action : Action) →
    Visits runner f (textsAt (action.placed path)) (action.Reworded path) (action.mapTexts f path)
  | .navigate url => by
    rw [Action.mapTexts]
    exact (Visits.ask url path).map fun _ _ asked => ⟨rfl, asked.symm⟩
  | .click locator => by
    rw [Action.mapTexts]
    exact (Visits.ask locator path).map fun _ _ asked => ⟨rfl, asked.symm⟩
  | .clear locator => by
    rw [Action.mapTexts]
    exact (Visits.ask locator path).map fun _ _ asked => ⟨rfl, asked.symm⟩
  | .typeText locator text mode => by
    rw [Action.mapTexts]
    change Visits runner f ([(locator, path)] ++ [(text, path)]) _ _
    refine (Visits.ask locator path).bind fun _ _ asked => ?_
    refine (Visits.ask text path).map fun _ _ asked' => ⟨rfl, ?_⟩
    rw [asked, asked']
    rfl
  | .wait nanos => by
    rw [Action.mapTexts]
    exact .pure ⟨rfl, rfl⟩
  | .refresh => by
    rw [Action.mapTexts]
    exact .pure ⟨rfl, rfl⟩
  | .readText locator none => by
    rw [Action.mapTexts]
    exact (Visits.ask locator path).map fun _ _ asked => ⟨rfl, asked.symm⟩
  | .readText locator (some label) => by
    rw [Action.mapTexts]
    change Visits runner f ([(locator, path)] ++ [(label, path)]) _ _
    refine (Visits.ask locator path).bind fun _ _ asked => ?_
    refine (Visits.ask label path).map fun _ _ asked' => ⟨rfl, ?_⟩
    rw [asked, asked']
    rfl
  | .ifExists locator body => by
    rw [Action.mapTexts, textsAt_placed]
    refine (Visits.ask locator path).bind fun _ _ asked => ?_
    refine (mapTextsFrom_visits path 0 body).map fun _ _ inside => ⟨?_, ?_⟩
    · rw [Action.shape, Action.shape, inside.1]
    · rw [textsAt_placed, asked, ← inside.2]
      rfl
  | .forEachToken source body => by
    rw [Action.mapTexts, textsAt_placed]
    refine (Visits.ask source path).bind fun _ _ asked => ?_
    refine (mapTextsFrom_visits path 0 body).map fun _ _ inside => ⟨?_, ?_⟩
    · rw [Action.shape, Action.shape, inside.1]
    · rw [textsAt_placed, asked, ← inside.2]
      rfl

theorem mapTextsFrom_visits (parent : Path) (index : Nat) : (script : List Action) →
    Visits runner f (textsAt (placedFrom parent index script)) (Reworded parent index script)
      (mapTextsFrom f parent index script)
  | [] => by
    rw [mapTextsFrom]
    exact .pure ⟨rfl, rfl⟩
  | action :: rest => by
    rw [mapTextsFrom, placedFrom, textsAt_append]
    refine (action.mapTexts_visits (parent.child index)).bind fun _ _ first => ?_
    exact (mapTextsFrom_visits parent (index + 1) rest).map fun _ _ others => Reworded.cons first others

end

end Visits

section Resolution

variable {store : Store} {text : String} {path : Path} {error : ScriptError}

def resolving (store : Store) (text : String) (path : Path) : Except ScriptError String :=
  match Template.resolve store text with
  | .ok template => .ok template
  | .error reference => .error ⟨path, .unresolved reference⟩

def unresolved? (store : Store) (visit : String × Path) : Option ScriptError :=
  match Template.resolve store visit.1 with
  | .ok _ => none
  | .error reference => some ⟨visit.2, .unresolved reference⟩

theorem unresolved?_of_ok {template : String} (resolved : resolving store text path = .ok template) :
    unresolved? store (text, path) = none := by
  rw [resolving] at resolved
  rw [unresolved?]
  split at resolved
  · next found => rw [found]
  · cases resolved

theorem unresolved?_of_error (failed : resolving store text path = .error error) :
    unresolved? store (text, path) = some error := by
  rw [resolving] at failed
  rw [unresolved?]
  split at failed
  · cases failed
  · next found =>
    rw [found]
    exact congrArg some (Except.error.inj failed)

theorem unresolved?_isSome_iff (visit : String × Path) :
    (unresolved? store visit).isSome = true ↔
      ∃ reference, Template.resolve store visit.1 = .error reference := by
  rw [unresolved?]
  cases Template.resolve store visit.1 <;> simp

theorem unresolved?_of_answers {visits : List (String × Path)} {state after : Unit}
    {answers : List String} (answered : Answers .plain (resolving store) visits state answers after) :
    ∀ visit ∈ visits, unresolved? store visit = none := by
  induction answered with
  | nil => exact List.forall_mem_nil _
  | cons asked _ ih =>
    exact List.forall_mem_cons.mpr ⟨unresolved?_of_ok (congrArg Prod.fst asked), ih⟩

/-- The first text that cannot be resolved decides the error. -/
theorem resolveScript_eq_error_iff {script : List Action} :
    resolveScript store script = .error error ↔
      (textsAt (placed script)).findSome? (unresolved? store) = some error := by
  have visiting : Visits .plain (resolving store) (textsAt (placed script)) _
      (resolveScript store script) := mapTextsFrom_visits .root 0 script
  rcases visiting () with ⟨answers, after, rewritten, answered, ran, -⟩ |
    ⟨first, after, ⟨front, text, path, back, answers, before, split, answered, refused⟩, ran⟩
  · have resolved : resolveScript store script = .ok rewritten := congrArg Prod.fst ran
    have none : (textsAt (placed script)).findSome? (unresolved? store) = none :=
      List.findSome?_eq_none_iff.mpr (unresolved?_of_answers answered)
    rw [resolved, none]
    exact iff_of_false nofun nofun
  · have failed : resolveScript store script = .error first := congrArg Prod.fst ran
    have found : (textsAt (placed script)).findSome? (unresolved? store) = some first :=
      List.findSome?_eq_some_iff.mpr ⟨front, (text, path), back, split,
        unresolved?_of_error (congrArg Prod.fst refused), unresolved?_of_answers answered⟩
    rw [failed, found, Except.error.injEq, Option.some.injEq]

end Resolution

/-- A traversal is lawful. The places of a script are those of its actions, each of them once and in
document order. The callback is asked for their own texts in that order, each time in the state in which
the text before left it; as the state may hold a log, nothing else is asked. The first refusal ends the
traversal, and is its error. Without one the answers stand where the texts stood, in a script of the same
shape. So the resolution of a script fails just when a text of it refers to what the store lacks, and the
first such text decides the error. -/
theorem mapTexts_document_order {ε σ : Type} (f : String → Path → ExceptT ε (StateM σ) String)
    (parent : Path) (script : List Action) (state : σ) (store : Store) :
    let places := placedFrom parent 0 script
    let outcome := (mapTexts f parent script).run.run state
    (∀ path action, (path, action) ∈ places ↔ ∃ indices,
      path = ⟨parent.indices ++ indices⟩ ∧ descendantAmong? script indices = some action) ∧
    places.Pairwise (·.1.Before ·.1) ∧
    ((∃ answers after rewritten, Answers .stateful f (textsAt places) state answers after ∧
        outcome = (.ok rewritten, after) ∧ shapes rewritten = shapes script ∧
        (textsAt (placedFrom parent 0 rewritten)).map Prod.fst = answers) ∨
      ∃ error after, Refuses .stateful f (textsAt places) state error after ∧
        outcome = (.error error, after)) ∧
    ((∃ error, resolveScript store script = .error error) ↔
      ∃ visit ∈ textsAt (placed script), ∃ reference, Template.resolve store visit.1 = .error reference) ∧
    ∀ error, resolveScript store script = .error error ↔
      ∃ front visit back, textsAt (placed script) = front ++ visit :: back ∧
        (∀ earlier ∈ front, unresolved? store earlier = none) ∧ unresolved? store visit = some error := by
  intro places outcome
  have visiting : Visits .stateful f (textsAt places) (Reworded parent 0 script)
      (mapTexts f parent script) := mapTextsFrom_visits parent 0 script
  refine ⟨fun path action => mem_placedFrom_zero_iff, ?_, visiting state, ?_, ?_⟩
  · exact pairwise_placedFrom (fun action _ => action.pairwise_placed) parent 0
  · simp only [resolveScript_eq_error_iff, ← Option.isSome_iff_exists, List.findSome?_isSome_iff,
      unresolved?_isSome_iff]
  · intro error
    rw [resolveScript_eq_error_iff, List.findSome?_eq_some_iff]
    simp only [and_comm]

end Replay
