import Replay.Proofs.Json.Breaks
import Replay.Proofs.Store.Printing
import Replay.Proofs.Store.Spacing
import Replay.Script

namespace Replay.Ini

open Text

/-! The embedded text -/

def indent : List Char → List Char
  | [] => []
  | c :: rest => if c = '\n' then '\n' :: ' ' :: indent rest else c :: indent rest

/-- INI text with one section of one entry, the value of which is the text, its lines indented. -/
def embed (name key text : String) : String :=
  "[" ++ name ++ "]\n" ++ key ++ " = " ++ String.ofList (indent text.toList)

def kept (text : String) : String :=
  String.ofList (['\n'].intercalate (Json.contentLines text.toList))

theorem exists_pieces_indent (text : List Char) :
    ∃ first more, pieces (· == '\n') text = first :: more ∧
      pieces (· == '\n') (indent text) = first :: more.map (' ' :: ·) := by
  induction text with
  | nil => exact ⟨[], [], rfl, rfl⟩
  | cons c rest ih =>
    obtain ⟨first, more, plain, indented⟩ := ih
    by_cases feed : c = '\n'
    · subst feed
      refine ⟨[], first :: more, ?_, ?_⟩
      · rw [pieces, if_pos (by decide), plain]
      · rw [indent, if_pos rfl, pieces, if_pos (by decide), pieces, if_neg (by decide), indented]
        rfl
    · have absent : ¬ (c == '\n') = true := by simpa using feed
      refine ⟨c :: first, more, ?_, ?_⟩
      · rw [pieces, if_neg absent, plain, consFirst]
      · rw [indent, if_neg feed, pieces, if_neg absent, indented, consFirst]

theorem pieces_embed {name key : String} (plainName : PlainName name) (plainKey : PlainKey key)
    {text : String} {first : List Char} {more : List (List Char)}
    (indented : pieces (· == '\n') (indent text.toList) = first :: more) :
    pieces (· == '\n') (embed name key text).toList =
      printHeader name :: (key.toList ++ ' ' :: '=' :: ' ' :: first) :: more := by
  have whole : (embed name key text).toList =
      printHeader name ++ '\n' :: (key.toList ++ [' ', '=', ' '] ++ indent text.toList) := by
    simp [embed, printHeader]
  have noFeedName : '\n' ∉ printHeader name := by simp [printHeader, plainName.2]
  have noFeedKey : '\n' ∉ key.toList ++ [' ', '=', ' '] := by simp [plainKey.inside.2.2]
  rw [whole, pieces_line_feed noFeedName, pieces_append (beq_false_of_not_mem noFeedKey) indented, List.append_assoc]
  rfl

theorem foldl_trimmed (first : List Char) (more : List (List Char)) :
    ((more.map trim).filter fun line => !line.isEmpty).foldl extendValue (String.ofList (trim first)) =
      String.ofList (['\n'].intercalate
        (((first :: more).map trim).filter fun line => !line.isEmpty)) := by
  rw [List.map_cons, List.filter_cons]
  by_cases blank : trim first = []
  · rw [blank, if_neg (by simp)]
    cases written : (more.map trim).filter fun line => !line.isEmpty with
    | nil => rfl
    | cons line rest =>
      have nonempty : line ≠ [] := by
        have member : line ∈ (more.map trim).filter fun line => !line.isEmpty := by
          rw [written]
          exact List.mem_cons_self
        simpa using (List.mem_filter.mp member).2
      have start : extendValue (String.ofList []) line = String.ofList line := if_pos rfl
      rw [List.foldl_cons, start, foldl_extendValue nonempty]
  · rw [if_pos (by simpa using blank), foldl_extendValue blank]

theorem ofIni_embed_of_clean {name key : String} (plainName : PlainName name) (plainKey : PlainKey key)
    {text : String} (clean : Json.Clean text.toList) :
    Store.ofIni (embed name key text) =
      .ok ⟨Dict.ofList [(name, Dict.ofList [(key, kept text)])]⟩ := by
  obtain ⟨first, more, split, indented⟩ := exists_pieces_indent text.toList
  have each := Json.clean_piece clean
  rw [split] at each
  have noComment : ∀ line ∈ more, (trim line).head? ≠ some '#' ∧ (trim line).head? ≠ some ';' := by
    intro line member
    exact Json.head?_of_clean (Json.clean_trim (each line (List.mem_cons_of_mem _ member)))
  have value := foldl_trimmed first more
  rw [← split] at value
  have header : ∀ number, Cursor.start.readLine number (printHeader name) =
      .ok (.within ∅ name ∅ none) := readLine_printHeader plainName (Dict.get?_empty name)
  have entry := @readLine_printEntry ∅ name ∅ key plainKey first (Dict.get?_empty key) none
  have others := @passes_more ∅ name ∅ key (String.ofList (trim first)) more noComment
  rw [value] at others
  have passes := Cursor.Passes.cons header (.cons entry others)
  rw [Store.ofIni, readLines_lines, pieces_embed plainName plainKey indented, passes 1]
  rfl

end Ini

namespace Script

theorem readText_of_ofText {text : String} {actions : List Action} (found : ofText text = .ok actions) :
    ∃ value, Json.readText text = .ok value := by
  rw [ofText] at found
  cases read : Json.readText text with
  | ok value => exact ⟨value, rfl⟩
  | error error =>
    rw [read] at found
    cases found

end Script

/-- A script is accepted as a value in INI text, its lines indented. What the store then holds is the same
script, and nothing else. -/
theorem Store.ofIni_embed {name key text : String} {actions : List Action}
    (plainName : Ini.PlainName name) (plainKey : Ini.PlainKey key)
    (script : Script.ofText text = .ok actions) :
    ∃ store value, Store.ofIni (Ini.embed name key text) = .ok store ∧
      store.sections = Dict.ofList [(name, Dict.ofList [(key, value)])] ∧
      store.get? name key = some value ∧ Script.ofText value = .ok actions := by
  obtain ⟨value, found⟩ := Script.readText_of_ofText script
  have clean := Json.clean_of_readText found
  refine ⟨_, Ini.kept text, Ini.ofIni_embed_of_clean plainName plainKey clean, rfl, ?_, ?_⟩
  · simp [Store.get?, plainKey.normal, Dict.ofList, Dict.get?_insert]
  · have same : Json.textTokens (Ini.kept text).toList = Json.textTokens text.toList := by
      rw [Ini.kept, String.toList_ofList, Json.textTokens_contentLines clean]
    rw [Script.ofText, Json.readText_congr same, ← Script.ofText, script]

/-- A script that begins with a line feed, and holds a blank line, a carriage return and what could begin
a comment or part an entry. -/
theorem Store.ofIni_embed_login :
    ∃ store value,
      Store.ofIni "[Lists]\nlogin = \n [[\"get\", \"#a;b\"],\r\n \n  [\"click\", \"=y\"]]" = .ok store ∧
      store.sections = Dict.ofList [("Lists", Dict.ofList [("login", value)])] ∧
      store.get? "Lists" "login" = some value ∧
      Script.ofText value = .ok [.navigate "#a;b", .click "=y"] := by
  have read := @Store.ofIni_embed "Lists" "login" "\n[[\"get\", \"#a;b\"],\r\n\n [\"click\", \"=y\"]]"
    [.navigate "#a;b", .click "=y"] (by decide +kernel) (by decide +kernel) (by decide +kernel)
  have embedded : Ini.embed "Lists" "login" "\n[[\"get\", \"#a;b\"],\r\n\n [\"click\", \"=y\"]]" =
      "[Lists]\nlogin = \n [[\"get\", \"#a;b\"],\r\n \n  [\"click\", \"=y\"]]" := by
    decide +kernel
  rwa [embedded] at read

end Replay
