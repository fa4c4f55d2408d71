import Replay.Proofs.Template.Verbatim

namespace Replay.Template

open Text

/-- The text is made of characters other than dollars, escaped dollars and `n` placeholders. -/
inductive Normal : (n : Nat) → List Char → Prop
  | nil : Normal 0 []
  | ordinary {n : Nat} {c : Char} {rest : List Char} :
      c ≠ '$' → Normal n rest → Normal n (c :: rest)
  | escapedDollar {n : Nat} {rest : List Char} : Normal n rest → Normal n ('$' :: '$' :: rest)
  | loop {n : Nat} {rest : List Char} : Normal n rest → Normal (n + 1) (loopPlaceholder ++ rest)

def loopTokenCount (raw : List Char) : Nat := (scanRaw raw).count (.token ['l', 'o', 'o', 'p'])

theorem Normal.scan_spec {n : Nat} {text : List Char} (normal : Normal n text) :
    .plain '$' ∉ scan text ∧ (scan text).count .loop = n := by
  induction normal with
  | nil => exact ⟨List.not_mem_nil, rfl⟩
  | @ordinary n c rest ordinary _ ih =>
    rw [scan_plain ordinary]
    constructor
    · intro member
      rcases List.mem_cons.mp member with same | member
      · exact ordinary (Piece.plain.inj same).symm
      · exact ih.1 member
    · rw [List.count_cons_of_ne (by simp)]
      exact ih.2
  | @escapedDollar n rest _ ih =>
    have scanned : scan ('$' :: '$' :: rest) = .escapedDollar :: scan rest := rfl
    simpa [scanned] using ih
  | @loop n rest _ ih =>
    rw [scan_placeholder]
    simpa using ih

theorem normal_of_scan {text : List Char} (noDollar : .plain '$' ∉ scan text) :
    Normal ((scan text).count .loop) text := by
  induction text using scan.induct with
  | case1 => exact .nil
  | case2 rest ih =>
    rw [scan, List.count_cons_of_ne (by simp)]
    exact .escapedDollar (ih fun member => noDollar (List.mem_cons_of_mem _ member))
  | case3 rest ih =>
    rw [scan, List.count_cons_self]
    exact .loop (ih fun member => noDollar (List.mem_cons_of_mem _ member))
  | case4 c rest notEscape notLoop ih =>
    rw [scan_other notEscape notLoop] at noDollar ⊢
    rw [List.count_cons_of_ne (by simp)]
    have ordinary : c ≠ '$' := by
      rintro rfl
      exact noDollar List.mem_cons_self
    exact .ordinary ordinary (ih fun member => noDollar (List.mem_cons_of_mem _ member))

theorem normal_iff (n : Nat) (text : List Char) :
    Normal n text ↔ (scan text).count (.plain '$') = 0 ∧ (scan text).count .loop = n := by
  rw [List.count_eq_zero]
  constructor
  · exact Normal.scan_spec
  · rintro ⟨noDollar, rfl⟩
    exact normal_of_scan noDollar

theorem exists_normal_iff (text : List Char) :
    (∃ n, Normal n text) ↔ (scan text).count (.plain '$') = 0 := by
  constructor
  · rintro ⟨n, normal⟩
    exact ((normal_iff n text).mp normal).1
  · intro none
    exact ⟨_, (normal_iff _ text).mpr ⟨none, rfl⟩⟩

instance (n : Nat) (text : List Char) : Decidable (Normal n text) :=
  decidable_of_iff _ (normal_iff n text).symm

theorem normal_zero_brace_iff (body : List Char) : Normal 0 (body ++ ['}']) ↔ Normal 0 body := by
  constructor
  · intro normal
    generalize whole : body ++ ['}'] = text at normal
    generalize none : 0 = n at normal
    induction normal generalizing body with
    | nil => simp at whole
    | ordinary ordinary _ ih =>
      cases body with
      | nil =>
        subst none
        exact .nil
      | cons c body =>
        obtain ⟨rfl, rest⟩ := List.cons.inj whole
        exact none ▸ .ordinary ordinary (none ▸ ih body rest none)
    | escapedDollar _ ih =>
      match body with
      | [] => simp at whole
      | [c] => simp at whole
      | c :: d :: body =>
        simp only [List.cons_append, List.cons.injEq] at whole
        obtain ⟨rfl, rfl, rest⟩ := whole
        exact .escapedDollar (ih body rest none)
    | loop _ _ => cases none
  · intro normal
    generalize 0 = n at normal
    induction normal with
    | nil => exact .ordinary (by decide) .nil
    | ordinary ordinary _ ih => exact .ordinary ordinary ih
    | escapedDollar _ ih => exact .escapedDollar ih
    | loop _ ih => exact .loop ih

theorem count_scan_append {text : List Char} (closed : Closed text) (piece : Piece)
    (rest : List Char) :
    (scan (text ++ rest)).count piece = (scan text).count piece + (scan rest).count piece := by
  rw [closed, List.count_append]

theorem count_scan_escape {piece : Piece} (special : piece = .plain '$' ∨ piece = .loop)
    (text : List Char) : (scan (escape text)).count piece = 0 := by
  rw [scan_escape, List.count_eq_zero]
  intro member
  obtain ⟨c, _, same⟩ := List.mem_map.mp member
  by_cases dollar : c = '$'
  · rcases special with rfl | rfl <;> simp [literalPiece, dollar] at same
  · rcases special with rfl | rfl <;> simp [literalPiece, dollar] at same

/-- The pieces of one kind that a copied token leaves to be read in the template. -/
def leftOver (piece : Piece) (body : List Char) : Nat := (scan (body ++ ['}'])).count piece

def leftOverAll (piece : Piece) : List (List Char) → Nat
  | [] => 0
  | body :: rest => leftOver piece body + leftOverAll piece rest

theorem count_scan_copied {piece : Piece} (special : piece = .plain '$' ∨ piece = .loop)
    (body : List Char) :
    (scan ('$' :: '$' :: '{' :: body ++ ['}'])).count piece = leftOver piece body := by
  have opened : Closed ['$', '$', '{'] := closed_append closed_dollars (closed_plain (by decide))
  have none : (scan ['$', '$', '{']).count piece = 0 := by
    rcases special with rfl | rfl <;> decide
  have joined := count_scan_append opened piece (body ++ ['}'])
  rw [none, Nat.zero_add] at joined
  exact joined

theorem copied?_token (body : List Char) :
    (RawPiece.token body).copied? = if isCopied body then some body else none := rfl

theorem loop_token_not_copied : isCopied ['l', 'o', 'o', 'p'] = false := by decide

theorem count_scan_resolveToken {store : Store} {body text : List Char} {piece : Piece}
    (special : piece = .plain '$' ∨ piece = .loop)
    (resolved : resolveToken store body = .ok text) :
    (scan text).count piece =
      (if piece = .loop ∧ body = ['l', 'o', 'o', 'p'] then 1 else 0) +
        ((RawPiece.token body).copied?.map (leftOver piece)).getD 0 := by
  by_cases copied : isCopied body = true
  · have other : body ≠ ['l', 'o', 'o', 'p'] := by
      rintro rfl
      rw [loop_token_not_copied] at copied
      cases copied
    rw [resolveToken_copied store copied] at resolved
    obtain rfl := Except.ok.inj resolved
    rw [count_scan_copied special, copied?_token, if_pos copied, if_neg fun both => other both.2,
      Nat.zero_add]
    rfl
  · rw [copied?_token, if_neg copied]
    change _ = _ + 0
    rw [Nat.add_zero]
    rcases cut : cutAtFirst (· == ':') body with _ | ⟨name, key⟩
    · have placeholder : body = ['l', 'o', 'o', 'p'] := by
        simpa [isCopied, cut] using copied
      subst placeholder
      obtain rfl := Except.ok.inj resolved
      rcases special with rfl | rfl <;> decide
    · have other : body ≠ ['l', 'o', 'o', 'p'] := by
        rintro rfl
        simp [cutAtFirst] at cut
      rw [if_neg fun both => other both.2]
      simp only [resolveToken, cut] at resolved
      split at resolved
      · obtain rfl := Except.ok.inj resolved
        exact count_scan_escape special _
      · cases resolved

theorem count_scan_resolve {store : Store} {raw : RawPiece} {text : List Char} {piece : Piece}
    (special : piece = .plain '$' ∨ piece = .loop) (regular : raw ≠ .plain '$')
    (resolved : raw.resolve store = .ok text) :
    (scan text).count piece =
      (if piece = .loop ∧ raw = .token ['l', 'o', 'o', 'p'] then 1 else 0) +
        (raw.copied?.map (leftOver piece)).getD 0 := by
  cases raw with
  | plain c =>
    have ordinary : c ≠ '$' := by simpa using regular
    obtain rfl := Except.ok.inj resolved
    rw [scan_plain ordinary]
    rcases special with rfl | rfl <;> simp [scan, RawPiece.copied?, ordinary]
  | escapedDollar | loneDollar =>
    obtain rfl := Except.ok.inj resolved
    rcases special with rfl | rfl <;> decide
  | token body =>
    simpa using count_scan_resolveToken special resolved
  | unclosed body =>
    obtain rfl := Except.ok.inj resolved
    rw [count_scan_escape special]
    simp [RawPiece.copied?]

theorem resolvePieces_cons_ok {store : Store} {raw : RawPiece} {raws : List RawPiece}
    {text : List Char} (resolved : resolvePieces store (raw :: raws) = .ok text) :
    ∃ first rest, raw.resolve store = .ok first ∧ resolvePieces store raws = .ok rest ∧
      text = first ++ rest := by
  rw [resolvePieces] at resolved
  cases head : raw.resolve store with
  | error reference =>
    rw [head] at resolved
    cases resolved
  | ok first =>
    cases tail : resolvePieces store raws with
    | error reference =>
      rw [head, tail] at resolved
      cases resolved
    | ok rest =>
      rw [head, tail] at resolved
      exact ⟨first, rest, rfl, rfl, (Except.ok.inj resolved).symm⟩

/-- The placeholders of a template come from the loop tokens and the copied tokens of the raw text, its
stray dollars from the copied tokens alone. -/
theorem count_scan_resolvePieces {store : Store} {raws : List RawPiece} {text : List Char}
    {piece : Piece} (special : piece = .plain '$' ∨ piece = .loop)
    (regular : ∀ raw ∈ raws, raw ≠ .plain '$') (resolved : resolvePieces store raws = .ok text) :
    (scan text).count piece =
      (if piece = .loop then raws.count (.token ['l', 'o', 'o', 'p']) else 0) +
        leftOverAll piece (raws.filterMap RawPiece.copied?) := by
  induction raws generalizing text with
  | nil =>
    obtain rfl := Except.ok.inj resolved
    simp [scan, leftOverAll]
  | cons raw raws ih =>
    obtain ⟨first, rest, head, tail, rfl⟩ := resolvePieces_cons_ok resolved
    have regularHead := regular raw List.mem_cons_self
    have regularTail := fun other member => regular other (List.mem_cons_of_mem raw member)
    rw [count_scan_append (closed_resolve regularHead head), ih regularTail tail,
      count_scan_resolve special regularHead head, List.count_cons, List.filterMap_cons]
    rcases special with rfl | rfl
    · cases raw.copied? <;> simp [leftOverAll]
    · by_cases loop : raw = .token ['l', 'o', 'o', 'p'] <;> cases raw.copied? <;>
        simp [loop, leftOverAll] <;> omega

theorem leftOverAll_eq_zero_iff (piece : Piece) (bodies : List (List Char)) :
    leftOverAll piece bodies = 0 ↔ ∀ body ∈ bodies, leftOver piece body = 0 := by
  induction bodies with
  | nil => simp [leftOverAll]
  | cons body rest ih => rw [leftOverAll, Nat.add_eq_zero_iff, ih, List.forall_mem_cons]

/-- A template is in normal form, with one placeholder for each loop token, exactly if the dollars in
every copied token come in pairs. It is in normal form at all exactly if every copied token reads as such
a text up to its brace, and it mentions the loop also through a copied token that ends in the
placeholder. -/
theorem normal_resolve_iff {store : Store} {raw template : String}
    (resolved : resolve store raw = .ok template) :
    (Normal (loopTokenCount raw.toList) template.toList ↔
        ∀ body ∈ copiedTokens raw.toList, Normal 0 body) ∧
      ((∃ n, Normal n template.toList) ↔
        ∀ body ∈ copiedTokens raw.toList, ∃ n, Normal n (body ++ ['}'])) ∧
      (mentionsLoop template = true ↔ loopTokenCount raw.toList ≠ 0 ∨
        ∃ body ∈ copiedTokens raw.toList, mentionsLoopChars (body ++ ['}']) = true) := by
  obtain ⟨text, found, rfl⟩ : ∃ text, resolveChars store raw.toList = .ok text ∧
      template = String.ofList text := by
    rw [resolve] at resolved
    cases found : resolveChars store raw.toList with
    | error reference =>
      rw [found] at resolved
      cases resolved
    | ok text =>
      rw [found] at resolved
      exact ⟨text, rfl, (Except.ok.inj resolved).symm⟩
  have regular := ne_plain_dollar_of_mem_scanRaw raw.toList
  have dollars : (scan text).count (.plain '$') =
      leftOverAll (.plain '$') (copiedTokens raw.toList) := by
    have counted := count_scan_resolvePieces (.inl rfl) regular found
    rw [if_neg (by simp), Nat.zero_add] at counted
    exact counted
  have loops : (scan text).count .loop = loopTokenCount raw.toList +
      leftOverAll .loop (copiedTokens raw.toList) := by
    have counted := count_scan_resolvePieces (.inr rfl) regular found
    rw [if_pos rfl] at counted
    exact counted
  rw [mentionsLoop, String.toList_ofList]
  refine ⟨?_, ?_, ?_⟩
  · rw [normal_iff, dollars, loops, Nat.add_eq_left, leftOverAll_eq_zero_iff,
      leftOverAll_eq_zero_iff]
    have paired (body : List Char) : Normal 0 body ↔
        leftOver (.plain '$') body = 0 ∧ leftOver .loop body = 0 := by
      rw [← normal_zero_brace_iff, normal_iff]
      rfl
    simp only [paired, forall₂_and]
  · simp only [exists_normal_iff, dollars, leftOverAll_eq_zero_iff, leftOver]
  · have mentions (chars : List Char) :
        mentionsLoopChars chars = true ↔ (scan chars).count .loop ≠ 0 := by
      rw [mentionsLoopChars, List.contains_iff_mem, ← Nat.pos_iff_ne_zero, List.count_pos_iff]
    have none := leftOverAll_eq_zero_iff .loop (copiedTokens raw.toList)
    simp only [mentions, loops]
    constructor
    · intro some
      by_contra absent
      push Not at absent
      exact some (Nat.add_eq_zero_iff.mpr ⟨absent.1, none.mpr absent.2⟩)
    · rintro (tokens | ⟨body, member, some⟩) total
      · exact tokens (Nat.add_eq_zero_iff.mp total).1
      · exact some (none.mp (Nat.add_eq_zero_iff.mp total).2 body member)

/-- Pairs of dollars in a copied token keep the normal form. -/
theorem normal_resolve_of_paired_dollars :
    resolve ∅ "$5 $\x7bloop\x7d $\x7ba$$b\x7d" = .ok "$$5 $\x7bloop\x7d $$\x7ba$$b\x7d" ∧
      Normal 1 "$$5 $\x7bloop\x7d $$\x7ba$$b\x7d".toList := by
  have resolved : resolve ∅ "$5 $\x7bloop\x7d $\x7ba$$b\x7d" =
      .ok "$$5 $\x7bloop\x7d $$\x7ba$$b\x7d" := by
    decide +kernel
  refine ⟨resolved, ?_⟩
  have tokens : loopTokenCount "$5 $\x7bloop\x7d $\x7ba$$b\x7d".toList = 1 := by decide +kernel
  have normal := (normal_resolve_iff resolved).1.mpr (by decide +kernel)
  rwa [tokens] at normal

/-- A single dollar in a copied token stays single, and a placeholder at its end counts as one though
the raw text has no loop token. -/
theorem copied_token_breaks_normal :
    (resolve ∅ "$\x7ba$b\x7d" = .ok "$$\x7ba$b\x7d" ∧
      ¬ ∃ n, Normal n "$$\x7ba$b\x7d".toList) ∧
    resolve ∅ "$\x7b$\x7bloop\x7d" = .ok "$$\x7b$\x7bloop\x7d" ∧
      loopTokenCount "$\x7b$\x7bloop\x7d".toList = 0 ∧
      ¬ Normal 0 "$$\x7b$\x7bloop\x7d".toList := by
  rw [exists_normal_iff]
  decide +kernel

end Replay.Template
