import TokenScan.Proofs.Cut

/-!
# Printing and scanning again

A token can be written down from its kind and its lexeme alone, and tokens with blanks between them
make a text. Scanning this text gives the tokens back, without a report: each token stops where its
separator begins, and no delimiter joins with what stands beside it.

A comment is the one token that can be written in two ways. It becomes a block comment, unless it
contains a closing mark; then it must have been a line comment, and becomes one again, with the
line feed that ends it.

## Main definitions

* `Word`, `Word.restore` — a token without its place, and how it is written down
* `Word.WellFormed` — the words that are tokens
* `Separator`, `print` — blanks between words

## Main results

* `found_restore_append` — the scanner takes a word that is written down
* `scan_print` — printing and then scanning is the identity
-/

namespace TokenScan

open Text

/-- A token without its place. -/
structure Word where
  /-- What it is. -/
  kind : TokenKind
  /-- Its text, without the delimiters of strings and comments. -/
  lexeme : List Char
deriving DecidableEq

/-- A token without its place. -/
def Token.word (token : Token) : Word := ⟨token.kind, token.lexeme.toList⟩

namespace Word

/-- The words that are tokens of some text. -/
inductive WellFormed : Word → Prop
  /-- A keyword has the spelling of one. -/
  | keyword (k : Keyword) : WellFormed ⟨.keyword, k.spelling.toList⟩
  /-- An identifier consists of identifier characters, and is no keyword. -/
  | identifier {c : Char} {word : List Char} (first : isIdentStart c = true)
      (inside : ∀ d ∈ word, isIdentContinue d = true)
      (free : ∀ k : Keyword, k.spelling.toList ≠ c :: word) :
      WellFormed ⟨.identifier, c :: word⟩
  /-- A number begins with a digit and has at most one point. -/
  | number {c : Char} {digits : List Char} (first : isDigit c = true)
      (inside : ∀ d ∈ digits, isDigit d = true ∨ d = '.') (points : digits.count '.' ≤ 1) :
      WellFormed ⟨.number, c :: digits⟩
  /-- An operator is one character that fits nothing else. -/
  | sign {c : Char} (h : classify c = .slash ∨ classify c = .other) :
      WellFormed ⟨.operator, [c]⟩
  /-- Four operators have two characters. -/
  | comparison {c : Char} (h : c ∈ ['=', '!', '<', '>']) : WellFormed ⟨.operator, [c, '=']⟩
  /-- A string contains no quote. -/
  | stringLiteral {body : List Char} (inside : '\"' ∉ body) : WellFormed ⟨.stringLiteral, body⟩
  /-- A comment contains no closing mark or no line feed. -/
  | comment {body : List Char} (inside : ¬ ['*', '/'] <:+: body ∨ '\n' ∉ body) :
      WellFormed ⟨.comment, body⟩

/-- A word as source text. -/
def restore (w : Word) : List Char :=
  match w.kind with
  | .stringLiteral => '\"' :: (w.lexeme ++ ['\"'])
  | .comment =>
    if ['*', '/'] <:+: w.lexeme then '/' :: '/' :: (w.lexeme ++ ['\n'])
    else '/' :: '*' :: (w.lexeme ++ ['*', '/'])
  | _ => w.lexeme

end Word

/-- What stands between two words: blanks, and at least one. -/
structure Separator where
  /-- The blanks. -/
  chars : List Char
  /-- There is at least one. -/
  ne_nil : chars ≠ []
  /-- They are blank. -/
  isBlank_of_mem : ∀ c ∈ chars, isBlank c = true

/-- A separator of one character. -/
def Separator.ofChar (c : Char) (h : isBlank c = true) : Separator where
  chars := [c]
  ne_nil := List.cons_ne_nil c []
  isBlank_of_mem := List.forall_mem_singleton.mpr h

/-- Texts one behind the other, with a separator in front of each. -/
def separated (sep : Nat → Separator) : List (List Char) → List Char
  | [] => []
  | text :: rest => (sep 0).chars ++ (text ++ separated (fun i => sep (i + 1)) rest)

/-- Texts one behind the other, with separators between them. -/
def join (sep : Nat → Separator) : List (List Char) → List Char
  | [] => []
  | text :: rest => text ++ separated sep rest

/-- A text that consists of these words, with separators between them. -/
def print (sep : Nat → Separator) (words : List Word) : String :=
  String.ofList (join sep (words.map Word.restore))

/-! ### A word that is written down is a token -/

theorem isIdentContinue_eq_false_of_isBlank {c : Char} (h : isBlank c = true) :
    isIdentContinue c = false := by
  rw [← Bool.not_eq_true]
  intro hinside
  rw [isBlank_eq_false_of_isIdentContinue hinside] at h
  simp at h

theorem isDigit_eq_false_of_isBlank {c : Char} (h : isBlank c = true) : isDigit c = false := by
  rw [← Bool.not_eq_true]
  intro hdigit
  rw [isBlank_eq_false_of_isDigit hdigit] at h
  simp at h

theorem Keyword.exists_spelling_eq_cons (k : Keyword) :
    ∃ c word, k.spelling.toList = c :: word ∧ isIdentStart c = true ∧
      (c :: word).all isIdentContinue = true := by
  cases k <;> exact ⟨_, _, rfl, by decide, by decide⟩

/-- In front of a blank, a word that is written down begins with a token, and only blanks are left
of it: the line feed behind a line comment. -/
theorem Word.WellFormed.exists_munch {w : Word} (h : w.WellFormed) {after : List Char}
    (hafter : ∀ c ∈ after.head?, isBlank c = true) :
    ∃ raw rest, w.restore = raw ++ rest ∧ (∀ c ∈ rest, isBlank c = true) ∧
      Munch w.kind w.lexeme raw (rest ++ after) ∧
      malformation? w.kind w.lexeme raw (rest ++ after) = none := by
  have hword : ∀ d ∈ after.head?, isIdentContinue d = false := fun d hd =>
    isIdentContinue_eq_false_of_isBlank (hafter d hd)
  have hne : ∀ d ∈ after.head?, ∀ c, isBlank c = false → d ≠ c := by
    rintro d hd c hc rfl
    rw [hafter d hd] at hc
    simp at hc
  cases h with
  | keyword k =>
    obtain ⟨c, word, hspelling, hfirst, hinside⟩ := k.exists_spelling_eq_cons
    refine ⟨k.spelling.toList, [], (List.append_nil _).symm, by simp, ?_, rfl⟩
    rw [hspelling]
    exact .keyword (classify_eq_iff.mpr hfirst) (List.all_eq_true.mp hinside) hword ⟨k, hspelling⟩
  | @identifier c word first inside free =>
    refine ⟨c :: word, [], (List.append_nil _).symm, by simp, ?_, rfl⟩
    refine .identifier (classify_eq_iff.mpr first) (fun d hd => ?_) hword free
    rcases List.mem_cons.mp hd with rfl | hd
    · exact isIdentContinue_of_isIdentStart first
    · exact inside d hd
  | @number c digits first inside points =>
    have hpoint : after.head? ≠ some '.' := fun hd => hne '.' hd '.' (by decide) rfl
    have hfirst : c ≠ '.' := by
      rintro rfl
      exact absurd first (by decide)
    refine ⟨c :: digits, [], (List.append_nil _).symm, by simp, ?_, ?_⟩
    · refine .number (classify_eq_iff.mpr first) (fun d hd => ?_) ?_ fun d hd => ⟨?_, ?_⟩
      · rcases List.mem_cons.mp hd with rfl | hd
        · exact .inl first
        · exact inside d hd
      · rwa [List.count_cons_of_ne hfirst]
      · exact isDigit_eq_false_of_isBlank (hafter d hd)
      · rintro rfl
        exact absurd hd hpoint
    · simp [malformation?, hpoint]
  | @sign c h =>
    refine ⟨[c], [], (List.append_nil _).symm, by simp, ?_, rfl⟩
    refine .sign h (fun _ d hd => ⟨?_, ?_⟩) fun _ d hd => ?_
    · exact hne d hd '/' (by decide)
    · exact hne d hd '*' (by decide)
    · exact hne d hd '=' (by decide)
  | @comparison c h =>
    exact ⟨[c, '='], [], (List.append_nil _).symm, by simp, .comparison h, rfl⟩
  | @stringLiteral body inside =>
    refine ⟨'\"' :: (body ++ ['\"']), [], (List.append_nil _).symm, by simp,
      .closedString inside, ?_⟩
    simp [malformation?]
  | @comment body inside =>
    by_cases hmark : ['*', '/'] <:+: body
    · -- with a closing mark inside, it is written as a line comment
      have hline : '\n' ∉ body := inside.resolve_left (not_not_intro hmark)
      have hfeed : ∀ c ∈ ['\n'], isBlank c = true := List.forall_mem_singleton.mpr (by decide)
      refine ⟨'/' :: '/' :: body, ['\n'], by simp [Word.restore, hmark], hfeed, ?_, ?_⟩
      · refine .lineComment hline fun d hd => ?_
        exact (Option.some.inj hd).symm
      · simp [malformation?]
    · refine ⟨'/' :: '*' :: (body ++ ['*', '/']), [], by simp [Word.restore, hmark], by simp,
        .closedComment hmark, ?_⟩
      have hclosed : ['*', '/'] <:+: body ++ '*' :: '/' :: after := ⟨body, after, by simp⟩
      simp [malformation?, hclosed]

/-! ### The words of a text -/

/-- The words that the scanner finds in a text, each with what is malformed about it. -/
def found (text : List Char) : List (Word × Option Warning) :=
  (portions text).map fun portion =>
    (⟨portion.piece.kind, portion.piece.lexeme⟩, portion.piece.warning?)

theorem found_of_blank {text : List Char} (h : ∀ c ∈ text, isBlank c = true) :
    found text = [] := by
  rw [found, portions_of_none (Portion.ofText?_eq_none_iff.mpr h), List.map_nil]

theorem found_of_munch {gap lexeme raw after : List Char} {kind : TokenKind}
    (hgap : ∀ c ∈ gap, isBlank c = true) (h : Munch kind lexeme raw after) :
    found (gap ++ raw ++ after) =
      (⟨kind, lexeme⟩, malformation? kind lexeme raw after) :: found after := by
  rw [found, portions_of_munch hgap h, List.map_cons, found]

/-- Blanks in front of a text make no difference. -/
theorem found_append_of_blank {gap : List Char} (hgap : ∀ c ∈ gap, isBlank c = true)
    (text : List Char) : found (gap ++ text) = found text := by
  rw [found, found, portions_append_of_blank hgap]
  cases portions text <;> rfl

/-- **The scanner takes a word that is written down.** It does so in front of a blank, and leaves
the text behind the word as it is. -/
theorem found_restore_append {w : Word} (h : w.WellFormed) {after : List Char}
    (hafter : ∀ c ∈ after.head?, isBlank c = true) :
    found (w.restore ++ after) = (w, none) :: found after := by
  obtain ⟨raw, rest, hrestore, hrest, hmunch, hwell⟩ := h.exists_munch hafter
  have htaken := found_of_munch (List.forall_mem_nil _) hmunch
  rw [List.nil_append, hwell, found_append_of_blank hrest] at htaken
  rw [hrestore, List.append_assoc]
  exact htaken

theorem isBlank_of_mem_head?_separated (sep : Nat → Separator) (texts : List (List Char)) :
    ∀ c ∈ (separated sep texts).head?, isBlank c = true := by
  cases texts with
  | nil => simp [separated]
  | cons text rest =>
    intro c hc
    rw [separated, List.head?_append_of_ne_nil _ (sep 0).ne_nil] at hc
    exact (sep 0).isBlank_of_mem c (List.mem_of_mem_head? hc)

theorem found_separated (sep : Nat → Separator) {words : List Word}
    (h : ∀ w ∈ words, w.WellFormed) :
    found (separated sep (words.map Word.restore)) = words.map fun w => (w, none) := by
  induction words generalizing sep with
  | nil => exact found_of_blank (List.forall_mem_nil _)
  | cons w rest ih =>
    have hrest : ∀ w ∈ rest, w.WellFormed := fun w' hw' => h w' (List.mem_cons_of_mem _ hw')
    rw [List.map_cons, separated, found_append_of_blank (sep 0).isBlank_of_mem,
      found_restore_append (h w (List.mem_cons_self ..)) (isBlank_of_mem_head?_separated _ _),
      ih _ hrest, List.map_cons]

theorem found_join (sep : Nat → Separator) {words : List Word} (h : ∀ w ∈ words, w.WellFormed) :
    found (join sep (words.map Word.restore)) = words.map fun w => (w, none) := by
  cases words with
  | nil => exact found_of_blank (List.forall_mem_nil _)
  | cons w rest =>
    have hrest : ∀ w ∈ rest, w.WellFormed := fun w' hw' => h w' (List.mem_cons_of_mem _ hw')
    rw [List.map_cons, join,
      found_restore_append (h w (List.mem_cons_self ..)) (isBlank_of_mem_head?_separated _ _),
      found_separated sep hrest, List.map_cons]

/-! ### The words of a scan -/

theorem map_word_tokensFrom (l : Location) (list : List Portion) :
    (tokensFrom l list).map Token.word =
      list.map fun portion => ⟨portion.piece.kind, portion.piece.lexeme⟩ := by
  induction list generalizing l with
  | nil => rfl
  | cons portion rest ih =>
    rw [tokensFrom_cons, List.map_cons, ih, List.map_cons, Token.word, Portion.token,
      String.toList_ofList]

theorem reportsFrom_eq_nil (l : Location) {list : List Portion}
    (h : ∀ portion ∈ list, portion.piece.warning? = none) : reportsFrom l list = [] := by
  induction list generalizing l with
  | nil => rfl
  | cons portion rest ih =>
    rw [reportsFrom_cons, Portion.report?, h portion (List.mem_cons_self ..),
      ih _ fun p hp => h p (List.mem_cons_of_mem _ hp)]
    rfl

theorem Scan.map_word_tokens (source : String) :
    (ofText source).tokens.map Token.word = (found source.toList).map Prod.fst := by
  rw [tokens_ofText, map_word_tokensFrom, found, List.map_map]
  rfl

theorem Scan.diagnostics_eq_nil {source : String}
    (h : ∀ p ∈ found source.toList, p.2 = none) : (ofText source).diagnostics = [] := by
  rw [diagnostics_ofText]
  refine reportsFrom_eq_nil _ fun portion hportion => ?_
  exact h _ (List.mem_map_of_mem hportion)

/-- A token of the grammar is a word that can be written down. -/
theorem Munch.wellFormed {kind : TokenKind} {lexeme raw after : List Char}
    (h : Munch kind lexeme raw after) : Word.WellFormed ⟨kind, lexeme⟩ := by
  cases h with
  | keyword first inside stop reserved =>
    obtain ⟨k, hk⟩ := reserved
    rw [← hk]
    exact .keyword k
  | identifier first inside stop free =>
    exact .identifier (classify_eq_iff.mp first) (fun d hd => inside d (List.mem_cons_of_mem _ hd))
      free
  | number first inside points stop =>
    refine .number (classify_eq_iff.mp first) (fun d hd => inside d (List.mem_cons_of_mem _ hd)) ?_
    exact Nat.le_trans (List.count_le_count_cons) points
  | closedString inside => exact .stringLiteral inside
  | openString inside => exact .stringLiteral inside
  | lineComment inside stop => exact .comment (.inr inside)
  | closedComment inside => exact .comment (.inl inside)
  | openComment inside => exact .comment (.inl inside)
  | comparison first => exact .comparison first
  | sign first slash stop => exact .sign first

theorem Scan.wellFormed_word {source : String} {token : Token}
    (h : token ∈ (ofText source).tokens) : token.word.WellFormed := by
  obtain ⟨site, -, hread⟩ := Cut.exists_of_mem_tokens h
  exact hread.munch.wellFormed

/-- The words of a printed text are those that were printed, and nothing is reported. -/
theorem Scan.print_words (sep : Nat → Separator) {words : List Word}
    (h : ∀ w ∈ words, w.WellFormed) :
    (ofText (print sep words)).tokens.map Token.word = words ∧
      (ofText (print sep words)).diagnostics = [] := by
  have hfound : found (print sep words).toList = words.map fun w => (w, none) := by
    rw [print, String.toList_ofList, found_join sep h]
  refine ⟨?_, diagnostics_eq_nil fun p hp => ?_⟩
  · rw [map_word_tokens, hfound, List.map_map]
    exact List.map_id words
  · rw [hfound] at hp
    obtain ⟨w, -, rfl⟩ := List.mem_map.mp hp
    rfl

/-- **Printing and then scanning is the identity.** Words with blanks between them are found again,
without a report; the tokens of every text are such words, so a text that is printed from them has
the same tokens again, and nothing malformed. -/
theorem scan_print :
    (∀ (words : List Word) (sep : Nat → Separator), (∀ w ∈ words, w.WellFormed) →
      (Scan.ofText (print sep words)).tokens.map Token.word = words ∧
        (Scan.ofText (print sep words)).diagnostics = [] ∧
        (Scan.ofText (print sep words)).strict = .ok (Scan.ofText (print sep words)).tokens) ∧
      ∀ source : String,
        (∀ token ∈ (Scan.ofText source).tokens, token.word.WellFormed) ∧
          ∀ sep : Nat → Separator,
            (Scan.ofText (print sep ((Scan.ofText source).tokens.map Token.word))).tokens.map
                Token.word =
              (Scan.ofText source).tokens.map Token.word ∧
            (Scan.ofText (print sep ((Scan.ofText source).tokens.map Token.word))).diagnostics =
              [] := by
  refine ⟨fun words sep h => ?_, fun source => ⟨fun token => Scan.wellFormed_word, fun sep => ?_⟩⟩
  · obtain ⟨hwords, hreports⟩ := Scan.print_words sep h
    refine ⟨hwords, hreports, ?_⟩
    rw [Scan.strict, hreports]
  · refine Scan.print_words sep fun w hw => ?_
    obtain ⟨token, htoken, rfl⟩ := List.mem_map.mp hw
    exact Scan.wellFormed_word htoken

/-- A keyword, a comment that only a line can hold, and a number that ends with its point. -/
theorem scan_print_line_comment :
    (∀ w ∈ ([⟨.keyword, ['i', 'f']⟩, ⟨.comment, ['*', '/']⟩, ⟨.number, ['1', '.']⟩] : List Word),
        w.WellFormed) ∧
      (Scan.ofText "if\t//*/\n\t1.").tokens.map Token.word =
        [⟨.keyword, ['i', 'f']⟩, ⟨.comment, ['*', '/']⟩, ⟨.number, ['1', '.']⟩] ∧
      (Scan.ofText "if\t//*/\n\t1.").diagnostics = [] := by
  have hwords : ∀ w ∈ ([⟨.keyword, ['i', 'f']⟩, ⟨.comment, ['*', '/']⟩,
      ⟨.number, ['1', '.']⟩] : List Word), w.WellFormed := by
    simp only [List.forall_mem_cons]
    refine ⟨.keyword .if_, .comment (.inr (by decide)), .number (by decide) ?_ (by decide), ?_⟩
    · exact List.forall_mem_singleton.mpr (.inr rfl)
    · exact List.forall_mem_nil _
  have hprinted := scan_print.1 _ (fun _ => .ofChar '\t' (by decide)) hwords
  have htext : print (fun _ => .ofChar '\t' (by decide))
      [⟨.keyword, ['i', 'f']⟩, ⟨.comment, ['*', '/']⟩, ⟨.number, ['1', '.']⟩] =
        "if\t//*/\n\t1." := by decide
  rw [htext] at hprinted
  exact ⟨hwords, hprinted.1, hprinted.2.1⟩

end TokenScan
