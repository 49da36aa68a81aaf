import TokenScan.Proofs.Motion
import TokenScan.Proofs.Utf8

/-!
# A cursor over bytes

A `Cursor` holds the characters on both sides of it. A cursor that reads a file in place holds
neither: it has the bytes of the whole text and the offset where it stands, and decodes what it
needs. Whatever it decodes may fail, for an offset may lie inside a character. It looks at one
character at a time, and all its longer motions are loops.

`ByteCursor` is that cursor, and this module shows that the two are the same one. Every motion of a
`ByteCursor` succeeds, gives the answer that the `Cursor` gives, and leads to the same place; and
every look finds the same characters. The invariant is `ByteCursor.Follows`: the offset is the
length of what stands in front.

## Main definitions

* `ByteCursor` — a cursor over the bytes of a text
* `Cursor.Call`, `Cursor.run` — motions in any order
* `ByteCursor.Follows` — the two cursors stand at the same place of the same text
* `ByteCursor.Splits`, `Cursor.Lawful`, `ByteCursor.Agrees` — where a cursor stands, what it does,
  and that the other one does the same

## Main results

* `ByteCursor.Follows.call`, `ByteCursor.Follows.run` — one motion, and any number of them
* `Cursor.StandsIn.lawful` — what the motions pass
* `byteCursor_refines` — the two cursors agree wherever they come
-/

namespace TokenScan

open Text

/-- A cursor over the bytes of a text. -/
structure ByteCursor where
  /-- The UTF-8 form of the text. -/
  bytes : ByteArray
  /-- Where the cursor stands. -/
  location : Location

namespace ByteCursor

/-- The cursor before the first byte of a text. -/
def ofString (source : String) : ByteCursor := ⟨source.toByteArray, .start⟩

/-- Whether no byte is left. -/
def atEnd (cursor : ByteCursor) : Bool := cursor.bytes.size ≤ cursor.location.offset

/-- The next character, or NUL at the end. -/
def current? (cursor : ByteCursor) : Option Char := charAt? cursor.bytes cursor.location.offset

/-- The characters that are left. -/
def remaining? (cursor : ByteCursor) : Option (List Char) :=
  decodeRange? cursor.bytes cursor.location.offset cursor.bytes.size

/-- The character `n` places past the next one, or NUL if there is none. The next one itself is
found without decoding the others. -/
def peek? (cursor : ByteCursor) (n : Nat) : Option Char :=
  if n = 0 then cursor.current? else cursor.remaining?.map fun rest => rest.getD n '\x00'

/-- The text between byte `start` and the cursor. -/
def textFrom? (cursor : ByteCursor) (start : Nat) : Option (List Char) :=
  decodeRange? cursor.bytes start cursor.location.offset

/-- Passes the next character and returns it. -/
def advance (cursor : ByteCursor) : Option (Option Char × ByteCursor) :=
  if cursor.atEnd then some (none, cursor)
  else cursor.current?.map fun c => (some c, { cursor with location := cursor.location.after c })

/-- Passes one character after the other, `n` times or up to the end. -/
def forward (cursor : ByteCursor) : Nat → Option ByteCursor
  | 0 => some cursor
  | n + 1 =>
    match cursor.advance with
    | none => none
    | some (none, _) => some cursor
    | some (some _, after) => after.forward n

theorem bytes_offset_of_advance {cursor after : ByteCursor} {c : Char}
    (h : cursor.advance = some (some c, after)) :
    after.bytes = cursor.bytes ∧ cursor.location.offset < cursor.bytes.size ∧
      cursor.location.offset < after.location.offset := by
  have hpos := c.utf8Size_pos
  rw [advance] at h
  split at h
  · simp at h
  · next hend =>
    obtain ⟨d, -, heq⟩ := Option.map_eq_some_iff.mp h
    obtain ⟨hc, rfl⟩ := Prod.mk.inj heq
    obtain rfl := Option.some.inj hc
    rw [Location.offset_after]
    exact ⟨rfl, Nat.lt_of_not_le fun hle => hend (decide_eq_true hle), by omega⟩

/-- Passes one character after the other as long as they satisfy `p`. -/
def forwardWhile (cursor : ByteCursor) (p : Char → Bool) : Option ByteCursor :=
  match _h : cursor.advance with
  | none => none
  | some (none, _) => some cursor
  | some (some c, after) => if p c then after.forwardWhile p else some cursor
termination_by cursor.bytes.size - cursor.location.offset
decreasing_by
  obtain ⟨hbytes, hlt, hmoved⟩ := bytes_offset_of_advance _h
  rw [hbytes]
  omega

/-- Passes the next character if it is `c`, and says whether it was. -/
def accept (cursor : ByteCursor) (c : Char) : Option (Bool × ByteCursor) :=
  if cursor.atEnd then some (false, cursor)
  else
    match cursor.current? with
    | none => none
    | some next =>
      if next = c then cursor.advance.map fun moved => (true, moved.2) else some (false, cursor)

end ByteCursor

/-! ### Motions in any order -/

namespace Cursor

/-- A motion of a cursor. -/
inductive Call where
  /-- Passing the next character. -/
  | advance
  /-- Passing a number of characters. -/
  | forward (n : Nat)
  /-- Passing all characters up to the first that does not satisfy `p`. -/
  | forwardWhile (p : Char → Bool)
  /-- Passing a given character. -/
  | accept (c : Char)

/-- What a motion answers. -/
inductive Answer where
  /-- The character that was passed. -/
  | passed (c? : Option Char)
  /-- Whether the character was the given one. -/
  | accepted (found : Bool)
  /-- Nothing. -/
  | nothing
deriving DecidableEq

/-- The answer to a motion, and the cursor behind it. -/
def call (cursor : Cursor) : Call → Answer × Cursor
  | .advance => (.passed cursor.advance.1, cursor.advance.2)
  | .forward n => (.nothing, cursor.forward n)
  | .forwardWhile p => (.nothing, cursor.forwardWhile p)
  | .accept c => (.accepted (cursor.accept c).1, (cursor.accept c).2)

/-- The cursor behind a number of motions. -/
def run (cursor : Cursor) (calls : List Call) : Cursor :=
  calls.foldl (fun cursor call => (cursor.call call).2) cursor

end Cursor

namespace ByteCursor

/-- The answer to a motion, and the cursor behind it. -/
def call (cursor : ByteCursor) : Cursor.Call → Option (Cursor.Answer × ByteCursor)
  | .advance => cursor.advance.map fun (c?, after) => (.passed c?, after)
  | .forward n => (cursor.forward n).map fun after => (.nothing, after)
  | .forwardWhile p => (cursor.forwardWhile p).map fun after => (.nothing, after)
  | .accept c => (cursor.accept c).map fun (found, after) => (.accepted found, after)

/-- The cursor behind a number of motions. -/
def run (cursor : ByteCursor) : List Cursor.Call → Option ByteCursor
  | [] => some cursor
  | call :: calls => (cursor.call call).bind fun moved => moved.2.run calls

/-! ### The two cursors together -/

/-- A cursor over bytes and a cursor over characters stand at the same place of a text. -/
structure Follows (bytes : ByteCursor) (text : List Char) (cursor : Cursor) : Prop where
  /-- The cursor over characters stands in the text. -/
  standsIn : cursor.StandsIn text
  /-- The bytes are those of the text. -/
  bytes_eq : bytes.bytes = text.utf8Encode
  /-- The places are the same. -/
  location_eq : bytes.location = cursor.location

variable {bytes : ByteCursor} {text : List Char} {cursor : Cursor}

theorem follows_ofString (source : String) :
    (ofString source).Follows source.toList (.ofText source.toList) where
  standsIn := Cursor.standsIn_ofText source.toList
  bytes_eq := by rw [ofString, String.utf8Encode_toList]
  location_eq := rfl

/-- The bytes are those of the characters on both sides. -/
theorem Follows.bytes_eq_append (h : bytes.Follows text cursor) :
    bytes.bytes = (cursor.before ++ cursor.rest).utf8Encode := by
  rw [h.bytes_eq, h.standsIn.append_eq]

theorem Follows.offset_eq (h : bytes.Follows text cursor) :
    bytes.location.offset = byteLength cursor.before := by
  rw [h.location_eq, h.standsIn.offset_eq]

theorem Follows.atEnd_eq (h : bytes.Follows text cursor) : bytes.atEnd = cursor.atEnd := by
  rw [atEnd, Cursor.atEnd, h.bytes_eq_append, h.offset_eq, size_utf8Encode, byteLength_append]
  cases hrest : cursor.rest with
  | nil => simp
  | cons c rest =>
    have hpos := byteLength_pos (List.cons_ne_nil c rest)
    rw [List.isEmpty_cons, decide_eq_false_iff_not]
    omega

theorem Follows.atEnd_iff (h : bytes.Follows text cursor) :
    bytes.atEnd = true ↔ cursor.rest = [] := by
  rw [h.atEnd_eq, Cursor.atEnd, List.isEmpty_iff]

theorem Follows.current? (h : bytes.Follows text cursor) :
    bytes.current? = some cursor.current := by
  rw [ByteCursor.current?, h.bytes_eq_append, h.offset_eq, Cursor.current, Cursor.peek]
  cases cursor.rest with
  | nil => rw [List.append_nil, charAt?_byteLength, List.getD_nil]
  | cons c rest => rw [charAt?_append_cons, List.getD_cons_zero]

theorem Follows.current?_of_cons (h : bytes.Follows text cursor) {c : Char} {rest : List Char}
    (hrest : cursor.rest = c :: rest) : bytes.current? = some c := by
  rw [h.current?, Cursor.current_of_cons hrest]

theorem Follows.remaining? (h : bytes.Follows text cursor) :
    bytes.remaining? = some cursor.rest := by
  have hdecode := decodeRange?_append cursor.before cursor.rest []
  rw [List.append_nil] at hdecode
  rw [ByteCursor.remaining?, h.bytes_eq_append, h.offset_eq, size_utf8Encode, hdecode]

/-- **Looking ahead.** The next character and those behind it are found in different ways. -/
theorem Follows.peek? (h : bytes.Follows text cursor) (n : Nat) :
    bytes.peek? n = some (cursor.peek n) := by
  rw [ByteCursor.peek?]
  split
  · next hn =>
    rw [h.current?, hn]
    rfl
  · rw [h.remaining?]
    rfl

theorem Follows.textFrom? (h : bytes.Follows text cursor) (start : Nat) :
    bytes.textFrom? start = cursor.textFrom? start := by
  rw [ByteCursor.textFrom?, h.bytes_eq_append, h.offset_eq, decodeRange?_eq_slice?,
    Cursor.textFrom?, h.standsIn.offset_eq]

/-- If the cursor over characters goes forward and the location is carried along, the two stay
together. -/
theorem Follows.of_reaches {later : Cursor} (h : bytes.Follows text cursor)
    (hreach : cursor.Reaches later) :
    ({ bytes with location := later.location } : ByteCursor).Follows text later where
  standsIn := h.standsIn.of_reaches hreach
  bytes_eq := h.bytes_eq
  location_eq := rfl

/-! ### One motion -/

/-- At the end there is nothing to pass. -/
theorem Follows.advance_of_nil (h : bytes.Follows text cursor) (hrest : cursor.rest = []) :
    bytes.advance = some (none, bytes) := by
  rw [advance, if_pos (h.atEnd_iff.mpr hrest)]

/-- In front of a character, both cursors pass it. -/
theorem Follows.advance_of_cons (h : bytes.Follows text cursor) {c : Char} {rest : List Char}
    (hrest : cursor.rest = c :: rest) :
    ∃ after, bytes.advance = some (some c, after) ∧ after.Follows text (cursor.forward 1) := by
  have hend : ¬ bytes.atEnd = true := by
    rw [h.atEnd_iff, hrest]
    exact List.cons_ne_nil c rest
  have hlocation : (cursor.forward 1).location = bytes.location.after c := by
    rw [Cursor.location_forward, hrest, h.location_eq]
    rfl
  refine ⟨_, ?_, h.of_reaches (cursor.reaches_forward 1)⟩
  rw [advance, if_neg hend, h.current?_of_cons hrest, hlocation]
  rfl

theorem Follows.advance (h : bytes.Follows text cursor) :
    ∃ after, bytes.advance = some (cursor.advance.1, after) ∧
      after.Follows text cursor.advance.2 := by
  cases hrest : cursor.rest with
  | nil =>
    have hstay := Cursor.forward_of_atEnd (Cursor.atEnd_of_nil hrest) 1
    refine ⟨bytes, ?_, ?_⟩
    · rw [h.advance_of_nil hrest, Cursor.advance, hrest]
      rfl
    · rw [Cursor.advance, hstay]
      exact h
  | cons c rest =>
    obtain ⟨after, hadvance, hafter⟩ := h.advance_of_cons hrest
    refine ⟨after, ?_, hafter⟩
    rw [hadvance, Cursor.advance, hrest]
    rfl

/-- The loop that counts passes as many characters as there are to pass. -/
theorem Follows.forward (h : bytes.Follows text cursor) (n : Nat) :
    ∃ after, bytes.forward n = some after ∧ after.Follows text (cursor.forward n) := by
  induction n generalizing bytes cursor with
  | zero => exact ⟨bytes, rfl, h⟩
  | succ n ih =>
    cases hrest : cursor.rest with
    | nil =>
      have hstay := Cursor.forward_of_atEnd (Cursor.atEnd_of_nil hrest)
      refine ⟨bytes, ?_, ?_⟩
      · rw [ByteCursor.forward, h.advance_of_nil hrest]
      · rw [hstay]
        exact h
    | cons c rest =>
      obtain ⟨next, hadvance, hnext⟩ := h.advance_of_cons hrest
      obtain ⟨after, hforward, hafter⟩ := ih hnext
      refine ⟨after, ?_, ?_⟩
      · rw [ByteCursor.forward, hadvance]
        exact hforward
      · rwa [Cursor.forward_forward, Nat.add_comm] at hafter

/-- The loop that tests passes the longest run of characters that satisfy the test. -/
theorem Follows.forwardWhile (h : bytes.Follows text cursor) (p : Char → Bool) :
    ∃ after, bytes.forwardWhile p = some after ∧ after.Follows text (cursor.forwardWhile p) := by
  induction hrest : cursor.rest generalizing bytes cursor with
  | nil =>
    refine ⟨bytes, ?_, ?_⟩
    · rw [ByteCursor.forwardWhile, h.advance_of_nil hrest]
    · rw [Cursor.forwardWhile_of_stop (by rw [hrest]; simp)]
      exact h
  | cons c rest ih =>
    obtain ⟨next, hadvance, hnext⟩ := h.advance_of_cons hrest
    rw [ByteCursor.forwardWhile, hadvance]
    cases hp : p c with
    | false =>
      refine ⟨bytes, ?_, ?_⟩
      · simp [hp]
      · rw [Cursor.forwardWhile_of_stop (by rw [hrest]; simpa using hp)]
        exact h
    | true =>
      obtain ⟨after, hwhile, hafter⟩ := ih hnext (Cursor.rest_advance_of_cons hrest)
      refine ⟨after, ?_, ?_⟩
      · simp only [hp, if_true]
        exact hwhile
      · rw [Cursor.forwardWhile_of_cons hrest hp]
        exact hafter

theorem Follows.accept (h : bytes.Follows text cursor) (c : Char) :
    ∃ after, bytes.accept c = some ((cursor.accept c).1, after) ∧
      after.Follows text (cursor.accept c).2 := by
  cases hrest : cursor.rest with
  | nil =>
    have haccept : cursor.accept c = (false, cursor) :=
      Cursor.accept_of_not_head? (by rw [hrest]; simp)
    refine ⟨bytes, ?_, by rw [haccept]; exact h⟩
    rw [ByteCursor.accept, if_pos (h.atEnd_iff.mpr hrest), haccept]
  | cons d rest =>
    have hend : ¬ bytes.atEnd = true := by
      rw [h.atEnd_iff, hrest]
      exact List.cons_ne_nil d rest
    have hcurrent := h.current?_of_cons hrest
    by_cases hd : d = c
    · have haccept : cursor.accept c = (true, cursor.forward 1) :=
        Cursor.accept_of_head? (by rw [hrest, hd]; rfl)
      obtain ⟨after, hadvance, hafter⟩ := h.advance_of_cons hrest
      refine ⟨after, ?_, by rw [haccept]; exact hafter⟩
      simp [ByteCursor.accept, hend, hcurrent, hd, hadvance, haccept]
    · have haccept : cursor.accept c = (false, cursor) :=
        Cursor.accept_of_not_head? (by rw [hrest]; simpa using hd)
      refine ⟨bytes, ?_, by rw [haccept]; exact h⟩
      simp [ByteCursor.accept, hend, hcurrent, hd, haccept]

/-- **A motion leads both cursors to the same place.** It does not fail, and gives both answers
alike. -/
theorem Follows.call (h : bytes.Follows text cursor) (call : Cursor.Call) :
    ∃ after, bytes.call call = some ((cursor.call call).1, after) ∧
      after.Follows text (cursor.call call).2 := by
  cases call with
  | advance =>
    obtain ⟨after, hadvance, hafter⟩ := h.advance
    exact ⟨after, by rw [ByteCursor.call, hadvance]; rfl, hafter⟩
  | forward n =>
    obtain ⟨after, hforward, hafter⟩ := h.forward n
    exact ⟨after, by rw [ByteCursor.call, hforward]; rfl, hafter⟩
  | forwardWhile p =>
    obtain ⟨after, hwhile, hafter⟩ := h.forwardWhile p
    exact ⟨after, by rw [ByteCursor.call, hwhile]; rfl, hafter⟩
  | accept c =>
    obtain ⟨after, haccept, hafter⟩ := h.accept c
    exact ⟨after, by rw [ByteCursor.call, haccept]; rfl, hafter⟩

/-- Any number of motions do. -/
theorem Follows.run (h : bytes.Follows text cursor) (calls : List Cursor.Call) :
    ∃ after, bytes.run calls = some after ∧ after.Follows text (cursor.run calls) := by
  induction calls generalizing bytes cursor with
  | nil => exact ⟨bytes, rfl, h⟩
  | cons call calls ih =>
    obtain ⟨next, hcall, hnext⟩ := h.call call
    obtain ⟨after, hrun, hafter⟩ := ih hnext
    exact ⟨after, by rw [ByteCursor.run, hcall]; exact hrun, hafter⟩

end ByteCursor

/-! ### In terms of characters -/

namespace Cursor

/-- A motion from one place to another passes a stretch of text. -/
structure Passes (cursor : Cursor) (taken : List Char) (later : Cursor) : Prop where
  /-- What was passed is now in front. -/
  before_eq : later.before = cursor.before ++ taken
  /-- It was the front of what was left. -/
  rest_eq : cursor.rest = taken ++ later.rest

/-- What the motions of a cursor pass, and what it sees. -/
structure Lawful (cursor : Cursor) : Prop where
  /-- The next character is passed and returned. -/
  advance_cons : ∀ c rest, cursor.rest = c :: rest →
    cursor.advance.1 = some c ∧ cursor.Passes [c] cursor.advance.2
  /-- At the end nothing happens. -/
  advance_nil : cursor.rest = [] → cursor.advance = (none, cursor)
  /-- A number of characters is passed, or as many as there are. -/
  forward : ∀ n, ∃ taken, cursor.Passes taken (cursor.forward n) ∧
    taken.length = min n cursor.rest.length
  /-- The longest run of characters that satisfy a test is passed. -/
  forwardWhile : ∀ p, ∃ taken, cursor.Passes taken (cursor.forwardWhile p) ∧
    (∀ c ∈ taken, p c = true) ∧ ∀ c ∈ (cursor.forwardWhile p).rest.head?, p c = false
  /-- A character is accepted if it is the next one. It may be a NUL. -/
  accept_cons : ∀ c rest, cursor.rest = c :: rest →
    (cursor.accept c).1 = true ∧ cursor.Passes [c] (cursor.accept c).2
  /-- A character that is not the next one is not accepted, and at the end none is. -/
  accept_ne : ∀ c, cursor.rest.head? ≠ some c → cursor.accept c = (false, cursor)
  /-- Each of the characters that are left can be seen. -/
  peek_lt : ∀ n c, cursor.rest[n]? = some c → cursor.peek n = c
  /-- Behind them is seen a NUL. -/
  peek_ge : ∀ n, cursor.rest.length ≤ n → cursor.peek n = '\x00'
  /-- The cursor is at the end if no character is left. -/
  atEnd_iff : cursor.atEnd = true ↔ cursor.rest = []
  /-- From any place in front, the characters that were passed since can be cut out. -/
  textFrom? : ∀ front passed, cursor.before = front ++ passed →
    cursor.textFrom? (byteLength front) = some passed

variable {cursor : Cursor} {text : List Char}

theorem passes_forward (cursor : Cursor) (n : Nat) :
    cursor.Passes (cursor.rest.take n) (cursor.forward n) where
  before_eq := cursor.before_forward n
  rest_eq := (List.take_append_drop n cursor.rest).symm

theorem passes_of_append {taken behind : List Char} (hrest : cursor.rest = taken ++ behind) :
    cursor.Passes taken (cursor.forward taken.length) := by
  have hpasses := cursor.passes_forward taken.length
  rwa [hrest, List.take_left] at hpasses

theorem passes_forward_one {c : Char} {rest : List Char} (hrest : cursor.rest = c :: rest) :
    cursor.Passes [c] (cursor.forward 1) := passes_of_append hrest

theorem passes_forwardWhile (cursor : Cursor) (p : Char → Bool) :
    cursor.Passes (cursor.rest.takeWhile p) (cursor.forwardWhile p) :=
  passes_of_append List.takeWhile_append_dropWhile.symm

/-- **What a cursor does.** Wherever it stands, its motions pass what they should. -/
theorem StandsIn.lawful (h : cursor.StandsIn text) : cursor.Lawful where
  advance_cons := by
    intro c rest hrest
    refine ⟨?_, passes_forward_one hrest⟩
    rw [advance, hrest]
    rfl
  advance_nil := by
    intro hrest
    rw [advance, forward_of_atEnd (atEnd_of_nil hrest), hrest]
    rfl
  forward := fun n => ⟨_, cursor.passes_forward n, List.length_take⟩
  forwardWhile := by
    intro p
    exact ⟨_, cursor.passes_forwardWhile p, fun c hc => List.mem_takeWhile_imp hc,
      head?_forwardWhile p cursor⟩
  accept_cons := by
    intro c rest hrest
    rw [accept_of_head? (by rw [hrest]; rfl)]
    exact ⟨rfl, passes_forward_one hrest⟩
  accept_ne := fun c hne => accept_of_not_head? hne
  peek_lt := by
    intro n c hc
    rw [peek, List.getD_eq_getElem?_getD, hc, Option.getD_some]
  peek_ge := by
    intro n hn
    rw [peek, List.getD_eq_getElem?_getD, List.getElem?_eq_none hn, Option.getD_none]
  atEnd_iff := List.isEmpty_iff
  textFrom? := by
    intro front passed hbefore
    have hslice := slice?_append front passed []
    rw [List.append_nil] at hslice
    rw [Cursor.textFrom?, h.offset_eq, hbefore, hslice]

end Cursor

namespace ByteCursor

/-- A cursor stands between the two parts of a text. -/
structure Splits (cursor : ByteCursor) (text before rest : List Char) : Prop where
  /-- The two parts are the text. -/
  append_eq : before ++ rest = text
  /-- The bytes of the text are at hand. -/
  bytes_eq : cursor.bytes = text.utf8Encode
  /-- The offset is the number of bytes of the first part. -/
  offset_eq : cursor.location.offset = before.utf8Encode.size
  /-- The line is one more than the number of its line feeds. -/
  line_eq : cursor.location.line.toNat = 1 + before.count '\n'
  /-- The column is one more than the number of characters behind the last of them. -/
  column_eq : cursor.location.column.toNat = 1 + (lastLine before).length

/-- A cursor over bytes does what a cursor over characters does. -/
structure Agrees (bytes : ByteCursor) (cursor : Cursor) : Prop where
  /-- It stands at the same place. -/
  location_eq : bytes.location = cursor.location
  /-- Its motions do not fail, answer the same, and lead to the same place. -/
  call : ∀ call, ∃ after, bytes.call call = some ((cursor.call call).1, after) ∧
    after.bytes = bytes.bytes ∧ after.location = (cursor.call call).2.location
  /-- It is at the end where the other one is. -/
  atEnd : bytes.atEnd = cursor.atEnd
  /-- It sees the same characters, however far it looks. -/
  peek? : ∀ n, bytes.peek? n = some (cursor.peek n)
  /-- It has the same characters before it. -/
  remaining? : bytes.remaining? = some cursor.rest
  /-- It cuts out the same text, or none, from any byte. -/
  textFrom? : ∀ start, bytes.textFrom? start = cursor.textFrom? start

variable {bytes : ByteCursor} {text : List Char} {cursor : Cursor}

theorem Follows.splits (h : bytes.Follows text cursor) (hshort : text.length < 2 ^ 32 - 1) :
    bytes.Splits text cursor.before cursor.rest := by
  have hbefore : cursor.before.length < 2 ^ 32 - 1 := by
    rw [← h.standsIn.append_eq, List.length_append] at hshort
    omega
  constructor
  · exact h.standsIn.append_eq
  · exact h.bytes_eq
  · rw [h.offset_eq, size_utf8Encode]
  · rw [h.location_eq, h.standsIn.location_eq, Location.toNat_line_past_start hbefore, lineOf]
  · rw [h.location_eq, h.standsIn.location_eq, Location.toNat_column_past_start hbefore, columnOf]

theorem Follows.agrees (h : bytes.Follows text cursor) : bytes.Agrees cursor where
  location_eq := h.location_eq
  call := by
    intro call
    obtain ⟨after, hcall, hafter⟩ := h.call call
    exact ⟨after, hcall, hafter.bytes_eq.trans h.bytes_eq.symm, hafter.location_eq⟩
  atEnd := h.atEnd_eq
  peek? := h.peek?
  remaining? := h.remaining?
  textFrom? := h.textFrom?

end ByteCursor

/-- **A cursor over bytes is a cursor over characters.** After any motions it stands between two
parts of the text; and there the two cursors agree, and their motions pass the characters that they
should. -/
theorem byteCursor_refines (source : String) (hshort : source.length < 2 ^ 32 - 1)
    (calls : List Cursor.Call) :
    let cursor := (Cursor.ofText source.toList).run calls
    ∃ bytes, (ByteCursor.ofString source).run calls = some bytes ∧
      bytes.Splits source.toList cursor.before cursor.rest ∧ bytes.Agrees cursor ∧
      cursor.Lawful := by
  intro cursor
  have hlength : source.toList.length < 2 ^ 32 - 1 := by
    rw [String.length_toList]
    exact hshort
  obtain ⟨bytes, hrun, hfollows⟩ := (ByteCursor.follows_ofString source).run calls
  exact ⟨bytes, hrun, hfollows.splits hlength, hfollows.agrees, hfollows.standsIn.lawful⟩

/-- The first character takes two bytes, the second ends a line, and the third is a NUL. It is
accepted where it stands, not in front of the others, and not at the end, where one is seen. -/
theorem byteCursor_refines_nul :
    "é\n\x00b".length < 2 ^ 32 - 1 ∧
      let cursor := (Cursor.ofText "é\n\x00b".toList).run
        [.accept '\x00', .forwardWhile (· != '\x00'), .accept '\x00']
      (cursor.before = ['é', '\n', '\x00'] ∧ cursor.location = ⟨4, 2, 2⟩ ∧
          cursor.peek 1 = '\x00' ∧ ((cursor.forward 7).accept '\x00').1 = false) ∧
        ∃ bytes, (ByteCursor.ofString "é\n\x00b").run
            [.accept '\x00', .forwardWhile (· != '\x00'), .accept '\x00'] = some bytes ∧
          bytes.Splits "é\n\x00b".toList cursor.before cursor.rest ∧ bytes.Agrees cursor ∧
          cursor.Lawful :=
  ⟨by decide +kernel, by decide +kernel,
    byteCursor_refines "é\n\x00b" (by decide +kernel)
      [.accept '\x00', .forwardWhile (· != '\x00'), .accept '\x00']⟩

end TokenScan
