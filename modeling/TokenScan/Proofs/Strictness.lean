import TokenScan.Program
import TokenScan.Proofs.Codes
import TokenScan.Proofs.Warnings

/-!
# Strict mode and allow lists

A run in strict mode fails if an input still has a report after those with an allowed code were
dropped. The codes are given as text, in two places and in any spelling; they are merged, parsed,
looked up for each report of each input, and of the inputs that are left with reports the first one
decides. This module says what comes of all that, in terms of the entries as they were typed.

An allow list matters only through the codes that its entries spell. `Diagnostic.IsExcused` says so
for one report, and everything else follows, for what a run does with its inputs is a function of
the reports that are not excused.

## Main definitions

* `DiagnosticCode.Denoted` — a code that some entry spells
* `Diagnostic.IsExcused` — a report with such a code
* `Input.unexcused` — the other reports about an input
* `Input.RejectedFor` — why strict mode rejects an input

## Main results

* `DiagnosticCode.parse_respelled` — the case of the letter and leading zeros make no difference
* `Settings.mem_allow_iff` — the codes that hold for a run are those that are spelled
* `Program.scanAndPrint_congr` — codes that are spelled twice, or elsewhere, change nothing
* `strict_exact` — what strict mode rejects, and why
-/

namespace TokenScan

/-! ### Spelling a code -/

theorem Text.toNat_toLower (c : Char) :
    c.toLower.toNat = if 65 ≤ c.toNat ∧ c.toNat ≤ 90 then c.toNat + 32 else c.toNat := by
  have hrange : (c.val ≥ 'A'.val ∧ c.val ≤ 'Z'.val) ↔ 65 ≤ c.toNat ∧ c.toNat ≤ 90 := by
    simp only [ge_iff_le, UInt32.le_iff_toNat_le]
    rfl
  delta Char.toLower
  split
  · next h =>
    have hsum : (c.val + ('a'.val - 'A'.val)).toNat = (c.toNat + 32) % 2 ^ 32 := UInt32.toNat_add ..
    rw [if_pos (hrange.mp h)]
    rw [hrange] at h
    exact hsum.trans (Nat.mod_eq_of_lt (by omega))
  · next h => rw [if_neg (mt hrange.mpr h)]

namespace DiagnosticCode

/-- Some entry of an allow list spells the code. -/
def Denoted (entries : List String) (code : DiagnosticCode) : Prop :=
  ∃ entry ∈ entries, parse entry = .ok code

theorem toOption_parse_eq_some_iff {entry : String} {code : DiagnosticCode} :
    (parse entry).toOption = some code ↔ parse entry = .ok code := by
  cases parse entry <;> simp [Except.toOption]

instance (entries : List String) : DecidablePred (Denoted entries) := fun code =>
  decidable_of_iff (∃ entry ∈ entries, (parse entry).toOption = some code) (by
    simp only [Denoted, toOption_parse_eq_some_iff])

theorem category?_congr {a b : Char} (h : a.toLower = b.toLower) : category? a = category? b := by
  have hlower : ∀ c : Char, ((c = 'E' ∨ c = 'e') ↔ c.toLower.toNat = 101) ∧
      ((c = 'W' ∨ c = 'w') ↔ c.toLower.toNat = 119) := by
    intro c
    simp only [← Char.toNat_inj, Text.toNat_toLower, Char.reduceToNat]
    split <;> omega
  simp only [category?, hlower, h]

theorem digitsValue_replicate_append (zeros : Nat) (digits : List Char) :
    digitsValue (List.replicate zeros '0' ++ digits) = digitsValue digits := by
  induction zeros with
  | zero => rfl
  | succ zeros ih => exact ih

/-- **Two spellings of a code.** Neither the case of the letter nor leading zeros make a difference,
as long as there are no more than four digits. -/
theorem parse_respelled {letter other : Char} (hcase : letter.toLower = other.toLower)
    {digits : List Char} {zeros : Nat} (hdigits : digits ≠ [])
    (hlength : zeros + digits.length ≤ 4) (code : DiagnosticCode) :
    parse (String.ofList (letter :: digits)) = .ok code ↔
      parse (String.ofList (other :: (List.replicate zeros '0' ++ digits))) = .ok code := by
  have hform : (List.replicate zeros '0' ++ digits ≠ [] ∧
      (List.replicate zeros '0' ++ digits).length ≤ 4 ∧
      (List.replicate zeros '0' ++ digits).all Char.isDigit) ↔
      (digits ≠ [] ∧ digits.length ≤ 4 ∧ digits.all Char.isDigit) := by
    have hshort : digits.length ≤ 4 := by omega
    simp [hdigits, hlength, hshort]
  rw [parse_ofList_eq_ok_iff, parse_ofList_eq_ok_iff, category?_congr hcase, hform,
    digitsValue_replicate_append]

end DiagnosticCode

/-! ### The codes that hold for a run -/

namespace Settings

variable {options : OutputOptions} {config : Config} {settings : Settings}

theorem bind_eq_ok_iff {ε α β : Type} {x : Except ε α} {f : α → Except ε β} {b : β} :
    (x >>= f) = .ok b ↔ ∃ a, x = .ok a ∧ f a = .ok b := by
  cases x <;> simp [Bind.bind, Except.bind]

theorem mapError_eq_ok_iff {ε ε' α : Type} {x : Except ε α} {f : ε → ε'} {a : α} :
    x.mapError f = .ok a ↔ x = .ok a := by
  cases x <;> simp [Except.mapError]

/-- The codes of a list are those that its entries spell. -/
theorem mem_iff_denoted_of_parseCodes {entries : List String} {codes : List DiagnosticCode}
    (h : parseCodes entries = .ok codes) (code : DiagnosticCode) :
    code ∈ codes ↔ code.Denoted entries := by
  induction entries generalizing codes with
  | nil =>
    obtain rfl := Except.ok.inj h
    simp [DiagnosticCode.Denoted]
  | cons entry entries ih =>
    obtain ⟨first, hfirst, h⟩ := bind_eq_ok_iff.mp h
    obtain ⟨others, hothers, h⟩ := bind_eq_ok_iff.mp h
    obtain rfl := Except.ok.inj h
    rw [List.mem_cons, ih hothers]
    simp only [DiagnosticCode.Denoted, List.exists_mem_cons_iff, hfirst, Except.ok.injEq, eq_comm]

theorem parseCodes_of_resolve (h : resolve options config = .ok settings) :
    parseCodes (config.lex.allow ++ options.allow) = .ok settings.allow := by
  obtain ⟨format, -, h⟩ := bind_eq_ok_iff.mp h
  obtain ⟨codes, hcodes, h⟩ := bind_eq_ok_iff.mp h
  obtain rfl := Except.ok.inj h
  exact mapError_eq_ok_iff.mp hcodes

/-- **The codes that hold for a run.** They are those that an entry spells, wherever that stands. -/
theorem mem_allow_iff (h : resolve options config = .ok settings) (code : DiagnosticCode) :
    code ∈ settings.allow ↔ code.Denoted (config.lex.allow ++ options.allow) :=
  mem_iff_denoted_of_parseCodes (parseCodes_of_resolve h) code

end Settings

/-! ### Reports that are excused -/

/-- A report is excused by an allow list if it has a code that some entry spells. -/
def Diagnostic.IsExcused (entries : List String) (d : Diagnostic) : Prop :=
  ∃ code ∈ d.code?, code.Denoted entries

instance (entries : List String) : DecidablePred (Diagnostic.IsExcused entries) := fun d =>
  inferInstanceAs (Decidable (∃ code ∈ d.code?, code.Denoted entries))

namespace Input

/-- The reports about an input that are not excused. -/
def unexcused (entries : List String) (input : Input) : List Diagnostic :=
  (Scan.ofText input.source).diagnostics.filter fun d => ¬ d.IsExcused entries

/-- An input is rejected for its reports that are not excused: so many there are, and `first` is the
one whose span starts before those of all the others. -/
structure RejectedFor (entries : List String) (count : Nat) (first : Diagnostic) (input : Input) :
    Prop where
  /-- So many there are. -/
  count_eq : count = (input.unexcused entries).length
  /-- The first is one of them. -/
  first_mem : first ∈ input.unexcused entries
  /-- Its span starts before those of the others. -/
  first_lt : ∀ d ∈ input.unexcused entries, d ≠ first → first.span.start < d.span.start

variable {entries : List String} {input : Input}

theorem unexcused_eq_nil_iff : input.unexcused entries = [] ↔
    ∀ d ∈ (Scan.ofText input.source).diagnostics, d.IsExcused entries := by
  simp [unexcused]

/-- Reports stand in the order of their spans, and dropping some of them does not change that. -/
theorem pairwise_unexcused (entries : List String) (input : Input) :
    (input.unexcused entries).Pairwise fun d later => d.span.start < later.span.start := by
  have horderly := Scan.orderly_diagnostics input.source
  refine List.Pairwise.filter _ (horderly.increasing.imp_of_mem ?_)
  intro d later hd _ hle
  exact Nat.lt_of_lt_of_le (horderly.start_lt_stop d hd) hle

theorem rejectedFor_of_unexcused {first : Diagnostic} {others : List Diagnostic}
    (h : input.unexcused entries = first :: others) :
    input.RejectedFor entries (others.length + 1) first := by
  have hpairwise := input.pairwise_unexcused entries
  rw [h, List.pairwise_cons] at hpairwise
  constructor
  · rw [h, List.length_cons]
  · rw [h]
    exact List.mem_cons_self ..
  · intro d hd hne
    rw [h] at hd
    exact hpairwise.1 d ((List.mem_cons.mp hd).resolve_left hne)

end Input

theorem Scan.isAllowed_iff {codes : List DiagnosticCode} {d : Diagnostic} :
    isAllowed codes d = true ↔ ∃ code ∈ d.code?, code ∈ codes := by
  rw [isAllowed]
  cases d.code? <;> simp

/-- The reports that are left of an input are those that are not excused. -/
theorem Input.diagnostics_scan {options : OutputOptions} {config : Config} {settings : Settings}
    (h : Settings.resolve options config = .ok settings) (input : Input) :
    (input.scan settings.allow).scan.diagnostics =
      input.unexcused (config.lex.allow ++ options.allow) := by
  refine List.filter_congr ?_
  intro d _
  rw [Bool.eq_iff_iff, Bool.not_eq_true', ← Bool.not_eq_true, Scan.isAllowed_iff,
    decide_eq_true_iff]
  simp only [Diagnostic.IsExcused, Settings.mem_allow_iff h]

/-- Lists of the same codes leave the same reports. -/
theorem Scanned.allow_congr {codes others : List DiagnosticCode}
    (hcodes : ∀ code, code ∈ codes ↔ code ∈ others) :
    Scanned.allow codes = Scanned.allow others := by
  have hallowed : Scan.isAllowed codes = Scan.isAllowed others := by
    funext d
    rw [Bool.eq_iff_iff, Scan.isAllowed_iff, Scan.isAllowed_iff]
    simp only [hcodes]
  funext item
  rw [Scanned.allow, Scanned.allow, Scan.allow, Scan.allow, hallowed]

/-! ### Runs -/

/-- Why strict mode rejects an input with these reports left, if it does. -/
def Scanned.rejection? (item : Scanned) : Option LexError :=
  match item.scan.diagnostics with
  | [] => none
  | first :: others => some (.diagnostics (others.length + 1) first)

namespace Program

variable {options : OutputOptions} {config : Config} {settings : Settings}

theorem map_snd_rejected? (items : List Scanned) :
    (rejected? items).map Prod.snd = items.findSome? Scanned.rejection? := by
  rw [rejected?, List.map_findSome?]
  congr 1
  funext item
  rw [Scanned.rejection?, Function.comp_apply, Scan.strict]
  cases item.scan.diagnostics <;> rfl

theorem failure?_scanAndPrint (inputs : List Input) (hstrict : settings.strict = true) :
    (scanAndPrint inputs settings).failure? =
      ((Input.scanAll inputs settings.allow).findSome? Scanned.rejection?).map .lex := by
  rw [← Input.map_allow_map_ofInput, ← map_snd_rejected?, Option.map_map, scanAndPrint,
    if_pos hstrict]
  cases rejected? ((inputs.map Scanned.ofInput).map (Scanned.allow settings.allow)) <;> rfl

theorem rejection?_scan_eq_none_iff (h : Settings.resolve options config = .ok settings)
    (input : Input) : (input.scan settings.allow).rejection? = none ↔
      input.unexcused (config.lex.allow ++ options.allow) = [] := by
  rw [Scanned.rejection?, Input.diagnostics_scan h]
  cases input.unexcused (config.lex.allow ++ options.allow) <;> simp

theorem rejectedFor_of_rejection? (h : Settings.resolve options config = .ok settings)
    {input : Input} {cause : LexError}
    (hcause : (input.scan settings.allow).rejection? = some cause) :
    ∃ count first, cause = .diagnostics count first ∧
      input.RejectedFor (config.lex.allow ++ options.allow) count first := by
  rw [Scanned.rejection?, Input.diagnostics_scan h] at hcause
  split at hcause
  · simp at hcause
  · next first others hunexcused =>
    obtain rfl := Option.some.inj hcause
    exact ⟨others.length + 1, first, rfl, Input.rejectedFor_of_unexcused hunexcused⟩

/-- **What strict mode accepts.** -/
theorem failure?_scanAndPrint_eq_none_iff (h : Settings.resolve options config = .ok settings)
    (hstrict : settings.strict = true) (inputs : List Input) :
    (scanAndPrint inputs settings).failure? = none ↔
      ∀ input ∈ inputs, ∀ d ∈ (Scan.ofText input.source).diagnostics,
        d.IsExcused (config.lex.allow ++ options.allow) := by
  rw [failure?_scanAndPrint inputs hstrict, Option.map_eq_none_iff, Input.scanAll,
    List.findSome?_map, List.findSome?_eq_none_iff]
  simp only [Function.comp_apply, rejection?_scan_eq_none_iff h, Input.unexcused_eq_nil_iff]

/-- **What strict mode rejects.** -/
theorem exists_of_failure?_scanAndPrint (h : Settings.resolve options config = .ok settings)
    (hstrict : settings.strict = true) {inputs : List Input} {failure : Failure}
    (hfailure : (scanAndPrint inputs settings).failure? = some failure) :
    ∃ front input back count first, inputs = front ++ input :: back ∧
      (∀ earlier ∈ front, ∀ d ∈ (Scan.ofText earlier.source).diagnostics,
        d.IsExcused (config.lex.allow ++ options.allow)) ∧
      failure = .lex (.diagnostics count first) ∧
      input.RejectedFor (config.lex.allow ++ options.allow) count first := by
  rw [failure?_scanAndPrint inputs hstrict, Option.map_eq_some_iff] at hfailure
  obtain ⟨cause, hcause, rfl⟩ := hfailure
  rw [Input.scanAll, List.findSome?_map, List.findSome?_eq_some_iff] at hcause
  obtain ⟨front, input, back, hsplit, hrejection, hfront⟩ := hcause
  obtain ⟨count, first, rfl, hrejected⟩ := rejectedFor_of_rejection? h hrejection
  refine ⟨front, input, back, count, first, hsplit, ?_, rfl, hrejected⟩
  intro earlier hearlier
  rw [← Input.unexcused_eq_nil_iff, ← rejection?_scan_eq_none_iff h]
  exact hfront earlier hearlier

/-- **How codes are given makes no difference.** If two settings differ in nothing but the lists of
their codes, and these have the same members, a run writes the same and ends the same. -/
theorem scanAndPrint_congr {other : Settings}
    (hothers : { other with allow := settings.allow } = settings)
    (hcodes : ∀ code, code ∈ other.allow ↔ code ∈ settings.allow) (inputs : List Input) :
    scanAndPrint inputs other = scanAndPrint inputs settings := by
  have hallow := Scanned.allow_congr hcodes
  rw [← hothers]
  unfold scanAndPrint
  simp only [hallow]

end Program

/-- **Strict mode.** A run in strict mode succeeds if every report about every input is excused by
an entry of one of the allow lists. If not, it fails because of the first input with another report,
and says how many such reports there are and which comes first. So nothing matters about the entries
but the codes that they spell, and no token depends on them. -/
theorem strict_exact {options : OutputOptions} {config : Config} {settings : Settings}
    (hresolve : Settings.resolve options config = .ok settings) (hstrict : settings.strict = true)
    (inputs : List Input) :
    ((Program.scanAndPrint inputs settings).failure? = none ↔
        ∀ input ∈ inputs, ∀ d ∈ (Scan.ofText input.source).diagnostics,
          d.IsExcused (config.lex.allow ++ options.allow)) ∧
      (∀ failure ∈ (Program.scanAndPrint inputs settings).failure?,
        ∃ front input back count first, inputs = front ++ input :: back ∧
          (∀ earlier ∈ front, ∀ d ∈ (Scan.ofText earlier.source).diagnostics,
            d.IsExcused (config.lex.allow ++ options.allow)) ∧
          failure = .lex (.diagnostics count first) ∧
          input.RejectedFor (config.lex.allow ++ options.allow) count first) ∧
      (∀ options' config' settings', Settings.resolve options' config' = .ok settings' →
        { settings' with allow := settings.allow } = settings →
        (∀ code : DiagnosticCode, code.Denoted (config'.lex.allow ++ options'.allow) ↔
          code.Denoted (config.lex.allow ++ options.allow)) →
        Input.scanAll inputs settings'.allow = Input.scanAll inputs settings.allow ∧
          Program.scanAndPrint inputs settings' = Program.scanAndPrint inputs settings) ∧
      (∀ (letter other : Char) (digits : List Char) (zeros : Nat),
        letter.toLower = other.toLower → digits ≠ [] → zeros + digits.length ≤ 4 →
        ∀ code, DiagnosticCode.parse (String.ofList (letter :: digits)) = .ok code ↔
          DiagnosticCode.parse
            (String.ofList (other :: (List.replicate zeros '0' ++ digits))) = .ok code) ∧
      ∀ codes, ((Input.scanAll inputs codes).map fun item => item.scan.tokens) =
        inputs.map fun input => (Scan.ofText input.source).tokens := by
  refine ⟨Program.failure?_scanAndPrint_eq_none_iff hresolve hstrict inputs, ?_, ?_, ?_, ?_⟩
  · intro failure hfailure
    exact Program.exists_of_failure?_scanAndPrint hresolve hstrict hfailure
  · intro options' config' settings' hresolve' hothers hdenoted
    have hcodes : ∀ code, code ∈ settings'.allow ↔ code ∈ settings.allow := by
      intro code
      rw [Settings.mem_allow_iff hresolve', Settings.mem_allow_iff hresolve, hdenoted]
    refine ⟨?_, Program.scanAndPrint_congr hothers hcodes inputs⟩
    rw [← Input.map_allow_map_ofInput, ← Input.map_allow_map_ofInput, Scanned.allow_congr hcodes]
  · intro letter other digits zeros hcase hdigits hlength
    exact DiagnosticCode.parse_respelled hcase hdigits hlength
  · intro codes
    rw [Input.scanAll, List.map_map]
    rfl

/-- The number in the second input is excused and the string literal is not. An entry in the other
place, in the other case and twice over excuses no more and no less. -/
theorem strict_exact_open_string :
    let inputs : List Input := [⟨"a.c", "x;"⟩, ⟨"b.c", "1.2.3 \"ab"⟩]
    let settings : Settings := ⟨.text, true, true, [.splitNumber]⟩
    let other : Settings := ⟨.text, true, true, [.splitNumber, .splitNumber]⟩
    Settings.resolve { strict := true, allow := ["w1003"] } {} = .ok settings ∧
      settings.strict = true ∧
      Settings.resolve { strict := true } { lex := { allow := ["W1003", "w1003"] } } = .ok other ∧
      (Program.scanAndPrint inputs settings).failure? =
        some (.lex (.diagnostics 1 (Warning.unterminatedString.report ⟨6, 9, 1, 7⟩))) ∧
      (¬ ∀ input ∈ inputs, ∀ d ∈ (Scan.ofText input.source).diagnostics, d.IsExcused ["w1003"]) ∧
      Program.scanAndPrint inputs other = Program.scanAndPrint inputs settings := by
  intro inputs settings other
  have hresolve : Settings.resolve { strict := true, allow := ["w1003"] } {} = .ok settings := rfl
  have hother : Settings.resolve { strict := true } { lex := { allow := ["W1003", "w1003"] } } =
      .ok other := rfl
  have hfailure : (Program.scanAndPrint inputs settings).failure? =
      some (.lex (.diagnostics 1 (Warning.unterminatedString.report ⟨6, 9, 1, 7⟩))) := by
    decide +kernel
  have hdenoted : ∀ code : DiagnosticCode,
      code.Denoted ["W1003", "w1003"] ↔ code.Denoted ["w1003"] := by
    have hparse : DiagnosticCode.parse "W1003" = DiagnosticCode.parse "w1003" := rfl
    simp [DiagnosticCode.Denoted, hparse]
  obtain ⟨haccept, -, hsame, -⟩ := strict_exact hresolve rfl inputs
  refine ⟨hresolve, rfl, hother, hfailure, ?_, ?_⟩
  · intro hclean
    rw [haccept.mpr hclean] at hfailure
    simp at hfailure
  · exact (hsame _ _ other hother rfl hdenoted).2

end TokenScan
