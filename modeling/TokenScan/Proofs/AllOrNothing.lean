import TokenScan.Proofs.Strictness
import TokenScan.Proofs.Wording

/-!
# A run writes about all of its inputs or about none

What a run is given can be wrong in three places: the settings, the inputs, and in strict mode what
is found in them. They are looked at in this order. No input is asked for before the settings are
known to be right, and nothing is written before all inputs are at hand. So a failed run has either
written nothing, or everything that it writes without strict mode.

Settings and inputs are lists of things of which each can fail for itself. The first failure is the
failure of the list, whatever comes behind it. An argument is read as if it stood alone, but for
hyphens: the standard input has nothing left once it has been read.

## Main definitions

* `OutputFormat.IsNamed` — the names of the formats
* `Settings.formatError`, `Settings.formatWords` — the error of a name that no format has, and what
  is said about it
* `Program.request`, `Program.reading`, `Program.readings` — what an argument asks for, and what it
  gives by itself
* `Input.remaining` — an input with what is left to report about it
* `Outcome.reports` — what a run writes, but for the log
* `Outcome.WritesAll` — what a run writes about its inputs, word for word, and how it ends

## Main results

* `Settings.resolve_of_unknown_format`, `Settings.resolve_of_bad_entry`,
  `Settings.exists_resolve` — the settings, from the name of the format and the entries
* `Program.run_readAll_of_ok`, `Program.run_readAll_of_error` — the inputs, from what each argument
  gives by itself
* `lex_all_or_nothing` — what is asked for, what is written, and which failure is reported
-/

namespace TokenScan

/-! ### Settings -/

namespace OutputFormat

/-- The names of a format, in lower case. -/
def names : OutputFormat → List String
  | .text => ["text", "txt"]
  | .json => ["json"]

/-- A name is one of a format, in whatever case it is written. -/
def IsNamed (format : OutputFormat) (name : String) : Prop :=
  String.ofList (name.toList.map Char.toLower) ∈ format.names

instance (format : OutputFormat) (name : String) : Decidable (format.IsNamed name) :=
  inferInstanceAs (Decidable (String.ofList (name.toList.map Char.toLower) ∈ format.names))

theorem ofName?_eq_some_iff {name : String} {format : OutputFormat} :
    ofName? name = some format ↔ format.IsNamed name := by
  simp only [ofName?, IsNamed]
  generalize String.ofList (name.toList.map Char.toLower) = lower
  constructor
  · intro h
    split at h
    · next hlower =>
      cases h
      rcases hlower with rfl | rfl <;> decide
    · split at h
      · next hlower =>
        cases h
        rw [hlower]
        decide
      · cases h
  · intro h
    cases format with
    | text =>
      have hlower : lower = "text" ∨ lower = "txt" := by simpa [names] using h
      rw [if_pos hlower]
    | json =>
      obtain rfl : lower = "json" := by simpa [names] using h
      rfl

theorem ofName?_eq_none {name : String} (h : ∀ format : OutputFormat, ¬ format.IsNamed name) :
    ofName? name = none := by
  rw [Option.eq_none_iff_forall_ne_some]
  exact fun format hname => h format (ofName?_eq_some_iff.mp hname)

end OutputFormat

namespace Settings

/-- The name of the format that is asked for. -/
def formatName (options : OutputOptions) (config : Config) : String :=
  options.format?.getD config.output.format

/-- The error of a name that no format has, by where the name is from. -/
def formatError (options : OutputOptions) (config : Config) : ConfigError :=
  match options.format? with
  | some name => .unknownFormat name
  | none => .invalidFormat config.output.format

/-- What is said about it. -/
def formatWords (options : OutputOptions) (config : Config) : String :=
  match options.format? with
  | some name => "Configuration error: Unknown output format: " ++ name
  | none => "Configuration error: Invalid format in configuration: " ++ config.output.format

variable {options : OutputOptions} {config : Config}

theorem message_formatError (options : OutputOptions) (config : Config) :
    (Failure.config (formatError options config)).message = formatWords options config := by
  rw [formatError, formatWords]
  cases options.format? with
  | some name =>
    change "Configuration error: " ++ ("Unknown output format: " ++ name) = _
    simp only [← String.append_assoc, String.reduceAppend]
  | none =>
    change "Configuration error: " ++
      ("Invalid format in configuration: " ++ config.output.format) = _
    simp only [← String.append_assoc, String.reduceAppend]

theorem message_invalidCode (entry : String) :
    (Failure.config (.invalidCode (.invalid entry))).message =
      "Configuration error: Invalid diagnostic code: " ++ entry := by
  change "Configuration error: " ++ ("Invalid diagnostic code: " ++ entry) = _
  simp only [← String.append_assoc, String.reduceAppend]

theorem resolveFormat_eq (options : OutputOptions) (config : Config) :
    resolveFormat options config =
      match OutputFormat.ofName? (formatName options config) with
      | some format => .ok format
      | none => .error (formatError options config) := by
  rw [resolveFormat, formatName, formatError]
  cases options.format? <;> rfl

/-- An unknown format is found before any entry is looked at. -/
theorem resolve_of_unknown_format
    (h : ∀ format : OutputFormat, ¬ format.IsNamed (formatName options config)) :
    resolve options config = .error (formatError options config) := by
  rw [resolve, resolveFormat_eq, OutputFormat.ofName?_eq_none h]
  rfl

theorem resolve_of_format {format : OutputFormat}
    (h : format.IsNamed (formatName options config)) :
    resolve options config =
      ((parseCodes (config.lex.allow ++ options.allow)).mapError .invalidCode).map fun codes =>
        { format := format
          strict := options.strict || config.lex.strict
          showDiagnostics := !options.noDiagnostics && config.output.showDiagnostics
          allow := codes } := by
  rw [resolve, resolveFormat_eq, OutputFormat.ofName?_eq_some_iff.mpr h]
  cases parseCodes (config.lex.allow ++ options.allow) <;> rfl

/-- The first entry that is not a code is that of all entries, whatever comes behind it. -/
theorem parseCodes_append_of_bad {front : List String} {entry : String}
    (hfront : ∀ earlier ∈ front, ∃ code, DiagnosticCode.parse earlier = .ok code)
    (hentry : ∀ code, DiagnosticCode.parse entry ≠ .ok code) (back : List String) :
    parseCodes (front ++ entry :: back) = .error (.invalid entry) := by
  induction front with
  | nil =>
    rw [List.nil_append, parseCodes, DiagnosticCode.parse_eq_error hentry]
    rfl
  | cons earlier front ih =>
    obtain ⟨⟨code, hcode⟩, hothers⟩ := List.forall_mem_cons.mp hfront
    rw [List.cons_append, parseCodes, hcode, ih hothers]
    rfl

theorem exists_parseCodes {entries : List String}
    (h : ∀ entry ∈ entries, ∃ code, DiagnosticCode.parse entry = .ok code) :
    ∃ codes, parseCodes entries = .ok codes := by
  induction entries with
  | nil => exact ⟨[], rfl⟩
  | cons entry entries ih =>
    obtain ⟨⟨code, hcode⟩, hothers⟩ := List.forall_mem_cons.mp h
    obtain ⟨codes, hcodes⟩ := ih hothers
    exact ⟨code :: codes, by rw [parseCodes, hcode, hcodes]; rfl⟩

/-- Of the entries, the first that is not a code is reported. -/
theorem resolve_of_bad_entry {format : OutputFormat}
    (hformat : format.IsNamed (formatName options config)) {front back : List String}
    {entry : String} (hsplit : config.lex.allow ++ options.allow = front ++ entry :: back)
    (hfront : ∀ earlier ∈ front, ∃ code, DiagnosticCode.parse earlier = .ok code)
    (hentry : ∀ code, DiagnosticCode.parse entry ≠ .ok code) :
    resolve options config = .error (.invalidCode (.invalid entry)) := by
  rw [resolve_of_format hformat, hsplit, parseCodes_append_of_bad hfront hentry]
  rfl

theorem exists_resolve {format : OutputFormat}
    (hformat : format.IsNamed (formatName options config))
    (hentries : ∀ entry ∈ config.lex.allow ++ options.allow,
      ∃ code, DiagnosticCode.parse entry = .ok code) :
    ∃ codes, resolve options config = .ok
      { format := format
        strict := options.strict || config.lex.strict
        showDiagnostics := !options.noDiagnostics && config.output.showDiagnostics
        allow := codes } := by
  obtain ⟨codes, hcodes⟩ := exists_parseCodes hentries
  exact ⟨codes, by rw [resolve_of_format hformat, hcodes]; rfl⟩

end Settings

/-! ### Inputs -/

namespace Program

/-- What is asked for because of an argument. -/
def request (argument : String) : Request :=
  if argument = "-" then .standardInput else .file argument

/-- What an argument gives by itself, behind other arguments. -/
def reading (host : Host) (earlier : List String) (argument : String) : Except Failure Input :=
  if argument = "-" then
    match if "-" ∈ earlier then .ok "" else host.standardInput with
    | .ok source => .ok ⟨"<stdin>", source⟩
    | .error cause => .error (.io cause)
  else
    match host.read argument with
    | .ok source => .ok ⟨argument, source⟩
    | .error cause => .error (.read argument cause)

/-- What each argument gives by itself, behind other arguments. -/
def readings (host : Host) (earlier arguments : List String) : List (Except Failure Input) :=
  arguments.mapIdx fun index argument => reading host (earlier ++ arguments.take index) argument

theorem readings_cons (host : Host) (earlier : List String) (argument : String)
    (arguments : List String) :
    readings host earlier (argument :: arguments) =
      reading host earlier argument :: readings host (earlier ++ [argument]) arguments := by
  simp only [readings, List.mapIdx_cons, List.take_zero, List.append_nil, List.take_succ_cons,
    List.append_assoc, List.singleton_append]

theorem standardInput_mem_map_request_iff {arguments : List String} :
    Request.standardInput ∈ arguments.map request ↔ "-" ∈ arguments := by
  have hrequest : ∀ argument, request argument = .standardInput ↔ argument = "-" := by
    intro argument
    rw [request]
    split <;> simp_all
  simp only [List.mem_map, hrequest, exists_eq_right]

/-- One argument is read, behind others. -/
theorem run_readInput (host : Host) (earlier : List String) (argument : String) :
    (readInput argument).run (host.past (earlier.map request)) =
      (reading host earlier argument, [request argument]) := by
  rw [readInput, reading, request]
  split
  · rw [Inquiry.run_bind, Inquiry.run_standardInput, Host.standardInput_past]
    simp only [standardInput_mem_map_request_iff]
    generalize (if "-" ∈ earlier then .ok "" else host.standardInput) = reply
    cases reply <;> rfl
  · rw [Inquiry.run_bind, Inquiry.run_file, Host.read_past]
    cases host.read argument <;> rfl

/-- All arguments are read, behind others. -/
theorem run_readAll_cons (host : Host) (earlier : List String) (argument : String)
    (arguments : List String) :
    (readAll (argument :: arguments)).run (host.past (earlier.map request)) =
      match reading host earlier argument with
      | .error failure => (.error failure, [request argument])
      | .ok input =>
        let (others, requests) :=
          (readAll arguments).run (host.past ((earlier ++ [argument]).map request))
        (others.map (input :: ·), request argument :: requests) := by
  rw [readAll, Inquiry.run_bind, run_readInput]
  cases reading host earlier argument with
  | error failure => rfl
  | ok input =>
    have hpast : (host.past (earlier.map request)).past [request argument] =
        host.past ((earlier ++ [argument]).map request) := by
      rw [List.map_append, Host.past_append, List.map_singleton]
    simp only [hpast, Inquiry.run_bind, Inquiry.run_pure, List.append_nil, List.singleton_append]

/-- Arguments of which each gives an input give these inputs. -/
theorem run_readAll_of_ok {host : Host} {earlier arguments : List String} {inputs : List Input}
    (h : readings host earlier arguments = inputs.map .ok) :
    (readAll arguments).run (host.past (earlier.map request)) =
      (.ok inputs, arguments.map request) := by
  induction arguments generalizing earlier inputs with
  | nil =>
    obtain rfl : inputs = [] := List.map_eq_nil_iff.mp h.symm
    rfl
  | cons argument arguments ih =>
    rw [readings_cons] at h
    obtain ⟨input, others, rfl, hinput, hothers⟩ := List.map_eq_cons_iff.mp h.symm
    rw [run_readAll_cons, ← hinput, ih hothers.symm]
    rfl

/-- The first argument that gives no input ends the reading. -/
theorem run_readAll_of_error {host : Host} {earlier arguments : List String} {inputs : List Input}
    {failure : Failure} {back : List (Except Failure Input)}
    (h : readings host earlier arguments = inputs.map .ok ++ .error failure :: back) :
    (readAll arguments).run (host.past (earlier.map request)) =
      (.error failure, (arguments.take (inputs.length + 1)).map request) := by
  induction arguments generalizing earlier inputs with
  | nil => simp [readings] at h
  | cons argument arguments ih =>
    rw [readings_cons] at h
    rw [run_readAll_cons]
    cases inputs with
    | nil =>
      obtain ⟨hargument, -⟩ := List.cons_eq_cons.mp h
      rw [hargument]
      rfl
    | cons input inputs =>
      obtain ⟨hargument, hothers⟩ := List.cons_eq_cons.mp h
      rw [hargument, ih hothers]
      rfl

end Program

/-- An input with its tokens, and with the reports about it that are not excused by the entries of
an allow list. -/
def Input.remaining (entries : List String) (input : Input) : Scanned :=
  ⟨input, (Scan.ofText input.source).tokens, input.unexcused entries⟩

theorem Input.scanAll_eq_map_remaining {options : OutputOptions} {config : Config}
    {settings : Settings} (h : Settings.resolve options config = .ok settings)
    (inputs : List Input) :
    scanAll inputs settings.allow = inputs.map (remaining (config.lex.allow ++ options.allow)) := by
  refine List.map_congr_left fun input _ => ?_
  rw [remaining, ← diagnostics_scan h]
  rfl

/-! ### Runs -/

/-- Whether something that a run writes is a report, and not an entry of the log. -/
def Emission.isReport : Emission → Bool
  | .log _ => false
  | _ => true

namespace Outcome

/-- What a run writes, in order, but for the log. -/
def reports (outcome : Outcome) : List Emission := outcome.emissions.filter (·.isReport)

/-- What a run writes about inputs that are at hand, and how it ends: `report` is the report on the
standard output, with all of its words. -/
structure WritesAll (outcome : Outcome) (report : List Chunk) (words : String)
    (shown strict : Bool) (items : List Scanned) : Prop where
  /-- First, there is the report on the standard output. Then, if diagnostics are to be shown, there
  is one on the standard error stream. -/
  reports_eq : outcome.reports =
    .output report :: if shown then [.diagnostics (Report.diagnostics items)] else []
  /-- On the standard output, the words of the first report are all there is. -/
  output_eq : Chunk.join outcome.output = words
  /-- On the standard error stream, the words of the second report are all there is. -/
  diagnostics_eq : Chunk.join outcome.diagnostics =
    if shown then Report.diagnosticsWords items else ""
  /-- Only strict mode makes the run fail, because of the first input that is not clean. -/
  failure?_eq : outcome.failure? =
    if strict then (items.findSome? Scanned.rejection?).map .lex else none

/-- What is not in the log is in the reports. -/
theorem flatMap_reports {α : Type} (outcome : Outcome) {part : Emission → List α}
    (hlog : ∀ entry, part (.log entry) = []) :
    outcome.reports.flatMap part = outcome.emissions.flatMap part := by
  rw [reports]
  induction outcome.emissions with
  | nil => rfl
  | cons emission emissions ih =>
    rw [List.flatMap_cons, ← ih]
    cases emission with
    | log entry =>
      rw [hlog]
      rfl
    | output report => rfl
    | diagnostics report => rfl

theorem writesAll_of_reports {outcome : Outcome} {report : List Chunk} {words : String}
    {shown strict : Bool} {items : List Scanned} (hwords : Chunk.join report = words)
    (hreports : outcome.reports =
      .output report :: if shown then [.diagnostics (Report.diagnostics items)] else [])
    (hfailure : outcome.failure? =
      if strict then (items.findSome? Scanned.rejection?).map .lex else none) :
    outcome.WritesAll report words shown strict items := by
  refine ⟨hreports, ?_, ?_, hfailure⟩
  · rw [output, ← flatMap_reports outcome fun _ => rfl, hreports, ← hwords]
    cases shown <;> simp
  · rw [diagnostics, ← flatMap_reports outcome fun _ => rfl, hreports]
    cases shown with
    | true => simp [Report.join_diagnostics]
    | false => rfl

end Outcome

namespace Program

theorem filter_isReport_map_log (entries : List LogEntry) :
    (entries.map Emission.log).filter (·.isReport) = [] := by
  simp [Emission.isReport]

/-- What is written about inputs does not depend on strict mode. -/
theorem reports_scanAndPrint (inputs : List Input) (settings : Settings) :
    (scanAndPrint inputs settings).reports =
      .output (Report.tokens settings.format (Input.scanAll inputs settings.allow)) ::
        if settings.showDiagnostics then
          [.diagnostics (Report.diagnostics (Input.scanAll inputs settings.allow))]
        else [] := by
  rw [← Input.map_allow_map_ofInput, scanAndPrint]
  split <;> cases settings.showDiagnostics <;>
    simp only [Outcome.reports, List.filter_append, filter_isReport_map_log] <;> rfl

theorem failure?_scanAndPrint_eq (inputs : List Input) (settings : Settings) :
    (scanAndPrint inputs settings).failure? =
      if settings.strict then
        ((Input.scanAll inputs settings.allow).findSome? Scanned.rejection?).map .lex
      else none := by
  cases hstrict : settings.strict with
  | true => exact failure?_scanAndPrint inputs hstrict
  | false =>
    rw [scanAndPrint, hstrict]
    rfl

section

variable {host : Host} {files : List String} {options : OutputOptions} {config : Config}
  {settings : Settings} {requests : List Request}

theorem run_lex_of_resolve_error {cause : ConfigError}
    (hresolve : Settings.resolve options config = .error cause) :
    (lex files options config).run host = (.failed (.config cause), []) := by
  rw [lex, hresolve]
  rfl

theorem run_lex_of_readAll_error {failure : Failure}
    (hresolve : Settings.resolve options config = .ok settings)
    (hread : (readAll (inputArguments files)).run host = (.error failure, requests)) :
    (lex files options config).run host = (.failed failure, requests) := by
  simp only [lex, hresolve, Inquiry.run_bind, hread, Inquiry.run_pure, List.append_nil]

/-- With settings and inputs at hand, a run only adds an entry to the log. -/
theorem run_lex_of_readAll {inputs : List Input}
    (hresolve : Settings.resolve options config = .ok settings)
    (hread : (readAll (inputArguments files)).run host = (.ok inputs, requests)) :
    ∃ outcome, (lex files options config).run host = (outcome, requests) ∧
      outcome.reports = (scanAndPrint inputs settings).reports ∧
      outcome.failure? = (scanAndPrint inputs settings).failure? := by
  simp only [lex, hresolve, Inquiry.run_bind, hread, Inquiry.run_pure, List.append_nil]
  exact ⟨_, rfl, rfl, rfl⟩

end

end Program

/-- **All or nothing.** A run with a wrong setting fails before it asks for anything and before it
writes anything: an unknown format comes first, then the first entry of the allow lists that is no
code. With right settings it asks for the inputs in the order of the arguments. The first one that
cannot be had ends the run, with its own failure, and again nothing is written. Otherwise all inputs
are asked for, and the reports about them are written, whole and in the order of the arguments; only
then can strict mode make the run fail. -/
theorem lex_all_or_nothing (host : Host) (files : List String) (options : OutputOptions)
    (config : Config) :
    let run := (Program.lex files options config).run host
    let arguments := if files = [] then ["-"] else files
    let name := Settings.formatName options config
    let entries := config.lex.allow ++ options.allow
    ((∀ format : OutputFormat, ¬ format.IsNamed name) →
        let failure := .config (Settings.formatError options config)
        run = (⟨[], some failure⟩, []) ∧
          failure.message = Settings.formatWords options config) ∧
      ∀ format : OutputFormat, format.IsNamed name →
        (∀ (front : List String) (entry : String) (back : List String),
          entries = front ++ entry :: back →
          (∀ earlier ∈ front, ∃ code, DiagnosticCode.parse earlier = .ok code) →
          (∀ code, DiagnosticCode.parse entry ≠ .ok code) →
            let failure := .config (.invalidCode (.invalid entry))
            run = (⟨[], some failure⟩, []) ∧
              failure.message = "Configuration error: Invalid diagnostic code: " ++ entry) ∧
        ((∀ entry ∈ entries, ∃ code, DiagnosticCode.parse entry = .ok code) →
          (∀ (inputs : List Input) (failure : Failure) (back : List (Except Failure Input)),
            Program.readings host [] arguments = inputs.map .ok ++ .error failure :: back →
              run = (⟨[], some failure⟩,
                (arguments.take (inputs.length + 1)).map Program.request)) ∧
          ∀ inputs : List Input, Program.readings host [] arguments = inputs.map .ok →
            let items := inputs.map (Input.remaining entries)
            let shown := !options.noDiagnostics && config.output.showDiagnostics
            let strict := options.strict || config.lex.strict
            run.2 = arguments.map Program.request ∧
              (format = .text → run.1.WritesAll (Report.text items) (Report.textWords items)
                shown strict items) ∧
              (format = .json → run.1.WritesAll (Report.json items) (Report.jsonWords items)
                shown strict items)) := by
  intro run arguments name entries
  refine ⟨fun hunknown => ?_, fun format hformat => ⟨?_, fun hentries => ?_⟩⟩
  · exact ⟨Program.run_lex_of_resolve_error (Settings.resolve_of_unknown_format hunknown),
      Settings.message_formatError options config⟩
  · intro front entry back hsplit hfront hentry
    exact ⟨Program.run_lex_of_resolve_error
        (Settings.resolve_of_bad_entry hformat hsplit hfront hentry),
      Settings.message_invalidCode entry⟩
  obtain ⟨codes, hresolve⟩ := Settings.exists_resolve hformat hentries
  constructor
  · intro inputs failure back hreadings
    exact Program.run_lex_of_readAll_error hresolve (Program.run_readAll_of_error hreadings)
  · intro inputs hreadings
    obtain ⟨outcome, hrun, hreports, hfailure⟩ := Program.run_lex_of_readAll hresolve
      (Program.run_readAll_of_ok hreadings)
    rw [Program.reports_scanAndPrint, Input.scanAll_eq_map_remaining hresolve] at hreports
    rw [Program.failure?_scanAndPrint_eq, Input.scanAll_eq_map_remaining hresolve] at hfailure
    have hrun : run = (outcome, arguments.map Program.request) := hrun
    rw [hrun]
    refine ⟨rfl, ?_, ?_⟩
    · rintro rfl
      exact Outcome.writesAll_of_reports (Report.join_text _) hreports hfailure
    · rintro rfl
      exact Outcome.writesAll_of_reports (Report.join_json _) hreports hfailure

/-- A format and an entry that do not exist, a file that does not exist between two inputs that can
be had, the standard input before and after a file with an open string literal, and the standard
input alone. -/
theorem lex_all_or_nothing_missing_file :
    let host : Host :=
      { isThere := fun path => path = "a.c"
        read := fun path => if path = "a.c" then .ok "x \"ab" else .error .notFound
        standardInput := .ok "y;"
        environment := fun _ => none }
    let several :=
      (Program.lex ["-", "a.c", "-"] { format? := some "TXT", strict := true } {}).run host
    let single := (Program.lex [] {} { output := { format := "json" } }).run host
    (Program.lex ["a.c"] { format? := some "xml", allow := ["q2"] } {}).run host =
        (⟨[], some (.config (.unknownFormat "xml"))⟩, []) ∧
      (Program.lex ["a.c"] { allow := ["z"] } { lex := { allow := ["w1", "q2", "e3"] } }).run host =
        (⟨[], some (.config (.invalidCode (.invalid "q2")))⟩, []) ∧
      (Program.lex ["a.c", "b.c", "-"] {} {}).run host =
        (⟨[], some (.read "b.c" .notFound)⟩, [.file "a.c", .file "b.c"]) ∧
      several.2 = [.standardInput, .file "a.c", .standardInput] ∧
      Chunk.join several.1.output =
        "==> <stdin> <==\nIDENTIFIER 'y' at 1:1\nOPERATOR ';' at 1:2\n\n" ++
        "==> a.c <==\nIDENTIFIER 'x' at 1:1\nSTRING_LITERAL 'ab' at 1:3\n\n" ++
        "==> <stdin> <==\n" ∧
      Chunk.join several.1.diagnostics =
        "warning[W1001]: unterminated string literal\n" ++
        "  --> a.c:1:3\n  1 | x \"ab\n    |   ^^^\n" ∧
      several.1.failure? = some (.lex (.diagnostics 1
        ⟨.warning, "unterminated string literal", ⟨2, 5, 1, 3⟩, some ⟨"W", 1001⟩⟩)) ∧
      Chunk.join single.1.output =
        "\x7b\"file\":\"<stdin>\",\"tokens\":[" ++
        "\x7b\"kind\":\"IDENTIFIER\",\"lexeme\":\"y\",\"line\":1,\"column\":1\x7d," ++
        "\x7b\"kind\":\"OPERATOR\",\"lexeme\":\";\",\"line\":1,\"column\":2\x7d" ++
        "],\"diagnostics\":[]\x7d\n" := by
  intro host several single
  have hunknown := (lex_all_or_nothing host ["a.c"]
    { format? := some "xml", allow := ["q2"] } {}).1
  have hentry := ((lex_all_or_nothing host ["a.c"] { allow := ["z"] }
    { lex := { allow := ["w1", "q2", "e3"] } }).2 .text (by decide)).1
  have hmissing := (((lex_all_or_nothing host ["a.c", "b.c", "-"] {} {}).2 .text (by decide)).2
    (by simp)).1
  have hseveral := (((lex_all_or_nothing host ["-", "a.c", "-"]
    { format? := some "TXT", strict := true } {}).2 .text (by decide)).2 (by simp)).2
      [⟨"<stdin>", "y;"⟩, ⟨"a.c", "x \"ab"⟩, ⟨"<stdin>", ""⟩] rfl
  have hsingle := (((lex_all_or_nothing host [] {} { output := { format := "json" } }).2 .json
    (by decide)).2 (by simp)).2 [⟨"<stdin>", "y;"⟩] rfl
  have hbad : ∀ code, DiagnosticCode.parse "q2" ≠ .ok code := by
    intro code h
    have hparse : DiagnosticCode.parse "q2" = .error (.invalid "q2") := rfl
    rw [hparse] at h
    cases h
  obtain ⟨hrequests, hwrites, -⟩ := hseveral
  refine ⟨(hunknown ?_).1, (hentry ["w1"] "q2" ["e3", "z"] rfl ?_ hbad).1, ?_, hrequests,
    ?_, ?_, ?_, ?_⟩
  · intro format
    cases format <;> decide
  · exact List.forall_mem_singleton.mpr ⟨⟨"W", 1⟩, rfl⟩
  · exact hmissing [⟨"a.c", "x \"ab"⟩] (.read "b.c" .notFound) [.ok ⟨"<stdin>", "y;"⟩] rfl
  · exact (hwrites rfl).output_eq.trans (by decide +kernel)
  · exact (hwrites rfl).diagnostics_eq.trans (by decide +kernel)
  · exact (hwrites rfl).failure?_eq.trans (by decide +kernel)
  · exact (hsingle.2.2 rfl).output_eq.trans (by decide +kernel)

end TokenScan
