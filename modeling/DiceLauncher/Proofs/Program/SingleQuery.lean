import DiceLauncher.Dice.Scripted
import DiceLauncher.Program
import DiceLauncher.Proofs.Session.Automatic
import DiceLauncher.Proofs.Session.Command

/-!
# Rolling the terms of the command line

With terms on the command line a run is meant to be one query: it lists the entries and, if a
term can be read, rolls the first of them. The terms are joined and taken as an input line, so
this holds unless they look like a sign. Joined terms that are the help sign show the help,
and those that are the trigger sign with a number are refused, as there is no listing yet.

A query is described twice: by its events, which hold entries and a notification, and by the
texts that are printed for them. The two differ where nothing can be read: the help entry keeps the
text of the query, without the blanks around it, and that is not printed.

Results:
* `RunsQuery.showsQuery`: the events of a query are shown as a query.
* `Session.runsQuery_handle_iff`, `Session.showsQuery_handle_iff`: the lines whose events, and
  whose texts, are those of their query.
* `run_terms_eq`, `run_terms_run`: what a run with terms comes to, whatever its settings are.
* `run_terms_showsQuery_iff`: the runs that are one query.
-/

namespace DiceLauncher

/-! ## Specification -/

/-- The texts among pieces of output that go to standard output. -/
def Output.texts (pieces : List Output) : List String :=
  pieces.filterMap fun
    | .printed text => some text
    | .remarked _ | .logged _ => none

/-- A line that is no query: the help sign, or the trigger sign with a number. -/
def Command.IsSign (line : String) : Prop :=
  Text.trim line.toList = ['?'] ∨
    ∃ rest index, Text.trim line.toList = '!' :: rest ∧ index? (Text.trim rest) = some index

/-- A term of a query can be read. -/
def Query.IsReadable (query : Query) : Prop :=
  ∃ term ∈ query.terms, ∃ spec, RollSpec.parse term = .ok spec

/-- The events of a line are those of a query: its listing is shown, once, and then the roll of its
first entry, once, if a term can be read. The state of the source changes by that roll only. -/
structure RunsQuery {σ : Type} (source : Source (StateM σ)) (query : Query) (state : σ)
    (events : List Event) (after : σ) : Prop where
  /-- A term can be read, and the first entry is rolled. -/
  rolled : query.IsReadable → ∃ batch report notification,
    batchAt query.results 0 = some batch ∧ (batch.roll source).run state = (report, after) ∧
    notification.Tells report ∧
    displays events = [.listed query.results, .shown notification]
  /-- No term can be read, and nothing is rolled. -/
  listed : ¬ query.IsReadable → displays events = [.listed query.results] ∧ after = state

/-- The texts of a run show a query: its listing, once, and then the roll of its first entry, once,
if a term can be read. The state of the source changes by that roll only. -/
structure ShowsQuery {σ : Type} (source : Source (StateM σ)) (colors : Bool) (query : Query)
    (state : σ) (texts : List String) (after : σ) : Prop where
  /-- A term can be read, and the first entry is rolled. -/
  rolled : query.IsReadable → ∃ batch report notification,
    batchAt query.results 0 = some batch ∧ (batch.roll source).run state = (report, after) ∧
    notification.Tells report ∧
    texts = [Screen.listing colors query.results, Screen.notification notification]
  /-- No term can be read, and nothing is rolled. -/
  listed : ¬ query.IsReadable → texts = [Screen.listing colors query.results] ∧ after = state

/-! ## Texts -/

namespace Output

/-- Records are no texts of standard output. -/
theorem texts_map_logged_append (records : List Log.Record) (pieces : List Output) :
    texts (records.map .logged ++ pieces) = texts pieces := by
  simp [texts]

/-- Whatever is printed is wanted. -/
@[simp] theorem texts_filter_isWanted (debug : Bool) (pieces : List Output) :
    texts (pieces.filter (isWanted debug)) = texts pieces := by
  rw [texts, texts, List.filterMap_filter]
  refine List.filterMap_congr fun piece _ => ?_
  cases piece <;> simp [isWanted]

end Output

/-- What is printed for events are the texts of what they display. -/
theorem Screen.texts_flatMap_outputs (colors : Bool) (events : List Event) :
    Output.texts (events.flatMap (outputs colors)) =
      Output.texts ((displays events).flatMap (outputs colors)) := by
  induction events with
  | nil => rfl
  | cons event events ih =>
    have hcons (pieces : List Output) :
        Output.texts (outputs colors event ++ pieces) =
          Output.texts (outputs colors event) ++ Output.texts pieces := List.filterMap_append ..
    rw [List.flatMap_cons, hcons, ih]
    cases event <;> simp [displays, outputs, Output.texts]

/-! ## Listings on the screen -/

/-- The listing that is shown depends on the batch only: the search text is not part of it. -/
theorem Screen.listing_results_congr (colors : Bool) {first second : Query}
    (h : first.batch = second.batch) :
    listing colors first.results = listing colors second.results := by
  rw [Query.results, Query.results, Query.customEntry, Query.customEntry, h]
  split_ifs
  · rfl
  · rfl

/-- No listing looks like the help. -/
theorem Screen.help_ne_listing (colors : Bool) {query : Query} (h : query.batch = []) :
    help colors ≠ listing colors query.results := by
  have hempty : query.batch = (Query.ofTerms []).batch := h
  rw [listing_results_congr colors hempty]
  cases colors <;> decide +kernel

/-! ## Queries of joined terms -/

namespace Query

theorem isReadable_iff {query : Query} : query.IsReadable ↔ query.batch ≠ [] :=
  batch_ne_nil_iff.symm

/-- Queries with the same batch have the same listing, if the batch is not empty; else the listing
gives the search text back. -/
theorem results_eq_iff {first second : Query} (h : first.batch = second.batch) :
    first.results = second.results ↔ first.IsReadable ∨ first.search = second.search := by
  rw [isReadable_iff]
  unfold results helpEntry customEntry
  rw [h]
  by_cases hnil : second.batch = []
  · simp [hnil]
  · simp [hnil]

/-- If nothing can be read, a blank in front of the text can be told by the help entry. -/
example : (ofSearch " x").batch = (ofSearch "x").batch ∧
    (ofSearch " x").results ≠ (ofSearch "x").results := by decide +kernel

end Query

section

variable {σ : Type} {source : Source (StateM σ)} {colors : Bool} {first second query : Query}
  {state after : σ} {events : List Event}

/-- The first thing that a query displays is its listing. -/
theorem RunsQuery.head?_displays (h : RunsQuery source query state events after) :
    (displays events).head? = some (.listed query.results) := by
  by_cases hread : query.IsReadable
  · obtain ⟨batch, report, notification, -, -, -, hdisplays⟩ := h.rolled hread
    rw [hdisplays, List.head?_cons]
  · rw [(h.listed hread).1, List.head?_cons]

/-- Queries that have the same events have the same listing. -/
theorem RunsQuery.results_eq (hfirst : RunsQuery source first state events after)
    (hsecond : RunsQuery source second state events after) : first.results = second.results :=
  Event.listed.inj (Option.some.inj (hfirst.head?_displays.symm.trans hsecond.head?_displays))

/-- The texts of a query are those of its events. -/
theorem RunsQuery.showsQuery (colors : Bool) (h : RunsQuery source query state events after) :
    ShowsQuery source colors query state
      (Output.texts (events.flatMap (Screen.outputs colors))) after := by
  constructor
  · intro hread
    obtain ⟨batch, report, notification, hbatch, hroll, htells, hdisplays⟩ := h.rolled hread
    refine ⟨batch, report, notification, hbatch, hroll, htells, ?_⟩
    rw [Screen.texts_flatMap_outputs, hdisplays]
    rfl
  · intro hread
    obtain ⟨hdisplays, hafter⟩ := h.listed hread
    refine ⟨?_, hafter⟩
    rw [Screen.texts_flatMap_outputs, hdisplays]
    rfl

/-- Queries with the same listing run in the same way. -/
theorem RunsQuery.congr (hbatch : first.batch = second.batch)
    (hresults : first.results = second.results) (h : RunsQuery source first state events after) :
    RunsQuery source second state events after := by
  have hread : first.IsReadable ↔ second.IsReadable := by
    rw [Query.isReadable_iff, Query.isReadable_iff, hbatch]
  constructor
  · rw [← hread, ← hresults]
    exact h.rolled
  · rw [← hread, ← hresults]
    exact h.listed

/-- Queries with the same batch look the same on the screen. -/
theorem ShowsQuery.congr {texts : List String} (hbatch : first.batch = second.batch)
    (h : ShowsQuery source colors first state texts after) :
    ShowsQuery source colors second state texts after := by
  have hread : first.IsReadable ↔ second.IsReadable := by
    rw [Query.isReadable_iff, Query.isReadable_iff, hbatch]
  have hzero : batchAt first.results 0 = batchAt second.results 0 := by
    rw [Query.batchAt_zero, Query.batchAt_zero, hbatch]
  have hlisting := Screen.listing_results_congr colors hbatch
  constructor
  · rw [← hread, ← hzero, ← hlisting]
    exact h.rolled
  · rw [← hread, ← hlisting]
    exact h.listed

end

/-- A query on an input line has the batch of the line, whatever blanks stand around it. -/
theorem Command.batch_of_parse {line : String} {query : Query} (h : parse line = .query query) :
    query.batch = (Query.ofSearch line).batch := by
  rw [Query.batch, terms_of_parse h]
  rfl

theorem Command.isSign_iff {line : String} :
    IsSign line ↔ ∀ query, parse line ≠ .query query := by
  rw [IsSign]
  obtain ⟨htrim, hparse⟩ | ⟨rest, index, htrim, hindex, hparse⟩ | ⟨hhelp, hsign, hparse⟩ :=
    parse_cases line
  · simp [htrim, hparse]
  · refine iff_of_true (.inr ⟨rest, index, htrim, hindex⟩) fun query => ?_
    rw [hparse]
    exact nofun
  · refine iff_of_false ?_ fun h => h _ hparse
    rintro (htrim | ⟨rest, index, htrim, hindex⟩)
    · exact hhelp htrim
    · exact absurd (hsign rest htrim) (by simp [hindex])

/-- A line that is no sign is a query; it has lost the blanks around it. -/
theorem Command.parse_of_not_isSign {line : String} (h : ¬ IsSign line) :
    parse line = .query (.ofSearch (String.ofList (Text.trim line.toList))) := by
  obtain ⟨htrim, -⟩ | ⟨rest, index, htrim, hindex, -⟩ | ⟨-, -, hparse⟩ := parse_cases line
  · exact absurd (.inl htrim) h
  · exact absurd (.inr ⟨rest, index, htrim, hindex⟩) h
  · exact hparse

/-- The help sign is no term that can be read. -/
theorem Command.batch_of_help_sign {line : String} (h : Text.trim line.toList = ['?']) :
    (Query.ofSearch line).batch = [] := by
  have hterms : (Query.ofSearch line).terms = ["?"] := by
    rw [Query.ofSearch, ← Text.words_trim, h]
    rfl
  rw [Query.batch, hterms]
  decide +kernel

/-! ## Texts that show no query -/

section

variable {σ : Type} {source : Source (StateM σ)} {colors : Bool} {state after : σ}

/-- The help is not shown for a query. -/
theorem not_showsQuery_help {line : String} (h : Text.trim line.toList = ['?']) :
    ¬ ShowsQuery source colors (.ofSearch line) state [Screen.help colors] after := by
  have hbatch := Command.batch_of_help_sign h
  intro hshows
  have htexts := (hshows.listed (by simp [Query.isReadable_iff, hbatch])).1
  exact Screen.help_ne_listing colors hbatch (List.cons.inj htexts).1

/-- A query does not go without a listing. -/
theorem not_showsQuery_nil {query : Query} :
    ¬ ShowsQuery source colors query state [] after := by
  intro hshows
  by_cases hread : query.IsReadable
  · obtain ⟨batch, report, notification, -, -, -, htexts⟩ := hshows.rolled hread
    exact List.cons_ne_nil _ _ htexts.symm
  · exact List.cons_ne_nil _ _ (hshows.listed hread).1.symm

end

/-! ## Lines that are handled at once -/

namespace Session

variable {σ : Type} (source : Source (StateM σ))

/-- A query is listed, and then its first entry is triggered. -/
theorem runsQuery_handle {line : String} {query : Query} (h : Command.parse line = .query query)
    (state : σ) :
    RunsQuery source query state ((handle source ⟨true, []⟩ line).run state).1.2
      ((handle source ⟨true, []⟩ line).run state).2 := by
  have hdisplays (rolled : List Event) :
      displays (query.log.map .logged ++ .listed query.results :: rolled) =
        .listed query.results :: displays rolled := by
    rw [displays_append, displays_map_logged, List.nil_append, displays_listed_cons]
  rw [handle_query_auto source h, triggerFirst_eq, Query.batchAt_zero]
  constructor
  · intro hread
    have hne := Query.isReadable_iff.mp hread
    rw [if_neg hne]
    exact ⟨query.batch, _, _, by rw [Query.batchAt_zero, if_neg hne], rfl,
      Notification.tells_rolling _, hdisplays _⟩
  · intro hread
    have hnil : query.batch = [] := by simpa [Query.isReadable_iff] using hread
    rw [if_pos hnil]
    exact ⟨hdisplays [], rfl⟩

/-- The lines whose events are those of their query: no signs, and either a term can be read or
there are no blanks around the text that is given back. -/
theorem runsQuery_handle_iff (line : String) (state : σ) :
    RunsQuery source (.ofSearch line) state ((handle source ⟨true, []⟩ line).run state).1.2
        ((handle source ⟨true, []⟩ line).run state).2 ↔
      ¬ Command.IsSign line ∧
        ((Query.ofSearch line).IsReadable ∨ Text.trim line.toList = line.toList) := by
  by_cases hsign : Command.IsSign line
  · refine iff_of_false (fun hruns => ?_) fun h => h.1 hsign
    have hhead := hruns.head?_displays
    obtain htrim | ⟨rest, index, htrim, hindex⟩ := hsign
    · rw [handle_help source (Command.parse_eq_help_iff.mpr htrim)] at hhead
      exact absurd (Option.some.inj hhead) nofun
    · have hline := Command.parse_of_index? htrim hindex
      rw [run_handle_trigger_of_none source hline rfl] at hhead
      exact absurd hhead nofun
  · have hline := Command.parse_of_not_isSign hsign
    have hruns := runsQuery_handle source hline state
    have hbatch := Command.batch_of_parse hline
    have hsearch : (Query.ofSearch line).search =
        (Query.ofSearch (String.ofList (Text.trim line.toList))).search ↔
          Text.trim line.toList = line.toList := by
      rw [eq_comm, ← String.toList_inj, Query.ofSearch, Query.ofSearch, String.toList_ofList]
    rw [← hsearch, ← Query.results_eq_iff hbatch.symm]
    exact ⟨fun h => ⟨hsign, h.results_eq hruns⟩, fun h => hruns.congr hbatch h.2.symm⟩

/-- The lines whose texts are those of their query: no signs. -/
theorem showsQuery_handle_iff (colors : Bool) (line : String) (state : σ) :
    ShowsQuery source colors (.ofSearch line) state
        (Output.texts (((handle source ⟨true, []⟩ line).run state).1.2.flatMap
          (Screen.outputs colors)))
        ((handle source ⟨true, []⟩ line).run state).2 ↔
      ¬ Command.IsSign line := by
  by_cases hsign : Command.IsSign line
  · refine iff_of_false ?_ (not_not.mpr hsign)
    obtain htrim | ⟨rest, index, htrim, hindex⟩ := hsign
    · rw [run_handle_help source (Command.parse_eq_help_iff.mpr htrim)]
      exact not_showsQuery_help htrim
    · rw [run_handle_trigger_of_none source (Command.parse_of_index? htrim hindex) rfl]
      exact not_showsQuery_nil
  · have hline := Command.parse_of_not_isSign hsign
    have hshows := (runsQuery_handle source hline state).showsQuery colors
    exact iff_of_true (hshows.congr (Command.batch_of_parse hline)) hsign

end Session

namespace Program

/-! ## Runs -/

/-- What is read before the terms are rolled leaves nothing but records. -/
theorem run_terms_eq {m : Type → Type} [Monad m] [LawfulMonad m] (source : Source m)
    {arguments : List String} {options : CommandLine.Options}
    (hparse : CommandLine.parse arguments = .ok options) (hdump : options.dumpConfig = false)
    (hterms : options.terms ≠ []) (shades : Style.Colors) (disk : Disk) (input : Input) :
    ∃ records : List Log.Record, run source shades disk input arguments =
      (fun outputs => ⟨0, (records.map Output.logged ++ outputs).filter
        (Output.isWanted options.debug), disk⟩) <$>
        rollTerms source shades.session options.terms := by
  refine ⟨(Settings.load options.config (readFile disk input options.config).1).2, ?_⟩
  have hnonempty : options.terms.isEmpty = false := by simpa using hterms
  rw [run, hparse]
  simp only [perform, hdump, hnonempty, Bool.false_eq_true, if_false, bind_pure_comp,
    Functor.map_map]

variable {σ : Type} (source : Source (StateM σ))

/-- A run that has terms puts out what the joined terms come to as an input line, behind what was
recorded before. -/
theorem run_terms_run {arguments : List String} {options : CommandLine.Options}
    (hparse : CommandLine.parse arguments = .ok options) (hdump : options.dumpConfig = false)
    (hterms : options.terms ≠ []) (shades : Style.Colors) (disk : Disk) (input : Input)
    {state after : σ} {session : Session} {events : List Event}
    (hhandle : (Session.handle source ⟨true, []⟩ (String.intercalate " " options.terms)).run state =
      ((session, events), after)) :
    ∃ records : List Log.Record, (run source shades disk input arguments).run state =
      (⟨0, (records.map Output.logged ++ events.flatMap (Screen.outputs shades.session)).filter
        (Output.isWanted options.debug), disk⟩, after) := by
  obtain ⟨records, hrun⟩ := run_terms_eq source hparse hdump hterms shades disk input
  have hroll : (rollTerms source shades.session options.terms).run state =
      (events.flatMap (Screen.outputs shades.session), after) :=
    congrArg (fun handled : (Session × List Event) × σ =>
      (handled.1.2.flatMap (Screen.outputs shades.session), handled.2)) hhandle
  refine ⟨records, ?_⟩
  rw [hrun, StateT.run_map, hroll]
  rfl

/-- A run that has terms ends well and leaves the disk as it is. It shows the query of the joined
terms if and only if these are no sign. For the help sign it shows the help; for the trigger sign
with a number it shows nothing and records that there is no such entry. Neither throws dice.

What it puts out are the events of the joined terms as an input line. Unless the terms are a sign,
these are the events of the query of their text without the blanks around it; they are the events
of the query of the text itself if a term can be read, and else only if there are no such blanks,
since the help entry gives the text back. -/
theorem run_terms_showsQuery_iff {arguments : List String} {options : CommandLine.Options}
    (hparse : CommandLine.parse arguments = .ok options) (hdump : options.dumpConfig = false)
    (hterms : options.terms ≠ []) (shades : Style.Colors) (disk : Disk) (input : Input)
    (state : σ) :
    let joined := String.intercalate " " options.terms
    ∃ result after, (run source shades disk input arguments).run state = (result, after) ∧
      result.status = 0 ∧ result.disk = disk ∧
      (ShowsQuery source shades.session (.ofSearch joined) state (Output.texts result.outputs)
        after ↔ ¬ Command.IsSign joined) ∧
      (Text.trim joined.toList = ['?'] →
        Output.texts result.outputs = [Screen.help shades.session] ∧ after = state) ∧
      (∀ rest index, Text.trim joined.toList = '!' :: rest →
        Command.index? (Text.trim rest) = some index →
        Output.texts result.outputs = [] ∧ after = state ∧
          .logged (Log.warn ("No entry " ++ Decimal.render index ++ " in the last listing")) ∈
            result.outputs) ∧
      ∃ session events, ∃ records : List Log.Record,
        (Session.handle source ⟨true, []⟩ joined).run state = ((session, events), after) ∧
        result.outputs = (records.map Output.logged ++
          events.flatMap (Screen.outputs shades.session)).filter (Output.isWanted options.debug) ∧
        (¬ Command.IsSign joined →
          RunsQuery source (.ofSearch (String.ofList (Text.trim joined.toList))) state events
            after) ∧
        (RunsQuery source (.ofSearch joined) state events after ↔
          ¬ Command.IsSign joined ∧
            ((Query.ofSearch joined).IsReadable ∨ Text.trim joined.toList = joined.toList)) := by
  intro joined
  obtain ⟨⟨⟨session, events⟩, after⟩, hhandle⟩ :
    ∃ handled, (Session.handle source ⟨true, []⟩ joined).run state = handled := ⟨_, rfl⟩
  obtain ⟨records, hrun⟩ := run_terms_run source hparse hdump hterms shades disk input hhandle
  have hshows := Session.showsQuery_handle_iff source shades.session joined state
  have hruns := Session.runsQuery_handle_iff source joined state
  rw [hhandle] at hshows hruns
  refine ⟨_, after, hrun, rfl, rfl, ?_⟩
  rw [Output.texts_filter_isWanted, Output.texts_map_logged_append]
  refine ⟨hshows, fun hhelp => ?_, fun rest index htrim hindex => ?_, session, events, records,
    hhandle, rfl, fun hsign => ?_, hruns⟩
  -- the help sign
  · rw [Session.run_handle_help source (Command.parse_eq_help_iff.mpr hhelp)] at hhandle
    obtain ⟨hevents, rfl⟩ := Prod.mk.inj hhandle
    obtain ⟨-, rfl⟩ := Prod.mk.inj hevents
    exact ⟨rfl, rfl⟩
  -- the trigger sign with a number
  · have hline := Command.parse_of_index? htrim hindex
    rw [Session.run_handle_trigger_of_none source hline rfl] at hhandle
    obtain ⟨hevents, rfl⟩ := Prod.mk.inj hhandle
    obtain ⟨-, rfl⟩ := Prod.mk.inj hevents
    -- a warning is put out whether or not debugging records are wanted
    refine ⟨rfl, rfl, List.mem_filter.mpr ⟨?_, by simp [Output.isWanted, Log.warn]⟩⟩
    exact List.mem_append_right _ (List.mem_singleton_self _)
  -- a query
  · have hquery := Session.runsQuery_handle source (Command.parse_of_not_isSign hsign) state
    rwa [hhandle] at hquery

/-- With a term that cannot be read, an empty argument and a term that can, the last is rolled. -/
theorem run_terms_showsQuery_iff_mixed :
    let arguments := ["", "!x", "3d6"]
    let script : Dice.Script := { faces := [3, 1, 5] }
    CommandLine.parse arguments = .ok { terms := arguments } ∧ ¬ Command.IsSign " !x 3d6" ∧
    ∃ result after,
      (run Dice.scripted ⟨false, false⟩ {} (.piped []) arguments).run script = (result, after) ∧
      ShowsQuery Dice.scripted false (.ofSearch " !x 3d6") script (Output.texts result.outputs)
        after ∧
      ∃ session events,
        (Session.handle Dice.scripted ⟨true, []⟩ " !x 3d6").run script =
          ((session, events), after) ∧
        RunsQuery Dice.scripted (.ofSearch " !x 3d6") script events after ∧
        displays events = [.listed (Query.ofSearch " !x 3d6").results,
          .shown ⟨"Rolling...", "3d6: 3, 1, 5 = 9", .dice⟩] ∧
        after.requests = [6, 6, 6] := by
  intro arguments script
  have hparse : CommandLine.parse arguments = .ok { terms := arguments } := by decide +kernel
  have hjoined : String.intercalate " " arguments = " !x 3d6" := by decide +kernel
  have hsign : ¬ Command.IsSign " !x 3d6" := fun h => by
    have hline : Command.parse " !x 3d6" = .query ⟨"!x 3d6", ["!x", "3d6"]⟩ := by cbv
    exact Command.isSign_iff.mp h _ hline
  have hread : (Query.ofSearch " !x 3d6").IsReadable := by
    rw [Query.isReadable_iff]
    decide +kernel
  obtain ⟨result, after, hrun, -, -, hshows, -, -, session, events, records, hhandle, -, -,
      hruns⟩ :=
    run_terms_showsQuery_iff Dice.scripted hparse rfl (List.cons_ne_nil _ _) ⟨false, false⟩ {}
      (.piped []) script
  simp only [hjoined] at hshows hhandle hruns
  have hdisplays : displays events = [.listed (Query.ofSearch " !x 3d6").results,
      .shown ⟨"Rolling...", "3d6: 3, 1, 5 = 9", .dice⟩] :=
    (congrArg (fun handled => displays handled.1.2) hhandle).symm.trans (by decide +kernel)
  have hrequests : after.requests = [6, 6, 6] :=
    (congrArg (fun handled => handled.2.requests) hhandle).symm.trans (by decide +kernel)
  exact ⟨hparse, hsign, result, after, hrun, hshows.mpr hsign, session, events, hhandle,
    hruns.mpr ⟨hsign, .inl hread⟩, hdisplays, hrequests⟩

/-- The help sign on the command line shows the help, and not the query of that term. -/
theorem run_help_sign_not_showsQuery :
    ∃ result after,
      (run Dice.scripted ⟨false, false⟩ {} (.piped []) ["?"]).run { faces := [] } =
        (result, after) ∧
      Output.texts result.outputs = [Screen.help false] ∧
      ¬ ShowsQuery Dice.scripted false (.ofSearch "?") { faces := [] }
        (Output.texts result.outputs) after := by
  have hparse : CommandLine.parse ["?"] = .ok { terms := ["?"] } := by decide +kernel
  have htrim : Text.trim (String.intercalate " " ["?"]).toList = ['?'] := by decide +kernel
  have hhandle : (Session.handle Dice.scripted ⟨true, []⟩ (String.intercalate " " ["?"])).run
      { faces := [] } = ((⟨true, []⟩, [.helped]), { faces := [] }) :=
    Session.run_handle_help Dice.scripted (Command.parse_eq_help_iff.mpr htrim) _
  obtain ⟨records, hrun⟩ := run_terms_run Dice.scripted hparse rfl (List.cons_ne_nil _ _)
    ⟨false, false⟩ {} (.piped []) hhandle
  have htexts : Output.texts ((records.map Output.logged ++
      [Event.helped].flatMap (Screen.outputs false)).filter (Output.isWanted false)) =
        [Screen.help false] := by
    rw [Output.texts_filter_isWanted, Output.texts_map_logged_append]
    rfl
  refine ⟨_, _, hrun, htexts, ?_⟩
  rw [htexts]
  exact not_showsQuery_help htrim

end Program

end DiceLauncher
