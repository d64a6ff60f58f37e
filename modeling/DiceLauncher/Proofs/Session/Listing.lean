import DiceLauncher.Dice.Scripted
import DiceLauncher.Proofs.Launcher.Entries
import DiceLauncher.Session.Basic

/-!
# The listing of a session

The one thing that a session keeps from line to line is the listing of the last query, and
a trigger is about that listing however many lines ago the query was.

Results:
* `Session.triggerAt_eq`: a trigger rolls the batch behind an entry, or tells why not.
* `Session.fst_run`, `Session.exists_run`: the listing after any lines.
* `Notification.tells_rolling`: what the notification of a roll tells.
* `Session.run_listing`: the listing after any lines, and what a command does then.
-/

namespace DiceLauncher

/-! ## Specification -/

/-- The query that a command asks for, if it is one. -/
def Command.query? : Command → Option Query
  | .query asked => some asked
  | .help | .trigger _ => none

/-- The query of the last line that is one. -/
def lastQuery (lines : List String) : Option Query :=
  (lines.filterMap fun line => (Command.parse line).query?).getLast?

/-- What is shown among events. -/
def notifications (events : List Event) : List Notification :=
  events.filterMap fun
    | .shown notification => some notification
    | _ => none

/-- A notification tells of a report: it says that dice are rolled, and its text is the body of the
report. -/
structure Notification.Tells (notification : Notification) (report : Report) : Prop where
  title : notification.title = Catalog.rolling
  body : notification.body = report.body

theorem Notification.tells_rolling (report : Report) : (rolling report.body).Tells report :=
  ⟨title_rolling report.body, body_rolling report.body⟩

namespace Session

/-- Whether an entry can be rolled after some lines: there was a query, and the entry is a quick
roll, or it is the first one and a term of the last query was read. -/
def CanRoll (lines : List String) (index : Nat) : Prop :=
  ∃ query, lastQuery lines = some query ∧
    ((1 ≤ index ∧ index ≤ 7) ∨
      (index = 0 ∧ ∃ term ∈ query.terms, ∃ spec, RollSpec.parse term = .ok spec))

/-- What a trigger records when there is nothing to roll. -/
def refusal (listing : List Entry) (index : Nat) : Log.Record :=
  if index < listing.length then
    Log.info ("Entry " ++ Decimal.render index ++ " has nothing to roll")
  else Log.warn ("No entry " ++ Decimal.render index ++ " in the last listing")

/-! ## One line -/

section Handle

variable {m : Type → Type} [Monad m] (source : Source m)

theorem handle_help {session : Session} {line : String} (h : Command.parse line = .help) :
    session.handle source line = pure (session, [.helped]) := by
  rw [handle, h, perform]

variable [LawfulMonad m]

/-- A trigger rolls the batch behind an entry, or tells why there is none. -/
theorem triggerAt_eq (listing : List Entry) (index : Nat) :
    triggerAt source listing index =
      match batchAt listing index with
      | some batch => batch.trigger source
      | none => pure [.logged (refusal listing index)] := by
  rw [triggerAt, batchAt, refusal]
  cases hentry : listing[index]? with
  | none =>
    have hlength : listing.length ≤ index := List.getElem?_eq_none_iff.mp hentry
    simp [Nat.not_lt.mpr hlength]
  | some entry =>
    have hlength : index < listing.length := (List.getElem?_eq_some_iff.mp hentry).1
    cases haction : entry.action <;> simp [Entry.trigger, haction, hlength]

theorem handle_trigger {session : Session} {line : String} {index : Nat}
    (h : Command.parse line = .trigger index) :
    session.handle source line =
      (fun events => (session, events)) <$> triggerAt source session.listing index := by
  rw [handle, h, perform, bind_pure_comp]

end Handle

/-! ## Any number of lines -/

section Run

variable {σ : Type} (source : Source (StateM σ))

/-- A line changes nothing but the listing, and only a query does so. -/
theorem fst_handle (session : Session) (line : String) (state : σ) :
    ((session.handle source line).run state).1.1 =
      { session with
        listing := (Command.parse line).query?.elim session.listing Query.results } := by
  rw [handle]
  cases Command.parse line with
  | help => rfl
  | trigger index => rfl
  | query query =>
    obtain ⟨autoTrigger, listing⟩ := session
    cases autoTrigger <;> rfl

theorem fst_run_cons (session : Session) (line : String) (lines : List String) (state : σ) :
    ((session.run source (line :: lines)).run state).1.1 =
      ((run source ((session.handle source line).run state).1.1 lines).run
        ((session.handle source line).run state).2).1.1 := rfl

/-- The listing after any lines is that of the last query among them. -/
theorem fst_run (session : Session) (lines : List String) (state : σ) :
    ((session.run source lines).run state).1.1 =
      { session with listing := (lastQuery lines).elim session.listing Query.results } := by
  induction lines generalizing session state with
  | nil => rfl
  | cons line lines ih =>
    rw [fst_run_cons, ih, fst_handle, lastQuery, lastQuery, List.filterMap_cons]
    cases (Command.parse line).query? with
    | none => rfl
    | some query =>
      rw [List.getLast?_cons]
      cases (lines.filterMap fun line => (Command.parse line).query?).getLast? <;> rfl

/-- A run ends, and its session has the listing of the last query. -/
theorem exists_run (session : Session) (lines : List String) (state : σ) :
    ∃ last events final, (session.run source lines).run state = ((last, events), final) ∧
      last = { session with listing := (lastQuery lines).elim session.listing Query.results } :=
  ⟨_, _, _, rfl, fst_run source session lines state⟩

/-! ## The next line -/

/-- An entry of the listing after some lines has a batch if it can be rolled. -/
theorem isSome_batchAt_iff_canRoll (lines : List String) (index : Nat) :
    (batchAt ((lastQuery lines).elim [] Query.results) index).isSome ↔ CanRoll lines index := by
  rw [CanRoll]
  cases lastQuery lines with
  | none => simp [batchAt]
  | some query => simpa using query.isSome_batchAt_iff

theorem run_handle_help {session : Session} {line : String} (h : Command.parse line = .help)
    (state : σ) :
    (session.handle source line).run state = ((session, [.helped]), state) := by
  rw [handle_help source h]
  rfl

theorem run_handle_trigger_of_some {session : Session} {line : String} {index : Nat}
    {batch : Batch} (h : Command.parse line = .trigger index)
    (hbatch : batchAt session.listing index = some batch) (state : σ) :
    (session.handle source line).run state =
      ((session, [.logged (batch.rolledRecord ((batch.roll source).run state).1.body),
        .shown (.rolling ((batch.roll source).run state).1.body)]),
        ((batch.roll source).run state).2) := by
  rw [handle_trigger source h, triggerAt_eq, hbatch]
  rfl

theorem run_handle_trigger_of_none {session : Session} {line : String} {index : Nat}
    (h : Command.parse line = .trigger index) (hbatch : batchAt session.listing index = none)
    (state : σ) :
    (session.handle source line).run state =
      ((session, [.logged (refusal session.listing index)]), state) := by
  rw [handle_trigger source h, triggerAt_eq, hbatch]
  rfl

theorem level_refusal (listing : List Entry) (index : Nat) :
    ((refusal listing index).level = .warn ↔ listing.length ≤ index) ∧
      ((refusal listing index).level = .info ↔ index < listing.length) := by
  rw [refusal]
  split_ifs with h
  · simp [Log.info, h]
  · simp [Log.warn, h, Nat.not_lt.mp h]

/-- After any lines a session has the listing of the last query, or none before the first
query. Then a line that asks for the help shows nothing else. A trigger rolls the batch of its
entry and shows one notification, with the body of the report, if the entry can be rolled; else it
asks nothing of the source, since it leaves every source as it is, and only tells why. -/
theorem run_listing (auto : Bool) (lines : List String) (state : σ) :
    ∃ session events final,
      (run source { autoTrigger := auto } lines).run state = ((session, events), final) ∧
      session.autoTrigger = auto ∧
      (lastQuery lines = none → session.listing = []) ∧
      (∀ query, lastQuery lines = some query →
        session.listing = query.results ∧ session.listing.length = 8) ∧
      ∀ line,
        (Command.parse line = .help →
          (session.handle source line).run final = ((session, [.helped]), final)) ∧
        ∀ index, Command.parse line = .trigger index →
          ∃ shown after, (session.handle source line).run final = ((session, shown), after) ∧
            ((notifications shown).length = 1 ↔ CanRoll lines index) ∧
            (CanRoll lines index → ∃ batch report notification,
              batchAt session.listing index = some batch ∧
              (batch.roll source).run final = (report, after) ∧
              notification.Tells report ∧
              shown = [.logged (batch.rolledRecord report.body), .shown notification]) ∧
            (¬ CanRoll lines index → after = final ∧
              shown = [.logged (refusal session.listing index)] ∧
              ((refusal session.listing index).level = .warn ↔
                session.listing.length ≤ index) ∧
              ((refusal session.listing index).level = .info ↔
                index < session.listing.length)) := by
  obtain ⟨session, events, final, hrun, hsession⟩ :=
    exists_run source { autoTrigger := auto } lines state
  refine ⟨session, events, final, hrun, by rw [hsession], ?_, ?_, fun line => ⟨?_, ?_⟩⟩
  · intro hnone
    rw [hsession, hnone, Option.elim_none]
  · intro query hsome
    rw [hsession, hsome, Option.elim_some]
    exact ⟨rfl, query.length_results⟩
  · exact fun hhelp => run_handle_help source hhelp final
  · intro index htrigger
    have hcan := isSome_batchAt_iff_canRoll lines index
    have hlisting : (lastQuery lines).elim [] Query.results = session.listing := by rw [hsession]
    rw [hlisting] at hcan
    cases hbatch : batchAt session.listing index with
    | some batch =>
      have hcan : CanRoll lines index := hcan.mp (by rw [hbatch, Option.isSome_some])
      refine ⟨_, _, run_handle_trigger_of_some source htrigger hbatch final, ?_, ?_, ?_⟩
      · exact iff_of_true rfl hcan
      · exact fun _ => ⟨batch, _, _, rfl, rfl, Notification.tells_rolling _, rfl⟩
      · exact fun hnot => absurd hcan hnot
    | none =>
      have hcan : ¬ CanRoll lines index := fun h => by simpa [hbatch] using hcan.mpr h
      refine ⟨_, _, run_handle_trigger_of_none source htrigger hbatch final, ?_, ?_, ?_⟩
      · exact iff_of_false (by simp [notifications]) hcan
      · exact fun h => absurd h hcan
      · exact fun _ => ⟨rfl, rfl, level_refusal session.listing index⟩

end Run

/-- Behind a query that was typed second, and a request for the help, the first entry is rolled, and
there is no ninth one. -/
theorem run_listing_scripted :
    let lines := ["x", "2d6-1 y", "?"]
    let script : Dice.Script := { faces := [3, 1] }
    ∃ session events final rolled after refused,
      (run Dice.scripted ⟨false, []⟩ lines).run script = ((session, events), final) ∧
      session.listing = (Query.ofSearch "2d6-1 y").results ∧ session.listing.length = 8 ∧
      CanRoll lines 0 ∧
      (session.handle Dice.scripted "!0").run final = ((session, rolled), after) ∧
      (notifications rolled).map Notification.body = ["2d6: 3, 1 (-1) = 3"] ∧
      after.requests = [6, 6] ∧
      ¬ CanRoll lines 8 ∧
      (session.handle Dice.scripted "!8").run final = ((session, refused), final) ∧
      refused = [.logged (Log.warn "No entry 8 in the last listing")] := by
  intro lines script
  obtain ⟨session, events, final, hrun, -, -, hlisting, hnext⟩ :=
    run_listing Dice.scripted false lines script
  have hquery : lastQuery lines = some (.ofSearch "2d6-1 y") := by decide +kernel
  obtain ⟨hresults, hlength⟩ := hlisting _ hquery
  have hcan : CanRoll lines 0 :=
    ⟨_, hquery, .inr ⟨rfl, "2d6-1", by decide +kernel, ⟨2, 6, some (-1)⟩, by decide +kernel⟩⟩
  have hcannot : ¬ CanRoll lines 8 := by
    rintro ⟨query, -, hindex | hindex⟩
    · omega
    · exact absurd hindex.1 (by decide)
  obtain ⟨rolled, after, hroll, -, hrolled, -⟩ := (hnext "!0").2 0 (by decide +kernel)
  obtain ⟨batch, report, notification, hbatch, hreport, htells, rfl⟩ := hrolled hcan
  obtain ⟨refused, same, hrefuse, -, -, hrefused⟩ := (hnext "!8").2 8 (by decide +kernel)
  obtain ⟨hsame, hwarned, -⟩ := hrefused hcannot
  rw [hsame] at hrefuse
  -- no line has rolled anything so far, so the roll begins with the first face
  have hfinal : final = ((run Dice.scripted ⟨false, []⟩ lines).run script).2 := by rw [hrun]
  obtain rfl : [⟨2, 6, some (-1)⟩] = batch := by
    rw [hresults] at hbatch
    exact Option.some.inj (Eq.trans (by decide +kernel) hbatch)
  have hbody : report.body = "2d6: 3, 1 (-1) = 3" := by
    have hfst := congrArg (fun result => result.1.body) hreport
    rw [hfinal] at hfst
    exact hfst.symm.trans (by decide +kernel)
  have hafter : after.requests = [6, 6] := by
    have hsnd := congrArg (fun result => result.2.requests) hreport
    rw [hfinal] at hsnd
    exact hsnd.symm.trans (by decide +kernel)
  refine ⟨session, events, final, _, after, refused, hrun, hresults, hlength, hcan, hroll, ?_,
    hafter, hcannot, hrefuse, ?_⟩
  · simp [notifications, htells.body, hbody]
  · rw [hwarned, refusal, hlength]
    decide +kernel

end Session

end DiceLauncher
