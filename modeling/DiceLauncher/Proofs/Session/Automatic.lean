import DiceLauncher.Dice.Scripted
import DiceLauncher.Proofs.Session.Listing

/-!
# Triggering at once and by hand

A session may trigger the first entry of each new listing at once. Without that the same is
done by hand, by the line `!0` behind every query. The two runs have different lines and
take different ways to the roll, and they log different records where there is nothing to
roll; but they show the same, leave the same listing, and ask the same of the source.

The source is one of any lawful monad, so the runs are compared as computations: they are
equal with all that they do to the source, be it that it changes a state or that it fails.

Results:
* `Session.displays_triggerFirst`: the first entry is triggered like any other one.
* `Session.seen_run_cons`: what is seen of a run, line by line.
* `Session.run_autoTrigger`: the two ways of triggering come to the same.
-/

namespace DiceLauncher

/-! ## Specification -/

/-- What is shown among events: listings, the help and notifications, without the log. -/
def displays (events : List Event) : List Event :=
  events.filter fun
    | .helped | .listed _ | .shown _ => true
    | .logged _ => false

/-- Lines with `!0` behind each one that is a query. -/
def triggeredByHand (lines : List String) : List String :=
  lines.flatMap fun line => if (Command.parse line).query?.isSome then [line, "!0"] else [line]

/-- What is seen of a run: the listing that it leaves, and everything shown, in order. -/
def Session.seen (result : Session × List (List Event)) : List Entry × List Event :=
  (result.1.listing, displays result.2.flatten)

theorem triggeredByHand_cons (line : String) (lines : List String) :
    triggeredByHand (line :: lines) =
      (if (Command.parse line).query?.isSome then [line, "!0"] else [line]) ++
        triggeredByHand lines := List.flatMap_cons

/-! ## Displays -/

@[simp] theorem displays_append (events others : List Event) :
    displays (events ++ others) = displays events ++ displays others := List.filter_append ..

@[simp] theorem displays_map_logged (records : List Log.Record) :
    displays (records.map .logged) = [] := by
  simp [displays]

theorem displays_listed_cons (listing : List Entry) (events : List Event) :
    displays (.listed listing :: events) = .listed listing :: displays events := rfl

namespace Session

variable {m : Type → Type} [Monad m] (source : Source m)

/-! ## One line -/

theorem triggerFirst_eq (listing : List Entry) :
    triggerFirst source listing =
      match batchAt listing 0 with
      | some batch => batch.trigger source
      | none => pure [] := by
  cases listing with
  | nil => rfl
  | cons entry entries => rfl

variable [LawfulMonad m]

/-- The first entry is triggered like any other one. If there is nothing to roll, the only
difference is a record. -/
theorem displays_triggerFirst (listing : List Entry) :
    displays <$> triggerFirst source listing = displays <$> triggerAt source listing 0 := by
  rw [triggerFirst_eq, triggerAt_eq]
  cases batchAt listing 0 with
  | some batch => rfl
  | none => rw [map_pure, map_pure]; rfl

theorem handle_query_auto {listing : List Entry} {line : String} {query : Query}
    (h : Command.parse line = .query query) :
    handle source ⟨true, listing⟩ line =
      (fun triggered => (⟨true, query.results⟩,
        query.log.map .logged ++ .listed query.results :: triggered)) <$>
        triggerFirst source query.results := by
  rw [handle, h, perform, if_pos rfl, bind_pure_comp]

theorem handle_query_manual {listing : List Entry} {line : String} {query : Query}
    (h : Command.parse line = .query query) :
    handle source ⟨false, listing⟩ line =
      pure (⟨false, query.results⟩, query.log.map .logged ++ [.listed query.results]) := by
  rw [handle, h, perform, if_neg Bool.false_ne_true, pure_bind]

/-! ## Any number of lines -/

/-- What is seen of a run with some displays before it. -/
def behind (shown : List Event) (rest : List Entry × List Event) : List Entry × List Event :=
  (rest.1, shown ++ rest.2)

theorem behind_cons (event : Event) (shown : List Event) :
    behind (event :: shown) = behind [event] ∘ behind shown := rfl

/-- A run shows what its first line shows, and then what the others show. -/
theorem seen_run_cons (session : Session) (line : String) (lines : List String) :
    seen <$> session.run source (line :: lines) =
      session.handle source line >>= fun (next, events) =>
        behind (displays events) <$> seen <$> next.run source lines := by
  rw [run, map_bind]
  refine bind_congr fun (next, events) => ?_
  simp only [← comp_map, bind_pure_comp]
  refine map_congr fun (last, rest) => ?_
  simp [seen, behind]

theorem seen_run_of_pure {session next : Session} {line : String} {events : List Event}
    (h : session.handle source line = pure (next, events)) (lines : List String) :
    seen <$> session.run source (line :: lines) =
      behind (displays events) <$> seen <$> next.run source lines := by
  rw [seen_run_cons, h, pure_bind]

theorem seen_run_of_map {session next : Session} {line : String} {roll : m (List Event)}
    {events : List Event → List Event}
    (h : session.handle source line = (fun rolled => (next, events rolled)) <$> roll)
    (lines : List String) :
    seen <$> session.run source (line :: lines) =
      roll >>= fun rolled =>
        behind (displays (events rolled)) <$> seen <$> next.run source lines := by
  rw [seen_run_cons, h, bind_map_left]

theorem seen_run_query_auto {listing : List Entry} {line : String} {query : Query}
    (h : Command.parse line = .query query) (lines : List String) :
    seen <$> run source ⟨true, listing⟩ (line :: lines) =
      behind [.listed query.results] <$>
        ((displays <$> triggerFirst source query.results) >>= fun shown =>
          behind shown <$> seen <$> run source ⟨true, query.results⟩ lines) := by
  rw [seen_run_of_map source (handle_query_auto source h), bind_map_left, map_bind]
  refine bind_congr fun rolled => ?_
  rw [displays_append, displays_map_logged, List.nil_append, displays_listed_cons, behind_cons,
    comp_map]

theorem seen_run_query_manual {listing : List Entry} {line : String} {query : Query}
    (h : Command.parse line = .query query) (lines : List String) :
    seen <$> run source ⟨false, listing⟩ (line :: "!0" :: lines) =
      behind [.listed query.results] <$>
        ((displays <$> triggerAt source query.results 0) >>= fun shown =>
          behind shown <$> seen <$> run source ⟨false, query.results⟩ lines) := by
  have hsign : Command.parse "!0" = .trigger 0 := by cbv
  rw [seen_run_of_pure source (handle_query_manual source h),
    seen_run_of_map source (handle_trigger source hsign), bind_map_left, displays_append,
    displays_map_logged, List.nil_append]
  rfl

/-- A session that triggers the first entry of each listing at once shows the same and leaves the
same listing as one that does not, when `!0` is entered behind each query; and both do the same
to the source. -/
theorem run_autoTrigger (listing : List Entry) (lines : List String) :
    seen <$> run source ⟨true, listing⟩ lines =
      seen <$> run source ⟨false, listing⟩ (triggeredByHand lines) := by
  induction lines generalizing listing with
  | nil => rw [triggeredByHand, List.flatMap_nil, run, run, map_pure, map_pure]; rfl
  | cons line lines ih =>
    rw [triggeredByHand_cons]
    cases hparse : Command.parse line with
    | help =>
      rw [Command.query?, Option.isSome_none, if_neg Bool.false_ne_true, List.singleton_append,
        seen_run_of_pure source (handle_help source hparse),
        seen_run_of_pure source (handle_help source hparse), ih]
    | trigger index =>
      rw [Command.query?, Option.isSome_none, if_neg Bool.false_ne_true, List.singleton_append,
        seen_run_of_map source (handle_trigger source hparse),
        seen_run_of_map source (handle_trigger source hparse)]
      exact bind_congr fun rolled => by rw [ih]
    | query query =>
      rw [Command.query?, Option.isSome_some, if_pos rfl, List.cons_append, List.singleton_append,
        seen_run_query_auto source hparse, seen_run_query_manual source hparse,
        displays_triggerFirst]
      simp only [ih]

/-- If the source has a state, runs that are equal to the eye leave it in the same state. -/
theorem run_snd_of_seen_eq {σ : Type} {x y : StateM σ (Session × List (List Event))}
    (h : seen <$> x = seen <$> y) (state : σ) : (x.run state).2 = (y.run state).2 :=
  congrArg (fun result => (result.run state).2) h

/-- Both runs show two listings, two rolls and the help, and play the script to the same point,
although one of the queries has nothing to roll. -/
theorem run_autoTrigger_scripted :
    let lines := ["2d6 x", "!1", "?", "x", "!0"]
    let script : Dice.Script := { faces := [3, 1] }
    LawfulMonad (StateM Dice.Script) ∧
    triggeredByHand lines = ["2d6 x", "!0", "!1", "?", "x", "!0", "!0"] ∧
    (seen <$> run Dice.scripted ⟨true, []⟩ lines).run script =
      (seen <$> run Dice.scripted ⟨false, []⟩ (triggeredByHand lines)).run script ∧
    ((seen <$> run Dice.scripted ⟨false, []⟩ (triggeredByHand lines)).run script).1 =
      ((Query.ofSearch "x").results,
        [.listed (Query.ofSearch "2d6 x").results, .shown ⟨"Rolling...", "2d6: 3, 1 = 4", .dice⟩,
          .shown ⟨"Rolling...", "1d4: 3", .dice⟩, .helped, .listed (Query.ofSearch "x").results]) ∧
    ((run Dice.scripted ⟨false, []⟩ (triggeredByHand lines)).run script).2.requests =
      [6, 6, 4] := by
  intro lines script
  have hlines : triggeredByHand lines = ["2d6 x", "!0", "!1", "?", "x", "!0", "!0"] := by
    decide +kernel
  have hseen := run_autoTrigger Dice.scripted [] lines
  have hfinal := run_snd_of_seen_eq hseen script
  have hdisplays : ((seen <$> run Dice.scripted ⟨true, []⟩ lines).run script).1 =
      ((Query.ofSearch "x").results,
        [.listed (Query.ofSearch "2d6 x").results, .shown ⟨"Rolling...", "2d6: 3, 1 = 4", .dice⟩,
          .shown ⟨"Rolling...", "1d4: 3", .dice⟩, .helped,
          .listed (Query.ofSearch "x").results]) := by
    decide +kernel
  have hrequests : ((run Dice.scripted ⟨true, []⟩ lines).run script).2.requests = [6, 6, 4] := by
    decide +kernel
  exact ⟨inferInstance, hlines, by rw [hseen], by rw [← hseen, hdisplays],
    by rw [← hfinal, hrequests]⟩

end Session

end DiceLauncher
