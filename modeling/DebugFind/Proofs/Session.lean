/-
The two fronts of a session. A session runs its scenario plainly or on the display; both tell the user how it ended.
They are two programs with different observers, different handling of failures and different tests for success, and
they end alike.

- `fronts_alike`: one scenario, over any channel, run by either front.
- `Prepared`: a session whose set-up fails with a mistake that the user is told of, or comes to a scenario that ends with
  a result or a finding.
- `CommandLine.read_display`: the option for the display changes nothing else about a call.
- `display_ends_alike`: scenarios on the display, sessions and calls, together.
-/
import DebugFind.CommandLine.Reader
import DebugFind.Proofs.Binding
import DebugFind.Proofs.Display
import DebugFind.Proofs.Scenario.Verdict
import DebugFind.Session

namespace DebugFind

open Scenario

variable {σ : Type}

/-! ## Calls -/

namespace CommandLine

/-- the same options taken, and the display -/
def Progress.shown (p : Progress) : Progress := { p with display := true }

theorem aim_shown (p : Progress) (target : Target) : p.shown.aim target = (p.aim target).map Progress.shown := by
  cases hbefore : p.target with
  | none => simp [Progress.aim, Progress.shown, hbefore, Except.map]
  | some before =>
    simp only [Progress.aim, Progress.shown, hbefore]
    split_ifs <;> rfl

theorem take_shown (p : Progress) (f : Flag) (value : String) :
    p.shown.take f value = (p.take f value).map Progress.shown := by
  cases f with
  | pid =>
    simp only [Progress.take]
    cases Numeral.read value with
    | error e => rfl
    | ok n => exact aim_shown p _
  | mainClass => exact aim_shown p _
  | logLevel =>
    simp only [Progress.take]
    cases Level.ofName? value <;> rfl
  | _ => rfl

theorem takeAttached_shown (p : Progress) (f : Flag) (text : String) :
    p.shown.takeAttached f text = (p.takeAttached f text).map Progress.shown := by
  simp only [Progress.takeAttached]
  split_ifs
  · cases f <;> first | exact aim_shown p _ | rfl
  · exact take_shown p f text

/-- what is taken is the same with the display, but for the display -/
theorem takeAll_shown (p : Progress) (tokens : List Token) :
    takeAll p.shown tokens = (takeAll p tokens).map (Option.map Progress.shown) := by
  have hgoOn {x y : Except Error Progress} (hx : y = x.map Progress.shown) {rest : List Token}
      (ih : ∀ q : Progress, takeAll q.shown rest = (takeAll q rest).map (Option.map Progress.shown)) :
      (y >>= fun q => takeAll q rest) = (x >>= fun q => takeAll q rest).map (Option.map Progress.shown) := by
    rw [hx]
    cases x with
    | error e => rfl
    | ok q => exact ih q
  fun_induction takeAll p tokens with
  | case1 => rfl
  | case2 p text rest ih => exact ih
  | case3 p rest ih => exact ih
  | case4 p text rest ih => exact ih
  | case5 p byLetter attached rest =>
    rw [takeAll]
    cases checkAttachedHelp byLetter attached <;> rfl
  | case6 p byLetter rest ih => exact ih
  | case7 => rfl
  | case8 p f byLetter text rest hhelp hdisplay ih =>
    rw [takeAll]
    · exact hgoOn (takeAttached_shown p f _) ih
    · exact hhelp
    · exact hdisplay
  | case9 p f byLetter text rest hhelp hdisplay ih =>
    rw [takeAll]
    · exact hgoOn (take_shown p f text) ih
    · exact hhelp
    · exact hdisplay
  | case10 p f byLetter rest hhelp hdisplay hplain => rw [takeAll] <;> first | assumption | rfl

theorem tokens_display (arguments : List String) :
    tokens ("--tui" :: arguments) = (tokens arguments).map (.option .display false none :: ·) := by
  have htoken : Token.ofArgument "--tui" = .ok (.option .display false none) := by decide +kernel
  rw [tokens]
  · rw [htoken]
    cases tokens arguments <;> rfl
  · decide

/-- **The option for the display changes nothing else about a call.** -/
theorem read_display {arguments : List String} {options : Options} (h : read arguments = .ok (.run options)) :
    read ("--tui" :: arguments) = .ok (.run { options with display := true }) := by
  rw [read] at h ⊢
  rw [tokens_display]
  cases htokens : tokens arguments with
  | error e => simp [htokens, bind, Except.bind] at h
  | ok ts =>
    have htaken : takeAll {} (.option .display false none :: ts) = (takeAll {} ts).map (Option.map Progress.shown) :=
      takeAll_shown {} ts
    simp only [htokens, bind, Except.bind, Except.map, htaken] at h ⊢
    cases hall : takeAll {} ts with
    | error e => simp [hall] at h
    | ok p? =>
      cases p? with
      | none => simp [hall, pure, Except.pure] at h
      | some p =>
        cases htarget : p.target with
        | none => simp [hall, htarget, throw, throwThe, MonadExceptOf.throw] at h
        | some target =>
          simp only [hall, htarget, Option.map, Progress.shown] at h ⊢
          split_ifs at h ⊢
          cases h
          rfl

end CommandLine

/-! ## Scenarios -/

namespace Session

variable {host : Host σ} {channel : Channel σ} {profile : Profile} {options : CommandLine.Options} {s t : σ}

theorem launches_append (es fs : List Event) : launches (es ++ fs) = launches es ++ launches fs :=
  List.filterMap_append

theorem launches_offDisplay (es : List Event) : launches (offDisplay es) = launches es :=
  filterMap_offDisplay (fun _ => rfl) es

theorem questions_offDisplay (es : List Event) : questions (offDisplay es) = questions es :=
  filterMap_offDisplay (fun _ => rfl) es

theorem launches_printed (lines : List String) : launches (lines.map .printed) = [] := by
  induction lines with
  | nil => rfl
  | cons line lines ih => exact ih

theorem passed_eq (lines : List String) :
    passed lines s = ⟨.ok .passed, s, (lines ++ [passedLine]).map .printed⟩ := by
  simp [passed, bind, pure, Action.done, Action.andThen, Action.next, Action.emitAll]

/-- how a front ends after a scenario -/
def endingOf (stage : Stage) : Except Failure Result → Ending
  | .ok _ => .passed
  | .error f => .stopped (failedText stage f)

/-- the plain front ends so, and its last line after a complete run says that it passed -/
theorem runPlain_eq (hcontained : Contained ⟨channel, {}⟩ profile s) :
    let plain := Scenario.run channel profile {} ({}, s)
    ∃ lines : List String, runPlain channel profile s = ⟨.ok (endingOf plain.world.1.stage plain.result),
        plain.world.2, plain.events ++ lines.map .printed⟩ ∧
      ∀ r, plain.result = .ok r → lines.getLast? = some passedLine := by
  have hfindings : ∀ e, (Scenario.run channel profile {} ({}, s)).result = .error e → e.isFinding = true := hcontained
  rcases hplain : Scenario.run channel profile {} ({}, s) with ⟨r, ⟨p, t⟩, es⟩
  rw [hplain] at hfindings
  cases r with
  | ok found =>
    refine ⟨summary found ++ [passedLine], ?_, fun _ _ => List.getLast?_concat⟩
    simp [runPlain, bind, Action.andThen, Action.next, Action.within, hplain, passed_eq, endingOf]
  | error e =>
    refine ⟨[], ?_, fun _ h => by cases h⟩
    simp [runPlain, bind, pure, Action.done, Action.andThen, Action.next, Action.within, hplain, hfindings e rfl,
      endingOf]

theorem reached_done_iff : (Scenario.run channel profile {} ({}, s)).world.1.stage = .done ↔
    ∃ r, (Scenario.run channel profile {} ({}, s)).result = .ok r :=
  stage_eq_done_iff (u := ⟨channel, {}⟩) willing_nobody profile s

/-- and so does the front on the display -/
theorem runDisplay_eq (hdisplay : host.hasDisplay = true) (hpatience : host.patience = none)
    (hcontained : Contained (Display.surroundings channel) profile ({}, s)) :
    let plain := Scenario.run channel profile {} ({}, s)
    ∃ (es : List Event) (lines : List String), runDisplay host channel profile s =
        ⟨.ok (endingOf plain.world.1.stage plain.result), plain.world.2, es ++ lines.map .printed⟩ ∧
      offDisplay es = offDisplay plain.events ∧ ∀ r, plain.result = .ok r → lines.getLast? = some passedLine := by
  obtain ⟨es, hrun, hevents⟩ := Display.run_display hcontained
  have hdone : (Scenario.run channel profile {} ({}, s)).world.1.stage = .done ↔
      ∃ r, (Scenario.run channel profile {} ({}, s)).result = .ok r := reached_done_iff
  rcases hplain : Scenario.run channel profile {} ({}, s) with ⟨r, ⟨p, t⟩, fs⟩
  rw [hplain] at hrun hevents hdone
  rw [← hdisplay, ← hpatience] at hrun
  refine ⟨es, ?_⟩
  cases r with
  | ok found =>
    have hstage : p.stage = .done := hdone.2 ⟨found, rfl⟩
    refine ⟨[passedLine], ?_, hevents, fun _ _ => rfl⟩
    simp [runDisplay, bind, Action.andThen, Action.next, hrun, failure?, hstage, passed_eq, endingOf]
  | error e =>
    refine ⟨[], ?_, hevents, fun _ h => by cases h⟩
    simp [runDisplay, bind, pure, Action.done, Action.andThen, Action.next, hrun, failure?, endingOf]

/-! ## Sessions -/

/-- a session comes to a scenario: on a machine, with a profile, in a state, after some events -/
def Opens (host : Host σ) (options : CommandLine.Options) (s : σ) (machine : Jcmd) (profile : Profile) (t : σ)
    (es : List Event) : Prop :=
  ∃ attached, prepare host options s = ⟨.ok (profile, attached), t, es⟩ ∧
    Jcmd.ofPid attached.pid profile.launcher.executable (.real profile.launcher.timeout) = .ok machine

/-- a session whose set-up fails with a mistake that the user is told of, or that comes to a scenario which ends on the
display with a result or a finding -/
inductive Prepared (host : Host σ) (options : CommandLine.Options) (s : σ) : Prop
  | mistaken (e : Failure) (t : σ) (es : List Event) (h : prepare host options s = ⟨.error e, t, es⟩)
    (he : isSetupMistake e = true) : Prepared host options s
  | opened (machine : Jcmd) (profile : Profile) (t : σ) (es : List Event)
    (h : Opens host options s machine profile t es)
    (hcontained : Contained (Display.surroundings (machine.channel host.launcher)) profile ({}, t)) :
    Prepared host options s

/-- the scenario of a session comes to its last stage -/
def ReachesDone (host : Host σ) (options : CommandLine.Options) (s : σ) : Prop :=
  ∃ machine profile t es, Opens host options s machine profile t es ∧
    (Scenario.run (machine.channel host.launcher) profile {} ({}, t)).world.1.stage = .done

theorem start_of_mistake {e : Failure} {t : σ} {es : List Event} (h : prepare host options s = ⟨.error e, t, es⟩)
    (he : isSetupMistake e = true) :
    start host options s = ⟨.ok (.stopped ("Startup validation failed: " ++ e.message)), t, es⟩ := by
  simp [start, bind, pure, Action.done, Action.andThen, Action.next, Action.attempt, h, he]

theorem not_reachesDone_of_mistake {e : Failure} {es : List Event} (h : prepare host options s = ⟨.error e, t, es⟩) :
    ¬ ReachesDone host options s := by
  rintro ⟨machine, profile, t', es', ⟨attached, hprepare, -⟩, -⟩
  rw [h] at hprepare
  cases hprepare

theorem start_of_opens {machine : Jcmd} {es : List Event} (h : Opens host options s machine profile t es) :
    start host options s =
      let front := if options.display then runDisplay host (machine.channel host.launcher) profile
        else runPlain (machine.channel host.launcher) profile
      ⟨(front t).result, (front t).world, es ++ (front t).events⟩ := by
  obtain ⟨attached, hprepare, hmachine⟩ := h
  simp [start, bind, Action.andThen, Action.next, Action.attempt, Action.ofExcept, hprepare, hmachine]

/-- a session that was not stopped in its set-up comes to one scenario -/
theorem reachesDone_iff {machine : Jcmd} {es : List Event} (h : Opens host options s machine profile t es) :
    ReachesDone host options s ↔
      ∃ r, (Scenario.run (machine.channel host.launcher) profile {} ({}, t)).result = .ok r := by
  rw [← reached_done_iff]
  constructor
  · rintro ⟨machine', profile', t', es', ⟨attached', hprepare', hmachine'⟩, hdone⟩
    obtain ⟨attached, hprepare, hmachine⟩ := h
    rw [hprepare] at hprepare'
    cases hprepare'
    rw [hmachine] at hmachine'
    cases hmachine'
    exact hdone
  · intro hdone
    exact ⟨machine, profile, t, es, h, hdone⟩

theorem endingOf_eq_passed_iff {stage : Stage} {r : Except Failure Result} :
    endingOf stage r = .passed ↔ ∃ found, r = .ok found := by
  cases r with
  | ok found => exact ⟨fun _ => ⟨found, rfl⟩, fun _ => rfl⟩
  | error e =>
    constructor
    · intro h
      cases h
    · rintro ⟨found, h⟩
      cases h

/-- the last line after a scenario that passed -/
theorem getLast?_printed {lines : List String} (h : lines.getLast? = some passedLine) (es fs : List Event) :
    (es ++ (fs ++ lines.map Event.printed)).getLast? = some (.printed passedLine) := by
  simp [List.getLast?_append, h]

/-- **The fronts end alike.** -/
theorem fronts_alike (hdisplay : host.hasDisplay = true) (hpatience : host.patience = none)
    (h : Prepared host options s) :
    let shown := start host { options with display := true } s
    let plain := start host { options with display := false } s
    ∃ ending, shown.result = .ok ending ∧ plain.result = .ok ending ∧ shown.world = plain.world ∧
      launches shown.events = launches plain.events ∧ (ending = .passed ↔ ReachesDone host options s) ∧
      (ending = .passed → shown.events.getLast? = some (.printed passedLine) ∧
        plain.events.getLast? = some (.printed passedLine)) := by
  cases h with
  | mistaken e t es h he =>
    have hstart (display : Bool) : start host { options with display := display } s =
        ⟨.ok (.stopped ("Startup validation failed: " ++ e.message)), t, es⟩ := start_of_mistake h he
    rw [hstart true, hstart false]
    refine ⟨_, rfl, rfl, rfl, rfl, ?_, ?_⟩
    · constructor
      · intro hpassed
        cases hpassed
      · intro hdone
        exact absurd hdone (not_reachesDone_of_mistake h)
    · intro hpassed
      cases hpassed
  | opened machine profile t es h hcontained =>
    obtain ⟨fs, lines, hshow, hevents, hlast⟩ := runDisplay_eq hdisplay hpatience hcontained
    obtain ⟨lines', hplain, hlast'⟩ := runPlain_eq (Display.contained_of_display hcontained)
    have hstartShown : start host { options with display := true } s = _ := start_of_opens h
    have hstartPlain : start host { options with display := false } s = _ := start_of_opens h
    have hlaunches : launches fs =
        launches (Scenario.run (machine.channel host.launcher) profile {} ({}, t)).events := by
      rw [← launches_offDisplay, hevents, launches_offDisplay]
    rw [hstartShown, hstartPlain]
    simp only [if_true, hshow, Bool.false_eq_true, if_false, hplain]
    refine ⟨_, rfl, rfl, trivial, ?_, ?_, ?_⟩
    · simp only [launches_append, launches_printed, hlaunches]
    · rw [endingOf_eq_passed_iff, reachesDone_iff h]
    · intro hpassed
      obtain ⟨found, hfound⟩ := endingOf_eq_passed_iff.1 hpassed
      exact ⟨getLast?_printed (hlast found hfound) es fs, getLast?_printed (hlast' found hfound) es _⟩

/-- a session with a level for its records starts -/
theorem run_of_level {level : Level} (h : options.logLevel = .value level) :
    run host options s = start host options s := by
  simp only [run, h]

/-- and one without fails -/
theorem run_of_blank (h : options.logLevel = .blank) : run host options s = Action.fail .blankLevel s := by
  simp only [run, h]

/-- a host whose display is there, whose user stays, and whose launches are seen -/
def watched (host : Host σ) : Host σ :=
  { host with launcher := host.launcher.traced, hasDisplay := true, patience := none }

/-- **The display changes nothing about how it ends.**
- A scenario that ends with a result or a finding plainly does so on the display exactly if the number of answers to be
  shown can be written.
- If it does so on the display, the display gives the stage and the finding, if any, that the plain run ends with, after
  the same commands, and leaves the channel in the same state.
- A session that is prepared: with the display and without it the launcher is run alike, and both sessions end with the
  same text, or have passed and say so in their last line, which they do exactly if the scenario came to its last stage.
- A session with no level for its records fails on either front as it does on the other.
- A call that is understood is understood with the option for the display in front, and asks for the same. -/
theorem display_ends_alike :
    (∀ (channel : Channel σ) (profile : Profile) (s : σ), Contained ⟨channel.traced, {}⟩ profile s →
      (Contained (Display.surroundings channel.traced) profile ({}, s) ↔
        Numeral.Writable (conversation ⟨channel.traced, {}⟩ profile s).tellings)) ∧
    (∀ (channel : Channel σ) (profile : Profile) (s : σ),
      Contained (Display.surroundings channel.traced) profile ({}, s) →
      let plain := Scenario.run channel.traced profile {} ({}, s)
      let shown := Display.run channel.traced profile true none s
      shown.result = .ok ⟨plain.world.1.stage, failure? plain.result⟩ ∧ shown.world = plain.world.2 ∧
        questions shown.events = questions plain.events) ∧
    (∀ (host : Host σ) (options : CommandLine.Options) (s : σ), Prepared (watched host) options s →
      let shown := run (watched host) { options with display := true } s
      let plain := run (watched host) { options with display := false } s
      shown.result = plain.result ∧ shown.world = plain.world ∧ launches shown.events = launches plain.events ∧
        ∀ level, options.logLevel = .value level →
          ∃ ending, plain.result = .ok ending ∧ (ending = .passed ↔ ReachesDone (watched host) options s) ∧
            (ending = .passed → shown.events.getLast? = some (.printed passedLine) ∧
              plain.events.getLast? = some (.printed passedLine))) ∧
    ∀ (arguments : List String) (options : CommandLine.Options),
      CommandLine.read arguments = .ok (.run options) →
        CommandLine.read ("--tui" :: arguments) = .ok (.run { options with display := true }) := by
  refine ⟨fun _ _ _ => Display.contained_iff, ?_, ?_, fun _ _ => CommandLine.read_display⟩
  · intro channel profile s hcontained plain shown
    obtain ⟨es, hrun, hevents⟩ := Display.run_display hcontained
    have hshown : shown = _ := hrun
    rw [hshown]
    refine ⟨rfl, rfl, ?_⟩
    rw [← questions_offDisplay, hevents, questions_offDisplay]
  · intro host options s hprepared shown plain
    obtain ⟨ending, hshown, hplain, hworld, hlaunches, hpassed, hlast⟩ := fronts_alike rfl rfl hprepared
    cases hlevel : options.logLevel with
    | value level =>
      have hstartShown : shown = start (watched host) { options with display := true } s := run_of_level hlevel
      have hstartPlain : plain = start (watched host) { options with display := false } s := run_of_level hlevel
      rw [hstartShown, hstartPlain]
      exact ⟨hshown.trans hplain.symm, hworld, hlaunches, fun _ _ => ⟨ending, hplain, hpassed, hlast⟩⟩
    | blank =>
      have hfailShown : shown = Action.fail .blankLevel s := run_of_blank hlevel
      have hfailPlain : plain = Action.fail .blankLevel s := run_of_blank hlevel
      rw [hfailShown, hfailPlain]
      refine ⟨rfl, rfl, rfl, fun level h => ?_⟩
      cases h

/-! ### A scenario that passes, and a session that does not -/

/-- the launcher of the aloof process, which lists it -/
def listingLauncher : Launcher Nat where
  launch argv timeout :=
    if argv = ["jcmd", "-l"] then fun n => ⟨.ok (.completed "7 Main" "" 0), n, []⟩ else aloofLauncher.launch argv timeout

def aloofHost : Host Nat := ⟨fun _ => .error .missing, .usual, listingLauncher, true, none⟩

def aloofOptions : CommandLine.Options := { target := .pid (.value 7) }

theorem eq_ok_of_toOption {α : Type} {x : Except Failure α} {a : α} (h : x.toOption = some a) : x = .ok a := by
  cases x with
  | error e => cases h
  | ok b =>
    cases h
    rfl

theorem contained_sample : Contained (Display.surroundings sampleChannel.traced) sampleProfile ({}, 0) := by
  have hrun : (Scenario.run sampleChannel.traced.under sampleProfile Display.observers
      ({}, {}, 0)).result.toOption = some sampleResult := by
    decide +kernel
  exact contained_of_ok (eq_ok_of_toOption hrun)

theorem opens_aloof : ∃ es, Opens (watched aloofHost) aloofOptions 0 aloofJcmd {} 0 es := by
  have hresult : (prepare (watched aloofHost) aloofOptions 0).result.toOption = some ({}, ⟨7, "Main"⟩) := by
    decide +kernel
  have hworld : (prepare (watched aloofHost) aloofOptions 0).world = 0 := by decide +kernel
  rcases hprepare : prepare (watched aloofHost) aloofOptions 0 with ⟨r, t, es⟩
  rw [hprepare] at hresult hworld
  obtain rfl : r = _ := eq_ok_of_toOption hresult
  obtain rfl : t = 0 := hworld
  exact ⟨es, ⟨7, "Main"⟩, hprepare, rfl⟩

theorem prepared_aloof : Prepared (watched aloofHost) aloofOptions 0 := by
  obtain ⟨es, hopens⟩ := opens_aloof
  have hrun : (Scenario.run (aloofJcmd.channel (watched aloofHost).launcher).under {} Display.observers
      ({}, {}, 0)).result.mapError Failure.isFinding = .error true := by
    decide +kernel
  refine .opened aloofJcmd {} 0 es hopens fun e he => ?_
  have herror : (Except.error e : Except Failure Result).mapError Failure.isFinding = .error true := he ▸ hrun
  exact Except.error.inj herror

/-- the sample scenario passes plainly and on the display, which can write the number of answers; a session with the
aloof process ends alike on both fronts; and the option for the display is understood -/
theorem display_ends_alike_of_samples :
    Contained ⟨sampleChannel.traced, {}⟩ sampleProfile 0 ∧
      Contained (Display.surroundings sampleChannel.traced) sampleProfile ({}, 0) ∧
      Prepared (watched aloofHost) aloofOptions 0 ∧
      CommandLine.read ["--pid", "7"] = .ok (.run aloofOptions) ∧
      Numeral.Writable (conversation ⟨sampleChannel.traced, {}⟩ sampleProfile 0).tellings ∧
      (Display.run sampleChannel.traced sampleProfile true none 0).result = .ok ⟨.done, none⟩ ∧
      (run (watched aloofHost) { aloofOptions with display := true } 0).result =
        (run (watched aloofHost) { aloofOptions with display := false } 0).result ∧
      CommandLine.read ["--tui", "--pid", "7"] = .ok (.run { aloofOptions with display := true }) := by
  have hread : CommandLine.read ["--pid", "7"] = .ok (.run aloofOptions) := by decide +kernel
  have hplain : (Scenario.run sampleChannel.traced sampleProfile {} ({}, 0)).result = .ok sampleResult :=
    eq_ok_of_toOption (by decide +kernel)
  have hstage : (Scenario.run sampleChannel.traced sampleProfile {} ({}, 0)).world.1.stage = .done :=
    reached_done_iff.2 ⟨sampleResult, hplain⟩
  have hcontained : Contained ⟨sampleChannel.traced, {}⟩ sampleProfile 0 := contained_of_ok hplain
  obtain ⟨hconditions, hscenarios, hsessions, hcalls⟩ := display_ends_alike (σ := Nat)
  have hwritten := (hconditions sampleChannel sampleProfile 0 hcontained).1 contained_sample
  obtain ⟨hshown, -⟩ := hscenarios sampleChannel sampleProfile 0 contained_sample
  obtain ⟨hresult, -⟩ := hsessions aloofHost aloofOptions 0 prepared_aloof
  rw [hplain, hstage] at hshown
  exact ⟨hcontained, contained_sample, prepared_aloof, hread, hwritten, hshown, hresult,
    hcalls ["--pid", "7"] aloofOptions hread⟩

end Session

end DebugFind
