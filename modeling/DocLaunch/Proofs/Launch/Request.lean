import DocLaunch.Proofs.Launch.SiteText

namespace DocLaunch

def Event.command? : Event → Option LogValue
  | .logged r => r.fields.lookup "command"
  | _ => none

def World.told (w : World) : List LogValue :=
  w.events.filterMap Event.command?

namespace Activity

variable {α β : Type} {setting : Setting} {l : List LogValue}

/-- An activity that tells these commands, however it ends. -/
def Tells (t : Activity α) (setting : Setting) (l : List LogValue) : Prop :=
  ∀ w, (t.run setting w).2.told = w.told ++ l

/-- What follows has nothing to tell, and may not even be reached. -/
theorem Tells.bind_quiet {t : Activity α} {next : α → Activity β} (ht : t.Tells setting l)
    (hnext : ∀ a, (next a).Tells setting []) : (t >>= next).Tells setting l := by
  intro w
  have htold := ht w
  rw [run_bind]
  generalize t.run setting w = out at htold
  obtain ⟨result, w'⟩ := out
  cases result with
  | error f => exact htold
  | ok a => exact (hnext a w').trans ((List.append_nil _).trans htold)

theorem Tells.within {t : Activity α} {span : Span}
    (ht : t.Tells { setting with spans := span :: setting.spans } l) :
    (within span t).Tells setting l :=
  ht

theorem tells_nothing {t : Activity α} (h : ∀ w, (t.run setting w).2 = w) :
    t.Tells setting [] := by
  intro w
  rw [h, List.append_nil]

theorem tells_pure (a : α) : (pure a : Activity α).Tells setting [] :=
  tells_nothing fun _ => rfl

theorem tells_throw (f : Fault) : (throw f : Activity α).Tells setting [] :=
  tells_nothing fun _ => rfl

theorem tells_read : (read : Activity Setting).Tells setting [] :=
  tells_nothing fun _ => rfl

theorem tells_log (level : Level) (area message : String) (fields : List (String × LogValue)) :
    (log level area message fields).Tells setting (fields.lookup "command").toList := by
  intro w
  change (w.events ++ [_]).filterMap Event.command? = _
  rw [List.filterMap_append]
  rfl

theorem tells_start (s : Spawn) : (start s).Tells setting [] := by
  intro w
  rw [run_start]
  exact List.filterMap_append ..

theorem tells_code (level : Level) (area message : String) (v : LogValue) :
    (log level area message [("code", v)]).Tells setting [] :=
  tells_log level area message [("code", v)]

theorem tells_start_of_told {next : WaitStatus → Activity α} (area message text : String)
    (request : Setting → Spawn) (hnext : ∀ status, (next status).Tells setting []) :
    (do
      log .info area message [("command", .text text)]
      let status ← start (request (← read))
      next status).Tells setting [.text text] := by
  have htext : (log .info area message [("command", .text text)]).Tells setting [.text text] :=
    tells_log .info area message [("command", .text text)]
  refine htext.bind_quiet fun _ => tells_read.bind_quiet fun setting => ?_
  exact (tells_start (request setting)).bind_quiet hnext

/--
A step that asks for one process and tells its command. The failure of the process is passed on with
the same words.
-/
structure Asks (step : Activity α) (setting : Setting) (request : Spawn)
    (failed : String → Int → Fault) (done : WaitStatus → α) : Prop where
  runs : ∀ files, step.Runs setting files
    (((setting.child request files).awaited request
      (failed (" ".intercalate (request.program :: request.args)))).map done)
    (setting.child request files).files [(request, setting.child request files)]
  tells : step.Tells setting [.text (" ".intercalate (request.program :: request.args))]

end Activity

open Activity

theorem Submodules.update_asks (s : Submodules) (root : ProjectRoot) (setting : Setting) :
    (s.update root).Asks setting (s.spawn setting.env root) .syncFailed fun _ => () where
  runs _ := s.update_runs root
  tells := by
    refine Tells.within (tells_start_of_told _ _ _ _ fun status => ?_)
    cases status.succeeded with
    | true => exact tells_pure ()
    | false => exact (tells_code _ _ _ _).bind_quiet fun _ => tells_throw _

theorem Builder.build_asks (b : Builder) (root : ProjectRoot) (forwarded : List String)
    (setting : Setting) :
    (b.build root forwarded).Asks setting (b.spawn setting root forwarded) .buildFailed
      fun status => (status.exitCode : Int) where
  runs _ := b.build_runs root forwarded
  tells := by
    refine Tells.within (tells_start_of_told _ _ _ _ fun status => ?_)
    cases status.succeeded with
    | true => exact tells_pure _
    | false =>
      refine (tells_code _ _ _ _).bind_quiet fun _ => (tells_throw _).bind_quiet fun _ => ?_
      exact tells_pure _

/-- The variables of the launcher itself stand above those of the settings, and all the rest. -/
theorem Builder.get?_environment {b : Builder} {text : String} (hb : b.siteText = some text)
    (inherited : StringTable) (root : ProjectRoot) (key : String) :
    (b.environment inherited root).get? key =
      if key = rootVariable then some root.path
      else if key = siteVariable then some text
      else (b.env.get? key).or (inherited.get? key) := by
  have hne : rootVariable ≠ siteVariable := by decide
  simp only [environment, hb]
  split
  · next hroot =>
    rw [hroot, StringTable.get?_insert_of_ne hne, StringTable.get?_insert_self]
  · next hroot =>
    split
    · next hsite => rw [hsite, StringTable.get?_insert_self]
    · next hsite =>
      rw [StringTable.get?_insert_of_ne hsite, StringTable.get?_insert_of_ne hroot,
        StringTable.get?_insertAll b.env.keys_nodup]
      rfl

/--
The builder of some settings is asked for with its fixed arguments, the root and what is forwarded,
from where the caller is. Whatever the settings and the caller put into its environment, two
variables of it are those of the launcher. The version control program runs in the root and sees the
environment of the caller. Each command is told, and named in the report of a failure, as it was
asked for.
-/
theorem requests_faithful {s : Settings} {b : Builder} (hb : Builder.ofSettings s = .ok b)
    (root : ProjectRoot) (forwarded : List String) (setting : Setting) :
    (∃ request : Spawn,
      (b.build root forwarded).Asks setting request .buildFailed
          (fun status => (status.exitCode : Int)) ∧
        (∃ fixed, s.launcher.builder = request.program :: fixed ∧
          request.args = fixed ++ [root.path] ++ forwarded) ∧
        request.directory = setting.cwd.toPath ∧
        Json.ofText? s.site.toJsonText.toList = some s.site.toJson ∧
        ∀ key, request.env.get? key =
          if key = "DOCMAKE_ROOT" then some root.path
          else if key = "DOCMAKE_SITE_CONFIG" then some s.site.toJsonText
          else (s.launcher.env.get? key).or (setting.env.get? key)) ∧
      ∃ request : Spawn,
        (s.submodules.update root).Asks setting request .syncFailed (fun _ => ()) ∧
          request.program = s.submodules.git ∧ request.args = s.submodules.arguments ∧
          request.env = setting.env ∧ request.directory = root.path := by
  obtain ⟨hcommand, henv, hsite⟩ := Builder.ofSettings_eq_ok hb
  refine ⟨⟨_, b.build_asks root forwarded setting, ⟨b.fixedArgs, hcommand, ?args⟩, rfl, ?site,
    ?env⟩, ⟨_, s.submodules.update_asks root setting, rfl, rfl, rfl, rfl⟩⟩
  case args => exact List.append_cons ..
  case site => rw [Site.toJsonText, String.toList_ofList, Json.ofText?_compact]
  case env => exact henv ▸ Builder.get?_environment hsite setting.env root

/-- Settings that try to take the variables of the launcher. -/
def clashingSettings : Settings where
  launcher.builder := ["make-docs", "--quiet", "a b"]
  launcher.env := .ofList
    [("DOCMAKE_ROOT", "/elsewhere"), ("DOCMAKE_SITE_CONFIG", "none"), ("LANG", "C")]

/-- A caller whose environment holds the same names, and others. -/
def clashingCaller : Setting where
  cwd := ["src", "repo"]
  env := .ofList [("DOCMAKE_ROOT", "/outer"), ("HOME", "/home"), ("LANG", "en")]
  children _ files := ⟨.ok (.exited 2), files, "", false⟩

theorem requests_faithful_of_clashing_names :
    ∃ b, Builder.ofSettings clashingSettings = .ok b ∧ ∃ request : Spawn,
      (b.build ⟨"/repo/docs"⟩ ["--", "c  d", ""]).Asks clashingCaller request .buildFailed
          (fun status => (status.exitCode : Int)) ∧
        request.args = ["--quiet", "a b", "/repo/docs", "--", "c  d", ""] ∧
        request.env.get? "DOCMAKE_ROOT" = some "/repo/docs" ∧
        request.env.get? "LANG" = some "C" ∧ request.env.get? "HOME" = some "/home" := by
  have hb : Builder.ofSettings clashingSettings =
      .ok ⟨"make-docs", ["--quiet", "a b"], clashingSettings.launcher.env,
        some clashingSettings.site.toJsonText⟩ := by rfl
  obtain ⟨⟨request, hasks, ⟨fixed, hcommand, hargs⟩, -, -, henv⟩, -⟩ :=
    requests_faithful hb ⟨"/repo/docs"⟩ ["--", "c  d", ""] clashingCaller
  obtain ⟨-, rfl⟩ := List.cons.inj hcommand
  refine ⟨_, hb, request, hasks, hargs, (henv _).trans ?_, (henv _).trans ?_, (henv _).trans ?_⟩
  all_goals decide

end DocLaunch
