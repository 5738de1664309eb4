import DocLaunch.CommandLine.Program
import DocLaunch.Proofs.CommandLine.Preparation
import DocLaunch.Proofs.Launch.SiteText
import DocLaunch.Proofs.Settings.Reload

namespace DocLaunch

def World.output (w : World) : String :=
  String.join (w.events.map Event.output)

namespace Activity

variable {α β : Type}

def Silent (t : Activity α) : Prop :=
  ∀ setting w, (t.run setting w).2.output = w.output

theorem silent_of_run_eq {t : Activity α} (h : ∀ setting w, (t.run setting w).2 = w) :
    t.Silent :=
  fun setting w => congrArg World.output (h setting w)

theorem Silent.bind {t : Activity α} {next : α → Activity β} (ht : t.Silent)
    (hnext : ∀ a, (next a).Silent) : (t >>= next).Silent := by
  intro setting w
  have hstep := ht setting w
  rw [run_bind]
  cases h : t.run setting w with
  | mk result w' =>
    rw [h] at hstep
    cases result with
    | error f => exact hstep
    | ok a => exact (hnext a setting w').trans hstep

theorem silent_pure (a : α) : (pure a : Activity α).Silent :=
  silent_of_run_eq fun _ _ => rfl

theorem silent_ask (question : FileSystem → Place → Path → α) (p : Path) :
    (ask question p).Silent :=
  silent_of_run_eq fun _ _ => rfl

theorem silent_ofExcept {ε : Type} (fault : ε → Fault) (r : Except ε α) :
    (ofExcept fault r).Silent :=
  silent_of_run_eq fun _ _ => by rw [run_ofExcept]

theorem output_emit (e : Event) (setting : Setting) (w : World) :
    ((emit e).run setting w).2.output = w.output ++ e.output := by
  change String.join ((w.events ++ [e]).map Event.output) = _
  rw [List.map_append, String.join_append]
  exact congrArg _ String.empty_append

theorem silent_log (level : Level) (area message : String) (fields : List (String × LogValue)) :
    (log level area message fields).Silent := by
  intro setting w
  exact (output_emit _ setting w).trans (String.append_empty)

theorem Looks.exists_run {t : Activity α} (ht : t.Looks) (hsilent : t.Silent) {setting : Setting}
    {files : FileSystem} {a : α} (ha : t.answer setting files = .ok a) {w : World}
    (hw : w.files = files) :
    ∃ w', t.run setting w = (.ok a, w') ∧ w'.files = files ∧ w'.output = w.output := by
  obtain ⟨hresult, hfiles, -⟩ := ht.runs ha w hw
  exact ⟨_, Prod.ext hresult rfl, hfiles, hsilent setting w⟩

end Activity

open Activity

theorem Settings.loadFrom_silent (p : Path) : (loadFrom p).Silent :=
  (silent_ask _ p).bind fun _ => (silent_ofExcept _ _).bind fun _ => silent_ofExcept _ _

theorem Settings.load_silent (root : ProjectRoot) : (load root).Silent := by
  refine (silent_ask _ _).bind fun found => ?_
  cases found with
  | true => exact loadFrom_silent _
  | false => exact (silent_log _ _ _ _).bind fun _ => silent_pure _

namespace Program

theorem resolveRoot_silent (entry : Path) : (resolveRoot entry).Silent :=
  (silent_of_run_eq fun _ _ => rfl).bind fun _ => silent_ofExcept _ _

/-- What a run that shows settings prints. -/
def displayed (json : Bool) (c : Settings) : String :=
  (if json then c.toJsonText else c.toToml) ++ "\n"

theorem runDisplay_outcome {entry : Path} {setting : Setting} {files : FileSystem}
    {root : ProjectRoot} {c : Settings} (json : Bool) (format : LogFormat) (filter : LogFilter)
    (hroot : (resolveRoot entry).answer setting files = .ok root)
    (hload : (Settings.load root).answer setting files = .ok c) :
    let r := (runDisplay entry json).run setting ⟨files, []⟩
    let o := finished format filter r.1 r.2
    o.code = 0 ∧ o.report = none ∧ o.output = displayed json c := by
  obtain ⟨w, hw, hfiles, houtput⟩ :=
    (resolveRoot_looks entry).exists_run (resolveRoot_silent entry) hroot (w := ⟨files, []⟩) rfl
  obtain ⟨w', hw', -, houtput'⟩ :=
    (Settings.load_looks root).exists_run (Settings.load_silent root) hload hfiles
  have hprinted := output_emit (.printed (displayed json c)) setting w'
  rw [houtput', houtput] at hprinted
  have hrun : (runDisplay entry json).run setting ⟨files, []⟩ =
      (.ok 0, ((emit (.printed (displayed json c))).run setting w').2) := by
    rw [runDisplay, run_bind, hw]
    change (Settings.load root >>= _).run setting w = _
    rw [run_bind, hw']
    rfl
  rw [hrun]
  exact ⟨rfl, rfl, hprinted.trans String.empty_append⟩

/--
Settings are always shown, and a file that holds what is shown of them has just those settings,
whatever their texts and keys are and wherever the file stands.
-/
theorem shown_settings_reload (c : Settings) :
    (∀ (entry : Path) (setting : Setting) (files : FileSystem) (root : ProjectRoot)
        (format : LogFormat) (filter : LogFilter),
        (resolveRoot entry).answer setting files = .ok root →
        (Settings.load root).answer setting files = .ok c →
          let r := (runDisplay entry false).run setting ⟨files, []⟩
          let o := finished format filter r.1 r.2
          o.code = 0 ∧ o.report = none ∧ o.output = displayed false c) ∧
      ∀ (setting : Setting) (files : FileSystem) (p : Path),
        files.readBytes setting.cwd p = .ok (displayed false c).toUTF8 →
          (Settings.loadFrom p).answer setting files = .ok c :=
  ⟨fun _ _ _ _ format filter hroot hload => runDisplay_outcome false format filter hroot hload,
    fun _ _ _ h => Settings.loadFrom_answer_of_shown h⟩

/-- Settings with quotes, controls, empty texts and an empty key in each table. -/
def oddSettings : Settings where
  launcher :=
    { builder := ["make", "", "a\\\"", "\x00\x7f\n"]
      env := .ofList [("", "\"\"\""), ("a b", "''")] }
  site := { themeOptions := .ofList [("", "\""), ("é.x", "\t")], htmlTitle := some "'''\r" }

def oddFiles : FileSystem :=
  ⟨[(["docmake.toml"], .file (displayed false oddSettings).toUTF8 false)]⟩

theorem load_oddFiles : (Settings.load ⟨"/"⟩).answer Setting.barren oddFiles = .ok oddSettings :=
  (Settings.load_answer_of_isThere (by rfl)).trans (Settings.loadFrom_answer_of_shown (by rfl))

theorem shown_settings_reload_of_odd_texts :
    let r := (runDisplay "/make" false).run Setting.barren ⟨oddFiles, []⟩
    let o := finished .text (.choose none 0) r.1 r.2
    oddFiles.readBytes Setting.barren.cwd "/docmake.toml" =
        .ok (displayed false oddSettings).toUTF8 ∧
      (Settings.loadFrom "/docmake.toml").answer Setting.barren oddFiles = .ok oddSettings ∧
      o.code = 0 ∧ o.output = displayed false oddSettings := by
  have hroot : (resolveRoot "/make").answer Setting.barren oddFiles = .ok ⟨"/"⟩ := by rfl
  have hbytes : oddFiles.readBytes Setting.barren.cwd "/docmake.toml" =
      .ok (displayed false oddSettings).toUTF8 := by
    rfl
  obtain ⟨hshown, hread⟩ := shown_settings_reload oddSettings
  obtain ⟨hcode, -, houtput⟩ := hshown _ _ _ _ .text (.choose none 0) hroot load_oddFiles
  exact ⟨hbytes, hread _ _ _ hbytes, hcode, houtput⟩

/--
The declaration of a site can be read again from the text that a builder gets, so different ones
have different texts. The text is a single line without controls, and a builder can be started with
it wherever it can be started without it. What is shown of settings as JSON can be read as well.
-/
theorem json_carries_settings (s : Site) (c : Settings) :
    Site.ofJsonText? s.toJsonText = some s ∧
      (∀ s' : Site, s'.toJsonText = s.toJsonText → s' = s) ∧
      (∀ ch ∈ s.toJsonText.toList, 0x20 ≤ ch.toNat) ∧
      (∀ b, Builder.ofSettings c = .ok b → b.siteText = some c.site.toJsonText) ∧
      (∀ (b : Builder) (setting : Setting) (root : ProjectRoot) (forwarded : List String),
        let declared := { b with siteText := some s.toJsonText }
        (declared.spawn setting root forwarded).env.get? Builder.siteVariable =
            some s.toJsonText ∧
          ((declared.spawn setting root forwarded).holdsNul →
            ({ b with siteText := none }.spawn setting root forwarded).holdsNul)) ∧
      Settings.ofJsonText? (displayed true c) = some c ∧
      ∀ (entry : Path) (setting : Setting) (files : FileSystem) (root : ProjectRoot)
        (format : LogFormat) (filter : LogFilter),
        (resolveRoot entry).answer setting files = .ok root →
        (Settings.load root).answer setting files = .ok c →
          let r := (runDisplay entry true).run setting ⟨files, []⟩
          let o := finished format filter r.1 r.2
          o.code = 0 ∧ o.report = none ∧ o.output = displayed true c := by
  refine ⟨s.ofJsonText?_toJsonText, fun s' h => Site.toJsonText_injective h,
    s.printable_toJsonText, fun b => Builder.siteText_ofSettings, ?spawn, c.ofJsonText?_toJsonText,
    fun _ _ _ _ format filter hroot hload => runDisplay_outcome true format filter hroot hload⟩
  case spawn =>
    intro b setting root forwarded
    exact ⟨Builder.get?_siteVariable rfl setting.env root,
      Builder.holdsNul_of_siteText rfl s.hasNul_toJsonText setting root forwarded⟩

theorem json_carries_settings_of_odd_texts :
    let r := (runDisplay "/make" true).run Setting.barren ⟨oddFiles, []⟩
    let o := finished .text (.choose none 0) r.1 r.2
    Site.ofJsonText? oddSettings.site.toJsonText = some oddSettings.site ∧
      (∃ b, Builder.ofSettings oddSettings = .ok b ∧
        b.siteText = some oddSettings.site.toJsonText) ∧
      o.code = 0 ∧ Settings.ofJsonText? o.output = some oddSettings := by
  have hroot : (resolveRoot "/make").answer Setting.barren oddFiles = .ok ⟨"/"⟩ := by rfl
  obtain ⟨b, hb⟩ : ∃ b, Builder.ofSettings oddSettings = .ok b := ⟨_, by rfl⟩
  obtain ⟨hread, -, -, hsite, -, hreadShown, hshown⟩ :=
    json_carries_settings oddSettings.site oddSettings
  obtain ⟨hcode, -, houtput⟩ := hshown _ _ _ _ .text (.choose none 0) hroot load_oddFiles
  exact ⟨hread, ⟨b, hb, hsite b hb⟩, hcode, houtput ▸ hreadShown⟩

end Program
end DocLaunch
