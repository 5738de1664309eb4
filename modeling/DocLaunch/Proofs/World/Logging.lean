import DocLaunch.Proofs.World.Activity

namespace DocLaunch

/-- The areas of the program begin with its name. -/
def isOwnArea (area : String) : Bool :=
  "docmake".toList.isPrefixOf area.toList

namespace World

/-- The world as it were if nothing had been logged. -/
def unlogged (w : World) : World :=
  { w with events := w.events.filter fun e => e.record?.isNone }

/-- All that has been logged comes from the program itself. -/
def LogsOwn (w : World) : Prop :=
  ∀ r ∈ w.events.filterMap Event.record?, isOwnArea r.area = true

theorem unlogged_emit (w : World) (e : Event) :
    unlogged { w with events := w.events ++ [e] } =
      { w.unlogged with
        events := w.unlogged.events ++ [e].filter fun e => e.record?.isNone } := by
  simp only [unlogged, List.filter_append]

theorem unlogged_logged (w : World) (r : Record) :
    unlogged { w with events := w.events ++ [.logged r] } = w.unlogged := by
  rw [unlogged_emit]
  exact congrArg (World.mk w.files) (List.append_nil _)

theorem logsOwn_emit {w : World} {e : Event} (hw : w.LogsOwn)
    (he : ∀ r, e.record? = some r → isOwnArea r.area = true) :
    LogsOwn { w with events := w.events ++ [e] } := by
  intro r hr
  simp only [List.filterMap_append, List.mem_append] at hr
  rcases hr with hr | hr
  · exact hw r hr
  · obtain ⟨e', he', hrecord⟩ := List.mem_filterMap.mp hr
    obtain rfl := List.mem_singleton.mp he'
    exact he r hrecord

end World

namespace Activity

/--
Activities that are put together from steps of these kinds. The setting is read for anything but its
spans, and what has been logged is not read at all.
-/
inductive Composed : {α : Type} → Activity α → Prop where
  | pure {α : Type} (a : α) : Composed (pure a : Activity α)
  | throw {α : Type} (f : Fault) : Composed (throw f : Activity α)
  | files : Composed files
  | setFiles (fs : FileSystem) : Composed (setFiles fs)
  | look {α : Type} {next : Setting → Activity α}
    (hspans : ∀ setting spans, next { setting with spans } = next setting)
    (hnext : ∀ setting, Composed (next setting)) : Composed (read >>= next)
  | log (level : Level) {area : String} (message : String) (fields : List (String × LogValue))
    (harea : isOwnArea area = true) : Composed (log level area message fields)
  | emit {e : Event} (he : e.record? = none) : Composed (emit e)
  | bind {α β : Type} {t : Activity α} {next : α → Activity β} (ht : Composed t)
    (hnext : ∀ a, Composed (next a)) : Composed (t >>= next)
  | tryCatch {α : Type} {t : Activity α} {handler : Fault → Activity α} (ht : Composed t)
    (hhandler : ∀ f, Composed (handler f)) : Composed (tryCatch t handler)
  | within {α : Type} (span : Span) {t : Activity α} (ht : Composed t) : Composed (within span t)

/--
What has been logged and in which spans does not matter: it changes neither what the activity gives
nor what it does to the world beside logging.
-/
def Heedless {α : Type} (t : Activity α) : Prop :=
  ∀ (setting : Setting) (spans : List Span) (w w' : World), w.unlogged = w'.unlogged →
    (t.run setting w).1 = (t.run { setting with spans } w').1 ∧
      (t.run setting w).2.unlogged = (t.run { setting with spans } w').2.unlogged

variable {α β : Type} {t : Activity α}

theorem Heedless.bind {next : α → Activity β} (ht : t.Heedless)
    (hnext : ∀ a, (next a).Heedless) : (t >>= next).Heedless := by
  intro setting spans w w' hw
  obtain ⟨hresult, hworld⟩ := ht setting spans w w' hw
  rw [run_bind, run_bind]
  generalize t.run setting w = out at hresult hworld
  generalize t.run { setting with spans } w' = out' at hresult hworld
  obtain ⟨result, w₁⟩ := out
  obtain ⟨_, w₁'⟩ := out'
  cases hresult
  cases result with
  | error f => exact ⟨rfl, hworld⟩
  | ok a => exact hnext a setting spans w₁ w₁' hworld

theorem Heedless.tryCatch {handler : Fault → Activity α} (ht : t.Heedless)
    (hhandler : ∀ f, (handler f).Heedless) : (tryCatch t handler).Heedless := by
  intro setting spans w w' hw
  obtain ⟨hresult, hworld⟩ := ht setting spans w w' hw
  rw [run_tryCatch, run_tryCatch]
  generalize t.run setting w = out at hresult hworld
  generalize t.run { setting with spans } w' = out' at hresult hworld
  obtain ⟨result, w₁⟩ := out
  obtain ⟨_, w₁'⟩ := out'
  cases hresult
  cases result with
  | error f => exact hhandler f setting spans w₁ w₁' hworld
  | ok a => exact ⟨rfl, hworld⟩

/-- The induction is on how the activity is put together. -/
theorem Composed.heedless (h : t.Composed) : t.Heedless := by
  induction h with
  | pure | throw => exact fun _ _ _ _ hw => ⟨rfl, hw⟩
  | files =>
    intro setting spans w w' hw
    have hfiles : w.unlogged.files = w'.unlogged.files := congrArg World.files hw
    exact ⟨congrArg Except.ok hfiles, hw⟩
  | setFiles fs =>
    intro setting spans w w' hw
    have hevents : w.unlogged.events = w'.unlogged.events := congrArg World.events hw
    exact ⟨rfl, congrArg (World.mk fs) hevents⟩
  | @look _ next hspans _ ih =>
    intro setting spans w w' hw
    have hread (setting : Setting) (w : World) :
        ((read : Activity Setting) >>= next).run setting w = (next setting).run setting w := rfl
    rw [hread, hread, hspans setting spans]
    exact ih setting setting spans w w' hw
  | log =>
    intro setting spans w w' hw
    refine ⟨rfl, ?_⟩
    exact (w.unlogged_logged _).trans (hw.trans (w'.unlogged_logged _).symm)
  | @emit e he =>
    intro setting spans w w' hw
    refine ⟨rfl, ?_⟩
    change World.unlogged { w with events := w.events ++ [e] } =
      World.unlogged { w' with events := w'.events ++ [e] }
    rw [World.unlogged_emit, World.unlogged_emit, hw]
  | bind _ _ iht ihnext => exact iht.bind ihnext
  | tryCatch _ _ iht ihhandler => exact iht.tryCatch ihhandler
  | within span _ ih =>
    intro setting spans w w' hw
    exact ih { setting with spans := span :: setting.spans } (span :: spans) w w' hw

theorem Composed.logsOwn (h : t.Composed) :
    ∀ (setting : Setting) (w : World), w.LogsOwn → (t.run setting w).2.LogsOwn := by
  induction h with
  | pure | throw | files | setFiles => exact fun _ _ hw => hw
  | look _ _ ih => exact fun setting w hw => ih setting setting w hw
  | log level message fields harea =>
    intro setting w hw
    refine World.logsOwn_emit hw ?_
    rintro _ ⟨⟩
    exact harea
  | emit he =>
    intro setting w hw
    refine World.logsOwn_emit hw ?_
    intro r hr
    rw [he] at hr
    cases hr
  | @bind _ _ t _ _ _ iht ihnext =>
    intro setting w hw
    have hfirst := iht setting w hw
    rw [run_bind]
    generalize t.run setting w = out at hfirst
    obtain ⟨result, w₁⟩ := out
    cases result with
    | error f => exact hfirst
    | ok a => exact ihnext a setting w₁ hfirst
  | @tryCatch _ t _ _ _ iht ihhandler =>
    intro setting w hw
    have hfirst := iht setting w hw
    rw [run_tryCatch]
    generalize t.run setting w = out at hfirst
    obtain ⟨result, w₁⟩ := out
    cases result with
    | error f => exact ihhandler f setting w₁ hfirst
    | ok a => exact hfirst
  | within span _ ih => exact fun setting w hw => ih _ w hw

section Steps

theorem composed_cwd : cwd.Composed :=
  .look (fun _ _ => rfl) fun _ => .pure _

theorem composed_ask (question : FileSystem → Place → Path → α) (p : Path) :
    (ask question p).Composed :=
  .bind .files fun _ => composed_cwd.bind fun _ => .pure _

theorem composed_ofExcept {ε : Type} (fault : ε → Fault) (r : Except ε α) :
    (ofExcept fault r).Composed := by
  cases r with
  | ok a => exact .pure a
  | error e => exact .throw (fault e)

theorem composed_printLine (text : String) : (printLine text).Composed :=
  .emit rfl

theorem composed_start (s : Spawn) : (start s).Composed := by
  have hattempt : (attempt s).Composed := by
    unfold attempt
    split
    · exact .bind .files fun _ => .pure _
    · exact .look (fun _ _ => rfl) fun _ => .bind .files fun _ => .pure _
  refine hattempt.bind fun child => ?_
  exact .bind (.setFiles _) fun _ => .bind (.emit rfl) fun _ => composed_ofExcept _ _

end Steps

end Activity
end DocLaunch
