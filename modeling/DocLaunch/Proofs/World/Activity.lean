import DocLaunch.World.Activity

namespace DocLaunch

def Event.started? : Event → Option (Spawn × Child)
  | started s c => some (s, c)
  | _ => none

def World.started (w : World) : List (Spawn × Child) :=
  w.events.filterMap Event.started?

def Setting.child (setting : Setting) (s : Spawn) (files : FileSystem) : Child :=
  if s.holdsNul then ⟨.error .nulInCommand, files, "", false⟩ else setting.children s files

namespace Activity

variable {α β : Type} {setting : Setting} {w : World}

theorem run_bind (t : Activity α) (next : α → Activity β) :
    (t >>= next).run setting w =
      match t.run setting w with
      | (.ok a, w') => (next a).run setting w'
      | (.error f, w') => (.error f, w') := by
  unfold run ReaderT.run ExceptT.run StateT.run
  simp only [bind, ReaderT.bind, ExceptT.bind, ExceptT.mk, ExceptT.bindCont, StateT.bind]
  cases t setting w with
  | mk result w' => cases result <;> rfl

theorem run_ask {γ : Type} (question : FileSystem → Place → Path → γ) (p : Path) :
    (ask question p).run setting w = (.ok (question w.files setting.cwd p), w) := rfl

theorem run_ofExcept {ε : Type} (fault : ε → Fault) (r : Except ε α) :
    (ofExcept fault r).run setting w = (r.mapError fault, w) := by
  cases r <;> rfl

theorem run_tryCatch (t : Activity α) (handler : Fault → Activity α) :
    (tryCatch t handler).run setting w =
      match t.run setting w with
      | (.ok a, w') => (.ok a, w')
      | (.error f, w') => (handler f).run setting w' := by
  unfold run ReaderT.run ExceptT.run StateT.run
  change ExceptT.tryCatch (t setting) (fun f => handler f setting) w = _
  simp only [ExceptT.tryCatch, ExceptT.mk, bind, StateT.bind]
  cases t setting w with
  | mk result w' => cases result <;> rfl

theorem run_start (s : Spawn) :
    (start s).run setting w =
      ((setting.child s w.files).result.mapError (.spawn s.shownProgram),
        ⟨(setting.child s w.files).files, w.events ++ [.started s (setting.child s w.files)]⟩) := by
  have hattempt : (attempt s).run setting w = (.ok (setting.child s w.files), w) := by
    unfold attempt Setting.child
    cases s.holdsNul <;> rfl
  rw [start, run_bind, hattempt]
  exact run_ofExcept ..

/-- What an activity gives among given files, with nothing done before it. -/
def answer (t : Activity α) (setting : Setting) (files : FileSystem) : Except Fault α :=
  (t.run setting ⟨files, []⟩).1

/--
How an activity goes among given files: what it gives, the files that it leaves and the processes
that it asks for. What was done before it does not matter.
-/
def Runs (t : Activity α) (setting : Setting) (files : FileSystem) (result : Except Fault α)
    (left : FileSystem) (children : List (Spawn × Child)) : Prop :=
  ∀ w : World, w.files = files →
    (t.run setting w).1 = result ∧ (t.run setting w).2.files = left ∧
      (t.run setting w).2.started = w.started ++ children

/-- An activity that leaves the files as they are and starts nothing. -/
def Looks (t : Activity α) : Prop :=
  ∀ setting files, t.Runs setting files (t.answer setting files) files []

variable {files left left' : FileSystem} {children children' : List (Spawn × Child)}

theorem Runs.bind {t : Activity α} {next : α → Activity β} {a : α} {result : Except Fault β}
    (ht : t.Runs setting files (.ok a) left children)
    (hnext : (next a).Runs setting left result left' children') :
    (t >>= next).Runs setting files result left' (children ++ children') := by
  intro w hw
  obtain ⟨hresult, hleft, hchildren⟩ := ht w hw
  rw [run_bind]
  generalize t.run setting w = out at hresult hleft hchildren
  obtain ⟨_, w'⟩ := out
  cases hresult
  obtain ⟨hresult', hleft', hchildren'⟩ := hnext w' hleft
  exact ⟨hresult', hleft', by rw [hchildren', hchildren, List.append_assoc]⟩

theorem Runs.bind_error {t : Activity α} {next : α → Activity β} {f : Fault}
    (ht : t.Runs setting files (.error f) left children) :
    (t >>= next).Runs setting files (.error f) left children := by
  intro w hw
  obtain ⟨hresult, hleft, hchildren⟩ := ht w hw
  rw [run_bind]
  generalize t.run setting w = out at hresult hleft hchildren
  obtain ⟨_, w'⟩ := out
  cases hresult
  exact ⟨rfl, hleft, hchildren⟩

theorem Runs.within {t : Activity α} {span : Span} {result : Except Fault α}
    (ht : t.Runs { setting with spans := span :: setting.spans } files result left children) :
    (within span t).Runs setting files result left children :=
  ht

theorem Runs.untroubled {t : Activity α} {handler : Fault → Activity α} {a : α}
    (ht : t.Runs setting files (.ok a) left children) :
    (tryCatch t handler).Runs setting files (.ok a) left children := by
  intro w hw
  obtain ⟨hresult, hleft, hchildren⟩ := ht w hw
  rw [run_tryCatch]
  generalize t.run setting w = out at hresult hleft hchildren
  obtain ⟨_, w'⟩ := out
  cases hresult
  exact ⟨rfl, hleft, hchildren⟩

theorem Runs.caught {t : Activity α} {handler : Fault → Activity α} {f : Fault}
    {result : Except Fault α} (ht : t.Runs setting files (.error f) left children)
    (hhandler : (handler f).Runs setting left result left' children') :
    (tryCatch t handler).Runs setting files result left' (children ++ children') := by
  intro w hw
  obtain ⟨hresult, hleft, hchildren⟩ := ht w hw
  rw [run_tryCatch]
  generalize t.run setting w = out at hresult hleft hchildren
  obtain ⟨_, w'⟩ := out
  cases hresult
  obtain ⟨hresult', hleft', hchildren'⟩ := hhandler w' hleft
  exact ⟨hresult', hleft', by rw [hchildren', hchildren, List.append_assoc]⟩

theorem start_runs (s : Spawn) :
    (start s).Runs setting files
      ((setting.child s files).result.mapError (.spawn s.shownProgram))
      (setting.child s files).files [(s, setting.child s files)] := by
  rintro w rfl
  rw [run_start]
  exact ⟨rfl, rfl, List.filterMap_append ..⟩

theorem Looks.run_fst {t : Activity α} (ht : t.Looks) :
    (t.run setting w).1 = t.answer setting w.files :=
  (ht setting w.files w rfl).1

theorem Looks.runs {t : Activity α} (ht : t.Looks) {result : Except Fault α}
    (h : t.answer setting files = result) : t.Runs setting files result files [] :=
  h ▸ ht setting files

theorem Runs.answer_eq {t : Activity α} {result : Except Fault α}
    (ht : t.Runs setting files result left children) : t.answer setting files = result :=
  (ht ⟨files, []⟩ rfl).1

theorem Looks.bind_runs {t : Activity α} {next : α → Activity β} {result : α → Except Fault β}
    (ht : t.Looks) (hnext : ∀ a, (next a).Runs setting files (result a) files []) :
    (t >>= next).Runs setting files (t.answer setting files >>= result) files [] := by
  cases h : t.answer setting files with
  | error f => exact (ht.runs h).bind_error
  | ok a => exact (ht.runs h).bind (hnext a)

theorem answer_bind {t : Activity α} {next : α → Activity β} (ht : t.Looks)
    (hnext : ∀ a, (next a).Looks) (files : FileSystem) :
    (t >>= next).answer setting files =
      t.answer setting files >>= fun a => (next a).answer setting files :=
  (ht.bind_runs fun a => hnext a setting files).answer_eq

theorem Looks.bind {t : Activity α} {next : α → Activity β} (ht : t.Looks)
    (hnext : ∀ a, (next a).Looks) : (t >>= next).Looks := by
  intro setting files
  rw [answer_bind ht hnext]
  exact ht.bind_runs fun a => hnext a setting files

theorem looks_of_run_eq {t : Activity α}
    (h : ∀ setting w, t.run setting w = (t.answer setting w.files, w)) : t.Looks := by
  rintro setting files w rfl
  rw [h]
  exact ⟨rfl, rfl, (List.append_nil _).symm⟩

theorem looks_pure (a : α) : (pure a : Activity α).Looks :=
  looks_of_run_eq fun _ _ => rfl

theorem looks_throw (f : Fault) : (throw f : Activity α).Looks :=
  looks_of_run_eq fun _ _ => rfl

theorem looks_read : (read : Activity Setting).Looks :=
  looks_of_run_eq fun _ _ => rfl

theorem looks_cwd : cwd.Looks :=
  looks_of_run_eq fun _ _ => rfl

theorem looks_ask (question : FileSystem → Place → Path → α) (p : Path) :
    (ask question p).Looks :=
  looks_of_run_eq fun _ _ => rfl

theorem looks_ofExcept {ε : Type} (fault : ε → Fault) (r : Except ε α) :
    (ofExcept fault r).Looks := by
  cases r with
  | ok a => exact looks_pure a
  | error e => exact looks_throw (fault e)

theorem answer_ofExcept {ε : Type} (fault : ε → Fault) (r : Except ε α) (files : FileSystem) :
    (ofExcept fault r).answer setting files = r.mapError fault := by
  rw [answer, run_ofExcept]

theorem looks_emit {e : Event} (he : e.started? = none) : (emit e).Looks := by
  rintro setting files w rfl
  refine ⟨rfl, rfl, ?_⟩
  change (w.events ++ [e]).filterMap Event.started? = _
  rw [List.filterMap_append, List.filterMap_cons_none he]
  rfl

theorem looks_log (level : Level) (area message : String) (fields : List (String × LogValue)) :
    (log level area message fields).Looks :=
  looks_read.bind fun _ => looks_emit rfl

theorem looks_printLine (text : String) : (printLine text).Looks :=
  looks_emit rfl

end Activity
end DocLaunch
