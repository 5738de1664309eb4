import DocLaunch.Proofs.Settings.Reload
import DocLaunch.Proofs.Toml.Told

namespace DocLaunch

open Toml

/-- A value that is looked at, with the shape that is expected there. -/
structure Visit where
  value : Value
  shape : Shape

namespace Toml.Value

/-- The value itself is of a shape, whatever is inside it. -/
def fits (v : Value) : Shape → Bool
  | .text => (v matches .scalar _ (.text _))
  | .boolean => (v matches .scalar _ (.boolean _))
  | .sequence => (v matches .array .. | .tables ..)
  | .map => (v matches .table .. | .scalar _ (.moment _))
  | .launcher | .submodules | .site | .lint =>
    (v matches .table .. | .array .. | .tables .. | .scalar _ (.moment _))

def items : Value → List Value
  | .array _ items | .tables _ items => items
  | .scalar .. | .table .. => []

/-- The entries of a section; items go by the names in order, as far as there are both. -/
def named (names : List String) : Value → Entries
  | .table _ _ entries => entries
  | .array _ items | .tables _ items => names.zip items
  | .scalar .. => []

end Toml.Value

def Slot.visits {σ : Type} (v : Value) : Slot σ → List Visit
  | .text .. | .optional .. => [⟨v, .text⟩]
  | .boolean .. => [⟨v, .boolean⟩]
  | .texts .. => ⟨v, .sequence⟩ :: v.items.map (⟨·, .text⟩)
  | .table .. => ⟨v, .map⟩ :: v.entries.map (⟨·.2, .text⟩)

/-- Entries that name no field are passed over. -/
def Field.visits {σ : Type} (fields : List (Field σ)) (e : String × Value) : List Visit :=
  match Field.find? fields e.1 with
  | none => []
  | some f => f.slot.visits e.2

def Launcher.visits (v : Value) : List Visit :=
  ⟨v, .launcher⟩ :: (v.named names).flatMap (Field.visits fields)

def Submodules.visits (v : Value) : List Visit :=
  ⟨v, .submodules⟩ :: (v.named names).flatMap (Field.visits fields)

def Lint.visits (v : Value) : List Visit :=
  ⟨v, .lint⟩ :: (v.named names).flatMap (Field.visits fields)

def Site.visitsOfEntry (e : String × Value) : List Visit :=
  if e.1 = "lint" then Lint.visits e.2 else Field.visits fields e

def Site.visits (v : Value) : List Visit :=
  ⟨v, .site⟩ :: (v.named names).flatMap visitsOfEntry

def Settings.visitsOfEntry (e : String × Value) : List Visit :=
  if e.1 = "launcher" then Launcher.visits e.2
  else if e.1 = "submodules" then Submodules.visits e.2
  else if e.1 = "site" then Site.visits e.2
  else []

/-- All that is looked at in a document, depth first. -/
def Settings.visits (document : Value) : List Visit :=
  document.entries.flatMap visitsOfEntry

namespace Visit

def Fits (x : Visit) : Prop :=
  x.value.fits x.shape = true

instance (x : Visit) : Decidable x.Fits :=
  inferInstanceAs (Decidable (_ = true))

def check (x : Visit) : Except Mismatch Unit :=
  if x.Fits then .ok () else .error (x.value.mismatch x.shape)

end Visit

/-- Reading something goes wrong just as looking at one value after the other does. -/
def Examines {α : Type} (r : Except Mismatch α) (l : List Visit) : Prop :=
  (r.map fun _ => ()) = l.forM Visit.check

namespace Examines

variable {α β γ : Type} {r : Except Mismatch α} {l l' : List Visit}

theorem forM_append (l l' : List Visit) :
    (l ++ l').forM Visit.check = l.forM Visit.check >>= fun _ => l'.forM Visit.check := by
  induction l with
  | nil => rfl
  | cons x l ih =>
    change (x.check >>= fun _ => (l ++ l').forM Visit.check) =
      (x.check >>= fun _ => l.forM Visit.check) >>= fun _ => l'.forM Visit.check
    rw [ih]
    cases x.check <;> rfl

theorem pure (a : α) : Examines (.ok a) [] :=
  rfl

theorem bind {f : α → Except Mismatch β} (hr : Examines r l)
    (hf : ∀ a, r = .ok a → Examines (f a) l') : Examines (r >>= f) (l ++ l') := by
  unfold Examines at hr ⊢
  rw [forM_append, ← hr]
  cases r with
  | error m => rfl
  | ok a => exact hf a rfl

theorem map (hr : Examines r l) (f : α → β) : Examines (do return f (← r)) l := by
  have h := hr.bind fun a _ => pure (f a)
  rwa [List.append_nil] at h

theorem foldlM {f : β → γ → Except Mismatch β} {g : γ → List Visit}
    (h : ∀ b c, Examines (f b c) (g c)) (cs : List γ) (b : β) :
    Examines (cs.foldlM f b) (cs.flatMap g) := by
  induction cs generalizing b with
  | nil => exact pure b
  | cons c cs ih => exact (h b c).bind fun b _ => ih b

theorem mapM {f : γ → Except Mismatch β} {g : γ → Visit} (h : ∀ c, Examines (f c) [g c])
    (cs : List γ) : Examines (cs.mapM f) (cs.map g) := by
  induction cs with
  | nil => exact pure []
  | cons c cs ih =>
    rw [List.mapM_cons]
    exact (h c).bind fun b _ => ih.map (b :: ·)

theorem forM_check_of_fits (h : ∀ x ∈ l, x.Fits) : l.forM Visit.check = .ok () := by
  induction l with
  | nil => rfl
  | cons x l ih =>
    obtain ⟨hx, hl⟩ := List.forall_mem_cons.mp h
    change (x.check >>= fun _ => l.forM Visit.check) = .ok ()
    rw [ih hl, Visit.check, if_pos hx]
    rfl

theorem exists_ok (hr : Examines r l) (h : ∀ x ∈ l, x.Fits) : ∃ a, r = .ok a := by
  rw [Examines, forM_check_of_fits h] at hr
  cases r with
  | error m => cases hr
  | ok a => exact ⟨a, rfl⟩

theorem eq_error {before after : List Visit} {x : Visit} (hr : Examines r (before ++ x :: after))
    (h : ∀ y ∈ before, y.Fits) (hx : ¬ x.Fits) : r = .error (x.value.mismatch x.shape) := by
  have hcheck : (x :: after).forM Visit.check = .error (x.value.mismatch x.shape) := by
    change (x.check >>= fun _ => after.forM Visit.check) = _
    rw [Visit.check, if_neg hx]
    rfl
  rw [Examines, forM_append, forM_check_of_fits h, hcheck] at hr
  cases r with
  | error m =>
    cases hr
    rfl
  | ok a => cases hr

end Examines

section Sections

variable {σ : Type}

theorem examines_asText (v : Value) : Examines v.asText [⟨v, .text⟩] := by
  cases v with
  | scalar mark s => cases s <;> exact rfl
  | array | tables | table => exact rfl

theorem examines_asBoolean (v : Value) : Examines v.asBoolean [⟨v, .boolean⟩] := by
  cases v with
  | scalar mark s => cases s <;> exact rfl
  | array | tables | table => exact rfl

theorem examines_asTexts (v : Value) :
    Examines v.asTexts (⟨v, .sequence⟩ :: v.items.map (⟨·, .text⟩)) := by
  cases v with
  | scalar mark s => cases s <;> exact rfl
  | table => exact rfl
  | array mark items => exact Examines.mapM examines_asText items
  | tables mark items => exact Examines.mapM examines_asText items

theorem examines_asTable (v : Value) :
    Examines v.asTable (⟨v, .map⟩ :: v.entries.map (⟨·.2, .text⟩)) := by
  cases v with
  | scalar mark s => cases s <;> exact rfl
  | array | tables => exact rfl
  | table mark origin entries =>
    have hentries := Examines.mapM (fun e : String × Value => (examines_asText e.2).map (e.1, ·))
      entries
    exact hentries.map StringTable.ofList

theorem examines_slot (v : Value) (s : σ) (x : Slot σ) : Examines (x.decode v s) (x.visits v) := by
  cases x with
  | text get set => exact (examines_asText v).map (set · s)
  | optional get set => exact (examines_asText v).map fun t => set (some t) s
  | boolean get set => exact (examines_asBoolean v).map (set · s)
  | texts get set => exact (examines_asTexts v).map (set · s)
  | table get set => exact (examines_asTable v).map (set · s)

theorem examines_field (fields : List (Field σ)) (s : σ) (e : String × Value) :
    Examines (Field.decode fields s e) (Field.visits fields e) := by
  rw [Field.decode, Field.visits]
  cases Field.find? fields e.1 with
  | none => exact .pure s
  | some f => exact examines_slot e.2 s f.slot

theorem examines_asSection (shape : Shape) (hshape : ∀ v : Value, v.fits shape = v.fits .site)
    (names : List String) (v : Value) : Examines (v.asSection shape names) [⟨v, shape⟩] := by
  have hcheck : [Visit.mk v shape].forM Visit.check =
      if v.fits .site = true then .ok () else .error (v.mismatch shape) := by
    rw [← hshape]
    change (Visit.check ⟨v, shape⟩ >>= fun _ => Pure.pure ()) = _
    by_cases hfits : v.fits shape = true
    · rw [Visit.check, if_pos (by exact hfits), if_pos hfits]
      rfl
    · rw [Visit.check, if_neg (by exact hfits), if_neg hfits]
      rfl
  rw [Examines, hcheck]
  cases v with
  | scalar mark s => cases s <;> rfl
  | array | tables | table => rfl

theorem eq_named_of_asSection {shape : Shape} {names : List String} {v : Value} {entries : Entries}
    (h : v.asSection shape names = .ok entries) : entries = v.named names := by
  cases v with
  | scalar mark s =>
    cases s <;> cases h
    rfl
  | array | tables | table =>
    cases h
    rfl

theorem examines_section (shape : Shape) (hshape : ∀ v : Value, v.fits shape = v.fits .site)
    (names : List String) {decode : σ → String × Value → Except Mismatch σ}
    {visits : String × Value → List Visit} (h : ∀ s e, Examines (decode s e) (visits e)) (s : σ)
    (v : Value) :
    Examines (v.asSection shape names >>= fun entries => entries.foldlM decode s)
      (⟨v, shape⟩ :: (v.named names).flatMap visits) := by
  refine (examines_asSection shape hshape names v).bind fun entries hentries => ?_
  rw [eq_named_of_asSection hentries]
  exact .foldlM h _ s

theorem Launcher.examines_decode (v : Value) : Examines (decode v) (visits v) :=
  examines_section .launcher (fun _ => rfl) names (examines_field fields) _ v

theorem Submodules.examines_decode (v : Value) : Examines (decode v) (visits v) :=
  examines_section .submodules (fun _ => rfl) names (examines_field fields) _ v

theorem Lint.examines_decode (v : Value) : Examines (decode v) (visits v) :=
  examines_section .lint (fun _ => rfl) names (examines_field fields) _ v

theorem Site.examines_decode (v : Value) : Examines (decode v) (visits v) := by
  refine examines_section .site (fun _ => rfl) names (fun s e => ?_) _ v
  rw [decodeEntry, visitsOfEntry]
  split
  · exact (Lint.examines_decode e.2).map fun l => { s with lint := l }
  · exact examines_field fields s e

theorem Settings.examines_decode (document : Value) :
    Examines (decode document) (visits document) := by
  have hentry (s : Settings) (e : String × Value) :
      Examines (decodeEntry s e) (visitsOfEntry e) := by
    rw [decodeEntry, visitsOfEntry]
    split
    · exact (Launcher.examines_decode e.2).map fun l => { s with launcher := l }
    split
    · exact (Submodules.examines_decode e.2).map fun m => { s with submodules := m }
    split
    · exact (Site.examines_decode e.2).map fun t => { s with site := t }
    · exact .pure s
  cases document with
  | table mark origin entries => exact .foldlM hentry entries ({} : Settings)
  | scalar | array | tables => exact .pure ({} : Settings)

end Sections

theorem FileSystem.isThere_of_readBytes {files : FileSystem} {cwd : Place} {p : Path}
    {bytes : ByteArray} (h : files.readBytes cwd p = .ok bytes) : files.isThere cwd p = true := by
  rw [readBytes] at h
  rw [isThere]
  cases hstatus : files.status cwd p with
  | error e =>
    rw [hstatus] at h
    cases h
  | ok found => rfl

theorem SettingsFault.message_unreadable (p : Path) (d : Diagnosis) :
    (Fault.settings (.unreadable p d)).message =
      "config error: failed to parse " ++ p ++ ": " ++ d.message := by
  have hassoc (a b c d e : String) : a ++ (b ++ c ++ d ++ e) = a ++ b ++ c ++ d ++ e := by
    simp only [String.append_assoc]
  have hwords : "config error: " ++ "failed to parse " = "config error: failed to parse " := by
    decide
  exact (hassoc ..).trans (congrArg (· ++ p ++ ": " ++ d.message) hwords)

namespace Settings

open Activity

/--
What a settings file that can be read gives. Bytes that are no text are a fault of the file; a text
that is no document is malformed, whatever else is wrong with it; and in a document the first value
is reported that does not fit, in the order in which the values begin. A value with a header of its
own begins there, one that is assigned where its text does, and any other where a key mentions it
first. If all values fit, there is no fault.
-/
theorem load_reports_first_misfit {setting : Setting} {w : World} {root : ProjectRoot}
    {bytes : ByteArray}
    (h : w.files.readBytes setting.cwd root.settingsPath = .ok bytes) :
    let outcome := ((load root).run setting w).1
    let path := root.settingsPath
    (∀ d, (Fault.settings (.unreadable path d)).message =
      "config error: failed to parse " ++ path ++ ": " ++ d.message) ∧
    ((∀ text : String, text.toUTF8 ≠ bytes) → outcome = .error (.file path .notUtf8)) ∧
    ∀ text : String, text.toUTF8 = bytes →
      (Value.ofText? text.toList = none →
        outcome = .error (.settings (.unreadable path .malformed))) ∧
      ∀ document, Value.ofText? text.toList = some document →
        document.InOrder 0 ∧
          (∃ ss, Statement.readAll text.toList = some ss ∧ (∀ s ∈ ss, s.StandsIn text.toList) ∧
            document.Told text.toList (inFull [] ss)) ∧
          ((∃ c, outcome = .ok c) ↔ Conforms document) ∧
          ((∀ x ∈ visits document, x.Fits) → ∃ c, outcome = .ok c) ∧
          ∀ before x after, visits document = before ++ x :: after → (∀ y ∈ before, y.Fits) →
            ¬ x.Fits → ∃ line column, position text.toList x.value.mark = (line, column) ∧
              outcome = .error (.settings
                (.unreadable path (.mismatch line column x.value.found x.shape))) := by
  intro outcome path
  have houtcome : outcome = (loadFrom path).answer setting w.files := by
    rw [← load_answer_of_isThere (FileSystem.isThere_of_readBytes h)]
    exact (load_looks root).run_fst
  clear_value outcome
  subst houtcome
  refine ⟨SettingsFault.message_unreadable path, fun hbytes => ?_, ?_⟩
  · have htext : String.fromUTF8? bytes = none :=
      dif_neg fun hvalid => hbytes (String.fromUTF8 bytes hvalid) rfl
    have hread : w.files.readText setting.cwd path = .error .notUtf8 := by
      rw [FileSystem.readText, h]
      simp only [bind, Except.bind, htext]
    simp only [answer, loadFrom, run_bind, run_ask, hread]
    rfl
  · rintro text rfl
    have hread := FileSystem.readText_of_readBytes h
    refine ⟨fun hnone => ?_, fun document hdoc => ?_⟩
    · rw [loadFrom_answer hread, ofText, hnone]
      rfl
    · have hload := loadFrom_answer hread
      rw [ofText, hdoc] at hload
      have hexamines := examines_decode document
      have hconforms := (loadFrom_overlays_defaults hread hdoc).1
      refine ⟨Value.inOrder_ofText? hdoc, Value.told_ofText? hdoc, hconforms, fun hfits => ?_,
        fun before x after hvisits hbefore hx => ?_⟩
      · obtain ⟨c, hc⟩ := hexamines.exists_ok hfits
        simp only [hc] at hload
        exact ⟨c, hload⟩
      · rw [hvisits] at hexamines
        simp only [hexamines.eq_error hbefore hx] at hload
        exact ⟨_, _, rfl, hload⟩

/-- Theme options come first, another section comes in between, and then the site's own header. -/
def reopenedSite : String :=
  "[site.theme_options]
a=1
[launcher]
builder=2
[site]
project=3
"

def reopenedSiteFile : FileSystem :=
  ⟨[(["docmake.toml"], .file reopenedSite.toUTF8 false)]⟩

theorem load_reports_first_misfit_of_reopened_site :
    ((load ⟨"/"⟩).run Setting.barren ⟨reopenedSiteFile, []⟩).1 =
      .error (.settings (.unreadable "/docmake.toml" (.mismatch 4 9 (.integer 2) .sequence))) := by
  have hbytes : reopenedSiteFile.readBytes [] "/docmake.toml" = .ok reopenedSite.toUTF8 := by rfl
  obtain ⟨-, -, htext⟩ :=
    @load_reports_first_misfit Setting.barren ⟨reopenedSiteFile, []⟩ ⟨"/"⟩ _ hbytes
  obtain ⟨document, hdoc⟩ : ∃ document, Value.ofText? reopenedSite.toList = some document :=
    ⟨_, by rfl⟩
  obtain ⟨-, -, -, -, hfirst⟩ := (htext reopenedSite rfl).2 document hdoc
  cases hdoc
  obtain ⟨line, column, hposition, houtcome⟩ := hfirst [_] _ _ rfl (by decide) (by decide)
  cases hposition
  exact houtcome

/-- The keys at the top of a document, as its statements mention them. -/
def topKeys : List Key → List Statement → List String
  | _, [] => []
  | _, .header _ path :: ss | _, .doubleHeader _ path :: ss =>
    (path.head?.map Key.text).toList ++ topKeys path ss
  | under, .assign path _ :: ss =>
    ((under ++ path).head?.map Key.text).toList ++ topKeys under ss

/-- The entries of a table in another order. -/
def arrange (names : List String) : Value → Value
  | .table mark origin entries =>
    .table mark origin (names.filterMap fun n => (entries.lookup n).map (n, ·))
  | v => v

/-- By first mention the site would come first, and its theme option would be reported. -/
theorem load_not_by_first_mention :
    ∃ ss document x, Statement.readAll reopenedSite.toList = some ss ∧
      Value.ofStatements? ss = some document ∧
      (visits (arrange (topKeys [] ss).eraseDups document)).find? (fun x => !x.Fits) = some x ∧
      position reopenedSite.toList x.value.mark = (2, 3) ∧ x.value.found = .integer 1 ∧
      x.shape = .text ∧
      ((load ⟨"/"⟩).run Setting.barren ⟨reopenedSiteFile, []⟩).1 ≠
        .error (.settings (.unreadable "/docmake.toml" (.mismatch 2 3 (.integer 1) .text))) := by
  have hload : ((load ⟨"/"⟩).run Setting.barren ⟨reopenedSiteFile, []⟩).1 =
      .error (.settings (.unreadable "/docmake.toml" (.mismatch 4 9 (.integer 2) .sequence))) := by
    rfl
  refine ⟨_, _, _, rfl, rfl, rfl, rfl, rfl, rfl, fun h => ?_⟩
  cases hload.symm.trans h

end Settings

end DocLaunch
