import Mathlib.Data.List.Nodup
import DocLaunch.Proofs.Path.Normalization
import DocLaunch.Proofs.Settings.File
import DocLaunch.Proofs.Settings.Rules

namespace DocLaunch

namespace Text

def whiteSpace : List Char :=
  ['\t', '\n', '\x0b', '\x0c', '\r', ' ', '\x85', '\xa0', '\u1680', '\u2000', '\u2001', '\u2002',
    '\u2003', '\u2004', '\u2005', '\u2006', '\u2007', '\u2008', '\u2009', '\u200a', '\u2028',
    '\u2029', '\u202f', '\u205f', '\u3000']

/-- Something in the text is not white space. -/
def Visible (text : String) : Prop :=
  ∃ c ∈ text.toList, c ∉ whiteSpace

theorem isBlank_iff_mem {c : Char} : isBlank c = true ↔ c ∈ whiteSpace := by
  have hcode : c ∈ whiteSpace ↔ c.toNat ∈ whiteSpace.map Char.toNat := by
    refine ⟨List.mem_map_of_mem, fun h => ?_⟩
    obtain ⟨d, hd, he⟩ := List.mem_map.mp h
    exact Char.toNat_inj.mp he ▸ hd
  have hcodes : whiteSpace.map Char.toNat = [9, 10, 11, 12, 13, 0x20, 0x85, 0xA0, 0x1680, 0x2000,
      0x2001, 0x2002, 0x2003, 0x2004, 0x2005, 0x2006, 0x2007, 0x2008, 0x2009, 0x200A, 0x2028,
      0x2029, 0x202F, 0x205F, 0x3000] := rfl
  rw [hcode, hcodes]
  simp only [isBlank, Bool.or_eq_true, Bool.and_eq_true, decide_eq_true_eq, beq_iff_eq,
    List.mem_cons, List.not_mem_nil, or_false]
  omega

theorem isBlankText_iff {text : String} : isBlankText text = true ↔ ¬ Visible text := by
  simp only [isBlankText, List.all_eq_true, isBlank_iff_mem, Visible, not_exists, not_and,
    not_not]

end Text

namespace Site

open DocLaunch.Path Text

def IsCapital (c : Char) : Prop :=
  'A' ≤ c ∧ c ≤ 'Z'

def IsNumeral (c : Char) : Prop :=
  '0' ≤ c ∧ c ≤ '9'

/-- A capital letter, then one to seven capital letters or digits, and nothing more. -/
def IsDocumentId (id : String) : Prop :=
  ∃ first rest, id.toList = first :: rest ∧ IsCapital first ∧
    (∀ c ∈ rest, IsCapital c ∨ IsNumeral c) ∧ 1 ≤ rest.length ∧ rest.length ≤ 7

structure StaysBelow (value : String) : Prop where
  ne_empty : value ≠ ""
  no_slash : value.toList.head? ≠ some '/'
  no_parent : ".." ∉ pieces value

structure Sound (s : Site) : Prop where
  project : ∀ project, s.project = some project → Visible project
  documentId : ∀ id, s.documentId = some id → IsDocumentId id
  extensions_visible : ∀ name ∈ s.extensions, Visible name
  extensions_distinct : s.extensions.Nodup
  sourceDir : StaysBelow s.sourceDir
  substitutionsPath : ∀ value, s.substitutionsPath = some value → StaysBelow value
  targetNamesPath : ∀ value, s.targetNamesPath = some value → StaysBelow value

inductive BreaksProject : Option String → SiteFault → Prop where
  | blank {project : String} (h : ¬ Visible project) : BreaksProject (some project) .blankProject

inductive BreaksDocumentId : Option String → SiteFault → Prop where
  | malformed {id : String} (h : ¬ IsDocumentId id) :
    BreaksDocumentId (some id) (.badDocumentId id)

/-- The first name counts that is blank or has come before. -/
inductive BreaksExtensions : List String → SiteFault → Prop where
  | blank {before after : List String} {name : String} (hvisible : ∀ n ∈ before, Visible n)
    (hdistinct : before.Nodup) (h : ¬ Visible name) :
    BreaksExtensions (before ++ name :: after) .blankExtension
  | repeated {before after : List String} {name : String} (hvisible : ∀ n ∈ before, Visible n)
    (hdistinct : before.Nodup) (hname : Visible name) (h : name ∈ before) :
    BreaksExtensions (before ++ name :: after) (.repeatedExtension name)

inductive Strays (field : String) : Option String → SiteFault → Prop where
  | notRelative {value : String} (h : value = "" ∨ value.toList.head? = some '/') :
    Strays field (some value) (.notRelative field value)
  | leavesRoot {value : String} (hne : value ≠ "") (hslash : value.toList.head? ≠ some '/')
    (h : ".." ∈ pieces value) : Strays field (some value) (.leavesRoot field value)

/-- The rules in their order, each by what is reported where it is broken. -/
def rules (s : Site) : List (SiteFault → Prop) :=
  [BreaksProject s.project, BreaksDocumentId s.documentId, BreaksExtensions s.extensions,
    Strays "site.source_dir" (some s.sourceDir),
    Strays "site.substitutions_path" s.substitutionsPath,
    Strays "site.target_names_path" s.targetNamesPath]

/-- Reported for the first of the rules that is broken. -/
inductive FirstBroken : List (SiteFault → Prop) → SiteFault → Prop where
  | here {rule : SiteFault → Prop} {rules : List (SiteFault → Prop)} {f : SiteFault} (h : rule f) :
    FirstBroken (rule :: rules) f
  | later {rule : SiteFault → Prop} {rules : List (SiteFault → Prop)} {f : SiteFault}
    (hkept : ∀ g, ¬ rule g) (h : FirstBroken rules f) : FirstBroken (rule :: rules) f

section Rules

variable {f : SiteFault} {field value id : String} {before rest names seen : List String}

theorem isDocumentId_iff : isDocumentId id = true ↔ IsDocumentId id := by
  have hcapital : ∀ c : Char, c.isUpper = true ↔ IsCapital c := fun _ => decide_eq_true_iff
  have hnumeral : ∀ c : Char, c.isDigit = true ↔ IsNumeral c := by
    intro c
    simp only [Char.isDigit, IsNumeral, Char.le_def, decide_eq_true_eq, Bool.and_eq_true]
  unfold isDocumentId IsDocumentId
  cases id.toList with
  | nil => simp
  | cons first rest =>
    simp only [Bool.and_eq_true, List.all_eq_true, Bool.or_eq_true, hcapital, hnumeral,
      decide_eq_true_eq, and_assoc, List.cons.injEq]
    constructor
    · intro h
      exact ⟨first, rest, rfl, rfl, h⟩
    · rintro ⟨_, _, rfl, rfl, h⟩
      exact h

theorem checkProject_eq_error_iff {project? : Option String} :
    checkProject project? = .error f ↔ BreaksProject project? f := by
  cases project? with
  | none => exact ⟨(nomatch ·), (nomatch ·)⟩
  | some project =>
    rw [checkProject]
    split
    · next h =>
      constructor
      · rintro ⟨⟩
        exact .blank (isBlankText_iff.mp h)
      · rintro ⟨⟩
        rfl
    · next h =>
      refine ⟨(nomatch ·), ?_⟩
      rintro ⟨hblank⟩
      exact absurd (isBlankText_iff.mpr hblank) h

theorem checkDocumentId_eq_error_iff {id? : Option String} :
    checkDocumentId id? = .error f ↔ BreaksDocumentId id? f := by
  cases id? with
  | none => exact ⟨(nomatch ·), (nomatch ·)⟩
  | some id =>
    rw [checkDocumentId]
    split
    · next h =>
      refine ⟨(nomatch ·), ?_⟩
      rintro ⟨hid⟩
      exact absurd (isDocumentId_iff.mp h) hid
    · next h =>
      constructor
      · rintro ⟨⟩
        exact .malformed fun hid => h (isDocumentId_iff.mpr hid)
      · rintro ⟨⟩
        rfl

theorem checkExtensions_append (hvisible : ∀ n ∈ before, Visible n) (hdistinct : before.Nodup)
    (hfresh : ∀ n ∈ before, n ∉ seen) :
    checkExtensions seen (before ++ rest) = checkExtensions (before.reverse ++ seen) rest := by
  induction before generalizing seen with
  | nil => rfl
  | cons name before ih =>
    obtain ⟨hname, hvisible⟩ := List.forall_mem_cons.mp hvisible
    obtain ⟨hnew, hdistinct⟩ := List.nodup_cons.mp hdistinct
    obtain ⟨hseen, hfresh⟩ := List.forall_mem_cons.mp hfresh
    have hblank : ¬ isBlankText name = true := fun h => isBlankText_iff.mp h hname
    have hcontains : ¬ seen.contains name = true := fun h => hseen (List.contains_iff_mem.mp h)
    have hfresh' : ∀ n ∈ before, n ∉ name :: seen := by
      intro n hn hmem
      rcases List.mem_cons.mp hmem with rfl | hmem
      · exact hnew hn
      · exact hfresh n hn hmem
    rw [List.cons_append, checkExtensions, if_neg hblank, if_neg hcontains,
      ih hvisible hdistinct hfresh', List.reverse_cons, List.append_assoc]
    rfl

theorem checkExtensions_of_breaks (h : BreaksExtensions names f) :
    checkExtensions [] names = .error f := by
  cases h with
  | @blank before after name hvisible hdistinct hblank =>
    rw [checkExtensions_append hvisible hdistinct fun _ _ => List.not_mem_nil, checkExtensions,
      if_pos (isBlankText_iff.mpr hblank)]
  | @repeated before after name hvisible hdistinct hname hmem =>
    have hblank : ¬ isBlankText name = true := fun h => isBlankText_iff.mp h hname
    have hcontains : (before.reverse ++ []).contains name = true := by simpa using hmem
    rw [checkExtensions_append hvisible hdistinct fun _ _ => List.not_mem_nil, checkExtensions,
      if_neg hblank, if_pos hcontains]

/-- One name more at the end: a list that breaks the rule breaks it as before. -/
theorem extensions_sound_or_broken (names : List String) :
    ((∀ n ∈ names, Visible n) ∧ names.Nodup) ∨ ∃ f, BreaksExtensions names f := by
  induction names using List.reverseRecOn with
  | nil => exact .inl ⟨List.forall_mem_nil _, .nil⟩
  | append_singleton names name ih =>
    rcases ih with ⟨hvisible, hdistinct⟩ | ⟨f, hbroken⟩
    · by_cases hname : Visible name
      · by_cases hmem : name ∈ names
        · exact .inr ⟨_, .repeated hvisible hdistinct hname hmem⟩
        · refine .inl ⟨?_, ?_⟩
          · intro n hn
            rcases List.mem_append.mp hn with hn | hn
            · exact hvisible n hn
            · exact List.mem_singleton.mp hn ▸ hname
          · exact List.nodup_append_comm.mp (List.nodup_cons.mpr ⟨hmem, hdistinct⟩)
      · exact .inr ⟨_, .blank hvisible hdistinct hname⟩
    · right
      cases hbroken with
      | blank hvisible hdistinct h =>
        rw [List.append_assoc, List.cons_append]
        exact ⟨_, .blank hvisible hdistinct h⟩
      | repeated hvisible hdistinct hname h =>
        rw [List.append_assoc, List.cons_append]
        exact ⟨_, .repeated hvisible hdistinct hname h⟩

theorem checkExtensions_of_sound (hvisible : ∀ n ∈ names, Visible n) (hdistinct : names.Nodup) :
    checkExtensions [] names = .ok () := by
  rw [← List.append_nil names,
    checkExtensions_append hvisible hdistinct fun _ _ => List.not_mem_nil]
  rfl

theorem checkExtensions_eq_error_iff :
    checkExtensions [] names = .error f ↔ BreaksExtensions names f := by
  refine ⟨fun h => ?_, checkExtensions_of_breaks⟩
  rcases extensions_sound_or_broken names with ⟨hvisible, hdistinct⟩ | ⟨g, hbroken⟩
  · rw [checkExtensions_of_sound hvisible hdistinct] at h
    cases h
  · cases h.symm.trans (checkExtensions_of_breaks hbroken)
    exact hbroken

theorem extensions_sound_iff :
    ((∀ n ∈ names, Visible n) ∧ names.Nodup) ↔ ∀ f, ¬ BreaksExtensions names f := by
  constructor
  · rintro ⟨hvisible, hdistinct⟩ f hbroken
    have h := checkExtensions_of_breaks hbroken
    rw [checkExtensions_of_sound hvisible hdistinct] at h
    cases h
  · intro h
    rcases extensions_sound_or_broken names with hsound | ⟨f, hbroken⟩
    · exact hsound
    · exact absurd hbroken (h f)

theorem checkBelow_eq_error_iff :
    checkBelow field value = .error f ↔ Strays field (some value) f := by
  have hrelative : (value.isEmpty || isAbsolute value) = true ↔
      value = "" ∨ value.toList.head? = some '/' := by
    rw [Bool.or_eq_true, String.isEmpty_iff, isAbsolute, beq_iff_eq]
  rw [checkBelow]
  split
  · next h =>
    constructor
    · rintro ⟨⟩
      exact .notRelative (hrelative.mp h)
    · rintro (_ | ⟨hne, hslash, -⟩)
      · rfl
      · exact absurd (hrelative.mp h) (not_or.mpr ⟨hne, hslash⟩)
  · next h =>
    obtain ⟨hne, hslash⟩ := not_or.mp (h ∘ hrelative.mpr)
    split
    · next hup =>
      have hup := parent_mem_segments_iff.mp (List.contains_iff_mem.mp hup)
      constructor
      · rintro ⟨⟩
        exact .leavesRoot hne hslash hup
      · rintro (hrel | _)
        · exact absurd hrel (not_or.mpr ⟨hne, hslash⟩)
        · rfl
    · next hup =>
      constructor
      · rintro ⟨⟩
      · rintro (hrel | ⟨-, -, hparent⟩)
        · exact absurd hrel (not_or.mpr ⟨hne, hslash⟩)
        · exact absurd (List.contains_iff_mem.mpr (parent_mem_segments_iff.mpr hparent)) hup

theorem staysBelow_iff : StaysBelow value ↔ ∀ f, ¬ Strays field (some value) f := by
  constructor
  · rintro h f (hrel | ⟨-, -, hparent⟩)
    · exact hrel.elim h.ne_empty h.no_slash
    · exact h.no_parent hparent
  · intro h
    have hne : value ≠ "" := fun he => h _ (.notRelative (.inl he))
    have hslash : value.toList.head? ≠ some '/' := fun hs => h _ (.notRelative (.inr hs))
    exact ⟨hne, hslash, fun hparent => h _ (.leavesRoot hne hslash hparent)⟩

end Rules

section Check

variable {s : Site} {f : SiteFault}

theorem forall_some_iff {α : Type} {a? : Option α} {P : α → Prop}
    {rule : Option α → SiteFault → Prop} (hnone : ∀ f, ¬ rule none f)
    (hsome : ∀ a, P a ↔ ∀ f, ¬ rule (some a) f) :
    (∀ a, a? = some a → P a) ↔ ∀ f, ¬ rule a? f := by
  cases a? with
  | none => exact ⟨fun _ => hnone, fun _ _ => (nomatch ·)⟩
  | some a => simp only [Option.some.injEq, forall_eq', hsome]

theorem sound_iff : s.Sound ↔ ∀ rule ∈ s.rules, ∀ f, ¬ rule f := by
  have hproject : (∀ project, s.project = some project → Visible project) ↔
      ∀ f, ¬ BreaksProject s.project f := by
    refine forall_some_iff (fun _ => (nomatch ·)) fun project => ?_
    constructor
    · rintro hvisible f ⟨h⟩
      exact h hvisible
    · intro h
      by_contra hblank
      exact h _ (.blank hblank)
  have hid : (∀ id, s.documentId = some id → IsDocumentId id) ↔
      ∀ f, ¬ BreaksDocumentId s.documentId f := by
    refine forall_some_iff (fun _ => (nomatch ·)) fun id => ?_
    constructor
    · rintro hid f ⟨h⟩
      exact h hid
    · intro h
      by_contra hid
      exact h _ (.malformed hid)
  have hdata : ∀ (field : String) (value? : Option String),
      (∀ value, value? = some value → StaysBelow value) ↔ ∀ f, ¬ Strays field value? f := by
    intro field value?
    exact forall_some_iff (fun _ => (nomatch ·)) fun value => staysBelow_iff
  simp only [rules, List.forall_mem_cons, List.not_mem_nil, false_imp_iff, implies_true, and_true,
    ← hproject, ← hid, ← extensions_sound_iff, ← staysBelow_iff]
  rw [← hdata, ← hdata]
  constructor
  · rintro ⟨h₁, h₂, h₃, h₄, h₅, h₆, h₇⟩
    exact ⟨h₁, h₂, ⟨h₃, h₄⟩, h₅, h₆, h₇⟩
  · rintro ⟨h₁, h₂, ⟨h₃, h₄⟩, h₅, h₆, h₇⟩
    exact ⟨h₁, h₂, h₃, h₄, h₅, h₆, h₇⟩

def checkGiven (field : String) : Option String → Except SiteFault Unit
  | none => .ok ()
  | some value => checkBelow field value

def checks (s : Site) : List (Except SiteFault Unit) :=
  [checkProject s.project, checkDocumentId s.documentId, checkExtensions [] s.extensions,
    checkBelow "site.source_dir" s.sourceDir,
    checkGiven "site.substitutions_path" s.substitutionsPath,
    checkGiven "site.target_names_path" s.targetNamesPath]

theorem check_eq_forM : s.check = s.checks.forM id := by
  have hpaths : (s.dataPaths.forM fun e => checkBelow e.1 e.2) =
      [checkGiven "site.substitutions_path" s.substitutionsPath,
        checkGiven "site.target_names_path" s.targetNamesPath].forM id := by
    rw [dataPaths]
    cases s.substitutionsPath with
    | none => cases s.targetNamesPath <;> rfl
    | some value =>
      cases s.targetNamesPath with
      | none => rfl
      | some value' => rfl
  rw [check, checkDeclaration, hpaths]
  simp only [bind_assoc]
  rfl

/-- A check fails with what is reported for the rule. -/
def Decides (c : Except SiteFault Unit) (rule : SiteFault → Prop) : Prop :=
  ∀ f, c = .error f ↔ rule f

theorem checkGiven_decides (field : String) (value? : Option String) :
    Decides (checkGiven field value?) (Strays field value?) := by
  intro f
  cases value? with
  | none => exact ⟨(nomatch ·), (nomatch ·)⟩
  | some value => exact checkBelow_eq_error_iff

theorem checks_decide (s : Site) : List.Forall₂ Decides s.checks s.rules := by
  have hproject : Decides (checkProject s.project) (BreaksProject s.project) :=
    fun _ => checkProject_eq_error_iff
  have hid : Decides (checkDocumentId s.documentId) (BreaksDocumentId s.documentId) :=
    fun _ => checkDocumentId_eq_error_iff
  have hextensions : Decides (checkExtensions [] s.extensions) (BreaksExtensions s.extensions) :=
    fun _ => checkExtensions_eq_error_iff
  have hdata := checkGiven_decides "site.substitutions_path" s.substitutionsPath
  have hnames := checkGiven_decides "site.target_names_path" s.targetNamesPath
  apply List.Forall₂.cons hproject
  apply List.Forall₂.cons hid
  apply List.Forall₂.cons hextensions
  apply List.Forall₂.cons fun _ => checkBelow_eq_error_iff
  exact .cons hdata (.cons hnames .nil)

variable {checks : List (Except SiteFault Unit)} {rules : List (SiteFault → Prop)}

theorem forM_eq_error_iff (h : List.Forall₂ Decides checks rules) :
    checks.forM id = .error f ↔ FirstBroken rules f := by
  induction h with
  | nil => exact ⟨(nomatch ·), (nomatch ·)⟩
  | @cons c rule checks rules hc _ ih =>
    change (c >>= fun _ => checks.forM id) = .error f ↔ _
    cases c with
    | error g =>
      have hg : rule g := (hc g).mp rfl
      constructor
      · rintro ⟨⟩
        exact .here hg
      · rintro (hf | ⟨hkept, -⟩)
        · exact (hc f).mpr hf
        · exact absurd hg (hkept g)
    | ok =>
      have hkept : ∀ g, ¬ rule g := fun g hg => nomatch (hc g).mpr hg
      refine ih.trans ⟨.later hkept, ?_⟩
      rintro (hf | ⟨-, h⟩)
      · exact absurd hf (hkept f)
      · exact h

theorem forM_eq_ok_iff (h : List.Forall₂ Decides checks rules) :
    checks.forM id = .ok () ↔ ∀ rule ∈ rules, ∀ f, ¬ rule f := by
  induction h with
  | nil => exact ⟨fun _ _ h => absurd h List.not_mem_nil, fun _ => rfl⟩
  | @cons c rule checks rules hc _ ih =>
    change (c >>= fun _ => checks.forM id) = .ok () ↔ _
    rw [sequence_eq_ok, ih, List.forall_mem_cons]
    refine and_congr_left fun _ => ?_
    cases c with
    | error g => exact ⟨(nomatch ·), fun hkept => absurd ((hc g).mp rfl) (hkept g)⟩
    | ok => exact ⟨fun _ g hg => (nomatch (hc g).mpr hg), fun _ => rfl⟩

end Check

end Site

namespace Settings

/--
A declaration is accepted just when it is sound, and otherwise the first broken rule is reported.
Neither the root nor the files matter.
-/
theorem validate_reports_first_broken_rule (root : ProjectRoot) (s : Site) (setting : Setting)
    (w : World) :
    (((validate root s).run setting w).1 = .ok () ↔ s.Sound) ∧
      (∀ f, ((validate root s).run setting w).1 = .error f ↔
        ∃ g, f = .validation (.site g) ∧ Site.FirstBroken s.rules g) ∧
      ∀ (root' : ProjectRoot) (setting' : Setting) (w' : World),
        ((validate root' s).run setting' w').1 = ((validate root s).run setting w).1 := by
  have hrun : ∀ (root : ProjectRoot) (setting : Setting) (w : World),
      ((validate root s).run setting w).1 =
        s.check.mapError fun f => .validation (.site f) := by
    intro root setting w
    rw [(validate_looks root s).run_fst, validate_answer]
  have hdecide := Site.checks_decide s
  refine ⟨?accepted, fun f => ?reported, fun root' setting' w' => ?same⟩
  case accepted =>
    rw [hrun, Site.sound_iff, ← Site.forM_eq_ok_iff hdecide, ← Site.check_eq_forM]
    cases s.check with
    | ok => exact ⟨fun _ => rfl, fun _ => rfl⟩
    | error g => exact ⟨(nomatch ·), (nomatch ·)⟩
  case reported =>
    simp only [hrun, ← Site.forM_eq_error_iff hdecide, ← Site.check_eq_forM]
    cases s.check with
    | ok => exact ⟨(nomatch ·), fun ⟨_, _, h⟩ => nomatch h⟩
    | error g =>
      constructor
      · rintro ⟨⟩
        exact ⟨g, rfl, rfl⟩
      · rintro ⟨g', rfl, hg⟩
        cases hg
        rfl
  case same => rw [hrun, hrun]

/-- Two rules are broken, and the earlier one is reported. -/
example (root : ProjectRoot) (setting : Setting) (w : World) :
    ((validate root { extensions := ["toc", "toc"], sourceDir := "../docs" }).run setting w).1 =
      .error (.validation (.site (.repeatedExtension "toc"))) := by
  rfl

end Settings
end DocLaunch
