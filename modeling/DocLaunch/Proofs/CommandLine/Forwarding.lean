import Mathlib.Algebra.Ring.Nat
import DocLaunch.Proofs.CommandLine.Run

namespace DocLaunch

def LogFormat.name : LogFormat → String
  | .text => "text"
  | .json => "json"

/-- A flag that stands before the command, in one of its spellings. -/
inductive LeadingFlag where
  /-- `-v`, `-vv` and so on, with the number of letters behind the first. -/
  | verbose (more : Nat)
  | verboseLong
  | format (f : LogFormat)
  | formatAttached (f : LogFormat)

namespace LeadingFlag

def tokens : LeadingFlag → List String
  | verbose more => [String.ofList ('-' :: List.replicate (more + 1) 'v')]
  | verboseLong => ["--verbose"]
  | format f => ["--log-format", f.name]
  | formatAttached f => ["--log-format=" ++ f.name]

/-- How much more the flag asks to be told. -/
def weight : LeadingFlag → Nat
  | verbose more => more + 1
  | verboseLong => 1
  | format _ | formatAttached _ => 0

def format? : LeadingFlag → Option LogFormat
  | format f | formatAttached f => some f
  | verbose _ | verboseLong => none

end LeadingFlag

def syncTokens : Option Bool → List String
  | none => []
  | some true => ["--sync-submodules"]
  | some false => ["--no-sync-submodules"]

def runTokens (flags : List LeadingFlag) (sync : Option Bool) : List String :=
  flags.flatMap LeadingFlag.tokens ++ "run" :: syncTokens sync

def runInvocation (flags : List LeadingFlag) (sync : Option Bool) (entry : Path)
    (forwarded : List String) : Invocation where
  verbosity := min 255 (flags.map LeadingFlag.weight).sum
  format := (flags.filterMap LeadingFlag.format?).head?.getD .text
  command := .run sync entry forwarded

namespace Arguments

variable {fallback : Option String} {rest : List String}

theorem Flags.louder_eq (n : Nat) (format? : Option LogFormat) :
    Flags.louder ⟨min 255 n, format?⟩ = ⟨min 255 (n + 1), format?⟩ := by
  simp only [Flags.louder, Flags.mk.injEq, and_true]
  omega

theorem Flags.addCluster_replicate (n k : Nat) (format? : Option LogFormat) :
    Flags.addCluster ⟨min 255 n, format?⟩ (List.replicate k 'v') =
      .ok ⟨min 255 (n + k), format?⟩ := by
  induction k generalizing n with
  | zero => rfl
  | succ k ih => rw [List.replicate_succ, Flags.addCluster, louder_eq, ih, Nat.add_right_comm,
      Nat.add_assoc]

theorem Flags.setFormat_name (n : Nat) (f : LogFormat) :
    Flags.setFormat ⟨n, none⟩ f.name = .ok ⟨n, some f⟩ := by
  cases f <;> rfl

theorem parseFlags_cluster {arg : String} {letters : List Char} (h : cluster? arg = some letters)
    (fallback : Option String) (f : Flags) (rest : List String) :
    parseFlags fallback f (arg :: rest) =
      f.addCluster letters >>= fun f => parseFlags fallback f rest := by
  have hne : ∀ s : String, cluster? s = none → arg ≠ s := by
    rintro s hs rfl
    exact Option.some_ne_none _ (h.symm.trans hs)
  have hattached : attached? "--log-format" arg = none := by
    unfold cluster? at h
    split at h
    · next c cs hargs =>
      split at h
      · cases h
      · next hc => simp [attached?, hargs, Ne.symm hc]
    · cases h
  rw [parseFlags.eq_def]
  simp only [hne "--verbose" (by decide), hne "--log-format" (by decide),
    hne "--help" (by decide), hne "--version" (by decide), ↓reduceIte, hattached, h]

theorem parseFlags_tokens (flag : LeadingFlag) (n : Nat) {format? : Option LogFormat}
    (h : flag.format? = none ∨ format? = none) :
    parseFlags fallback ⟨min 255 n, format?⟩ (flag.tokens ++ rest) =
      parseFlags fallback ⟨min 255 (n + flag.weight), format?.or flag.format?⟩ rest := by
  have hletters := Flags.addCluster_replicate n flag.weight format?
  cases flag with
  | verbose more =>
    have hcluster : cluster? (String.ofList ('-' :: List.replicate (more + 1) 'v')) =
        some (List.replicate (more + 1) 'v') := by
      rw [cluster?, String.toList_ofList, List.replicate_succ]
      rfl
    have hparse := parseFlags_cluster hcluster fallback ⟨min 255 n, format?⟩ rest
    rw [LeadingFlag.weight] at hletters
    rw [hletters] at hparse
    rw [LeadingFlag.format?, Option.or_none]
    exact hparse
  | verboseLong =>
    have hparse : parseFlags fallback ⟨min 255 n, format?⟩ ("--verbose" :: rest) =
        parseFlags fallback (Flags.louder ⟨min 255 n, format?⟩) rest := by
      rw [parseFlags.eq_def]
      exact if_pos rfl
    rw [LeadingFlag.format?, Option.or_none]
    exact hparse.trans (by rw [Flags.louder_eq]; rfl)
  | format f =>
    obtain rfl := h.resolve_left (Option.some_ne_none f)
    have hparse : parseFlags fallback ⟨min 255 n, none⟩ ("--log-format" :: f.name :: rest) =
        Flags.setFormat ⟨min 255 n, none⟩ f.name >>= fun f => parseFlags fallback f rest := by
      rw [parseFlags.eq_def]
      exact (if_neg (by decide)).trans (if_pos rfl)
    exact hparse.trans (by rw [Flags.setFormat_name]; rfl)
  | formatAttached f =>
    obtain rfl := h.resolve_left (Option.some_ne_none f)
    have hparse : parseFlags fallback ⟨min 255 n, none⟩ (("--log-format=" ++ f.name) :: rest) =
        Flags.setFormat ⟨min 255 n, none⟩ f.name >>= fun f => parseFlags fallback f rest := by
      rw [parseFlags.eq_def]
      cases f <;> rfl
    exact hparse.trans (by rw [Flags.setFormat_name]; rfl)

theorem parseFlags_flatMap_tokens (fallback : Option String) (rest : List String)
    (flags : List LeadingFlag) (n : Nat) (format? : Option LogFormat)
    (h : (format?.toList ++ flags.filterMap LeadingFlag.format?).length ≤ 1) :
    parseFlags fallback ⟨min 255 n, format?⟩ (flags.flatMap LeadingFlag.tokens ++ rest) =
      parseFlags fallback ⟨min 255 (n + (flags.map LeadingFlag.weight).sum),
        format?.or (flags.filterMap LeadingFlag.format?).head?⟩ rest := by
  induction flags generalizing n format? with
  | nil => rw [List.filterMap_nil, List.head?_nil, Option.or_none]; rfl
  | cons flag flags ih =>
    have hflag : flag.format? = none ∨ format? = none := by
      cases hf : flag.format? with
      | none => exact .inl rfl
      | some f =>
        right
        cases format? with
        | none => rfl
        | some g => simp [hf] at h
    have hrest : ((format?.or flag.format?).toList ++
        flags.filterMap LeadingFlag.format?).length ≤ 1 := by
      rcases hflag with hf | rfl
      · rw [List.filterMap_cons_none hf] at h
        rwa [hf, Option.or_none]
      · cases hf : flag.format? <;> simpa [hf] using h
    have hhead : (format?.or flag.format?).or (flags.filterMap LeadingFlag.format?).head? =
        format?.or ((flag :: flags).filterMap LeadingFlag.format?).head? := by
      cases hf : flag.format? <;> simp [hf]
    rw [List.flatMap_cons, List.append_assoc, parseFlags_tokens flag n hflag, ih _ _ hrest, hhead,
      List.map_cons, List.sum_cons, Nat.add_assoc]

section Words

variable {word : String}

theorem ne_of_word (h : word.toList.head? ≠ some '-') {flag : String}
    (hflag : flag.toList.head? = some '-') : word ≠ flag := by
  rintro rfl
  exact h hflag

theorem attached?_of_word (h : word.toList.head? ≠ some '-') {flag : String}
    (hflag : flag.toList.head? = some '-') : attached? flag word = none := by
  refine if_neg fun hprefix => h ?_
  obtain ⟨cs, hcs⟩ := List.isPrefixOf_iff_prefix.mp hprefix
  cases hf : flag.toList with
  | nil => simp [hf] at hflag
  | cons c cs' =>
    rw [← hcs, String.toList_append, hf]
    simpa [hf] using hflag

theorem cluster?_of_word (h : word.toList.head? ≠ some '-') : cluster? word = none := by
  unfold cluster?
  split
  · next hword => simp [hword] at h
  · rfl

theorem isLong_of_word (h : word.toList.head? ≠ some '-') : isLong word = false := by
  unfold isLong
  split
  · next hword => simp [hword] at h
  · rfl

end Words

theorem parseFlags_command (f : Flags) {name : String} (h : name.toList.head? ≠ some '-') :
    parseFlags fallback f (name :: rest) =
      parseCommand fallback name rest >>= fun c =>
        .ok ⟨f.verbosity, f.format?.getD .text, c⟩ := by
  rw [parseFlags.eq_def]
  have hne (flag : String) (hflag : flag.toList.head? = some '-') : name ≠ flag :=
    ne_of_word h hflag
  have hattached : attached? "--log-format" name = none := attached?_of_word h (by decide)
  simp only [hne "--verbose" (by decide), hne "--log-format" (by decide),
    hne "--help" (by decide), hne "--version" (by decide), hattached, cluster?_of_word h,
    isLong_of_word h, Bool.false_eq_true, ↓reduceIte]

theorem parseRun_entry (f : RunFlags) {entry : String} (h : entry.toList.head? ≠ some '-') :
    parseRun fallback f (entry :: rest) = finishRun fallback f (entry :: rest) := by
  have hne (flag : String) (hflag : flag.toList.head? = some '-') : entry ≠ flag :=
    ne_of_word h hflag
  have hattached (flag : String) (hflag : flag.toList.head? = some '-') :
      attached? flag entry = none :=
    attached?_of_word h hflag
  rw [parseRun.eq_2]
  simp only [hne "--" (by decide), hne "--sync-submodules" (by decide),
    hne "--no-sync-submodules" (by decide), hne "--help" (by decide), List.any_cons, List.any_nil,
    hattached "--sync-submodules" (by decide), hattached "--no-sync-submodules" (by decide),
    hattached "--help" (by decide), cluster?_of_word h, Option.isSome_none, Option.any_none,
    Bool.or_self, Bool.false_eq_true, ↓reduceIte]

def RunFlags.ofChoice (sync : Option Bool) : RunFlags :=
  ⟨sync == some true, sync == some false⟩

theorem parseRun_syncTokens (sync : Option Bool) :
    parseRun fallback {} (syncTokens sync ++ rest) =
      parseRun fallback (RunFlags.ofChoice sync) rest := by
  match sync with
  | none => rfl
  | some true => rfl
  | some false => rfl

theorem finishRun_ofChoice (sync : Option Bool) (entry : String) (forwarded : List String) :
    finishRun fallback (RunFlags.ofChoice sync) (entry :: forwarded) =
      .ok (.run sync entry forwarded) := by
  match sync with
  | none => rfl
  | some true => rfl
  | some false => rfl

theorem finishRun_fallback (sync : Option Bool) (entry : String) :
    finishRun (some entry) (RunFlags.ofChoice sync) [] = .ok (.run sync entry []) := by
  match sync with
  | none => rfl
  | some true => rfl
  | some false => rfl

/-- The flags before a command settle the verbosity and the format, and nothing about the command. -/
theorem ofArguments_tokens (flags : List LeadingFlag) {name : String} (rest : List String)
    (hformat : (flags.filterMap LeadingFlag.format?).length ≤ 1)
    (hname : name.toList.head? ≠ some '-') :
    Invocation.ofArguments fallback (flags.flatMap LeadingFlag.tokens ++ name :: rest) =
      parseCommand fallback name rest >>= fun c => .ok {
        verbosity := min 255 (flags.map LeadingFlag.weight).sum
        format := (flags.filterMap LeadingFlag.format?).head?.getD .text
        command := c } := by
  have hflags := parseFlags_flatMap_tokens fallback (name :: rest) flags 0 none hformat
  rw [parseFlags_command _ hname, Option.none_or, Nat.zero_add] at hflags
  exact hflags

/-- What stands before the entry script leaves only the command line of the builder to be read. -/
theorem ofArguments_runTokens (flags : List LeadingFlag) (sync : Option Bool)
    (h : (flags.filterMap LeadingFlag.format?).length ≤ 1) :
    Invocation.ofArguments fallback (runTokens flags sync ++ rest) =
      parseRun fallback (RunFlags.ofChoice sync) rest >>= fun c =>
        .ok { runInvocation flags sync "" [] with command := c } := by
  rw [runTokens, List.append_assoc, ← parseRun_syncTokens]
  exact ofArguments_tokens flags (syncTokens sync ++ rest) h (by decide)

end Arguments

theorem Builder.command_append {settings : Settings} {b : Builder}
    (h : Builder.ofSettings settings = .ok b) (root : ProjectRoot) (forwarded : List String) :
    b.program :: b.arguments root forwarded =
      settings.launcher.builder ++ root.path :: forwarded := by
  obtain ⟨hcommand, -, -⟩ := ofSettings_eq_ok h
  rw [hcommand]
  rfl

namespace Program

open Activity

variable {entry : Path} {sync : Option Bool} {forwarded : List String} {setting : Setting}
  {files : FileSystem}

theorem started_by_run {c : Spawn × Child}
    (h : c ∈ ((runLaunch entry sync forwarded).run setting ⟨files, []⟩).2.started) :
    ∃ (root : ProjectRoot) (settings : Settings),
      (resolveRoot entry).answer setting files = .ok root ∧
      (Settings.load root).answer setting files = .ok settings ∧
      (c.1 = settings.submodules.spawn setting.env root ∨
        c.1.program :: c.1.args = settings.launcher.builder ++ root.path :: forwarded) := by
  cases hplan : plan entry sync forwarded setting files with
  | error f => simp [(run_of_fault hplan).2] at h
  | ok p =>
    rw [(run_of_plan hplan).2] at h
    obtain ⟨root, settings, builder, hroot, hload, -, hbuilder, rfl⟩ := plan_eq_ok.mp hplan
    refine ⟨root, settings, hroot, hload, ?_⟩
    rcases Plan.mem_children.mp h with ⟨-, rfl⟩ | ⟨-, rfl⟩
    · exact .inl rfl
    · exact .inr (Builder.command_append hbuilder root forwarded)

end Program

/--
The arguments before the entry script settle the verbosity, the format and the choice to sync. The
first argument that follows is the entry, whatever the environment says, and all others are
forwarded as they are: the builder gets its fixed arguments, the root, and then these. Without an
entry among the arguments that of the environment is taken, and nothing is forwarded.
-/
theorem run_forwards_verbatim (flags : List LeadingFlag) (sync : Option Bool) (entry : String)
    (forwarded : List String) (hformat : (flags.filterMap LeadingFlag.format?).length ≤ 1)
    (hentry : entry.toList.head? ≠ some '-') :
    (∀ fallback, Invocation.ofArguments fallback (runTokens flags sync ++ entry :: forwarded) =
        .ok (runInvocation flags sync entry forwarded)) ∧
      (∀ setting files, ∀ c ∈ ((Program.perform (runInvocation flags sync entry
          forwarded).command).run setting ⟨files, []⟩).2.started,
        ∃ (root : ProjectRoot) (settings : Settings),
          (Program.resolveRoot entry).answer setting files = .ok root ∧
          (Settings.load root).answer setting files = .ok settings ∧
          (c.1 = settings.submodules.spawn setting.env root ∨
            c.1.program :: c.1.args = settings.launcher.builder ++ root.path :: forwarded)) ∧
      ∀ fallback, Invocation.ofArguments (some fallback) (runTokens flags sync) =
        .ok (runInvocation flags sync fallback []) := by
  refine ⟨fun fallback => ?entry, fun setting files c hc => ?builder, fun fallback => ?fallback⟩
  case entry =>
    rw [Arguments.ofArguments_runTokens flags sync hformat,
      Arguments.parseRun_entry _ hentry, Arguments.finishRun_ofChoice]
    rfl
  case builder => exact Program.started_by_run hc
  case fallback =>
    rw [← List.append_nil (runTokens flags sync),
      Arguments.ofArguments_runTokens flags sync hformat, Arguments.parseRun,
      Arguments.finishRun_fallback]
    rfl

theorem run_forwards_verbatim_of_own_flags :
    Invocation.ofArguments (some "elsewhere/make") ["-vv", "--log-format", "json", "--verbose",
        "run", "--no-sync-submodules", "docs/make", "--sync-submodules", "--", "-v", "--help",
        "--log-format", "", ""] =
      .ok ⟨3, .json, .run (some false) "docs/make" ["--sync-submodules", "--", "-v", "--help",
        "--log-format", "", ""]⟩ ∧
    Invocation.ofArguments (some "elsewhere/make") ["-vv", "--log-format", "json", "--verbose",
        "run", "--no-sync-submodules"] =
      .ok ⟨3, .json, .run (some false) "elsewhere/make" []⟩ := by
  obtain ⟨hentry, -, hfallback⟩ := run_forwards_verbatim
    [.verbose 1, .format .json, .verboseLong] (some false) "docs/make"
    ["--sync-submodules", "--", "-v", "--help", "--log-format", "", ""] (by decide) (by decide)
  exact ⟨hentry (some "elsewhere/make"), hfallback "elsewhere/make"⟩

end DocLaunch
