import DocLaunch.Proofs.Toml.Beginning
import DocLaunch.Proofs.Toml.Marks

namespace DocLaunch.Toml

section Descending

open Value

variable {cs : List Char} {ss : List Statement} {s : Statement} {key : String} {path : List Key}
  {change : Value → Option Value} {v w child : Value} {made : Origin} {mark : Nat}

/-- What one statement changes at the end of a path, the statement with the path in front tells. -/
theorem Value.Descends.holds (hs : s.path ≠ []) (hmade : made = .implied ∨ made = .dotted)
    (halters : Alters change)
    (hchange : ∀ ss v w, change v = some w → v.Holds cs ss → w.Holds cs (ss ++ [s]))
    (h : Descends made change path v w) (hv : v.Holds cs ss) : w.Holds cs (ss ++ [s.under path]) := by
  induction h generalizing ss with
  | here h =>
    rw [s.under_nil]
    exact hchange _ _ _ h hv
  | @make key path mark origin entries child hkey h ih =>
    obtain ⟨_, _, _, entries', ⟨⟩, rfl⟩ := h.alters halters
    have hchild := ih (holds_emptyTable cs key.mark made)
    have hnone := Statement.begins?_of_path (Statement.path_under_ne_nil hs path)
    refine hv.append hkey (Statement.about?_under_cons key path s) ?_ ?_ (hchild.told ?_)
    · rw [hnone, Statement.mention?_under_cons]
      rfl
    · rcases hmade with rfl | rfl <;> simp [hnone, isMade]
    · rcases hmade with rfl | rfl <;> exact Origin.noConfusion
  | @enter key path mark m origin o entries es child hkey ho h ih =>
    obtain ⟨_, _, _, entries', ⟨⟩, rfl⟩ := h.alters halters
    have htold : (Value.table m o es).Told cs (about key.text ss) := by
      cases hv with
      | intro _ h => exact h _ (mem_of_lookup hkey)
    have hnone := Statement.begins?_of_path (Statement.path_under_ne_nil hs path)
    exact hv.replace hkey (Statement.about?_under_cons key path s) (.inr hnone) rfl rfl
      ((ih (htold.holds ho)).told ho)
  | @enterLast key path mark m origin entries items last child hkey hlast h ih =>
    obtain ⟨m', o, es, es', rfl, rfl⟩ := h.alters halters
    have htold : (Value.tables m items).Told cs (about key.text ss) := by
      cases hv with
      | intro _ h => exact h _ (mem_of_lookup hkey)
    have hnone := Statement.begins?_of_path (Statement.path_under_ne_nil hs path)
    refine hv.replace hkey (Statement.about?_under_cons key path s) (.inr hnone) rfl rfl ?_
    obtain ⟨groups, hss, rfl, hbelow, htold⟩ := htold.exists_groups
    -- The last table has the last group, and the statement goes there.
    rw [List.getLast?_map] at hlast
    obtain ⟨⟨told, last⟩, hg, hitem⟩ := Option.map_eq_some_iff.mp hlast
    obtain ⟨front, rfl⟩ := List.getLast?_eq_some_iff.mp hg
    subst hitem
    obtain ⟨hbelow, hbelowLast⟩ := List.forall_mem_append.mp hbelow
    obtain ⟨htold, htoldLast⟩ := List.forall_mem_append.mp htold
    rw [List.forall_mem_singleton] at hbelowLast htoldLast
    have ho := htoldLast.origin_ne_braces hbelowLast
    have hchild := (ih (htoldLast.holds ho)).told ho
    have hpath := Statement.path_under_ne_nil hs path
    refine .tables (front ++ [(told ++ [s.under path], .table m' o es')]) ?_ ?_ ?_ ?_
    · rw [hss]
      simp [Value.mark]
    · simp
    · refine List.forall_mem_append.mpr ⟨hbelow, List.forall_mem_singleton.mpr ?_⟩
      exact List.forall_mem_append.mpr ⟨hbelowLast, List.forall_mem_singleton.mpr hpath⟩
    · exact List.forall_mem_append.mpr ⟨htold, List.forall_mem_singleton.mpr hchild⟩

theorem Value.Holds.addEntry {single : Bool} {key : Key} (hmade : child.isMade = false)
    (hchild : child.Told cs [.assign [] child]) (hv : v.Holds cs ss)
    (h : Value.addEntry single key.text child v = some w) :
    w.Holds cs (ss ++ [.assign [key] child]) := by
  have habout : (Statement.assign [key] child).about? key.text = some (.assign [] child) :=
    if_pos rfl
  cases adds_of_addEntry h with
  | intro hkey => exact hv.append hkey habout rfl (by simp [Statement.begins?, hmade]) hchild

theorem Value.Holds.insert (hmade : child.isMade = false)
    (hchild : child.Told cs [.assign [] child]) (hv : v.Holds cs ss)
    (h : Value.insert path child v = some w) : w.Holds cs (ss ++ [.assign path child]) := by
  obtain ⟨key, hlast, h⟩ := exists_descends_of_insert h
  have hholds := h.holds (s := .assign [key] child) (List.cons_ne_nil _ _) (.inr rfl)
    (alters_addEntry _ _ _) (fun _ _ _ h hv => hv.addEntry hmade hchild h) hv
  have hpath : (Statement.assign [key] child).under path.dropLast = .assign path child :=
    congrArg (Statement.assign · child) (List.dropLast_append_getLast? key hlast)
  rwa [hpath] at hholds

theorem Value.Holds.openTable {key : Key} (hv : v.Holds cs ss)
    (h : Value.openTable mark key.text v = some w) : w.Holds cs (ss ++ [.header mark [key]]) := by
  have habout : (Statement.header mark [key]).about? key.text = some (.header mark []) :=
    if_pos rfl
  have hheader : Origin.header ≠ .braces := Origin.noConfusion
  cases opens_of_openTable h with
  | make hkey =>
    have hempty := (holds_emptyTable cs mark .header).concat (s := .header mark []) rfl
    exact hv.append hkey habout rfl (by simp [Statement.begins?, isMade]) (hempty.told hheader)
  | @complete _ m' _ entries es hkey =>
    -- Nothing has made the table yet but keys, so this is the first header of its own.
    have hmem := mem_of_lookup hkey
    obtain ⟨htold, hnone⟩ : (Value.table m' .implied es).Told cs (about key.text ss) ∧
        (about key.text ss).findSome? Statement.begins? = none := by
      cases hv with
      | intro heads h => exact ⟨h _ hmem, (heads.made _ hmem).mpr rfl⟩
    have hholds : (Value.table mark .header es).Holds cs (about key.text ss ++ [.header mark []]) := by
      cases htold.holds Origin.noConfusion with
      | intro heads h => exact Holds.concat rfl (.intro heads h)
    refine hv.put habout (fun e he => ?_) (fun e he hname => ?_)
      (List.mem_append_right _ List.mem_cons_self)
      (beginning_concat_own habout rfl hnone) ?_ (hholds.told hheader)
    · rcases List.mem_append.mp he with he | he
      · obtain ⟨he, hname⟩ := List.mem_filter.mp he
        exact .inr ⟨he, bne_iff_ne.mp hname⟩
      · exact .inl (List.mem_singleton.mp he)
    · exact List.mem_append_left _ (List.mem_filter.mpr ⟨he, bne_iff_ne.mpr hname⟩)
    · rw [List.findSome?_append, hnone]
      simp [Statement.begins?, isMade]

theorem Value.Holds.openTables {key : Key} (hv : v.Holds cs ss)
    (h : Value.openTables mark key.text v = some w) :
    w.Holds cs (ss ++ [.doubleHeader mark [key]]) := by
  have habout : (Statement.doubleHeader mark [key]).about? key.text = some (.doubleHeader mark []) :=
    if_pos rfl
  have hnew : (Value.table mark .header []).Told cs [] :=
    (holds_emptyTable cs mark .header).told Origin.noConfusion
  cases opensMore_of_openTables h with
  | make hkey =>
    refine hv.append hkey habout rfl (by simp [Statement.begins?, isMade]) ?_
    exact .tables [([], .table mark .header [])] rfl rfl
      (List.forall_mem_singleton.mpr (List.forall_mem_nil _)) (List.forall_mem_singleton.mpr hnew)
  | @more _ first _ entries items hkey =>
    have htold : (Value.tables first items).Told cs (about key.text ss) := by
      cases hv with
      | intro _ h => exact h _ (mem_of_lookup hkey)
    refine hv.replace hkey habout (.inl rfl) rfl rfl ?_
    obtain ⟨groups, hss, rfl, hbelow, htold⟩ := htold.exists_groups
    refine .tables (groups ++ [([], .table mark .header [])]) ?_ ?_ ?_ ?_
    · rw [hss]
      simp [Value.mark]
    · simp
    · exact List.forall_mem_append.mpr
        ⟨hbelow, List.forall_mem_singleton.mpr (List.forall_mem_nil _)⟩
    · exact List.forall_mem_append.mpr ⟨htold, List.forall_mem_singleton.mpr hnew⟩

end Descending

namespace Statement

/-- The statement with its whole path; an assignment leaves out the one of the header above it. -/
def full (heading : List Key) : Statement → Statement
  | .assign path v => .assign (heading ++ path) v
  | s => s

/-- The header that the next statement is under. -/
def headingAfter (heading : List Key) : Statement → List Key
  | .header _ path | .doubleHeader _ path => path
  | .assign .. => heading

end Statement

/-- The statements of a document with their whole paths. -/
def inFull : List Key → List Statement → List Statement
  | _, [] => []
  | heading, s :: ss => s.full heading :: inFull (s.headingAfter heading) ss

section Drafts

open Value

variable {cs : List Char} {ss : List Statement} {s : Statement} {d d' : Draft}

/-- The statements before tell of the root, which counts as a table with a header. -/
structure Draft.Holds (cs : List Char) (ss : List Statement) (d : Draft) : Prop where
  root : d.root.Holds cs ss
  header : ∃ mark entries, d.root = .table mark .header entries

theorem Draft.Holds.descend {root : Value} {change : Value → Option Value} {path : List Key}
    (hd : d.Holds cs ss) (hs : s.path ≠ []) (halters : Alters change)
    (hchange : ∀ ss v w, change v = some w → v.Holds cs ss → w.Holds cs (ss ++ [s]))
    (h : Descends .implied change path d.root root) (heading : List Key) :
    Draft.Holds cs (ss ++ [s.under path]) ⟨root, heading⟩ := by
  refine ⟨h.holds hs (.inl rfl) halters hchange hd.root, ?_⟩
  obtain ⟨mark, origin, entries, entries', hroot, rfl⟩ := h.alters halters
  obtain ⟨mark', entries'', hheader⟩ := hd.header
  rw [hroot] at hheader
  cases hheader
  exact ⟨mark, entries', rfl⟩

theorem Draft.Holds.open {make : String → Value → Option Value} {key : Key} {root : Value}
    (hd : d.Holds cs ss) (halters : Alters (make key.text))
    (hmake : ∀ ss v w, make key.text v = some w → v.Holds cs ss →
      w.Holds cs (ss ++ [s.withPath [key]]))
    (hkey : s.path.getLast? = some key)
    (h : Descends .implied (make key.text) s.path.dropLast d.root root) :
    Draft.Holds cs (ss ++ [s]) ⟨root, s.path⟩ := by
  have hpath : (s.withPath [key]).path ≠ [] := by
    rw [Statement.path_withPath]
    exact List.cons_ne_nil _ _
  have hfull : (s.withPath [key]).under s.path.dropLast = s := by
    rw [Statement.under, Statement.path_withPath, List.dropLast_append_getLast? key hkey,
      Statement.withPath_withPath, Statement.withPath_path]
  have hholds := hd.descend hpath halters hmake h s.path
  rwa [hfull] at hholds

theorem Draft.Holds.add (hs : s.StandsIn cs) (hd : d.Holds cs ss) (h : d.add s = some d') :
    d'.Holds cs (ss ++ [s.full d.under]) ∧ d'.under = s.headingAfter d.under := by
  cases adds_of_add h with
  | @header mark path key root hkey hroot =>
    exact ⟨hd.open (s := .header mark path) (alters_openTable _ _)
      (fun _ _ _ h hv => hv.openTable h) hkey hroot, rfl⟩
  | @doubleHeader mark path key root hkey hroot =>
    exact ⟨hd.open (s := .doubleHeader mark path) (alters_openTables _ _)
      (fun _ _ _ h hv => hv.openTables h) hkey hroot, rfl⟩
  | @assign path v root hroot =>
    obtain ⟨-, htold, hmade⟩ := hs
    have hpath : path ≠ [] := by
      rintro rfl
      obtain ⟨_, _, hnone⟩ := hroot.exists_change
      cases hnone
    exact ⟨hd.descend (s := .assign path v) hpath (alters_insert path v)
      (fun _ _ _ h hv => hv.insert hmade htold h) hroot d.under, rfl⟩

theorem Draft.Holds.addAll {ts : List Statement} (hts : ∀ s ∈ ts, s.StandsIn cs)
    (hd : d.Holds cs ss) (h : ts.foldlM Draft.add d = some d') :
    d'.Holds cs (ss ++ inFull d.under ts) := by
  induction ts generalizing d ss with
  | nil =>
    cases h
    rw [inFull, List.append_nil]
    exact hd
  | cons s ts ih =>
    obtain ⟨hs, hts⟩ := List.forall_mem_cons.mp hts
    obtain ⟨d₁, hadd, h⟩ := Option.bind_eq_some_iff.mp h
    obtain ⟨hd₁, hunder⟩ := hd.add hs hadd
    have hall := ih hts hd₁ h
    rw [hunder, List.append_assoc] at hall
    exact hall

theorem Value.told_ofStatements? {v : Value} (hss : ∀ s ∈ ss, s.StandsIn cs)
    (h : ofStatements? ss = some v) : v.Told cs (inFull [] ss) := by
  obtain ⟨d, hfold, rfl⟩ := Option.map_eq_some_iff.mp h
  have hstart : Draft.start.Holds cs [] :=
    ⟨holds_emptyTable cs 0 .header, 0, [], rfl⟩
  have hd := hstart.addAll hss hfold
  obtain ⟨mark, entries, hroot⟩ := hd.header
  have htold := hd.root
  rw [hroot] at htold ⊢
  exact htold.told Origin.noConfusion

end Drafts

section Reading

open Value

variable {whole cs rest : List Char} {n : Nat} {item : List Char → Option (Value × List Char)}

theorem TakesKey.standsIn {keys : List Key} (hcs : cs <:+ whole) (h : TakesKey cs keys rest) :
    ∀ key ∈ keys, key.StandsIn whole := by
  have hfirst {cs part after : List Char} (hcs : cs <:+ whole)
      (hpart : readKeyPart (skipGap cs) = some (part, after)) :
      Key.StandsIn whole ⟨String.ofList part, (skipGap cs).length⟩ :=
    ⟨skipGap cs, after, (skipGap_suffix cs).trans hcs, rfl,
      by rw [String.toList_ofList]; exact hpart⟩
  induction h with
  | last hpart => exact List.forall_mem_singleton.mpr (hfirst hcs hpart)
  | @dot cs part after more rest keys hpart hdot h ih =>
    have hback := (behind_readKeyPart hpart).suffix.trans (skipGap_suffix cs)
    have hafter := (skipGap_suffix after).trans (hback.trans hcs)
    rw [hdot] at hafter
    exact List.forall_mem_cons.mpr
      ⟨hfirst hcs hpart, ih ((List.suffix_cons _ _).trans hafter)⟩

/-- A reader of values that are as the text has them. -/
def ReadsTold (whole : List Char) (item : List Char → Option (Value × List Char)) : Prop :=
  ∀ cs v rest, cs <:+ whole → item cs = some (v, rest) →
    v.Told whole [.assign [] v] ∧ v.isMade = false

theorem TakesItems.told {items : List Value} (hitem : ReadsTold whole item)
    (horder : ReadsInOrder item) (hcs : cs <:+ whole) (h : TakesItems item cs items rest) :
    ∀ v ∈ items, v.Told whole [.assign [] v] := by
  induction h with
  | none => exact List.forall_mem_nil _
  | @last cs after rest v hv hclose =>
    have hfiller := (skipFiller_suffix cs.length cs).trans hcs
    exact List.forall_mem_singleton.mpr (hitem _ _ _ hfiller hv).1
  | @comma cs after more rest v vs hv hcomma h ih =>
    have hfiller := (skipFiller_suffix cs.length cs).trans hcs
    obtain ⟨-, hbehind, -⟩ := horder _ _ _ hv
    have hafter := (skipFiller_suffix after.length after).trans (hbehind.suffix.trans hfiller)
    rw [hcomma] at hafter
    exact List.forall_mem_cons.mpr
      ⟨(hitem _ _ _ hfiller hv).1, ih ((List.suffix_cons _ _).trans hafter)⟩

theorem standsIn_of_readPair {p : List Key × Value} (hitem : ReadsTold whole item)
    (hcs : cs <:+ whole) (h : readPair item cs = some (p, rest)) :
    (Statement.assign p.1 p.2).StandsIn whole := by
  obtain ⟨more, hkey, hv⟩ := readPair_eq_some h
  have hkey := takesKey_of_readKey hkey
  have hafter := hkey.within.1.suffix.trans hcs
  have hmore := (skipGap_suffix more).trans ((List.suffix_cons _ _).trans hafter)
  exact ⟨hkey.standsIn hcs, hitem _ _ _ hmore hv⟩

theorem TakesPairs.standsIn {pairs : List (List Key × Value)} (hitem : ReadsTold whole item)
    (horder : ReadsInOrder item) (hcs : cs <:+ whole) (h : TakesPairs item cs pairs rest) :
    ∀ p ∈ pairs, (Statement.assign p.1 p.2).StandsIn whole := by
  induction h with
  | last hp => exact List.forall_mem_singleton.mpr (standsIn_of_readPair hitem hcs hp)
  | @comma cs after more rest p ps hp hcomma h ih =>
    have hafter := (skipGap_suffix after).trans ((within_of_readPair horder hp).1.suffix.trans hcs)
    rw [hcomma] at hafter
    exact List.forall_mem_cons.mpr
      ⟨standsIn_of_readPair hitem hcs hp, ih ((List.suffix_cons _ _).trans hafter)⟩

theorem Value.holds_ofPairs {pairs : List (List Key × Value)} {mark : Nat} {v : Value}
    (hpairs : ∀ p ∈ pairs, (Statement.assign p.1 p.2).StandsIn whole)
    (h : ofPairs mark pairs = some v) :
    v.Holds whole (assigns pairs) ∧ ∃ entries, v = .table mark .braces entries := by
  refine foldlM_induction
    (P := fun pairs t => t.Holds whole (assigns pairs) ∧ ∃ entries, t = .table mark .braces entries)
    ?_ ⟨holds_emptyTable whole mark .braces, [], rfl⟩ h
  rintro front p t t' hp ⟨ht, entries, rfl⟩ h
  obtain ⟨-, htold, hmade⟩ := hpairs p hp
  have hholds := ht.insert hmade htold h
  obtain ⟨_, _, _, entries', ⟨⟩, rfl⟩ := alters_insert _ _ _ _ h
  rw [assigns, List.map_append]
  exact ⟨hholds, entries', rfl⟩

theorem readsTold_readValue (n : Nat) : ReadsTold whole (readValue n) := by
  induction n with
  | zero =>
    intro cs v rest hcs h
    cases takesValue_of_readValue h with
    | scalar => exact ⟨.scalar ⟨cs, rest, hcs, rfl, h⟩, rfl⟩
  | succ n ih =>
    intro cs v rest hcs h
    have horder := readsInOrder_readValue n
    cases takesValue_of_readValue h with
    | scalar => exact ⟨.scalar ⟨cs, rest, hcs, rfl, h⟩, rfl⟩
    | array hitems =>
      have htold := hitems.told ih horder ((List.suffix_cons _ _).trans hcs)
      exact ⟨.array ⟨_, _, hcs, rfl, h⟩ htold, rfl⟩
    | @braces _ _ _ pairs _ hbraces hv =>
      have hstands : ∀ p ∈ pairs, (Statement.assign p.1 p.2).StandsIn whole := by
        cases takesBraces_of_readBraces hbraces with
        | empty => exact List.forall_mem_nil _
        | @pairs inner _ _ hpairs =>
          have hinner := (skipGap_suffix inner).trans ((List.suffix_cons _ _).trans hcs)
          exact hpairs.standsIn ih horder hinner
      obtain ⟨⟨heads, htold⟩, entries, hentries⟩ := holds_ofPairs hstands hv
      cases hentries
      exact ⟨.braces ⟨_, _, hcs, rfl, hbraces⟩ (fun p hp => (hstands p hp).1) heads htold, rfl⟩

theorem standsIn_of_readStatement {s : Statement} (hcs : cs <:+ whole)
    (h : readStatement cs = some (s, rest)) : s.StandsIn whole := by
  have hinner {c : Char} {cs : List Char} (hcs : c :: cs <:+ whole) : cs <:+ whole :=
    (List.suffix_cons _ _).trans hcs
  cases takesStatement_of_readStatement h with
  | header hkey =>
    exact ⟨(takesKey_of_readKey hkey).standsIn (hinner hcs), _, _, hcs, rfl, h⟩
  | doubleHeader hkey =>
    exact ⟨(takesKey_of_readKey hkey).standsIn (hinner (hinner hcs)), _, _, hcs, rfl, h⟩
  | assign hpair => exact standsIn_of_readPair (readsTold_readValue maxDepth) hcs hpair

theorem TakesLines.standsIn {ss : List Statement} (hcs : cs <:+ whole) (h : TakesLines cs ss) :
    ∀ s ∈ ss, s.StandsIn whole := by
  induction h with
  | done => exact List.forall_mem_nil _
  | skip hline _ ih => exact ih ((finishLine_suffix hline).trans hcs)
  | @line cs after rest s ss hs hline h ih =>
    have hgap := (skipGap_suffix cs).trans hcs
    have hafter := (within_of_readStatement hs).1.suffix.trans hgap
    exact List.forall_mem_cons.mpr
      ⟨standsIn_of_readStatement hgap hs, ih ((finishLine_suffix hline).trans hafter)⟩

theorem skipByteOrderMark_suffix (cs : List Char) : skipByteOrderMark cs <:+ cs := by
  unfold skipByteOrderMark
  split
  · exact List.suffix_cons _ _
  · exact List.suffix_refl _

end Reading

/-- Everything in a document begins where its text and its statements have it begin. -/
theorem Value.told_ofText? {cs : List Char} {v : Value} (h : ofText? cs = some v) :
    ∃ ss, Statement.readAll cs = some ss ∧ (∀ s ∈ ss, s.StandsIn cs) ∧
      v.Told cs (inFull [] ss) := by
  obtain ⟨ss, hss, h⟩ := Option.bind_eq_some_iff.mp h
  have hstands := (takesLines_of_readStatements hss).standsIn (skipByteOrderMark_suffix cs)
  exact ⟨ss, hss, hstands, told_ofStatements? hstands h⟩

end DocLaunch.Toml
