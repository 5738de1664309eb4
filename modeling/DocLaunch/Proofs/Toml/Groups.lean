import DocLaunch.Proofs.Toml.Keys
import DocLaunch.Proofs.Toml.Lines

namespace DocLaunch.Toml

/-- A section at the top, and the tables that have sections of their own below it. -/
structure Group where
  name : String
  entries : List (String × Plain)
  tables : List (String × List (String × Plain)) := []

namespace Group

def sections (g : Group) : List Section :=
  ⟨[g.name], g.entries⟩ :: g.tables.map fun t => ⟨[g.name, t.1], t.2⟩

structure Distinct (g : Group) : Prop where
  keys : (g.entries.map Prod.fst ++ g.tables.map Prod.fst).Nodup
  tables : ∀ t ∈ g.tables, (t.2.map Prod.fst).Nodup

end Group

/-- The entries of a table have the keys of plain ones, and values that stand for theirs. -/
def Entries.Show (es : Entries) (plain : List (String × Plain)) : Prop :=
  List.Forall₂ (fun e p => e.1 = p.1 ∧ e.2.Shows p.2) es plain

inductive Value.TableOf : Value → List (String × Plain) → Prop where
  | intro (mark : Nat) {es : Entries} {plain : List (String × Plain)} (h : es.Show plain) :
    TableOf (.table mark .header es) plain

/-- The table of a group. -/
inductive Value.GroupOf : Value → Group → Prop where
  | intro (mark : Nat) {es ts : Entries} {g : Group} (hes : es.Show g.entries)
    (hts : List.Forall₂ (fun e t => e.1 = t.1 ∧ e.2.TableOf t.2) ts g.tables) :
    GroupOf (.table mark .header (es ++ ts)) g

theorem Value.TableOf.groupOf {v : Value} {plain : List (String × Plain)} (h : v.TableOf plain)
    (name : String) : v.GroupOf ⟨name, plain, []⟩ := by
  cases h with
  | @intro mark es _ h =>
    rw [← List.append_nil es]
    exact .intro mark h .nil

/-- Where a path leads along the last entries of tables with headers of their own. -/
inductive Focus : List Key → (Value → Value) → Prop where
  | here : Focus [] id
  | last (mark : Nat) {es : Entries} {key : Key} {path : List Key} {plug : Value → Value}
    (hkey : es.lookup key.text = none) (h : Focus path plug) :
    Focus (key :: path) fun v => .table mark .header (es ++ [(key.text, plug v)])

section Folding

variable {es : Entries} {name : String} {v w : Value} {m : Nat} {path : List Key}
  {plug : Value → Value}

theorem lookup_append_of_fresh {α : Type} {key : α → String} {a : α} {l : List α}
    (hfresh : key a ∉ l.map key) (hnew : ∀ b ∈ l, es.lookup (key b) = none) (v : Value) :
    ∀ b ∈ l, (es ++ [(key a, v)]).lookup (key b) = none := by
  intro b hb
  have hne : key b ≠ key a := fun heq => hfresh (heq ▸ List.mem_map.mpr ⟨b, hb, rfl⟩)
  rw [lookup_append_singleton_of_ne (e := (key a, v)) hne, hnew b hb]

theorem replace_append_self (h : es.lookup name = none) :
    Entries.replace (es ++ [(name, v)]) name w = es ++ [(name, w)] := by
  rw [Entries.replace, List.map_append, List.map_singleton, if_pos rfl]
  refine congrArg (· ++ _) ((List.map_congr_left fun e he => if_neg ?_).trans (List.map_id es))
  rintro rfl
  exact lookup_eq_none_iff_key.mp h (List.mem_map_of_mem he)

/-- What is changed at the end of the path is all that changes. -/
theorem Focus.descend (h : Focus path plug) (change : Value → Option Value) (m : Nat)
    (es : Entries) :
    (plug (.table m .header es)).descend .implied change path =
      (change (.table m .header es)).map plug := by
  induction h with
  | here => exact (congrFun Option.map_id _).symm
  | @last mark es' key path plug hkey h ih =>
    obtain ⟨m', es'', hplug⟩ : ∃ m' es'', plug (.table m .header es) = .table m' .header es'' := by
      cases h with
      | here => exact ⟨m, es, rfl⟩
      | last mark => exact ⟨_, _, rfl⟩
    rw [hplug] at ih
    have hlast : ∀ v, (es' ++ [(key.text, v)]).lookup key.text = some v := fun v =>
      lookup_append_singleton_self (e := (key.text, v)) hkey
    simp only [hplug, Value.descend, hlast, ih, replace_append_self hkey]
    cases change (.table m .header es) <;> simp

theorem Focus.of_map_eq {path' : List Key} (h : Focus path plug)
    (heq : path'.map Key.text = path.map Key.text) : Focus path' plug := by
  induction h generalizing path' with
  | here =>
    cases List.map_eq_nil_iff.mp heq
    exact .here
  | last mark hkey _ ih =>
    obtain ⟨key', path', rfl, hkey', hpath'⟩ := List.map_eq_cons_iff.mp heq
    rw [← hkey'] at hkey ⊢
    exact .last mark hkey (ih hpath')

theorem Focus.snoc (h : Focus path plug) {key : Key} (hkey : es.lookup key.text = none)
    (m : Nat) :
    Focus (path ++ [key]) fun v => plug (.table m .header (es ++ [(key.text, v)])) := by
  induction h with
  | here => exact .last m hkey .here
  | last mark hlast _ ih => exact .last mark hlast ih

theorem Focus.add_header (h : Focus path plug) {key : Key} (hkey : es.lookup key.text = none)
    (m mark : Nat) (under : List Key) :
    Draft.add ⟨plug (.table m .header es), under⟩ (.header mark (path ++ [key])) =
      some ⟨plug (.table m .header (es ++ [(key.text, .table mark .header [])])),
        path ++ [key]⟩ := by
  have hopen : Value.openTable mark key.text (.table m .header es) =
      some (.table m .header (es ++ [(key.text, .table mark .header [])])) := by
    simp only [Value.openTable, hkey]
  simp only [Draft.add, Draft.open, List.getLast?_concat, List.dropLast_concat, h.descend, hopen,
    Option.bind_eq_bind, Option.bind_some, Option.map_some]

theorem Focus.add_assign (h : Focus path plug) (key : Key) (hkey : es.lookup key.text = none)
    (m : Nat) (v : Value) :
    Draft.add ⟨plug (.table m .header es), path⟩ (.assign [key] v) =
      some ⟨plug (.table m .header (es ++ [(key.text, v)])), path⟩ := by
  have hinsert : Value.insert [key] v (.table m .header es) =
      some (.table m .header (es ++ [(key.text, v)])) := by
    simp [Value.insert, Value.descend, Value.addEntry, hkey]
  simp only [Draft.add, h.descend, hinsert, Option.bind_eq_bind, Option.bind_some, Option.map_some]

theorem Focus.add_assigns (h : Focus path plug) (es : Entries) {ss : List Statement}
    {plain : List (String × Plain)} (hss : List.Forall₂ Statement.Assigns ss plain)
    (hn : (plain.map Prod.fst).Nodup) (hnew : ∀ p ∈ plain, es.lookup p.1 = none) (m : Nat) :
    ∃ es' : Entries, es'.Show plain ∧
      ss.foldlM Draft.add ⟨plug (.table m .header es), path⟩ =
        some ⟨plug (.table m .header (es ++ es')), path⟩ := by
  induction hss generalizing es with
  | nil => exact ⟨[], .nil, by rw [List.append_nil]; rfl⟩
  | @cons _ _ ss plain hs _ ih =>
    cases hs with
    | @intro mark k v p hv =>
      obtain ⟨hkey, hnew⟩ := List.forall_mem_cons.mp hnew
      obtain ⟨hfresh, hn⟩ := List.nodup_cons.mp hn
      obtain ⟨es', hes', hfold⟩ := ih (es ++ [(k, v)]) hn (lookup_append_of_fresh hfresh hnew v)
      refine ⟨(k, v) :: es', .cons ⟨rfl, hv⟩ hes', ?_⟩
      rw [List.foldlM_cons, h.add_assign ⟨k, mark⟩ hkey]
      rw [List.append_assoc] at hfold
      exact hfold

theorem Focus.add_section (h : Focus path plug) (name : String) {ss : List Statement}
    {s : Section} (hss : s.WrittenAs ss) (hpath : s.path = path.map Key.text ++ [name])
    (hname : es.lookup name = none) (hn : (s.entries.map Prod.fst).Nodup) (m : Nat)
    (under : List Key) :
    ∃ v under', v.TableOf s.entries ∧
      ss.foldlM Draft.add ⟨plug (.table m .header es), under⟩ =
        some ⟨plug (.table m .header (es ++ [(name, v)])), under'⟩ := by
  cases hss with
  | @intro mark keys _ plain ss hkeys hassigns =>
    obtain ⟨path', keys', rfl, hpath', hkeys'⟩ := List.map_eq_append_iff.mp (hkeys.trans hpath)
    obtain ⟨key, rfl, rfl⟩ := List.map_eq_singleton_iff.mp hkeys'
    have h := h.of_map_eq hpath'
    obtain ⟨es', hes', hfold⟩ := (h.snoc hname m).add_assigns [] hassigns hn
      (fun _ _ => rfl) mark
    refine ⟨.table mark .header es', path' ++ [key], .intro mark hes', ?_⟩
    rw [List.foldlM_cons, h.add_header hname]
    exact hfold

variable {ss : List Statement} {sss : List (List Statement)} {g : Group}

theorem Focus.add_tables (h : Focus path plug) {tables : List (String × List (String × Plain))}
    (hsss : List.Forall₂ Section.WrittenAs
      (tables.map fun t => ⟨path.map Key.text ++ [t.1], t.2⟩) sss)
    (hn : (tables.map Prod.fst).Nodup) (hnew : ∀ t ∈ tables, es.lookup t.1 = none)
    (htables : ∀ t ∈ tables, (t.2.map Prod.fst).Nodup) (m : Nat) (under : List Key) :
    ∃ (ts : Entries) (under' : List Key),
      List.Forall₂ (fun e t => e.1 = t.1 ∧ e.2.TableOf t.2) ts tables ∧
        sss.flatten.foldlM Draft.add ⟨plug (.table m .header es), under⟩ =
          some ⟨plug (.table m .header (es ++ ts)), under'⟩ := by
  induction tables generalizing sss es under with
  | nil =>
    cases hsss
    exact ⟨[], under, .nil, by rw [List.append_nil]; rfl⟩
  | cons t tables ih =>
    obtain ⟨ss, sss', hss, hrest, rfl⟩ := List.forall₂_cons_left_iff.mp hsss
    obtain ⟨hname, hnew⟩ := List.forall_mem_cons.mp hnew
    obtain ⟨hplain, htables⟩ := List.forall_mem_cons.mp htables
    obtain ⟨hfresh, hn⟩ := List.nodup_cons.mp hn
    obtain ⟨v, under₁, hv, hfold⟩ := h.add_section t.1 hss rfl hname hplain m under
    obtain ⟨ts, under₂, hts, hfold'⟩ :=
      ih hrest hn (lookup_append_of_fresh hfresh hnew v) htables under₁
    refine ⟨(t.1, v) :: ts, under₂, .cons ⟨rfl, hv⟩ hts, ?_⟩
    rw [List.flatten_cons, List.foldlM_append, hfold]
    rw [List.append_assoc] at hfold'
    exact hfold'

theorem add_group (hsss : List.Forall₂ Section.WrittenAs g.sections sss) (hg : g.Distinct)
    (hname : es.lookup g.name = none) (m : Nat) (under : List Key) :
    ∃ v under', v.GroupOf g ∧
      sss.flatten.foldlM Draft.add ⟨.table m .header es, under⟩ =
        some ⟨.table m .header (es ++ [(g.name, v)]), under'⟩ := by
  obtain ⟨ss, sss', hss, hrest, rfl⟩ := List.forall₂_cons_left_iff.mp hsss
  obtain ⟨hentries, htables, hdisjoint⟩ := List.nodup_append.mp hg.keys
  obtain ⟨_, under₁, ⟨mark, hshow⟩, hfold⟩ :=
    Focus.here.add_section g.name hss rfl hname hentries m under
  have hnew : ∀ t ∈ g.tables, List.lookup t.1 _ = none := fun t ht =>
    lookup_eq_none_iff_key.mpr fun hmem =>
      hdisjoint t.1 (map_fst_eq hshow ▸ hmem) t.1 (List.mem_map.mpr ⟨t, ht, rfl⟩) rfl
  obtain ⟨ts, under₂, hts, hfold'⟩ :=
    (Focus.last m hname .here : Focus [⟨g.name, 0⟩] _).add_tables hrest htables hnew hg.tables
      mark under₁
  refine ⟨_, under₂, .intro mark hshow hts, ?_⟩
  rw [List.flatten_cons, List.foldlM_append]
  exact (congrArg (· >>= _) hfold).trans hfold'

theorem forall₂_append_left {α β : Type} {R : α → β → Prop} {l l' : List α} {r : List β}
    (h : List.Forall₂ R (l ++ l') r) :
    ∃ r₁ r₂, r = r₁ ++ r₂ ∧ List.Forall₂ R l r₁ ∧ List.Forall₂ R l' r₂ := by
  induction l generalizing r with
  | nil => exact ⟨[], r, rfl, .nil, h⟩
  | cons a l ih =>
    obtain ⟨b, r, hb, hrest, rfl⟩ := List.forall₂_cons_left_iff.mp h
    obtain ⟨r₁, r₂, rfl, h₁, h₂⟩ := ih hrest
    exact ⟨b :: r₁, r₂, rfl, .cons hb h₁, h₂⟩

/-- The induction is on the groups; each adds its table behind those before it. -/
theorem add_groups (es : Entries) {groups : List Group}
    (hsss : List.Forall₂ Section.WrittenAs (groups.flatMap Group.sections) sss)
    (hgroups : ∀ g ∈ groups, g.Distinct) (hn : (groups.map Group.name).Nodup)
    (hnew : ∀ g ∈ groups, es.lookup g.name = none) (m : Nat) (under : List Key) :
    ∃ (ts : Entries) (under' : List Key),
      List.Forall₂ (fun e g => e.1 = g.name ∧ e.2.GroupOf g) ts groups ∧
        sss.flatten.foldlM Draft.add ⟨.table m .header es, under⟩ =
          some ⟨.table m .header (es ++ ts), under'⟩ := by
  induction groups generalizing sss es under with
  | nil =>
    cases hsss
    exact ⟨[], under, .nil, by rw [List.append_nil]; rfl⟩
  | cons g groups ih =>
    obtain ⟨sss₁, sss₂, rfl, hfirst, hrest⟩ := forall₂_append_left hsss
    obtain ⟨hg, hgroups⟩ := List.forall_mem_cons.mp hgroups
    obtain ⟨hname, hnew⟩ := List.forall_mem_cons.mp hnew
    obtain ⟨hfresh, hn⟩ := List.nodup_cons.mp hn
    obtain ⟨v, under₁, hv, hfold⟩ := add_group hfirst hg hname m under
    obtain ⟨ts, under₂, hts, hfold'⟩ :=
      ih (es ++ [(g.name, v)]) hrest hgroups hn (lookup_append_of_fresh hfresh hnew v) under₁
    refine ⟨(g.name, v) :: ts, under₂, .cons ⟨rfl, hv⟩ hts, ?_⟩
    rw [List.flatten_append, List.foldlM_append, hfold]
    rw [List.append_assoc] at hfold'
    exact hfold'

end Folding

/-- What is written for groups is read again as a document with their tables. -/
theorem ofText?_writeSections {groups : List Group} (hgroups : ∀ g ∈ groups, g.Distinct)
    (hn : (groups.map Group.name).Nodup) :
    ∃ ts : Entries, List.Forall₂ (fun e g => e.1 = g.name ∧ e.2.GroupOf g) ts groups ∧
      Value.ofText? (writeSections (groups.flatMap Group.sections) ++ ['\n']) =
        some (.table 0 .header ts) := by
  have hpaths : ∀ s ∈ groups.flatMap Group.sections, s.path ≠ [] ∧ s.path.length ≤ maxDepth := by
    intro s hs
    obtain ⟨g, -, hs⟩ := List.mem_flatMap.mp hs
    rcases List.mem_cons.mp hs with rfl | hs
    · exact ⟨List.cons_ne_nil _ _, by simp [maxDepth]⟩
    · obtain ⟨t, -, rfl⟩ := List.mem_map.mp hs
      exact ⟨List.cons_ne_nil _ _, by simp [maxDepth]⟩
  obtain ⟨sss, hsss, hread⟩ := readAll_writeSections hpaths
  obtain ⟨ts, under, hts, hfold⟩ := add_groups [] hsss hgroups hn (fun _ _ => rfl) 0 []
  refine ⟨ts, hts, ?_⟩
  rw [Value.ofText?, hread, Option.bind_some, Value.ofStatements?]
  exact congrArg (Option.map Draft.root) hfold

end DocLaunch.Toml
