import DocLaunch.Proofs.Toml.Order
import DocLaunch.Proofs.Toml.Progress

namespace DocLaunch.Toml

/-- Things read one after the other, the first below the mark `n` and the last above `n'`. -/
inductive Sequence {α : Type} (Within : Nat → Nat → α → Prop) : Nat → List α → Nat → Prop where
  | nil {n n' : Nat} (h : n' ≤ n) : Sequence Within n [] n'
  | cons {n n₁ n' : Nat} {a : α} {l : List α} (ha : Within n₁ n a)
    (h : Sequence Within n₁ l n') : Sequence Within n (a :: l) n'

theorem Sequence.raise {α : Type} {Within : Nat → Nat → α → Prop} {n m n' : Nat} {l : List α}
    (hmono : ∀ low high high' a, high ≤ high' → Within low high a → Within low high' a)
    (h : Sequence Within n l n') (hle : n ≤ m) : Sequence Within m l n' := by
  cases h with
  | nil h => exact .nil (h.trans hle)
  | cons ha h => exact .cons (hmono _ _ _ _ hle ha) h

/-- What one thing after the other keeps holds after all of them. -/
theorem Sequence.foldlM {α β : Type} {Within : Nat → Nat → α → Prop} {n n' : Nat} {l : List α}
    {f : β → α → Option β} {Holds : Nat → β → Prop} {b b' : β}
    (hmono : ∀ n n' b, n' ≤ n → Holds n b → Holds n' b)
    (hstep : ∀ n n' a b b', Within n' n a → Holds n b → f b a = some b' → Holds n' b')
    (hl : Sequence Within n l n') (hb : Holds n b) (h : l.foldlM f b = some b') : Holds n' b' := by
  induction hl generalizing b with
  | nil hle =>
    cases h
    exact hmono _ _ _ hle hb
  | cons ha _ ih =>
    obtain ⟨b₁, hb₁, h⟩ := Option.bind_eq_some_iff.mp h
    exact ih (hstep _ _ _ _ _ ha hb hb₁) h

/-- A key and a value, all of it between two marks. -/
def PairWithin (n' n : Nat) (p : List Key × Value) : Prop :=
  (∀ key ∈ p.1, key.mark ∈ Set.Ioc n' n) ∧ p.2.mark ∈ Set.Ioc n' n ∧ p.2.InOrder n' ∧
    p.2.DistinctKeys

theorem PairWithin.mono {low low' high high' : Nat} {p : List Key × Value}
    (h : PairWithin low high p) (hlow : low' ≤ low) (hhigh : high ≤ high') :
    PairWithin low' high' p := by
  obtain ⟨hpath, hmark, horder, hdistinct⟩ := h
  exact ⟨fun key hkey => Set.Ioc_subset_Ioc hlow hhigh (hpath key hkey),
    Set.Ioc_subset_Ioc hlow hhigh hmark, horder.mono hlow, hdistinct⟩

def StatementWithin (n' n : Nat) : Statement → Prop
  | .header mark path | .doubleHeader mark path =>
    mark ∈ Set.Ioc n' n ∧ ∀ key ∈ path, key.mark ∈ Set.Ioc n' n
  | .assign path v => PairWithin n' n (path, v)

theorem StatementWithin.mono {low low' high high' : Nat} {s : Statement}
    (h : StatementWithin low high s) (hlow : low' ≤ low) (hhigh : high ≤ high') :
    StatementWithin low' high' s := by
  have hsubset := Set.Ioc_subset_Ioc hlow hhigh
  cases s with
  | header mark path => exact ⟨hsubset h.1, fun key hkey => hsubset (h.2 key hkey)⟩
  | doubleHeader mark path => exact ⟨hsubset h.1, fun key hkey => hsubset (h.2 key hkey)⟩
  | assign path v => exact PairWithin.mono h hlow hhigh

theorem Value.inOrder_ofPairs {pairs : List (List Key × Value)} {mark n n' : Nat} {v : Value}
    (hpairs : Sequence PairWithin n pairs n') (h : ofPairs mark pairs = some v) :
    v.mark = mark ∧ v.InOrder n' := by
  have hstep : ∀ n n' p t t', PairWithin n' n p →
      t.mark = mark ∧ t.DistinctKeys ∧ t.InOrder n → Value.insert p.1 p.2 t = some t' →
      t'.mark = mark ∧ t'.DistinctKeys ∧ t'.InOrder n' := by
    rintro n n' p t t' ⟨hpath, hmark, horder, hdistinct⟩ ⟨hm, hd, hv⟩ h
    obtain ⟨_, _, _, _, rfl, rfl⟩ := alters_insert _ _ _ _ h
    exact ⟨hm, hdistinct.insert hd h, horder.insert hpath hmark hd hv h⟩
  have hfold := hpairs.foldlM (fun n n' t hle ht => ⟨ht.1, ht.2.1, ht.2.2.mono hle⟩) hstep
    ⟨rfl, distinctKeys_emptyTable mark .braces, inOrder_emptyTable n mark .braces⟩ h
  exact ⟨hfold.1, hfold.2.2⟩

section Reading

variable {item : List Char → Option (Value × List Char)} {cs rest : List Char} {n : Nat} {v : Value}

theorem TakesKey.within {keys : List Key} (h : TakesKey cs keys rest) :
    Behind rest cs ∧ ∀ key ∈ keys, key.mark ∈ Set.Ioc rest.length cs.length := by
  induction h with
  | @last cs part after hpart =>
    have hgap := skipGap_suffix cs
    have hrest := (behind_readKeyPart hpart).shorten (skipGap_suffix after)
    exact ⟨hrest.extend hgap, List.forall_mem_singleton.mpr ⟨hrest.length_lt, hgap.length_le⟩⟩
  | @dot cs part after more rest keys hpart hdot h ih =>
    obtain ⟨hmore, hkeys⟩ := ih
    have hgap := skipGap_suffix cs
    have hafter := skipGap_suffix after
    rw [hdot] at hafter
    have hback := ((behind_readKeyPart hpart).shorten hafter).shorten (List.suffix_cons _ _)
    have hrest := hmore.trans hback
    refine ⟨hrest.extend hgap, List.forall_mem_cons.mpr ⟨?_, fun key hkey => ?_⟩⟩
    · exact ⟨hrest.length_lt, hgap.length_le⟩
    · exact Set.Ioc_subset_Ioc le_rfl (hback.extend hgap).length_lt.le (hkeys key hkey)

/-- A reader of values that begin where the text begins. -/
def ReadsInOrder (item : List Char → Option (Value × List Char)) : Prop :=
  ∀ cs v rest, item cs = some (v, rest) →
    v.mark = cs.length ∧ Behind rest cs ∧ v.InOrder rest.length ∧ v.DistinctKeys

theorem TakesItems.inOrder {items : List Value} (hitem : ReadsInOrder item)
    (h : TakesItems item cs items rest) :
    rest <:+ cs ∧ (∀ m ∈ items.map Value.mark, m ≤ cs.length) ∧
      Falling rest.length (items.map Value.mark) ∧ ∀ v ∈ items, v.InOrder rest.length := by
  induction h with
  | @none cs rest hclose =>
    have hfiller := skipFiller_suffix cs.length cs
    rw [hclose] at hfiller
    exact ⟨(List.suffix_cons _ _).trans hfiller, List.forall_mem_nil _, falling_nil _,
      List.forall_mem_nil _⟩
  | @last cs after rest v hv hclose =>
    obtain ⟨hmark, hbehind, horder, -⟩ := hitem _ _ _ hv
    have hfiller := skipFiller_suffix cs.length cs
    have hafter := skipFiller_suffix after.length after
    rw [hclose] at hafter
    have hback := (List.suffix_cons ']' _).trans hafter
    have hrest := hbehind.shorten hback
    have hlt := hrest.length_lt
    have hle := hfiller.length_le
    refine ⟨(hrest.extend hfiller).suffix, List.forall_mem_singleton.mpr (by omega), ?_,
      List.forall_mem_singleton.mpr (horder.mono hback.length_le)⟩
    exact (falling_nil _).cons (by omega) (List.forall_mem_nil _)
  | @comma cs after more rest v vs hv hcomma h ih =>
    obtain ⟨hmark, hbehind, horder, -⟩ := hitem _ _ _ hv
    obtain ⟨hrest, hbelow, hmarks, hitems⟩ := ih
    have hfiller := skipFiller_suffix cs.length cs
    have hafter := skipFiller_suffix after.length after
    rw [hcomma] at hafter
    have hback := (List.suffix_cons ',' more).trans hafter
    have hmore := hbehind.shorten hback
    have hlt := hmore.length_lt
    have hle := hrest.length_le
    have hfirst := hfiller.length_le
    refine ⟨hrest.trans (hmore.extend hfiller).suffix,
      List.forall_mem_cons.mpr ⟨by omega, fun m hm => ?_⟩, ?_, ?_⟩
    · have hm := hbelow m hm
      omega
    · refine hmarks.cons (by omega) fun m hm => ?_
      have hm := hbelow m hm
      omega
    · exact List.forall_mem_cons.mpr ⟨horder.mono (hle.trans hback.length_le), hitems⟩

theorem within_of_readPair {p : List Key × Value} (hitem : ReadsInOrder item)
    (h : readPair item cs = some (p, rest)) :
    Behind rest cs ∧ PairWithin rest.length cs.length p := by
  obtain ⟨more, hkey, hv⟩ := readPair_eq_some h
  obtain ⟨hafter, hpath⟩ := (takesKey_of_readKey hkey).within
  obtain ⟨hmark, hbehind, horder, hdistinct⟩ := hitem _ _ _ hv
  have hgap := skipGap_suffix more
  have hmore := hafter.shorten (List.suffix_cons _ _)
  have hrest := hbehind.extend hgap
  refine ⟨hrest.trans hmore, fun key hkey => ?_, ⟨?_, ?_⟩, horder, hdistinct⟩
  · exact Set.Ioc_subset_Ioc (hrest.step '=').length_lt.le le_rfl (hpath key hkey)
  · exact hmark ▸ hbehind.length_lt
  · exact hmark ▸ hgap.length_le.trans hmore.length_lt.le

theorem TakesPairs.sequence {pairs : List (List Key × Value)} (hitem : ReadsInOrder item)
    (h : TakesPairs item cs pairs rest) :
    Behind rest cs ∧ Sequence PairWithin cs.length pairs rest.length := by
  induction h with
  | @last cs after rest p hp hclose =>
    obtain ⟨hbehind, hp⟩ := within_of_readPair hitem hp
    have hgap := skipGap_suffix after
    rw [hclose] at hgap
    have hrest := (List.suffix_cons _ _).trans hgap
    exact ⟨hbehind.shorten hrest, .cons hp (.nil hrest.length_le)⟩
  | @comma cs after more rest p ps hp hcomma h ih =>
    obtain ⟨hbehind, hp⟩ := within_of_readPair hitem hp
    obtain ⟨hrest, hps⟩ := ih
    have hgap := skipGap_suffix after
    rw [hcomma] at hgap
    have hmore := (List.suffix_cons _ _).trans hgap
    exact ⟨hrest.trans (hbehind.shorten hmore), .cons (hp.mono hmore.length_le le_rfl) hps⟩

theorem inOrder_of_readScalar {s : Scalar} (h : readScalar cs = some (s, rest)) :
    (Value.scalar cs.length s).mark = cs.length ∧ Behind rest cs ∧
      (Value.scalar cs.length s).InOrder rest.length ∧ (Value.scalar cs.length s).DistinctKeys :=
  ⟨rfl, behind_readScalar h, .scalar _ s, .scalar _ s⟩

theorem readsInOrder_readValue (n : Nat) : ReadsInOrder (readValue n) := by
  induction n with
  | zero =>
    intro cs v rest h
    cases takesValue_of_readValue h with
    | scalar hs => exact inOrder_of_readScalar hs
  | succ n ih =>
    intro cs v rest h
    have hdistinct := distinctKeys_of_readValue h
    cases takesValue_of_readValue h with
    | scalar hs => exact inOrder_of_readScalar hs
    | array hitems =>
      obtain ⟨hrest, -, hmarks, hitems⟩ := hitems.inOrder ih
      exact ⟨rfl, (Behind.cons _ _).shorten hrest, .array hmarks hitems, hdistinct⟩
    | braces hbraces hv =>
      cases takesBraces_of_readBraces hbraces with
      | @empty inner _ hclose =>
        cases hv
        have hgap := skipGap_suffix inner
        rw [hclose] at hgap
        exact ⟨rfl, (Behind.cons _ _).shorten ((List.suffix_cons _ _).trans hgap),
          Value.inOrder_emptyTable .., hdistinct⟩
      | @pairs inner _ _ hpairs =>
        obtain ⟨hrest, hpairs⟩ := hpairs.sequence ih
        obtain ⟨hmark, horder⟩ := Value.inOrder_ofPairs hpairs hv
        exact ⟨hmark, (hrest.extend (skipGap_suffix inner)).step '\x7b', horder, hdistinct⟩

/-- A header begins where its text does, and its key stands inside. -/
theorem within_of_header {inner after : List Char} {path : List Key}
    (hkey : readKey maxDepth inner = some (path, after)) (hinner : Behind inner cs)
    (hrest : Behind rest after) :
    Behind rest cs ∧ cs.length ∈ Set.Ioc rest.length cs.length ∧
      ∀ key ∈ path, key.mark ∈ Set.Ioc rest.length cs.length := by
  obtain ⟨hafter, hpath⟩ := (takesKey_of_readKey hkey).within
  have hall : Behind rest cs := (hrest.trans hafter).trans hinner
  refine ⟨hall, ⟨hall.length_lt, le_rfl⟩, fun key hkey => ?_⟩
  exact Set.Ioc_subset_Ioc hrest.length_lt.le hinner.length_lt.le (hpath key hkey)

theorem within_of_readStatement {s : Statement} (h : readStatement cs = some (s, rest)) :
    Behind rest cs ∧ StatementWithin rest.length cs.length s := by
  cases takesStatement_of_readStatement h with
  | header hkey => exact within_of_header hkey (.cons _ _) (.cons _ _)
  | doubleHeader hkey =>
    exact within_of_header hkey ((Behind.cons _ _).step _) ((Behind.cons _ _).step _)
  | assign hpair => exact within_of_readPair (readsInOrder_readValue maxDepth) hpair

theorem TakesLines.sequence {ss : List Statement} (h : TakesLines cs ss) :
    Sequence StatementWithin cs.length ss 0 := by
  induction h with
  | done => exact .nil le_rfl
  | skip hline _ ih =>
    exact ih.raise (fun _ _ _ _ hle hs => hs.mono le_rfl hle) (finishLine_suffix hline).length_le
  | @line cs after rest s ss hs hline h ih =>
    obtain ⟨-, hs⟩ := within_of_readStatement hs
    have hgap := (skipGap_suffix cs).length_le
    exact .cons (hs.mono (finishLine_suffix hline).length_le hgap) ih

end Reading

section Drafts

variable {n n' : Nat} {d d' : Draft} {s : Statement}

/-- The root is in order, and the header that assignments are under is there. -/
structure Draft.InOrder (n : Nat) (d : Draft) : Prop where
  root : d.root.InOrder n
  distinct : d.root.DistinctKeys
  under : d.root.Reaches d.under

theorem Draft.InOrder.mono (hd : d.InOrder n) (hle : n' ≤ n) : d.InOrder n' :=
  ⟨hd.root.mono hle, hd.distinct, hd.under⟩

theorem Draft.InOrder.of_open {make : String → Value → Option Value} {path : List Key} {key : Key}
    {root : Value} (hle : n' ≤ n) (hpath : ∀ key ∈ path, key.mark ∈ Set.Ioc n' n)
    (halters : Value.Alters (make key.text))
    (horder : ∀ v w, v.DistinctKeys → v.InOrder n → make key.text v = some w → w.InOrder n')
    (hdistinct : ∀ v w, v.DistinctKeys → make key.text v = some w → w.DistinctKeys)
    (hreach : ∀ v w, make key.text v = some w → w.Reaches [key]) (hd : d.InOrder n)
    (hkey : path.getLast? = some key)
    (h : Value.Descends .implied (make key.text) path.dropLast d.root root) :
    Draft.InOrder n' ⟨root, path⟩ := by
  have hfront : ∀ key ∈ path.dropLast, key.mark ∈ Set.Ioc n' n :=
    fun key hkey => hpath key (List.dropLast_subset path hkey)
  constructor
  · exact h.inOrder hle (.inr hfront) halters horder hd.distinct hd.root
  · exact h.distinctKeys hdistinct hd.distinct
  · have hunder := h.reaches hreach
    rwa [List.dropLast_append_getLast? key hkey] at hunder

theorem Draft.InOrder.add (hs : StatementWithin n' n s) (hd : d.InOrder n)
    (h : d.add s = some d') : d'.InOrder n' := by
  cases adds_of_add h with
  | @header mark path key root hkey hroot =>
    obtain ⟨hmark, hpath⟩ := hs
    exact hd.of_open (hmark.1.trans_le hmark.2).le hpath (Value.alters_openTable _ _)
      (fun _ _ _ hv h => hv.openTable hmark h) (fun _ _ hv h => hv.openTable h)
      (fun _ _ => Value.reaches_openTable) hkey hroot
  | @doubleHeader mark path key root hkey hroot =>
    obtain ⟨hmark, hpath⟩ := hs
    exact hd.of_open (hmark.1.trans_le hmark.2).le hpath (Value.alters_openTables _ _)
      (fun _ _ hdistinct hv h => hv.openTables hmark hdistinct h)
      (fun _ _ hv h => hv.openTables h) (fun _ _ => Value.reaches_openTables) hkey hroot
  | @assign path v root hroot =>
    -- The header is there, so nothing new is made on the way to its table.
    obtain ⟨hpath, hmark, hv, hdistinct⟩ := hs
    constructor
    · refine hroot.inOrder (hmark.1.trans_le hmark.2).le (.inl hd.under)
        (Value.alters_insert _ _) (fun _ _ hd hw h => ?_) hd.distinct hd.root
      exact hv.insert hpath hmark hd hw h
    · exact hroot.distinctKeys (fun _ _ hw h => hdistinct.insert hw h) hd.distinct
    · have hunder := hroot.reaches fun _ w _ => .here w
      rwa [List.append_nil] at hunder

end Drafts

/-- Whatever is read from a text stands in the order of the text. -/
theorem Value.inOrder_ofText? {cs : List Char} {v : Value} (h : Value.ofText? cs = some v) :
    v.InOrder 0 := by
  obtain ⟨ss, hss, h⟩ := Option.bind_eq_some_iff.mp h
  obtain ⟨d, hfold, rfl⟩ := Option.map_eq_some_iff.mp h
  have hstart : Draft.start.InOrder (skipByteOrderMark cs).length :=
    ⟨inOrder_emptyTable .., distinctKeys_emptyTable .., .here _⟩
  have hmono : ∀ n n' d, n' ≤ n → Draft.InOrder n d → d.InOrder n' :=
    fun _ _ _ hle hd => hd.mono hle
  have hadd : ∀ n n' s d d', StatementWithin n' n s → Draft.InOrder n d → d.add s = some d' →
      d'.InOrder n' := fun _ _ _ _ _ hs hd => hd.add hs
  exact ((takesLines_of_readStatements hss).sequence.foldlM hmono hadd hstart hfold).root

end DocLaunch.Toml
