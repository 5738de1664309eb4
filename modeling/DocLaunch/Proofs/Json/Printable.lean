import DocLaunch.Json.Basic
import DocLaunch.Proofs.Text.Digits

namespace DocLaunch.Json

def Printable (cs : List Char) : Prop :=
  ∀ c ∈ cs, 0x20 ≤ c.toNat

theorem printable_nil : Printable [] :=
  fun _ hc => nomatch hc

theorem printable_cons {c : Char} {cs : List Char} :
    Printable (c :: cs) ↔ 0x20 ≤ c.toNat ∧ Printable cs :=
  List.forall_mem_cons

theorem printable_append {cs cs' : List Char} :
    Printable (cs ++ cs') ↔ Printable cs ∧ Printable cs' :=
  List.forall_mem_append

theorem printable_writeChar (c : Char) : Printable (writeChar c) := by
  have hdigits : ∀ n < 16, 0x20 ≤ (Nat.digitChar n).toNat := by decide
  unfold writeChar
  split
  case h_8 =>
    split
    · simp only [printable_cons, printable_nil, and_true]
      exact ⟨by decide, by decide, by decide, by decide, hdigits _ (by omega),
        hdigits _ (by omega)⟩
    · next hcontrol => exact printable_cons.mpr ⟨Nat.not_lt.mp hcontrol, printable_nil⟩
  all_goals simp only [printable_cons, printable_nil, and_true]; decide

theorem printable_writeString (s : String) : Printable (writeString s) := by
  refine printable_cons.mpr ⟨by decide, printable_append.mpr ⟨fun c hc => ?_, ?_⟩⟩
  · obtain ⟨d, -, hd⟩ := List.mem_flatMap.mp hc
    exact printable_writeChar d c hd
  · exact printable_cons.mpr ⟨by decide, printable_nil⟩

theorem printable_toDigits (n : Nat) : Printable (Nat.toDigits 10 n) := by
  intro c hc
  have hdigit := Text.isDigit_of_mem_toDigits hc
  rw [Char.isDigit, Bool.and_eq_true, decide_eq_true_iff] at hdigit
  exact Nat.le_trans (by decide) (UInt32.le_iff_toNat_le.mp hdigit.1)

theorem printable_writeInt (i : Int) : Printable (writeInt i) := by
  refine printable_append.mpr ⟨?_, printable_toDigits _⟩
  split
  · exact printable_cons.mpr ⟨by decide, printable_nil⟩
  · exact printable_nil

theorem printable_writeNumber (m e : Int) : Printable (writeNumber m e) := by
  refine printable_append.mpr ⟨printable_writeInt m, ?_⟩
  split
  · exact printable_nil
  · exact printable_cons.mpr ⟨by decide, printable_writeInt e⟩

mutual

theorem printable_compact : (v : Json) → Printable v.compact
  | .null | .boolean true | .boolean false => by
    simp only [compact, printable_cons, printable_nil, and_true]
    decide
  | .number m e => printable_writeNumber m e
  | .string s => printable_writeString s
  | .array items => printable_cons.mpr ⟨by decide, printable_compactItems items⟩
  | .object fields => printable_cons.mpr ⟨by decide, printable_compactFields fields⟩

theorem printable_compactItems : (items : List Json) → Printable (compactItems items)
  | [] => printable_cons.mpr ⟨by decide, printable_nil⟩
  | [v] =>
    printable_append.mpr
      ⟨printable_compact v, printable_cons.mpr ⟨by decide, printable_nil⟩⟩
  | v :: w :: vs =>
    printable_append.mpr
      ⟨printable_compact v, printable_cons.mpr ⟨by decide, printable_compactItems (w :: vs)⟩⟩

theorem printable_compactFields :
    (fields : List (String × Json)) → Printable (compactFields fields)
  | [] => printable_cons.mpr ⟨by decide, printable_nil⟩
  | [(k, v)] =>
    printable_append.mpr ⟨printable_writeString k, printable_cons.mpr ⟨by decide,
      printable_append.mpr
        ⟨printable_compact v, printable_cons.mpr ⟨by decide, printable_nil⟩⟩⟩⟩
  | (k, v) :: e :: fields =>
    printable_append.mpr ⟨printable_writeString k, printable_cons.mpr ⟨by decide,
      printable_append.mpr ⟨printable_compact v,
        printable_cons.mpr ⟨by decide, printable_compactFields (e :: fields)⟩⟩⟩⟩

end

end DocLaunch.Json
