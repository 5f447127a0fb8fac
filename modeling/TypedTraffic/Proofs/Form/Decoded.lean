import TypedTraffic.Form
import TypedTraffic.Proofs.Text.Utf8

/-!
# Keys and values without their encoding

A key or value of a form stands for bytes: an escape for one byte, every
other character for its bytes in UTF-8. Without its encoding it is the
text of these bytes, read leniently, with spaces in place of plus signs
(`unescape_eq`).

Decoding reads one run of ASCII characters after another and leaves other
characters alone. That makes no difference, since the bytes of another
character are a seam that no fault reaches across.
-/

namespace TypedTraffic.Form

open Text

/-- **The bytes a text stands for**: escapes for one byte each, all other
characters for their bytes in UTF-8. -/
def bytesOf : List Char → List UInt8
  | '%' :: a :: b :: cs =>
    match hexValue? a, hexValue? b with
    | some high, some low => UInt8.ofNat (high * 16 + low) :: bytesOf cs
    | _, _ => String.utf8EncodeChar '%' ++ bytesOf (a :: b :: cs)
  | c :: cs => String.utf8EncodeChar c ++ bytesOf cs
  | [] => []

/-- **A text without its encoding.** -/
def decoded (cs : List Char) : List Char :=
  Utf8.decodeLossy (bytesOf (cs.map fun c => if c = '+' then ' ' else c))

/-! ## Runs of ASCII characters -/

/-- A digit is an ASCII character. -/
theorem toNat_lt_of_hexValue? {c : Char} {n : Nat} (h : hexValue? c = some n) : c.toNat < 128 := by
  have hle : ∀ d : Char, d.toNat < 128 → c ≤ d → c.toNat < 128 := fun d hd hcd =>
    Nat.lt_of_le_of_lt (UInt32.le_iff_toNat_le.mp hcd) hd
  unfold hexValue? at h
  split_ifs at h with h1 h2 h3
  · exact hle '9' (by decide) h1.2
  · exact hle 'f' (by decide) h2.2
  · exact hle 'F' (by decide) h3.2

theorem hexValue?_of_le {c : Char} (h : 128 ≤ c.toNat) : hexValue? c = none := by
  cases hc : hexValue? c with
  | none => rfl
  | some n => exact absurd (toNat_lt_of_hexValue? hc) (Nat.not_lt_of_le h)

theorem encode_ascii {c : Char} (h : c.toNat < 128) :
    String.utf8EncodeChar c = [UInt8.ofNat c.toNat] := by
  unfold String.utf8EncodeChar
  exact if_pos (Nat.le_of_lt_succ h)

/-- **A character that begins no escape** stands for its own bytes. -/
theorem bytesOf_cons {c : Char} {cs : List Char}
    (h : ∀ a b more, c = '%' → cs = a :: b :: more → hexValue? a = none ∨ hexValue? b = none) :
    bytesOf (c :: cs) = String.utf8EncodeChar c ++ bytesOf cs := by
  by_cases hsign : ∃ a b more, c = '%' ∧ cs = a :: b :: more
  · obtain ⟨a, b, more, rfl, rfl⟩ := hsign
    rw [bytesOf]
    split
    · rename_i ha hb
      rcases h a b more rfl rfl with hnone | hnone
      · cases ha.symm.trans hnone
      · cases hb.symm.trans hnone
    · rfl
  · exact bytesOf.eq_2 c cs fun a b more hc hcs => hsign ⟨a, b, more, hc, hcs⟩

/-- A character beyond ASCII stands for its own bytes. -/
theorem bytesOf_beyond {c : Char} (h : 128 ≤ c.toNat) (cs : List Char) :
    bytesOf (c :: cs) = String.utf8EncodeChar c ++ bytesOf cs := by
  refine bytesOf_cons fun _ _ _ hc _ => ?_
  rw [hc] at h
  exact absurd h (by decide)

/-- **The bytes of a run of ASCII characters** in front of what begins with
another character: no escape reaches across. -/
theorem bytesOf_append {run tail : List Char} (hrun : ∀ c ∈ run, c.toNat < 128)
    (htail : ∀ c ∈ tail.head?, 128 ≤ c.toNat) :
    bytesOf (run ++ tail) = escapedBytes run ++ bytesOf tail := by
  induction run using escapedBytes.induct with
  | case1 a b cs high low hb ha ih =>
    have hrest : ∀ c ∈ cs, c.toNat < 128 := fun c hc => hrun c (by simp [hc])
    simp only [List.cons_append, bytesOf, escapedBytes, ha, hb, ih hrest]
  | case2 a b cs hnone ih =>
    have hrest : ∀ c ∈ a :: b :: cs, c.toNat < 128 := fun c hc => hrun c (List.mem_cons_of_mem _ hc)
    have hescaped : escapedBytes ('%' :: a :: b :: cs)
        = UInt8.ofNat '%'.toNat :: escapedBytes (a :: b :: cs) := by
      rw [escapedBytes]
      split
      · rename_i ha hb
        exact (hnone _ _ ha hb).elim
      · rfl
    have htaken : ∀ a' b' more, '%' = '%' → a :: b :: (cs ++ tail) = a' :: b' :: more →
        hexValue? a' = none ∨ hexValue? b' = none := by
      rintro a' b' more - ⟨⟩
      cases ha : hexValue? a with
      | none => exact Or.inl rfl
      | some high =>
        exact Or.inr (Option.eq_none_iff_forall_ne_some.mpr fun low hb => hnone high low ha hb)
    rw [hescaped, List.cons_append]
    exact (bytesOf_cons htaken).trans (congrArg (_ ++ ·) (ih hrest))
  | case3 c cs hsign ih =>
    have hrest : ∀ d ∈ cs, d.toNat < 128 := fun d hd => hrun d (List.mem_cons_of_mem _ hd)
    have htaken : ∀ a b more, c = '%' → cs ++ tail = a :: b :: more →
        hexValue? a = none ∨ hexValue? b = none := by
      intro a b more hc hcs
      match cs, hcs with
      | [], hcs =>
        obtain rfl : tail = a :: b :: more := hcs
        exact Or.inl (hexValue?_of_le (htail a rfl))
      | [d], hcs =>
        obtain ⟨-, rfl⟩ := List.cons.inj hcs
        exact Or.inr (hexValue?_of_le (htail b rfl))
      | d :: e :: more', _ => exact absurd rfl (hsign d e more' hc)
    rw [List.cons_append, bytesOf_cons htaken, ih hrest, escapedBytes.eq_2 c cs hsign,
      encode_ascii (hrun c List.mem_cons_self)]
    rfl
  | case4 => rfl

/-- **Reading run by run** reads the bytes of the whole. The induction is on
what is behind the open run. -/
theorem unescapeRuns_eq (cs : List Char) : ∀ {run : List Char}, (∀ c ∈ run, c.toNat < 128) →
    unescapeRuns run cs = Utf8.decodeLossy (bytesOf (run.reverse ++ cs)) := by
  induction cs with
  | nil =>
    intro run hrun
    rw [unescapeRuns, bytesOf_append (fun c hc => hrun c (List.mem_reverse.mp hc)) (by simp),
      bytesOf, List.append_nil]
  | cons c cs ih =>
    intro run hrun
    rw [unescapeRuns]
    split
    · rename_i hc
      rw [ih (List.forall_mem_cons.mpr ⟨hc, hrun⟩), List.reverse_cons, List.append_assoc,
        List.singleton_append]
    · rename_i hc
      have hbeyond : 128 ≤ c.toNat := Nat.le_of_not_lt hc
      rw [bytesOf_append (fun d hd => hrun d (List.mem_reverse.mp hd))
          (fun d hd => by rwa [← Option.some.inj hd]),
        bytesOf_beyond hbeyond, Utf8.decodeLossy_append_encode hbeyond]
      have hrest : unescapeRuns [] cs = Utf8.decodeLossy (bytesOf cs) :=
        ih fun _ h => absurd h List.not_mem_nil
      rw [hrest]

/-- **A key or value without its encoding** is the text of its bytes. -/
theorem unescape_eq (cs : List Char) : unescape cs = decoded cs := by
  have hspaces : replaceChar '+' [' '] cs = cs.map fun c => if c = '+' then ' ' else c := by
    rw [replaceChar, List.map_eq_flatMap]
    refine congrArg (fun f => List.flatMap f cs) (funext fun c => ?_)
    split <;> rfl
  rw [unescape, hspaces, unescapeRuns_eq _ fun _ h => absurd h List.not_mem_nil]
  rfl

end TypedTraffic.Form
