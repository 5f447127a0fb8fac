import Mathlib.Tactic.SplitIfs
import TypedTraffic.Text.CodePoint
import TypedTraffic.Text.Utf8

/-!
# Lenient reading of bytes, piece by piece

The bytes of a character are read as that character, and a character
beyond ASCII is a seam: it is read as itself whatever stands in front of
it, since its first byte continues nothing (`decodeLossy_append_encode`).
-/

namespace TypedTraffic.Text.Utf8

/-- The character an item stands for: the replacement character for a
fault. -/
def Item.char : Item → Char
  | .ok c => c
  | .error _ => '\uFFFD'

/-- What an open character waits for, wherever it began. -/
def Opened.awaits (o : Opened) : Nat × Nat × Nat × Nat := (o.missing, o.low, o.high, o.value)

/-- **The characters of bytes** behind what is open. -/
def charsFrom (o : Option Opened) (bytes : List UInt8) : List Char :=
  (scanFrom 0 o bytes).map Item.char

theorem decodeLossy_eq (bytes : List UInt8) : decodeLossy bytes = charsFrom none bytes := by
  unfold decodeLossy charsFrom scan
  refine List.map_congr_left fun item _ => ?_
  cases item <;> rfl

/-! ## Positions -/

/-- **Steps that differ in positions only.** -/
inductive Alike : Item ⊕ Opened → Item ⊕ Opened → Prop
  /-- A character or a fault is read. -/
  | item {i j : Item} : i.char = j.char → Alike (.inl i) (.inl j)
  /-- A character is open. -/
  | opened {o p : Opened} : o.awaits = p.awaits → Alike (.inr o) (.inr p)

theorem alike_openAt (pos pos' : Nat) (b : UInt8) : Alike (openAt pos b) (openAt pos' b) := by
  unfold openAt
  dsimp only
  split_ifs <;> first | exact .item rfl | exact .opened rfl

theorem alike_push {o p : Opened} (h : o.awaits = p.awaits) (b : UInt8) :
    Alike (o.push b) (p.push b) := by
  simp only [Opened.awaits, Prod.mk.injEq] at h
  obtain ⟨hmissing, -, -, hvalue⟩ := h
  unfold Opened.push
  rw [hmissing, hvalue]
  split_ifs
  · exact .item rfl
  · exact .opened rfl

/-- What a step at `pos` leaves to be read. -/
def itemsBehind (pos : Nat) (bytes : List UInt8) : Item ⊕ Opened → List Item
  | .inl item => item :: scanFrom (pos + 1) none bytes
  | .inr o => scanFrom (pos + 1) (some o) bytes

/-- **Positions make no difference** to what is read. -/
theorem map_scanFrom_congr (bytes : List UInt8) : ∀ {pos pos' : Nat} {o p : Option Opened},
    o.map Opened.awaits = p.map Opened.awaits →
      (scanFrom pos o bytes).map Item.char = (scanFrom pos' p bytes).map Item.char := by
  induction bytes with
  | nil =>
    intro pos pos' o p h
    cases o <;> cases p <;> first | rfl | cases h
  | cons b bytes ih =>
    have hstep : ∀ {pos pos' : Nat} {x y : Item ⊕ Opened}, Alike x y →
        (itemsBehind pos bytes x).map Item.char = (itemsBehind pos' bytes y).map Item.char := by
      intro pos pos' x y h
      cases h with
      | item h => exact List.cons_eq_cons.mpr ⟨h, ih rfl⟩
      | opened h => exact ih (congrArg some h)
    intro pos pos' o p h
    cases o with
    | none =>
      cases p with
      | none => exact hstep (alike_openAt pos pos' b)
      | some p => cases h
    | some o =>
      cases p with
      | none => cases h
      | some p =>
        have hawaits : o.awaits = p.awaits := Option.some.inj h
        have haccepts : o.accepts b = p.accepts b := by
          simp only [Opened.awaits, Prod.mk.injEq] at hawaits
          rw [Opened.accepts, Opened.accepts, hawaits.2.1, hawaits.2.2.1]
        rw [scanFrom, scanFrom, haccepts]
        split
        · exact hstep (alike_push hawaits b)
        · exact List.cons_eq_cons.mpr ⟨rfl, hstep (alike_openAt pos pos' b)⟩

/-- The characters behind a step. -/
def charsBehind (bytes : List UInt8) : Item ⊕ Opened → List Char
  | .inl item => item.char :: charsFrom none bytes
  | .inr o => charsFrom (some o) bytes

theorem charsFrom_none_cons (b : UInt8) (bytes : List UInt8) :
    charsFrom none (b :: bytes) = charsBehind bytes (openAt 0 b) := by
  rw [charsFrom, scanFrom]
  cases openAt 0 b with
  | inl item => exact List.cons_eq_cons.mpr ⟨rfl, map_scanFrom_congr bytes rfl⟩
  | inr o => exact map_scanFrom_congr bytes rfl

theorem charsFrom_some_cons (o : Opened) (b : UInt8) (bytes : List UInt8) :
    charsFrom (some o) (b :: bytes)
      = if o.accepts b then charsBehind bytes (o.push b)
        else '\uFFFD' :: charsFrom none (b :: bytes) := by
  rw [charsFrom, scanFrom]
  split
  · cases o.push b with
    | inl item => exact List.cons_eq_cons.mpr ⟨rfl, map_scanFrom_congr bytes rfl⟩
    | inr o => exact map_scanFrom_congr bytes rfl
  · rfl

/-! ## Seams -/

/-- What is open waits for bytes that begin no character. -/
def Opened.Continues (o : Opened) : Prop := o.high ≤ 0xBF

theorem continues_openAt {pos : Nat} {b : UInt8} {o : Opened} (h : openAt pos b = .inr o) :
    o.Continues := by
  unfold openAt at h
  dsimp only at h
  split_ifs at h <;> cases h <;> simp [Opened.Continues]

theorem continues_push {o p : Opened} {b : UInt8} (h : o.push b = .inr p) : p.Continues := by
  unfold Opened.push at h
  dsimp only at h
  split_ifs at h
  cases h
  simp [Opened.Continues]

/-- **A byte that begins a character of several bytes is a seam**: what is
in front of it and what it begins are read apart. -/
theorem charsFrom_append {b : UInt8} (hb : 0xBF < b.toNat) (later bytes : List UInt8) :
    ∀ {o : Option Opened}, (∀ p ∈ o, p.Continues) →
      charsFrom o (bytes ++ b :: later) = charsFrom o bytes ++ charsFrom none (b :: later) := by
  induction bytes with
  | nil =>
    intro o ho
    cases o with
    | none => rfl
    | some p =>
      -- the byte does not continue what is open, which is a fault
      have hrefused : p.accepts b = false := by
        have hp : p.high ≤ 0xBF := ho p rfl
        have hlt : ¬ b.toNat ≤ p.high := by omega
        simp [Opened.accepts, hlt]
      rw [List.nil_append, charsFrom_some_cons, hrefused]
      rfl
  | cons c bytes ih =>
    have hbehind : ∀ x : Item ⊕ Opened, (∀ p, x = .inr p → p.Continues) →
        charsBehind (bytes ++ b :: later) x
          = charsBehind bytes x ++ charsFrom none (b :: later) := by
      intro x hx
      cases x with
      | inl item => exact congrArg (item.char :: ·) (ih (o := none) fun _ h => nomatch h)
      | inr p => exact ih fun q hq => hx q (congrArg Sum.inr (Option.some.inj hq))
    have hnone : charsFrom none (c :: (bytes ++ b :: later))
        = charsFrom none (c :: bytes) ++ charsFrom none (b :: later) := by
      rw [charsFrom_none_cons, charsFrom_none_cons]
      exact hbehind _ fun _ => continues_openAt
    intro o ho
    cases o with
    | none => exact hnone
    | some p =>
      rw [List.cons_append, charsFrom_some_cons, charsFrom_some_cons]
      split
      · exact hbehind _ fun _ => continues_push
      · exact congrArg ('\uFFFD' :: ·) hnone

/-! ## Characters -/

section Open

variable {low high value start count : Nat} {first b : UInt8}
  (hlow : low ≤ b.toNat) (hhigh : b.toNat ≤ high) (later : List UInt8)

include hlow hhigh

/-- The last byte of a character. -/
theorem charsFrom_last :
    charsFrom (some ⟨1, low, high, value, first, start, count⟩) (b :: later)
      = Char.ofNat (value * 64 + (b.toNat - 0x80)) :: charsFrom none later := by
  rw [charsFrom_some_cons, if_pos (by simp [Opened.accepts, hlow, hhigh])]
  rfl

/-- A byte of a character that is neither the first nor the last. -/
theorem charsFrom_next (missing : Nat) :
    charsFrom (some ⟨missing + 2, low, high, value, first, start, count⟩) (b :: later)
      = charsFrom (some ⟨missing + 1, 0x80, 0xBF, value * 64 + (b.toNat - 0x80), first, start,
          count + 1⟩) later := by
  rw [charsFrom_some_cons, if_pos (by simp [Opened.accepts, hlow, hhigh]), Opened.push,
    if_neg (by simp)]
  rfl

end Open

theorem toNat_byte {n : Nat} (h : n < 256) : (UInt8.ofNat n).toNat = n :=
  UInt8.toNat_ofNat'.trans (Nat.mod_eq_of_lt h)

/-- **The bytes of a character** are read as that character. -/
theorem charsFrom_encode (c : Char) (later : List UInt8) :
    charsFrom none (String.utf8EncodeChar c ++ later) = c :: charsFrom none later := by
  have hvalid : c.val.toNat < 0xD800 ∨ 0xDFFF < c.val.toNat ∧ c.val.toNat < 0x110000 := c.valid
  have hchar : ∀ {n : Nat}, n = c.val.toNat → Char.ofNat n = c := by
    rintro n rfl
    exact Char.ofNat_toNat c
  unfold String.utf8EncodeChar
  dsimp only
  generalize c.val.toNat = v at *
  -- by the number of bytes, which the first byte gives
  split_ifs with h1 h2 h3
  · have hfirst := toNat_byte (n := v) (by omega)
    rw [List.singleton_append, charsFrom_none_cons, openAt, hfirst, if_pos (by omega), hchar rfl]
    rfl
  · have hfirst := toNat_byte (n := v / 64 % 32 + 192) (by omega)
    have hlast := toNat_byte (n := v % 64 + 128) (by omega)
    rw [List.cons_append, charsFrom_none_cons, openAt, hfirst, if_neg (by omega), if_neg (by omega),
      if_pos (by omega), charsBehind, List.singleton_append, charsFrom_last (by omega) (by omega),
      hlast, hchar (by omega)]
  · have hfirst := toNat_byte (n := v / 4096 % 16 + 224) (by omega)
    have hsecond := toNat_byte (n := v / 64 % 64 + 128) (by omega)
    have hlast := toNat_byte (n := v % 64 + 128) (by omega)
    rw [List.cons_append, charsFrom_none_cons, openAt, hfirst, if_neg (by omega), if_neg (by omega),
      if_neg (by omega), if_pos (by omega), charsBehind, List.cons_append,
      charsFrom_next (by split <;> omega) (by split <;> omega), List.singleton_append,
      charsFrom_last (by omega) (by omega), hsecond, hlast, hchar (by omega)]
  · have hfirst := toNat_byte (n := v / 262144 % 8 + 240) (by omega)
    have hsecond := toNat_byte (n := v / 4096 % 64 + 128) (by omega)
    have hthird := toNat_byte (n := v / 64 % 64 + 128) (by omega)
    have hlast := toNat_byte (n := v % 64 + 128) (by omega)
    rw [List.cons_append, charsFrom_none_cons, openAt, hfirst, if_neg (by omega), if_neg (by omega),
      if_neg (by omega), if_neg (by omega), charsBehind, List.cons_append,
      charsFrom_next (by split <;> omega) (by split <;> omega), List.cons_append,
      charsFrom_next (by omega) (by omega), List.singleton_append,
      charsFrom_last (by omega) (by omega), hsecond, hthird, hlast, hchar (by omega)]

/-- A character beyond ASCII begins with a byte that is a seam. -/
theorem exists_encode_eq_cons {c : Char} (h : 128 ≤ c.toNat) :
    ∃ b bytes, String.utf8EncodeChar c = b :: bytes ∧ 0xBF < b.toNat := by
  have hvalid : c.val.toNat < 0xD800 ∨ 0xDFFF < c.val.toNat ∧ c.val.toNat < 0x110000 := c.valid
  have hbeyond : ¬ c.val.toNat ≤ 127 := Nat.not_le_of_lt h
  unfold String.utf8EncodeChar
  dsimp only
  rw [if_neg hbeyond]
  split_ifs <;> exact ⟨_, _, rfl, by rw [toNat_byte (by omega)]; omega⟩

/-- **A character beyond ASCII among bytes** is read as itself, and what is
in front of it and behind it is read apart. -/
theorem decodeLossy_append_encode {c : Char} (hc : 128 ≤ c.toNat) (bytes later : List UInt8) :
    decodeLossy (bytes ++ (String.utf8EncodeChar c ++ later))
      = decodeLossy bytes ++ c :: decodeLossy later := by
  obtain ⟨b, rest, hencode, hb⟩ := exists_encode_eq_cons hc
  have hread := charsFrom_encode c later
  rw [hencode, List.cons_append] at hread ⊢
  rw [decodeLossy_eq, decodeLossy_eq, decodeLossy_eq,
    charsFrom_append hb _ bytes (o := none) (fun _ h => nomatch h), hread]

end TypedTraffic.Text.Utf8
