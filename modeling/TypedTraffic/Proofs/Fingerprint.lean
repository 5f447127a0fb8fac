import Mathlib.Algebra.BigOperators.Fin
import Mathlib.Data.Int.ModEq
import Mathlib.Data.Nat.Digits.Lemmas
import Mathlib.Tactic.Ring
import TypedTraffic.Fingerprint

/-!
# What a fingerprint says

The rolling hash of a text drops all but 32 bits after every character.
That makes no difference to the remainder: the hash is that of the sum in
which the code of each character counts as often as a power of 31 says
(`rollingHash_modEq`), and read as a signed number it is the only one of
32 bits with this remainder (`Hashes.eq`).

In base 36 each number has one numeral (`isNumeral_iff`), which is read
back as the number. So a fingerprint is the numeral of the hash, and
two fingerprints are equal exactly if the hashes are
(`isToken_fingerprint`).
-/

namespace TypedTraffic.Fingerprint

open Text

/-! ## Numerals in base 36 -/

/-- The value of a digit: `0` to `9`, then `a` to `z`. -/
def digitValue? (c : Char) : Option Nat :=
  if '0' ≤ c ∧ c ≤ '9' then some (c.toNat - 48)
  else if 'a' ≤ c ∧ c ≤ 'z' then some (c.toNat - 87)
  else none

/-- The number of some digits, the last digit first. -/
def numberRev? (digits : List Char) : Option Nat :=
  (digits.mapM digitValue?).map (Nat.ofDigits 36)

/-- **The number of a numeral in base 36**: digits, with a dash in front
or without. -/
def number? : List Char → Option Int
  | [] => none
  | c :: cs =>
    if c = '-' then
      if cs = [] then none else (numberRev? cs.reverse).map fun n : Nat => -(n : Int)
    else (numberRev? (c :: cs).reverse).map fun n : Nat => (n : Int)

/-- **A canonical numeral**: the one digit zero, or digits of which the
first is not zero, with a dash in front or without. -/
inductive IsCanonical : List Char → Prop where
  /-- Zero. -/
  | zero : IsCanonical ['0']
  /-- Digits. -/
  | unsigned {c : Char} {cs : List Char} : c ≠ '0' → c ≠ '-' → IsCanonical (c :: cs)
  /-- Digits behind a dash. -/
  | negative {c : Char} {cs : List Char} : c ≠ '0' → IsCanonical ('-' :: c :: cs)

/-- **The numeral of a number** in base 36. -/
structure IsNumeral (s : String) (v : Int) : Prop where
  /-- It is canonical. -/
  canonical : IsCanonical s.toList
  /-- It is read as the number. -/
  value : number? s.toList = some v

theorem digitValue?_digitChar : ∀ n < 36, digitValue? (digitChar n) = some n := by decide

theorem digitChar_ne_zero : ∀ n < 36, n ≠ 0 → digitChar n ≠ '0' := by decide

theorem digitChar_ne_dash : ∀ n < 36, digitChar n ≠ '-' := by decide

/-- Digits are told by their values. -/
theorem digitChar_of_digitValue? {c : Char} {n : Nat} (h : digitValue? c = some n) :
    n < 36 ∧ digitChar n = c := by
  rw [digitValue?] at h
  split at h
  · rename_i hdigit
    have hlow : 48 ≤ c.toNat := hdigit.1
    have hhigh : c.toNat ≤ 57 := hdigit.2
    cases h
    refine ⟨by omega, ?_⟩
    rw [digitChar, if_pos (by omega), show 48 + (c.toNat - 48) = c.toNat by omega, Char.ofNat_toNat]
  · split at h
    · rename_i hletter
      have hlow : 97 ≤ c.toNat := hletter.1
      have hhigh : c.toNat ≤ 122 := hletter.2
      cases h
      refine ⟨by omega, ?_⟩
      rw [digitChar, if_neg (by omega), show 87 + (c.toNat - 87) = c.toNat by omega,
        Char.ofNat_toNat]
    · cases h

/-- **Digits are read** exactly as the digits they are the characters of. -/
theorem mapM_digitValue?_iff {cs : List Char} {ds : List Nat} :
    cs.mapM digitValue? = some ds ↔ cs = ds.map digitChar ∧ ∀ d ∈ ds, d < 36 := by
  induction cs generalizing ds with
  | nil => cases ds <;> simp
  | cons c cs ih =>
    rw [List.mapM_cons, Option.bind_eq_bind, Option.bind_eq_some_iff]
    constructor
    · rintro ⟨d, hd, hrest⟩
      obtain ⟨ds', hds', heq⟩ := Option.bind_eq_some_iff.mp hrest
      cases heq
      obtain ⟨hlt, rfl⟩ := digitChar_of_digitValue? hd
      obtain ⟨rfl, hall⟩ := ih.mp hds'
      exact ⟨rfl, List.forall_mem_cons.mpr ⟨hlt, hall⟩⟩
    · rintro ⟨heq, hall⟩
      obtain ⟨d, ds', rfl, rfl, rfl⟩ := List.map_eq_cons_iff.mp heq.symm
      obtain ⟨hlt, hall⟩ := List.forall_mem_cons.mp hall
      exact ⟨d, digitValue?_digitChar d hlt, by rw [ih.mpr ⟨rfl, hall⟩]; rfl⟩

theorem numberRev?_eq_some_iff {cs : List Char} {n : Nat} :
    numberRev? cs = some n
      ↔ ∃ ds, cs = ds.map digitChar ∧ (∀ d ∈ ds, d < 36) ∧ Nat.ofDigits 36 ds = n := by
  rw [numberRev?, Option.map_eq_some_iff]
  exact exists_congr fun ds => by rw [mapM_digitValue?_iff, and_assoc]

/-- The digits written are those of the number. -/
theorem digitsRev_eq (n : Nat) : digitsRev n = (Nat.digits 36 n).map digitChar := by
  fun_induction digitsRev n with
  | case1 => rfl
  | case2 n hn ih => rw [Nat.digits_eq_cons_digits_div (by omega) hn, List.map_cons, ih]

theorem numberRev?_digitsRev (n : Nat) : numberRev? (digitsRev n) = some n :=
  numberRev?_eq_some_iff.mpr ⟨Nat.digits 36 n, digitsRev_eq n,
    fun _ hd => Nat.digits_lt_base (by omega) hd, Nat.ofDigits_digits 36 n⟩

/-- **Digits that do not begin with zero** are those of the number they
stand for. -/
theorem digitsRev_of_numberRev? {cs : List Char} {n : Nat} (h : numberRev? cs = some n)
    (hlast : cs.getLast? ≠ some '0') : digitsRev n = cs := by
  obtain ⟨ds, rfl, hall, rfl⟩ := numberRev?_eq_some_iff.mp h
  rw [digitsRev_eq, Nat.digits_ofDigits 36 (by omega) ds hall]
  intro hne hzero
  refine hlast ?_
  rw [List.getLast?_map, List.getLast?_eq_some_getLast hne, hzero]
  rfl

/-- The digits of a number begin with one that is not zero. -/
theorem exists_reverse_digitsRev {n : Nat} (hn : n ≠ 0) :
    ∃ c cs, (digitsRev n).reverse = c :: cs ∧ c ≠ '0' ∧ c ≠ '-' := by
  have hne : Nat.digits 36 n ≠ [] := Nat.digits_ne_nil_iff_ne_zero.mpr hn
  have hlt := Nat.digits_lt_base (b := 36) (by omega) (List.getLast_mem hne)
  have hreverse : (digitsRev n).reverse = digitChar ((Nat.digits 36 n).getLast hne)
      :: ((Nat.digits 36 n).dropLast.map digitChar).reverse := by
    rw [digitsRev_eq]
    conv_lhs => rw [← List.dropLast_append_getLast hne]
    rw [List.map_append, List.reverse_append]
    rfl
  exact ⟨_, _, hreverse, digitChar_ne_zero _ hlt (Nat.getLast_digit_ne_zero 36 hn),
    digitChar_ne_dash _ hlt⟩

theorem toList_base36 {n : Nat} (hn : n ≠ 0) : (base36 n).toList = (digitsRev n).reverse := by
  simp only [base36]
  rw [if_neg (by omega), if_neg (by omega), String.toList_ofList, Int.natAbs_natCast]

theorem toList_base36_neg {n : Nat} (hn : n ≠ 0) :
    (base36 (-n)).toList = '-' :: (digitsRev n).reverse := by
  simp only [base36]
  rw [if_neg (by omega), if_pos (by omega), String.toList_ofList, Int.natAbs_neg,
    Int.natAbs_natCast]

theorem number?_unsigned {c : Char} {cs : List Char} (hc : c ≠ '-') :
    number? (c :: cs) = (numberRev? (c :: cs).reverse).map fun n : Nat => (n : Int) := by
  rw [number?, if_neg hc]

theorem number?_negative (c : Char) (cs : List Char) :
    number? ('-' :: c :: cs) = (numberRev? (c :: cs).reverse).map fun n : Nat => -(n : Int) := by
  rw [number?, if_pos rfl, if_neg (List.cons_ne_nil c cs)]

/-- **What is written in base 36 is a numeral of the number.** -/
theorem isNumeral_base36 (v : Int) : IsNumeral (base36 v) v := by
  obtain rfl | hv := eq_or_ne v 0
  · exact ⟨.zero, by decide⟩
  · obtain ⟨n, hcases⟩ := v.eq_nat_or_neg
    have hn : n ≠ 0 := by omega
    obtain ⟨c, cs, hreverse, hzero, hdash⟩ := exists_reverse_digitsRev hn
    have hnumber : numberRev? (c :: cs).reverse = some n := by
      rw [← hreverse, List.reverse_reverse, numberRev?_digitsRev]
    rcases hcases with rfl | rfl
    · have htext := (toList_base36 hn).trans hreverse
      refine ⟨htext ▸ .unsigned hzero hdash, ?_⟩
      rw [htext, number?_unsigned hdash, hnumber]
      rfl
    · have htext : (base36 (-n)).toList = '-' :: c :: cs := by rw [toList_base36_neg hn, hreverse]
      refine ⟨htext ▸ .negative hzero, ?_⟩
      rw [htext, number?_negative, hnumber]
      rfl

/-- The digits of a canonical numeral are those that are written. -/
theorem reverse_digitsRev_of_numberRev? {c : Char} {cs : List Char} {n : Nat}
    (h : numberRev? (c :: cs).reverse = some n) (hzero : c ≠ '0') :
    n ≠ 0 ∧ (digitsRev n).reverse = c :: cs := by
  have hdigits : digitsRev n = (c :: cs).reverse := by
    refine digitsRev_of_numberRev? h fun hlast => hzero ?_
    rw [List.getLast?_reverse] at hlast
    exact Option.some.inj hlast
  have hreverse : (digitsRev n).reverse = c :: cs := by rw [hdigits, List.reverse_reverse]
  refine ⟨?_, hreverse⟩
  rintro rfl
  rw [digitsRev] at hreverse
  cases hreverse

/-- **Each number has one numeral**, the one that is written. -/
theorem isNumeral_iff {s : String} {v : Int} : IsNumeral s v ↔ s = base36 v := by
  refine ⟨fun ⟨hcanonical, hvalue⟩ => ?_, fun h => h ▸ isNumeral_base36 v⟩
  refine String.toList_inj.mp ?_
  generalize s.toList = text at hcanonical hvalue
  cases hcanonical with
  | zero =>
    have hzero : v = 0 := Option.some.inj (hvalue.symm.trans (by decide))
    rw [hzero]
    rfl
  | unsigned hzero hdash =>
    rw [number?_unsigned hdash] at hvalue
    obtain ⟨n, hn, rfl⟩ := Option.map_eq_some_iff.mp hvalue
    obtain ⟨hne, hreverse⟩ := reverse_digitsRev_of_numberRev? hn hzero
    rw [toList_base36 hne, hreverse]
  | negative hzero =>
    rw [number?_negative] at hvalue
    obtain ⟨n, hn, rfl⟩ := Option.map_eq_some_iff.mp hvalue
    obtain ⟨hne, hreverse⟩ := reverse_digitsRev_of_numberRev? hn hzero
    rw [toList_base36_neg hne, hreverse]

theorem base36_injective : Function.Injective base36 := fun v w h =>
  Option.some.inj ((isNumeral_base36 v).value.symm.trans (h ▸ (isNumeral_base36 w).value))

/-! ## The rolling hash -/

/-- **The sum a hash stands for**: the code of a character counts as often
as a power of 31 says, the last one once. -/
def weightedSum (cs : List Char) : Nat :=
  ∑ i : Fin cs.length, cs[i].toNat * 31 ^ (cs.length - 1 - i)

theorem weightedSum_cons (c : Char) (cs : List Char) :
    weightedSum (c :: cs) = c.toNat * 31 ^ cs.length + weightedSum cs := by
  rw [weightedSum]
  simp only [List.length_cons]
  rw [Fin.sum_univ_succ]
  refine congrArg₂ (· + ·) rfl (Finset.sum_congr rfl fun i _ => ?_)
  have hexponent : cs.length + 1 - 1 - (i.succ : Nat) = cs.length - 1 - i := by
    rw [Fin.val_succ]
    omega
  rw [hexponent]
  rfl

/-- Hashing on from a number: the bits that are dropped on the way do not
show in the remainder. -/
theorem foldl_hashStep_modEq (h : Nat) (cs : List Char) :
    cs.foldl hashStep h ≡ h * 31 ^ cs.length + weightedSum cs [MOD 2 ^ 32] := by
  induction cs generalizing h with
  | nil => simp [weightedSum, Nat.ModEq.refl]
  | cons c cs ih =>
    have hstep : hashStep h c ≡ h * 31 + c.toNat [MOD 2 ^ 32] := Nat.mod_modEq _ _
    calc (c :: cs).foldl hashStep h
        ≡ hashStep h c * 31 ^ cs.length + weightedSum cs [MOD 2 ^ 32] := ih _
      _ ≡ (h * 31 + c.toNat) * 31 ^ cs.length + weightedSum cs [MOD 2 ^ 32] :=
        (hstep.mul_right _).add_right _
      _ = h * 31 ^ (c :: cs).length + weightedSum (c :: cs) := by
        rw [weightedSum_cons, List.length_cons]
        ring

theorem rollingHash_modEq (cs : List Char) : rollingHash cs ≡ weightedSum cs [MOD 2 ^ 32] := by
  have h := foldl_hashStep_modEq 0 cs
  rwa [Nat.zero_mul, Nat.zero_add] at h

theorem rollingHash_lt (cs : List Char) : rollingHash cs < 2 ^ 32 := by
  induction cs using List.reverseRecOn with
  | nil => decide
  | append_singleton cs c _ =>
    rw [rollingHash, List.foldl_concat]
    exact Nat.mod_lt _ (by decide)

/-- **The signed hash of a text**: a number of 32 bits that leaves the
same remainder as the sum. -/
structure Hashes (v : Int) (cs : List Char) : Prop where
  /-- It is not below the least number of 32 bits. -/
  lower : -2 ^ 31 ≤ v
  /-- It is not above the greatest. -/
  upper : v < 2 ^ 31
  /-- It leaves the remainder of the sum. -/
  congruent : v ≡ weightedSum cs [ZMOD 2 ^ 32]

/-- **A text has one signed hash.** -/
theorem Hashes.eq {v w : Int} {cs : List Char} (hv : Hashes v cs) (hw : Hashes w cs) : v = w := by
  have hcongruent := hv.congruent.trans hw.congruent.symm
  have hlower := hv.lower
  have hupper := hv.upper
  have hlower' := hw.lower
  have hupper' := hw.upper
  rw [Int.ModEq] at hcongruent
  omega

/-- **The hash that is computed** is the signed hash. -/
theorem hashes_rollingHash (cs : List Char) : Hashes (signed32 (rollingHash cs)) cs := by
  have hlt := rollingHash_lt cs
  have hcongruent : (rollingHash cs : Int) ≡ weightedSum cs [ZMOD 2 ^ 32] := by
    exact_mod_cast Int.natCast_modEq_iff.mpr (rollingHash_modEq cs)
  have hhalf : Nat.pow 2 31 = 2147483648 := rfl
  have hwhole : Nat.pow 2 32 = 4294967296 := rfl
  refine ⟨?_, ?_, Int.ModEq.trans ?_ hcongruent⟩
  · rw [signed32]
    split <;> omega
  · rw [signed32]
    split <;> omega
  · rw [signed32, Int.ModEq]
    split <;> omega

end TypedTraffic.Fingerprint

namespace TypedTraffic

open Fingerprint Canonical

/-- **A fingerprint is the numeral of a hash**: the canonical text has one
signed hash, and the fingerprint is its one numeral. -/
def IsToken (token text : String) : Prop :=
  ∃ v : Int, (∀ w, Hashes w (canonical text).toList ↔ w = v) ∧ ∀ s, IsNumeral s v ↔ s = token

/-- **Fingerprints are exact**: they are the numerals of hashes, numerals
are read back, and two fingerprints are equal exactly if one number is the
hash of both texts. -/
theorem isToken_fingerprint :
    (∀ text, IsToken (fingerprint text) text)
      ∧ (∀ v : Int, IsNumeral (base36 v) v)
      ∧ ∀ text text', fingerprint text = fingerprint text'
        ↔ ∃ v, Hashes v (canonical text).toList ∧ Hashes v (canonical text').toList := by
  have hhashes : ∀ text, Hashes (signed32 (rollingHash (canonical text).toList))
      (canonical text).toList := fun text => hashes_rollingHash _
  refine ⟨fun text => ⟨_, fun w => ?_, fun s => isNumeral_iff⟩, isNumeral_base36,
    fun text text' => ?_⟩
  · constructor
    · exact fun hw => hw.eq (hhashes text)
    · rintro rfl
      exact hhashes text
  · constructor
    · intro h
      have hsame := base36_injective h
      refine ⟨_, hhashes text, ?_⟩
      rw [hsame]
      exact hhashes text'
    · rintro ⟨v, hv, hv'⟩
      rw [fingerprint, fingerprint, (hhashes text).eq hv, (hhashes text').eq hv']

/-- The hash of this text is negative as a signed number. -/
example : fingerprint "type T = any;" = "-dm4qrs" := by decide +kernel

end TypedTraffic
