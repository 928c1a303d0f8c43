import HiveDdl.Schema.Table

/-!
# Sorting texts by code point

Column lines and view lines are sorted by the code points their characters stand for
(`Text.codeLE`). That order is total, transitive and antisymmetric: a lone surrogate is held by
a stand-in character, but no character of a text is a surrogate itself, so two texts with the
same code points are the same text. Sorting therefore forgets the order it was given: lists that
are permutations of each other sort to the same list.

* `codeLE_total`, `codeLE_trans`, `codeLE_antisymm`: the order laws.
* `sortTexts_perm`, `sortTexts_pairwise`: the sorted list is a sorted permutation.
* `sortTexts_eq_of_perm`: permuted lists sort alike; `sortTexts_eq_iff` says which list is the
  sorted one.
-/

namespace HiveDdl.Text

theorem toNat_valid (c : Char) : c.toNat < 0xD800 ∨ (0xDFFF < c.toNat ∧ c.toNat < 0x110000) := by
  have h := c.valid
  simp only [UInt32.isValidChar, Nat.isValidChar] at h
  rw [show c.toNat = c.val.toNat from rfl]
  exact h

theorem codePoint_cases (c : Char) :
    (0xFD800 ≤ c.toNat ∧ c.toNat ≤ 0xFDFFF ∧ codePoint c + 0xF0000 = c.toNat) ∨
    (¬ (0xFD800 ≤ c.toNat ∧ c.toNat ≤ 0xFDFFF) ∧ codePoint c = c.toNat) := by
  unfold codePoint surrogateOf?
  by_cases h : 0xFD800 ≤ c.toNat ∧ c.toNat ≤ 0xFDFFF
  · rw [if_pos h, Option.getD_some, standInOffset]
    exact .inl ⟨h.1, h.2, by omega⟩
  · rw [if_neg h, Option.getD_none]
    exact .inr ⟨h, rfl⟩

theorem codePoint_injective {c d : Char} (h : codePoint c = codePoint d) : c = d := by
  have hc := toNat_valid c
  have hd := toNat_valid d
  rw [← Char.toNat_inj]
  rcases codePoint_cases c with ⟨c₁, c₂, c₃⟩ | ⟨c₁, c₃⟩ <;>
    rcases codePoint_cases d with ⟨d₁, d₂, d₃⟩ | ⟨d₁, d₃⟩ <;> omega

theorem codesLE_total : ∀ (as bs : List Nat), codesLE as bs || codesLE bs as
  | [], _ => by simp [codesLE]
  | _ :: _, [] => by simp [codesLE]
  | a :: as, b :: bs => by
    have ih := codesLE_total as bs
    simp only [codesLE, Bool.or_eq_true, Bool.and_eq_true, beq_iff_eq, decide_eq_true_eq] at ih ⊢
    rcases Nat.lt_trichotomy a b with hab | rfl | hab
    · exact .inl (.inl hab)
    · rcases ih with ih | ih
      · exact .inl (.inr ⟨rfl, ih⟩)
      · exact .inr (.inr ⟨rfl, ih⟩)
    · exact .inr (.inl hab)

theorem codesLE_trans :
    ∀ (as bs cs : List Nat), codesLE as bs → codesLE bs cs → codesLE as cs
  | [], _, _, _, _ => by simp [codesLE]
  | _ :: _, [], _, h, _ => by simp [codesLE] at h
  | _ :: _, _ :: _, [], _, h => by simp [codesLE] at h
  | a :: as, b :: bs, c :: cs, hab, hbc => by
    simp only [codesLE, Bool.or_eq_true, Bool.and_eq_true, beq_iff_eq, decide_eq_true_eq]
      at hab hbc ⊢
    rcases hab with hab | ⟨rfl, hab⟩ <;> rcases hbc with hbc | ⟨rfl, hbc⟩
    · exact .inl (by omega)
    · exact .inl hab
    · exact .inl hbc
    · exact .inr ⟨rfl, codesLE_trans as bs cs hab hbc⟩

theorem codesLE_antisymm : ∀ (as bs : List Nat), codesLE as bs → codesLE bs as → as = bs
  | [], [], _, _ => rfl
  | [], _ :: _, _, h => by simp [codesLE] at h
  | _ :: _, [], h, _ => by simp [codesLE] at h
  | a :: as, b :: bs, hab, hba => by
    simp only [codesLE, Bool.or_eq_true, Bool.and_eq_true, beq_iff_eq, decide_eq_true_eq]
      at hab hba
    rcases hab with hab | ⟨rfl, hab⟩
    · rcases hba with hba | ⟨hba, -⟩ <;> omega
    · rcases hba with hba | ⟨-, hba⟩
      · omega
      · rw [codesLE_antisymm as bs hab hba]

theorem codeLE_total (a b : String) : codeLE a b || codeLE b a :=
  codesLE_total _ _

theorem codeLE_trans (a b c : String) (hab : codeLE a b) (hbc : codeLE b c) : codeLE a c :=
  codesLE_trans _ _ _ hab hbc

theorem codeLE_antisymm {a b : String} (hab : codeLE a b) (hba : codeLE b a) : a = b := by
  have hcodes := codesLE_antisymm _ _ hab hba
  apply String.toList_injective
  exact (List.map_inj_right fun _ _ h => codePoint_injective h).mp hcodes

end HiveDdl.Text

namespace HiveDdl.Schema

open Text

theorem sortTexts_perm (xs : List String) : (sortTexts xs).Perm xs :=
  List.mergeSort_perm xs codeLE

theorem sortTexts_pairwise (xs : List String) : (sortTexts xs).Pairwise (codeLE · ·) :=
  List.pairwise_mergeSort codeLE_trans codeLE_total xs

/-- Sorting forgets the order it was given. -/
theorem sortTexts_eq_of_perm {xs ys : List String} (h : xs.Perm ys) :
    sortTexts xs = sortTexts ys := by
  exact List.Perm.eq_of_pairwise (fun _ _ _ _ hab hba => codeLE_antisymm hab hba)
    (sortTexts_pairwise xs) (sortTexts_pairwise ys)
    ((sortTexts_perm xs).trans (h.trans (sortTexts_perm ys).symm))

/-- The sorted list of `xs` is the sorted permutation of `xs`. -/
theorem sortTexts_eq_iff {xs ys : List String} :
    sortTexts xs = ys ↔ ys.Perm xs ∧ ys.Pairwise (codeLE · ·) := by
  constructor
  · rintro rfl
    exact ⟨sortTexts_perm xs, sortTexts_pairwise xs⟩
  · rintro ⟨hperm, hsorted⟩
    exact List.Perm.eq_of_pairwise (fun _ _ _ _ hab hba => codeLE_antisymm hab hba)
      (sortTexts_pairwise xs) hsorted ((sortTexts_perm xs).trans hperm.symm)

end HiveDdl.Schema
