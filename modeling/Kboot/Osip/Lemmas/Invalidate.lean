import Kboot.Osip.Lemmas.OsipUtils

/-!
# `invalidate_handle` の仕様

`invalidate_handle` は値ごとに、`attribute` がその値に等しい最初の記述子を無効の形にする。ここでは、
どの記述子を無効にするかを値の集合だけで決める仕様 `invalidSpec` を置き、二重の繰り返し
`invalidateLoop` がそれに一致することを示す。鍵は、無効にした記述子も `attribute` を保つので、
あとの値の探索が同じ位置で止まること。
-/

namespace Kboot.Osip.OsipUtils

/-- 無効の形: `logical_start_block`、`size_of_os_image` と `attribute` のほかは 0。 -/
def clearedOSII (o : OSII) : OSII :=
  { zeroOSII with
    logicalStartBlock := o.logicalStartBlock
    sizeOfOsImage := o.sizeOfOsImage
    attrib := o.attrib }

/-- 記述子 `j` は、`attribute` を `int` にした値が `v` に等しい最初の記述子。 -/
def FirstMatch (osip : OSIPHeader) (v : Int) (j : Fin 7) : Prop :=
  ((osip.desc.get j).attrib.toNat : Int) = v ∧ ∀ i < j, ((osip.desc.get i).attrib.toNat : Int) ≠ v

instance (osip : OSIPHeader) (v : Int) (j : Fin 7) : Decidable (FirstMatch osip v j) :=
  inferInstanceAs (Decidable (_ ∧ _))

/-- 値の列 `vals` で無効にした見出しの仕様: どれかの値の最初の一致である記述子だけが無効の形になる。 -/
def invalidSpec (osip : OSIPHeader) (vals : List Int) : OSIPHeader :=
  { osip with
    desc := Vector.ofFn fun j =>
      if ∃ v ∈ vals, FirstMatch osip v j then clearedOSII (osip.desc.get j) else osip.desc.get j }

@[simp] theorem attrib_clearedOSII (o : OSII) : (clearedOSII o).attrib = o.attrib := rfl

@[simp] theorem clearedOSII_clearedOSII (o : OSII) : clearedOSII (clearedOSII o) = clearedOSII o := rfl

/-! ## 最初の一致 -/

/-- `findAttrib` は、`attribute` を `int` にして `v` に等しい最も小さい番号を返す。 -/
theorem findAttrib_eq_some_iff {osip : OSIPHeader} {v : Int} {j : Fin 7} :
    findAttrib osip v = some j ↔ FirstMatch osip v j := by
  rw [findAttrib, ← List.ofFn_id]
  refine (List.find?_ofFn_eq_some_of_injective (i := j) Function.injective_id).trans ?_
  simp [FirstMatch, eq_comm (a := v)]

theorem findAttrib_eq_none_iff {osip : OSIPHeader} {v : Int} :
    findAttrib osip v = none ↔ ∀ j : Fin 7, ((osip.desc.get j).attrib.toNat : Int) ≠ v := by
  simp [findAttrib, eq_comm (a := v)]

theorem findAttrib_isSome_iff {osip : OSIPHeader} {v : Int} :
    (findAttrib osip v).isSome ↔ ∃ j : Fin 7, ((osip.desc.get j).attrib.toNat : Int) = v := by
  rw [Option.isSome_iff_ne_none, Ne, findAttrib_eq_none_iff]
  simp only [ne_eq, not_forall, not_not]

theorem findAttrib_setDesc_of_attrib {osip : OSIPHeader} {j : Fin 7} {o : OSII} (h : o.attrib = (osip.desc.get j).attrib)
    (v : Int) : findAttrib (osip.setDesc j o) v = findAttrib osip v := by
  have hp : (fun i : Fin 7 => v == (((osip.setDesc j o).desc.get i).attrib.toNat : Int)) =
      fun i => v == ((osip.desc.get i).attrib.toNat : Int) := by
    funext i
    by_cases hij : i = j
    · subst hij
      simp [h]
    · simp [Fin.val_ne_of_ne (Ne.symm hij)]
  simp only [findAttrib, hp]

/-- 一致した値は `uint8` に戻すと `attribute` そのものなので、`OSII.invalidated` は無効の形になる。 -/
theorem invalidated_of_findAttrib {osip : OSIPHeader} {v : Int} {j : Fin 7} (h : findAttrib osip v = some j) :
    OSII.invalidated (osip.desc.get j) v = clearedOSII (osip.desc.get j) := by
  obtain ⟨hv, -⟩ := findAttrib_eq_some_iff.mp h
  have hattr : UInt8.ofInt v = (osip.desc.get j).attrib := by
    rw [← hv, UInt8.ofInt, Int.emod_eq_of_lt (by omega) (by have := (osip.desc.get j).attrib.toNat_lt; omega)]
    simp
  simp only [OSII.invalidated, clearedOSII, hattr]

/-! ## 仕様との一致 -/

@[simp] theorem invalidSpec_nil (osip : OSIPHeader) : invalidSpec osip [] = osip := by
  simp [invalidSpec]

theorem firstMatch_setDesc_of_attrib {osip : OSIPHeader} {j : Fin 7} {o : OSII} (h : o.attrib = (osip.desc.get j).attrib)
    (v : Int) (i : Fin 7) : FirstMatch (osip.setDesc j o) v i ↔ FirstMatch osip v i := by
  rw [← findAttrib_eq_some_iff, ← findAttrib_eq_some_iff, findAttrib_setDesc_of_attrib h]

/-- 一つ目の値の最初の一致を無効にしてから残りの値の仕様を取ると、全体の仕様になる。 -/
theorem invalidSpec_cons {osip : OSIPHeader} {v : Int} {j : Fin 7} (h : findAttrib osip v = some j)
    (vs : List Int) : invalidSpec (osip.setDesc j (clearedOSII (osip.desc.get j))) vs = invalidSpec osip (v :: vs) := by
  -- 一つ目の値の最初の一致は `j` だけ
  have hv : ∀ i, FirstMatch osip v i ↔ i = j := fun i => by
    rw [← findAttrib_eq_some_iff, h, Option.some.injEq, eq_comm]
  simp only [invalidSpec, firstMatch_setDesc_of_attrib (attrib_clearedOSII (osip.desc.get j))]
  congr 1
  ext i hi
  simp only [Vector.getElem_ofFn, OSIPHeader.desc_setDesc]
  -- 無効の形は冪等なので、`j` が残りの値にも一致するかどうかは結果を変えない
  by_cases hij : (j : Nat) = i
  · have hj : (⟨i, hi⟩ : Fin 7) = j := Fin.ext hij.symm
    simp [hij, hj, hv]
  · have hj : (⟨i, hi⟩ : Fin 7) ≠ j := fun he => hij (congrArg Fin.val he).symm
    simp [hij, hj, hv]

/-- 二重の繰り返しは、どの値も一致するときに限って仕様の見出しを返す。 -/
theorem invalidateLoop_eq (osip : OSIPHeader) (vals : List Int) :
    invalidateLoop osip vals =
      if vals.all (fun v => (findAttrib osip v).isSome) then some (invalidSpec osip vals) else none := by
  induction vals generalizing osip with
  | nil => simp [invalidateLoop]
  | cons v vs ih =>
    cases hv : findAttrib osip v with
    | none => simp [invalidateLoop, hv]
    | some j =>
      have hfind := findAttrib_setDesc_of_attrib (attrib_clearedOSII (osip.desc.get j))
      simp only [invalidateLoop, hv, invalidated_of_findAttrib hv, ih, hfind, invalidSpec_cons hv,
        List.all_cons, Option.isSome_some, Bool.true_and]

theorem invalidSpec_congr (osip : OSIPHeader) {vals vals' : List Int} (h : ∀ v, v ∈ vals' ↔ v ∈ vals) :
    invalidSpec osip vals' = invalidSpec osip vals := by
  simp only [invalidSpec, h]

theorem invalidateLoop_congr (osip : OSIPHeader) {vals vals' : List Int} (h : ∀ v, v ∈ vals' ↔ v ∈ vals) :
    invalidateLoop osip vals' = invalidateLoop osip vals := by
  simp only [invalidateLoop_eq, List.all_eq, h, invalidSpec_congr osip h]

/-- 値の列を並べ替えても重ねても、`invalidate_handle` は同じプログラムのまま。 -/
theorem invalidateHandle_congr {vals vals' : List Int} (h : ∀ v, v ∈ vals' ↔ v ∈ vals) :
    invalidateHandle vals' = invalidateHandle vals := by
  simp only [invalidateHandle, invalidateLoop_congr _ h]

end Kboot.Osip.OsipUtils
