import Kboot.Osip.Lemmas.Invalidate
import Kboot.Osip.Lemmas.Fields
import Kboot.Osip.Theorems.Placement

/-!
# コマンド行からの記述子の書き換え

`--invalidate` の値による無効化、`--update n` と欄の指定による書き換え、そして `main` がコマンド行から
作る番号の範囲。

`invalidate_handle` は一致しない値が一つでもあれば何も書かずに -1 を返し、そうでなければ仕様
`invalidSpec` の見出しを封をして書く。結果は値の集合だけで決まる。`update_handle` は記述子 `n` だけを
仕様 `fieldSpec` のものに置き換える。どちらの番号も範囲を確かめられない。
-/

namespace Kboot.Osip.UpdateOsip

open OsipUtils ManageDevice

variable {s : Sys}

/-- `invalidate_handle` は、`attribute` に一致する記述子のない値が一つでもあれば何も書かずに -1 を返し、
どの値にも一致する記述子があれば、値ごとの最初の一致を無効の形にした見出し `invalidSpec` を書く。
結果は値の集合だけで決まる。 -/
theorem invalidate_exact (hf : s.faults = []) (vals : List Int) :
    ((∃ v ∈ vals, ∀ j : Fin 7, (((hdrAt s.dev 0).desc.get j).attrib.toNat : Int) ≠ v) →
      (invalidateHandle vals).run s = .ok (-1) s) ∧
    ((∀ v ∈ vals, ∃ j : Fin 7, (((hdrAt s.dev 0).desc.get j).attrib.toNat : Int) = v) →
      ∃ l, (invalidateHandle vals).run s =
        .ok 0 { s with
          dev := Store.write s.dev 0 ((invalidSpec (hdrAt s.dev 0) vals).sealed s.junk).toBytes
          oob := s.oob ++ l }) ∧
    ∀ vals' : List Int, (∀ v, v ∈ vals' ↔ v ∈ vals) → (invalidateHandle vals').run s = (invalidateHandle vals).run s := by
  have hloop := invalidateLoop_eq (hdrAt s.dev 0) vals
  refine ⟨?_, ?_, ?_⟩
  · rintro ⟨v, hv, hnone⟩
    apply invalidateHandle_run_of_none hf
    have hall : ¬vals.all (fun v => (findAttrib (hdrAt s.dev 0) v).isSome) = true := by
      simp only [List.all_eq_true, not_forall]
      exact ⟨v, hv, by simp [findAttrib_eq_none_iff.mpr hnone]⟩
    rw [hloop, if_neg hall]
  · intro hall
    apply invalidateHandle_run_of_some hf
    rw [hloop, if_pos (List.all_eq_true.mpr fun v hv => findAttrib_isSome_iff.mpr (hall v hv))]
  · intro vals' h
    rw [invalidateHandle_congr h]

theorem invalidate_exact_sample :
    let s := imageSys (lsbHeader 8)
    ((∃ v ∈ [1], ∀ j : Fin 7, (((hdrAt s.dev 0).desc.get j).attrib.toNat : Int) ≠ v) →
      (invalidateHandle [1]).run s = .ok (-1) s) ∧
    ((∀ v ∈ [1], ∃ j : Fin 7, (((hdrAt s.dev 0).desc.get j).attrib.toNat : Int) = v) →
      ∃ l, (invalidateHandle [1]).run s =
        .ok 0 { s with
          dev := Store.write s.dev 0 ((invalidSpec (hdrAt s.dev 0) [1]).sealed s.junk).toBytes
          oob := s.oob ++ l }) ∧
    ∀ vals' : List Int, (∀ v, v ∈ vals' ↔ v ∈ [1]) → (invalidateHandle vals').run s = (invalidateHandle [1]).run s :=
  invalidate_exact rfl [1]

/-! ## 欄の指定 -/

theorem update_fields_merge (hf : s.faults = []) (A B : List (Field × String)) {a : String} (n : Fin 7)
    (ha : atoi a = n) :
    ∃ l, run (A.map (fun p => p.1.toOpt p.2) ++ .update a :: B.map (fun p => p.1.toOpt p.2)) s =
      (.exit 0, { s with
        dev := Store.write s.dev 0
          (((hdrAt s.dev 0).setDesc n (fieldSpec (A ++ B) (hdrAt s.dev 0).desc[n])).sealed s.junk).toBytes
        oob := s.oob ++ l }) := by
  set V : Vars :=
    { Vars.init with
      updateNum := atoi a, updateFlag := true
      osii := (A ++ B).foldl (fun o p => p.1.apply p.2 o) Vars.init.osii } with hV
  -- 欄の指定は `osii` だけを、`--update` は番号と旗だけを変える
  have hopts : (A.map (fun p => p.1.toOpt p.2) ++ .update a :: B.map (fun p => p.1.toOpt p.2)).foldlM option
      Vars.init = pure V := by
    rw [List.foldlM_append, foldlM_fields, pure_bind, List.foldlM_cons]
    simp only [option, pure_bind, foldlM_fields, List.foldl_append, hV]
  have hup := updateHandle_run_nil hf V.osii n
  rw [hV, mergeOsii_fields, ← ha] at hup
  rw [run_eq_updateCase (by simp) hopts rfl rfl rfl rfl, updateCase_run_of_none (v := V) rfl rfl hup]
  exact ⟨_, by simp only [List.append_assoc]; rfl⟩

theorem update_fields_merge_sample :
    ∃ l, run ([(Field.lba, "16")].map (fun p => p.1.toOpt p.2) ++ .update "0" ::
        [(Field.attrib, "255"), (Field.attrib, "2")].map (fun p => p.1.toOpt p.2)) (imageSys (lsbHeader 8)) =
      (.exit 0, { imageSys (lsbHeader 8) with
        dev := Store.write (imageSys (lsbHeader 8)).dev 0
          (((hdrAt (imageSys (lsbHeader 8)).dev 0).setDesc 0
            (fieldSpec ([(Field.lba, "16")] ++ [(Field.attrib, "255"), (Field.attrib, "2")])
              ((hdrAt (imageSys (lsbHeader 8)).dev 0).desc.get 0))).sealed (imageSys (lsbHeader 8)).junk).toBytes
        oob := (imageSys (lsbHeader 8)).oob ++ l }) :=
  update_fields_merge rfl [(Field.lba, "16")] [(Field.attrib, "255"), (Field.attrib, "2")] 0 (by decide)

/-! ## コマンド行から作る番号 -/

/-- `--update` の `atoi` の値が 0 から 6 の外なら、`update_handle` は見出しの外の記述子を読み、
`osip->desc[update_number]` へ書こうとする。`--invalidate` が 11 個あれば、`main` は 10 個の
`inval_values` の外へ書こうとする。 -/
theorem command_line_index_escapes (hf : s.faults = []) :
    (∀ a : String, ¬(0 ≤ atoi a ∧ atoi a < 7) →
      ∃ s', run [.update a] s = (.ub .descIndex, s') ∧ Oob.header (32 + 24 * atoi a) ∈ s'.oob) ∧
    ∀ A : List String, 10 < A.length → run (A.map .invalidate) s = (.ub .invalValues, s) := by
  refine ⟨fun a ha => ?_, fun A hA => ?_⟩
  · have hup := updateHandle_run_of_not_lt hf Vars.init.osii ha
    have hrun : run [.update a] s = (.ub .descIndex, { s with oob := s.oob ++ [.header (32 + 24 * atoi a)] }) := by
      have hnone : Vars.init.fwBinFile = none := rfl
      rw [run_eq_updateCase (List.cons_ne_nil _ _) (foldlM_update a) rfl rfl rfl rfl]
      simp [updateCase, hnone, hup]
    exact ⟨_, hrun, by simp⟩
  · simp only [run, main, foldlM_invalidate_overflow hA]
    rfl

theorem command_line_index_escapes_seven :
    (∃ s', run [.update "7"] (imageSys (lsbHeader 8)) = (.ub .descIndex, s') ∧
      Oob.header (32 + 24 * atoi "7") ∈ s'.oob) ∧
    run ((List.replicate 11 "1").map .invalidate) (imageSys (lsbHeader 8)) =
      (.ub .invalValues, imageSys (lsbHeader 8)) := by
  have h := command_line_index_escapes (s := imageSys (lsbHeader 8)) rfl
  exact ⟨h.1 "7" (by decide), h.2 _ (by simp)⟩

end Kboot.Osip.UpdateOsip
