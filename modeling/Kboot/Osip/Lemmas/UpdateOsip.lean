import Kboot.Osip.Lemmas.Stitched
import Kboot.Osip.UpdateOsip

/-!
# update_osip.c の補題: 選択肢の読み取りと、一回の実行

選択肢の列を読み終えた `main` の局所変数と、旗ごとの処理の結果。それらをつないで、
`invalidate_osip.sh`、`flash_stitched.sh`、`restore_osip.sh` が呼ぶ一回ごとの `update_osip` の
終わり方と装置の中身を、どの呼び出しも成功する eMMC の上で求める。
-/

namespace Kboot.Osip.UpdateOsip

open OsipUtils ManageDevice

variable {s : Sys}

/-- `memset(&osii, 0xFF, ...)`: 既定の `osii` は全ビットが 1。 -/
theorem init_osii :
    Vars.init.osii =
      { osRevMinor := 0xffff, osRevMajor := 0xffff, logicalStartBlock := 0xffffffff,
        ddrLoadAddress := 0xffffffff, enteryPoint := 0xffffffff, sizeOfOsImage := 0xffffffff, attrib := 0xff,
        reserved := #v[0xff, 0xff, 0xff] } := by
  decide

/-- 欄の選択肢がなければ、`update_handle` は記述子をそのまま書き戻す。 -/
@[simp] theorem mergeOsii_init (d : OSII) : mergeOsii Vars.init.osii d = d := by
  simp [mergeOsii, pick, init_osii]

theorem atoi_toString : ∀ n : Fin 7, atoi (toString (n : Nat)) = n := by
  decide

/-! ## 選択肢の列 -/

theorem option_invalidate_of_lt {v : Vars} (h : v.invalCnt < 10) (a : String) :
    option v (.invalidate a) =
      pure { v with invalValues := v.invalValues.set v.invalCnt (atoi a), invalCnt := v.invalCnt + 1,
                    invalFlag := true } := by
  simp [option, h]

theorem take_set_succ {l : List Int} {i : Nat} (h : i < l.length) (x : Int) :
    (l.set i x).take (i + 1) = l.take i ++ [x] := by
  simp [List.take_add_one, h, List.take_set_of_le]

theorem foldlM_invalidate (A : List String) :
    ∀ v : Vars, v.invalCnt + A.length ≤ 10 → ∃ vals : Vector Int 10,
      (A.map Opt.invalidate).foldlM option v =
        pure { v with invalValues := vals, invalCnt := v.invalCnt + A.length,
                      invalFlag := v.invalFlag || !A.isEmpty } ∧
      vals.toList.take (v.invalCnt + A.length) = v.invalValues.toList.take v.invalCnt ++ A.map atoi := by
  induction A with
  | nil => intro v _; exact ⟨v.invalValues, by simp, by simp⟩
  | cons a A ih =>
    intro v hv
    have hlt : v.invalCnt < 10 := by simp at hv; omega
    obtain ⟨vals, hfold, htake⟩ := ih
      { v with
        invalValues := v.invalValues.set v.invalCnt (atoi a), invalCnt := v.invalCnt + 1, invalFlag := true }
      (by simp at hv ⊢; omega)
    refine ⟨vals, ?_, ?_⟩
    · simp only [List.map_cons, List.foldlM_cons, option_invalidate_of_lt hlt, pure_bind, hfold]
      simp [Nat.add_assoc, Nat.add_comm 1]
    · simp only [List.length_cons, Vector.toList_set] at htake ⊢
      rw [show v.invalCnt + (A.length + 1) = v.invalCnt + 1 + A.length by omega, htake,
        take_set_succ (by simpa using hlt)]
      simp

/-- 十一個目の `--invalidate` は、10 個の `inval_values` の外の `inval_values[10]` に書こうとする。 -/
theorem option_invalidate_of_ge {v : Vars} (h : 10 ≤ v.invalCnt) (a : String) :
    option v (.invalidate a) = throw (.ub .invalValues) := by
  simp [option, Nat.not_lt.mpr h]

theorem foldlM_invalidate_overflow {A : List String} (h : 10 < A.length) :
    (A.map Opt.invalidate).foldlM option Vars.init = throw (.ub .invalValues) := by
  obtain ⟨vals, hfold, -⟩ := foldlM_invalidate (A.take 10) Vars.init (by simp [Vars.init])
  have hcnt : 10 ≤ Vars.init.invalCnt + (A.take 10).length := by simp [Vars.init]; omega
  rw [← List.take_append_drop 10 A, List.map_append, List.foldlM_append, hfold, pure_bind,
    List.drop_eq_getElem_cons h, List.map_cons, List.foldlM_cons, option_invalidate_of_ge hcnt]
  rfl

/-! ## 旗ごとの処理 -/

section Cases

variable {v : Vars}

theorem backupCase_of_false (h : v.backupFlag = false) : backupCase v = pure () := by
  simp [backupCase, h]

theorem restoreCase_of_false (h : v.restoreFlag = false) : restoreCase v = pure () := by
  simp [restoreCase, h]

theorem updateCase_of_false (h : v.updateFlag = false) : updateCase v = pure () := by
  simp [updateCase, h]

theorem invalCase_of_false (h : v.invalFlag = false) : invalCase v = pure () := by
  simp [invalCase, h]

theorem checkCase_of_false (h : v.checkFlag = false) : checkCase v = pure () := by
  simp [checkCase, h]

theorem backupCase_run_nil (hf : s.faults = []) (h : v.backupFlag = true) :
    (backupCase v).run s =
      .ok () { s with
        dev := Store.write s.dev backupLoc (hdrAt s.dev 0).toBytes
        oob := s.oob ++ dumpOob dumpOsip (hdrAt s.dev 0) ++ dumpOob dumpOsip (hdrAt s.dev 0) } := by
  simp (disch := simp [hf]) [backupCase, h, readOSIPLoc_run_nil, backupHandle_run_nil]

theorem invalCase_run_of_some (hf : s.faults = []) (hb : v.backupFlag = true) (h : v.invalFlag = true)
    {q : OSIPHeader} (hq : invalidateLoop (hdrAt s.dev 0) (v.invalValues.toList.take v.invalCnt) = some q) :
    ∃ l, (invalCase v).run s =
      .ok () { s with dev := Store.write s.dev 0 (q.sealed s.junk).toBytes, oob := s.oob ++ l } := by
  obtain ⟨l, hl⟩ := invalidateHandle_run_of_some hf hq
  exact ⟨l, by simp [invalCase, hb, h, hl]⟩

theorem invalCase_run_of_none (hf : s.faults = []) (h : v.invalFlag = true)
    (hq : invalidateLoop (hdrAt s.dev 0) (v.invalValues.toList.take v.invalCnt) = none) :
    (invalCase v).run s = .error (.exit (-1)) s := by
  cases hb : v.backupFlag
  · simp [invalCase, hb, h, earlyTerminated]
  · simp [invalCase, hb, h, invalidateHandle_run_of_none hf hq, earlyTerminated]

end Cases

/-! ## 一回の実行 -/

theorem run_backup_invalidate (hf : s.faults = []) {A : List String} (hA : A ≠ []) (h10 : A.length ≤ 10) :
    ∃ l, run (.backup :: A.map .invalidate) s =
      match invalidateLoop (hdrAt s.dev 0) (A.map atoi) with
      | some q => (.exit 0, { s with
          dev := Store.write (Store.write s.dev backupLoc (hdrAt s.dev 0).toBytes) 0 (q.sealed s.junk).toBytes
          oob := s.oob ++ l })
      | none => (.exit (-1), { s with
          dev := Store.write s.dev backupLoc (hdrAt s.dev 0).toBytes
          oob := s.oob ++ l }) := by
  obtain ⟨vals, hfold, htake⟩ := foldlM_invalidate A { Vars.init with backupFlag := true }
    (by simp [Vars.init]; omega)
  have hE : A.isEmpty = false := by cases A <;> simp_all
  set V : Vars :=
    { updateNum := 0, invalCnt := A.length, invalValues := vals, backupFlag := true, restoreFlag := false,
      updateFlag := false, invalFlag := true, checkFlag := false, osii := Vars.init.osii, fwBinFile := none }
    with hV
  have hopts : (Opt.backup :: A.map .invalidate).foldlM option Vars.init = pure V := by
    rw [List.foldlM_cons]
    simp only [option, pure_bind]
    rw [hfold]
    simp [Vars.init, hE, hV]
  clear hfold
  simp only [Vars.init, Nat.zero_add, List.take_zero, List.nil_append] at htake
  have h₁ := backupCase_run_nil (v := V) hf rfl
  cases hq : invalidateLoop (hdrAt s.dev 0) (A.map atoi) with
  | none =>
    have h₄ := invalCase_run_of_none (v := V) (s := { s with
        dev := Store.write s.dev backupLoc (hdrAt s.dev 0).toBytes
        oob := s.oob ++ dumpOob dumpOsip (hdrAt s.dev 0) ++ dumpOob dumpOsip (hdrAt s.dev 0) })
      hf rfl (by simp [hdrAt_zero_write_backupLoc, htake, hq, hV])
    refine ⟨dumpOob dumpOsip (hdrAt s.dev 0) ++ dumpOob dumpOsip (hdrAt s.dev 0), ?_⟩
    simp only [run, main, hopts, pure_bind, List.cons_ne_nil, if_false, EStateM.run_bind, h₁,
      restoreCase_of_false (v := V) rfl, updateCase_of_false (v := V) rfl, h₄]
    simp only [List.append_assoc]
  | some q =>
    obtain ⟨l, h₄⟩ := invalCase_run_of_some (v := V) (q := q) (s := { s with
        dev := Store.write s.dev backupLoc (hdrAt s.dev 0).toBytes
        oob := s.oob ++ dumpOob dumpOsip (hdrAt s.dev 0) ++ dumpOob dumpOsip (hdrAt s.dev 0) })
      hf rfl rfl (by simp [hdrAt_zero_write_backupLoc, htake, hq, hV])
    refine ⟨dumpOob dumpOsip (hdrAt s.dev 0) ++ dumpOob dumpOsip (hdrAt s.dev 0) ++ l, ?_⟩
    simp only [run, main, hopts, pure_bind, List.cons_ne_nil, if_false, EStateM.run_bind, h₁,
      restoreCase_of_false (v := V) rfl, updateCase_of_false (v := V) rfl, h₄,
      checkCase_of_false (v := V) rfl]
    simp only [List.append_assoc]
    rfl

section UpdateImage

variable {v : Vars} {f : String} {s' : Sys}

theorem updateCase_run_of_flash_ok (hu : v.updateFlag = true) (hfile : v.fwBinFile = some f) {s'' : Sys}
    (hfl : (flashStitchImage f v.updateNum).run s = .ok 0 s')
    (hup : (updateHandle v.osii v.updateNum).run s' = .ok 0 s'') :
    (updateCase v).run s = .ok () s'' := by
  simp [updateCase, hu, hfile, hfl, hup]

theorem updateCase_run_of_flash_ne (hu : v.updateFlag = true) (hfile : v.fwBinFile = some f) {r : Int}
    (hfl : (flashStitchImage f v.updateNum).run s = .ok r s') (hr : r ≠ 0) :
    (updateCase v).run s = .error (.exit (-1)) s' := by
  simp [updateCase, hu, hfile, hfl, hr, earlyTerminated]

theorem updateCase_run_of_flash_error (hu : v.updateFlag = true) (hfile : v.fwBinFile = some f) {e : Halt}
    (hfl : (flashStitchImage f v.updateNum).run s = .error e s') :
    (updateCase v).run s = .error e s' := by
  simp [updateCase, hu, hfile, hfl]

theorem run_eq_updateCase {opts : List Opt} (hne : opts ≠ []) (hopts : opts.foldlM option Vars.init = pure v)
    (hb : v.backupFlag = false) (hr : v.restoreFlag = false) (hi : v.invalFlag = false)
    (hc : v.checkFlag = false) :
    run opts s =
      match (updateCase v).run s with
      | .ok _ s' => (.exit 0, s')
      | .error e s' => (e, s') := by
  simp only [run, main, hopts, pure_bind, hne, if_false, EStateM.run_bind, backupCase_of_false hb,
    restoreCase_of_false hr]
  cases (updateCase v).run s with
  | ok _ s' => simp [invalCase_of_false hi, checkCase_of_false hc]
  | error e s' => rfl

theorem foldlM_update_image (a f : String) :
    [Opt.update a, .image f].foldlM option Vars.init =
      pure { Vars.init with updateNum := atoi a, updateFlag := true, fwBinFile := some f } := by
  simp [option]

theorem run_update_image_of_ok {a : String} {s'' : Sys} (hfl : (flashStitchImage f (atoi a)).run s = .ok 0 s')
    (hup : (updateHandle Vars.init.osii (atoi a)).run s' = .ok 0 s'') :
    run [.update a, .image f] s = (.exit 0, s'') := by
  rw [run_eq_updateCase (List.cons_ne_nil _ _) (foldlM_update_image a f) rfl rfl rfl rfl,
    updateCase_run_of_flash_ok
      (v := { Vars.init with updateNum := atoi a, updateFlag := true, fwBinFile := some f }) rfl rfl hfl hup]

theorem run_update_image_of_ne {a : String} {r : Int} (hfl : (flashStitchImage f (atoi a)).run s = .ok r s')
    (hr : r ≠ 0) : run [.update a, .image f] s = (.exit (-1), s') := by
  rw [run_eq_updateCase (List.cons_ne_nil _ _) (foldlM_update_image a f) rfl rfl rfl rfl,
    updateCase_run_of_flash_ne
      (v := { Vars.init with updateNum := atoi a, updateFlag := true, fwBinFile := some f }) rfl rfl hfl hr]

theorem run_update_image_of_error {a : String} {e : Halt} (hfl : (flashStitchImage f (atoi a)).run s = .error e s') :
    run [.update a, .image f] s = (e, s') := by
  rw [run_eq_updateCase (List.cons_ne_nil _ _) (foldlM_update_image a f) rfl rfl rfl rfl,
    updateCase_run_of_flash_error
      (v := { Vars.init with updateNum := atoi a, updateFlag := true, fwBinFile := some f }) rfl rfl hfl]

theorem updateCase_run_of_none (hu : v.updateFlag = true) (hfile : v.fwBinFile = none)
    (hup : (updateHandle v.osii v.updateNum).run s = .ok 0 s') : (updateCase v).run s = .ok () s' := by
  simp [updateCase, hu, hfile, hup]

theorem foldlM_update (a : String) :
    [Opt.update a].foldlM option Vars.init = pure { Vars.init with updateNum := atoi a, updateFlag := true } := by
  simp [option]

theorem run_update_of_ok {a : String} (hup : (updateHandle Vars.init.osii (atoi a)).run s = .ok 0 s') :
    run [.update a] s = (.exit 0, s') := by
  rw [run_eq_updateCase (List.cons_ne_nil _ _) (foldlM_update a) rfl rfl rfl rfl,
    updateCase_run_of_none (v := { Vars.init with updateNum := atoi a, updateFlag := true }) rfl rfl hup]

end UpdateImage

section Restore

theorem foldlM_restore : [Opt.restore].foldlM option Vars.init = pure { Vars.init with restoreFlag := true } := by
  simp [option]

theorem run_restore_eq :
    run [.restore] s =
      match restoreHandle.run s with
      | .ok r s' => if r ≠ 0 then (.exit (-1), s') else (.exit 0, s')
      | .error e s' => (e, s') := by
  simp only [run, main, foldlM_restore, pure_bind, List.cons_ne_nil, if_false, EStateM.run_bind,
    backupCase_of_false (v := { Vars.init with restoreFlag := true }) rfl]
  cases h : restoreHandle.run s with
  | ok r s' =>
    by_cases hr : r = 0
    · simp [restoreCase, h, hr, updateCase_of_false (v := { Vars.init with restoreFlag := true }) rfl,
        invalCase_of_false (v := { Vars.init with restoreFlag := true }) rfl,
        checkCase_of_false (v := { Vars.init with restoreFlag := true }) rfl]
    · simp [restoreCase, h, hr, earlyTerminated]
  | error e s' => simp [restoreCase, h]

theorem run_restore_of_not_sig (hf : s.faults = []) (hb : (hdrAt s.dev backupLoc).sig ≠ osipSig) :
    run [.restore] s = (.exit (-1), s) := by
  simp [run_restore_eq, restoreHandle_run_of_not_sig hf hb]

theorem run_restore_of_sig (hf : s.faults = []) (hb : (hdrAt s.dev backupLoc).sig = osipSig) :
    ∃ l, run [.restore] s =
      (.exit 0, { s with
        dev := Store.write (Store.write s.dev 0 ((hdrAt s.dev backupLoc).sealed s.junk).toBytes) backupLoc
          (List.replicate 200 0)
        oob := s.oob ++ l }) := by
  simp [run_restore_eq, restoreHandle_run_of_sig hf hb, -List.reduceReplicate]

end Restore

/-! ## スクリプト -/

theorem runScript_invalidateOsipSh : runScript invalidateOsipSh s = (run (.backup :: ["1"].map .invalidate) s).2 :=
  rfl

theorem runScript_flashStitchedSh (f : String) :
    runScript (flashStitchedSh f) s = (run [.restore] (run [.update "0", .image f] s).2).2 := rfl

theorem runScript_restoreOsipSh : runScript restoreOsipSh s = (run [.restore] s).2 := rfl

end Kboot.Osip.UpdateOsip
