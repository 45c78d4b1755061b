import Kboot.Osip.OsipUtils
import Kboot.Osip.Lemmas.ManageDevice

/-!
# osip_utils.c の補題: 見出しの場所ごとの読み出しと、見出しを書き換える処理

どの呼び出しも成功する eMMC（`faults = []`）での、各処理の戻り値と装置の中身。見出しは装置の
0 バイト目（主）と `BACKUP_LOC` バイト目（予備）に置かれる。
-/

namespace Kboot.Osip.OsipUtils

open ManageDevice

variable {s : Sys}

/-- `read_OSIP_loc` が読む場所。 -/
def slotOff (location : Int) : Nat := if location ≠ 0 then backupLoc else 0

/-- `read_OSIP_loc` が見出しを表示するときに残す、範囲の外の読み出し。 -/
def dumpOob (dump : Int) (h : OSIPHeader) : List Oob :=
  if dump ≠ 0 ∧ h.sig = osipSig then descOob h.numPointers.toNat else []

@[simp] theorem slotOff_rStart : slotOff rStart = 0 := rfl

@[simp] theorem slotOff_rBck : slotOff rBck = backupLoc := rfl

@[simp] theorem dumpOob_notDump (h : OSIPHeader) : dumpOob notDump h = [] := by
  simp [dumpOob, notDump]

theorem dumpOob_of_not_sig {dump : Int} {h : OSIPHeader} (hs : h.sig ≠ osipSig) : dumpOob dump h = [] := by
  simp [dumpOob, hs]

/-! ## 読み出し -/

theorem readOSIPLoc_run_nil (hf : s.faults = []) (location dump : Int) :
    (readOSIPLoc location dump).run s =
      .ok (0, hdrAt s.dev (slotOff location))
        { s with oob := s.oob ++ dumpOob dump (hdrAt s.dev (slotOff location)) } := by
  have hoff : (if location ≠ 0 then lseek 0 backupLoc else lseek 0 0) = slotOff location := by
    simp only [slotOff, lseek_natCast, lseek_zero]
  by_cases hd : dump ≠ 0 ∧ (hdrAt s.dev (slotOff location)).sig = osipSig
  · simp only [readOSIPLoc, hoff, hdrAt] at hd ⊢
    simp (disch := simp [hf]) [devOpen_run_nil, devRead_run_nil, dumpOsipHeader_run, hd, dumpOob]
  · simp only [readOSIPLoc, hoff, hdrAt] at hd ⊢
    simp (disch := simp [hf]) [devOpen_run_nil, devRead_run_nil, hd, dumpOob]

/-! ## 失敗する読み出し

`read_OSIP_loc` は読む前にバッファを 0 で埋めるので、`open` か `read` が失敗したときも呼び出し元には
0 で埋めた見出しが残る。 -/

theorem readOSIPLoc_run_of_fail {fs : List Outcome} (hf : s.faults = .fail :: fs ∨ s.faults = .ok :: .fail :: fs)
    (location dump : Int) :
    (readOSIPLoc location dump).run s = .ok (-1, zeroHeader) { s with faults := fs } := by
  rcases hf with hf | hf
  · simp [readOSIPLoc, devOpen_run_cons hf]
  · simp [readOSIPLoc, devOpen_run_cons hf, devRead_run_cons (s := { s with faults := .fail :: fs }) rfl]

/-- 二つの呼び出しが成功すれば、`read_OSIP_loc` は装置の見出しを読む。 -/
theorem readOSIPLoc_run_of_ok_dump {fs : List Outcome} (hf : s.faults = .ok :: .ok :: fs) (location dump : Int) :
    (readOSIPLoc location dump).run s =
      .ok (0, hdrAt s.dev (slotOff location))
        { s with faults := fs, oob := s.oob ++ dumpOob dump (hdrAt s.dev (slotOff location)) } := by
  have hoff : (if location ≠ 0 then lseek 0 backupLoc else lseek 0 0) = slotOff location := by
    simp only [slotOff, lseek_natCast, lseek_zero]
  have hrd := devRead_run_cons (s := { s with faults := .ok :: fs }) rfl (slotOff location) 200
  by_cases hd : dump ≠ 0 ∧ (hdrAt s.dev (slotOff location)).sig = osipSig
  · simp only [readOSIPLoc, hoff, hdrAt] at hd ⊢
    simp [devOpen_run_cons hf, hrd, dumpOsipHeader_run, hd, dumpOob]
  · simp only [readOSIPLoc, hoff, hdrAt] at hd ⊢
    simp [devOpen_run_cons hf, hrd, hd, dumpOob]

theorem readOSIPLoc_run_of_ok {fs : List Outcome} (hf : s.faults = .ok :: .ok :: fs) (location : Int) :
    (readOSIPLoc location notDump).run s = .ok (0, hdrAt s.dev (slotOff location)) { s with faults := fs } := by
  simpa using readOSIPLoc_run_of_ok_dump hf location notDump

/-! ## 予備の見出し -/

theorem hdrAt_zero_write_backupLoc (dev : Nat → UInt8) (h : OSIPHeader) :
    hdrAt (Store.write dev backupLoc h.toBytes) 0 = hdrAt dev 0 :=
  hdrAt_write_of_disjoint (Or.inl (by decide))

theorem backupHandle_run_nil (hf : s.faults = []) (osip : OSIPHeader) :
    (backupHandle osip).run s =
      .ok 0 { s with dev := Store.write s.dev backupLoc osip.toBytes, oob := s.oob ++ dumpOob dumpOsip osip } := by
  simp (disch := simp [hf]) [backupHandle, devOpen_run_nil, devWrite_run_nil, readOSIPLoc_run_nil]

theorem restoreHandle_run_of_not_sig (hf : s.faults = []) (hb : (hdrAt s.dev backupLoc).sig ≠ osipSig) :
    restoreHandle.run s = .ok (-1) s := by
  simp (disch := simp [hf]) [restoreHandle, readOSIPLoc_run_nil, hb, dumpOob_of_not_sig hb]

theorem restoreHandle_run_of_sig (hf : s.faults = []) (hb : (hdrAt s.dev backupLoc).sig = osipSig) :
    restoreHandle.run s =
      .ok 0 { s with
        dev := Store.write (Store.write s.dev 0 ((hdrAt s.dev backupLoc).sealed s.junk).toBytes) backupLoc
          (List.replicate 200 0)
        oob := s.oob ++ dumpOob dumpOsip (hdrAt s.dev backupLoc) ++
          headerOob (hdrAt s.dev backupLoc).headerSize.toNat ++ descOob (hdrAt s.dev backupLoc).numPointers.toNat } := by
  simp only [restoreHandle, EStateM.run_bind, readOSIPLoc_run_nil hf, slotOff_rBck]
  rw [hb]
  simp (disch := simp [hf]) [writeOSIP_run_nil, devOpen_run_nil, devWrite_run_nil, -List.reduceReplicate]

/-- 主の見出しへの `write` が `k` バイトで終わっても、`restore_handle` は予備の場所を 0 で埋めて 0 を返す。 -/
theorem restoreHandle_run_of_short {k : Nat} (hf : s.faults = [.ok, .ok, .ok, .short k, .ok, .ok])
    (hb : (hdrAt s.dev backupLoc).sig = osipSig) :
    restoreHandle.run s =
      .ok 0 { s with
        faults := []
        dev := Store.write (Store.write s.dev 0 (((hdrAt s.dev backupLoc).sealed s.junk).toBytes.take k)) backupLoc
          (List.replicate 200 0)
        oob := s.oob ++ dumpOob dumpOsip (hdrAt s.dev backupLoc) ++
          headerOob (hdrAt s.dev backupLoc).headerSize.toNat ++ descOob (hdrAt s.dev backupLoc).numPointers.toNat } := by
  have hw := writeOSIP_run_of_short
    (s := { s with faults := [.ok, .short k, .ok, .ok], oob := s.oob ++ dumpOob dumpOsip (hdrAt s.dev backupLoc) }) rfl
    (hdrAt s.dev backupLoc)
  simp only [restoreHandle, EStateM.run_bind, readOSIPLoc_run_of_ok_dump hf, slotOff_rBck]
  rw [hb]
  simp [hw, devOpen_run, devWrite_run, -List.reduceReplicate]

/-- 予備の見出しの記述子 `n` の場所への書き込み。 -/
theorem writeOSIIEntry_run_nil (hf : s.faults = []) (o : OSII) (n : Fin 7) :
    (writeOSIIEntry o n rBck).run s =
      .ok 0 { s with dev := Store.write s.dev (backupLoc + osipPreamble + 24 * n) o.toBytes } := by
  have hoff : lseek 0 (offT (backupLoc + osipPreamble + 24 * (n : Int))) = backupLoc + osipPreamble + 24 * n := by
    have h := offT_of_lt (n := backupLoc + osipPreamble + 24 * n) (by simp only [backupLoc, osipPreamble]; omega)
    push_cast at h
    rw [h, lseek_of_nonneg (by omega)]
    omega
  simp (disch := simp [hf]) [writeOSIIEntry, devOpen_run_nil, devWrite_run_nil, hoff, rStart, rBck]

theorem writeOSIIEntry_run_of_ok {fs : List Outcome} (hf : s.faults = .ok :: .ok :: fs) (o : OSII) (n : Fin 7) :
    (writeOSIIEntry o n rBck).run s =
      .ok 0 { s with faults := fs, dev := Store.write s.dev (backupLoc + osipPreamble + 24 * n) o.toBytes } := by
  have hoff : lseek 0 (offT (backupLoc + osipPreamble + 24 * (n : Int))) = backupLoc + osipPreamble + 24 * n := by
    have h := offT_of_lt (n := backupLoc + osipPreamble + 24 * n) (by simp only [backupLoc, osipPreamble]; omega)
    push_cast at h
    rw [h, lseek_of_nonneg (by omega)]
    omega
  simp [writeOSIIEntry, devOpen_run_cons hf, devWrite_run_cons (s := { s with faults := .ok :: fs }) rfl, hoff,
    rStart, rBck]

/-! ## 主の見出しの書き換え -/

theorem updateHandle_run_nil (hf : s.faults = []) (osii : OSII) (n : Fin 7) :
    let upd := (hdrAt s.dev 0).setDesc n (mergeOsii osii ((hdrAt s.dev 0).desc.get n))
    (updateHandle osii n).run s =
      .ok 0 { s with
        dev := Store.write s.dev 0 (upd.sealed s.junk).toBytes
        oob := s.oob ++ headerOob upd.headerSize.toNat ++ descOob upd.numPointers.toNat ++
          dumpOob dumpOsip (upd.sealed s.junk) } := by
  simp (disch := simp [hf]) [updateHandle, readOSIPLoc_run_nil, descRead_of_lt, descWrite_of_lt,
    writeOSIP_run_nil]

/-- 範囲の外の番号では、`update_handle` は見出しの外の 24 バイトを読み、`osip->desc[update_number]`
へ書こうとして止まる。 -/
theorem updateHandle_run_of_not_lt (hf : s.faults = []) (osii : OSII) {i : Int} (h : ¬(0 ≤ i ∧ i < 7)) :
    (updateHandle osii i).run s = .error (.ub .descIndex) { s with oob := s.oob ++ [.header (32 + 24 * i)] } := by
  simp (disch := simp [hf]) only [updateHandle, EStateM.run_bind, readOSIPLoc_run_nil, dumpOob_notDump,
    List.append_nil, descRead_run_of_not_lt _ h, descWrite_run_of_not_lt _ h]

/-- `update_handle` は `read_OSIP_loc` の戻り値を見ない。読み出しが失敗すると、0 で埋めた見出しに
記述子を重ねて主の見出しへ書く。 -/
theorem updateHandle_run_of_fail (hf : s.faults = [.fail] ∨ s.faults = [.ok, .fail]) (osii : OSII) (n : Fin 7) :
    let upd := zeroHeader.setDesc n (mergeOsii osii (zeroHeader.desc.get n))
    (updateHandle osii n).run s =
      .ok 0 { s with
        faults := []
        dev := Store.write s.dev 0 (upd.sealed s.junk).toBytes
        oob := s.oob ++ headerOob upd.headerSize.toNat ++ descOob upd.numPointers.toNat ++
          dumpOob dumpOsip (upd.sealed s.junk) } := by
  simp (disch := simp) [updateHandle, readOSIPLoc_run_of_fail hf, descRead_of_lt, descWrite_of_lt,
    writeOSIP_run_nil, readOSIPLoc_run_nil]

/-! ## 無効化の繰り返し -/

@[simp] theorem invalidated_logicalStartBlock (o : OSII) (v : Int) :
    (OSII.invalidated o v).logicalStartBlock = o.logicalStartBlock := rfl

@[simp] theorem invalidated_sizeOfOsImage (o : OSII) (v : Int) :
    (OSII.invalidated o v).sizeOfOsImage = o.sizeOfOsImage := rfl

/-- `invalidate_handle` は記述子のほかの欄を変えず、どの記述子の `logical_start_block` と
`size_of_os_image` も変えない。 -/
theorem invalidateLoop_some {osip q : OSIPHeader} {vals : List Int} (h : invalidateLoop osip vals = some q) :
    q = { osip with desc := q.desc } ∧
      ∀ j : Fin 7, (q.desc.get j).logicalStartBlock = (osip.desc.get j).logicalStartBlock ∧
        (q.desc.get j).sizeOfOsImage = (osip.desc.get j).sizeOfOsImage := by
  induction vals generalizing osip with
  | nil =>
    simp only [invalidateLoop, Option.some.injEq] at h
    subst h
    exact ⟨rfl, fun _ => ⟨rfl, rfl⟩⟩
  | cons v vs ih =>
    simp only [invalidateLoop] at h
    cases hj : findAttrib osip v with
    | none => simp [hj] at h
    | some j =>
      rw [hj] at h
      obtain ⟨h₁, h₂⟩ := ih h
      refine ⟨h₁.trans rfl, fun k => ?_⟩
      obtain ⟨hl, hs⟩ := h₂ k
      rw [hl, hs]
      by_cases hk : (k : Nat) = j
      · simp [hk, OSIPHeader.setDesc]
      · simp [OSIPHeader.setDesc, Ne.symm hk]

theorem invalidateHandle_run_of_none (hf : s.faults = []) {vals : List Int}
    (hv : invalidateLoop (hdrAt s.dev 0) vals = none) : (invalidateHandle vals).run s = .ok (-1) s := by
  simp (disch := simp [hf]) [invalidateHandle, readOSIPLoc_run_nil, hv]

theorem invalidateHandle_run_of_some (hf : s.faults = []) {vals : List Int} {q : OSIPHeader}
    (hv : invalidateLoop (hdrAt s.dev 0) vals = some q) :
    ∃ l, (invalidateHandle vals).run s =
      .ok 0 { s with dev := Store.write s.dev 0 (q.sealed s.junk).toBytes, oob := s.oob ++ l } := by
  simp (disch := simp [hf]) [invalidateHandle, readOSIPLoc_run_nil, writeOSIP_run_nil, hv]

end Kboot.Osip.OsipUtils
