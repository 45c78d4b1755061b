import Kboot.Osip.Lemmas.Scripts
import Kboot.Osip.Lemmas.Invalidate

/-!
# 保守のスクリプトの列

`invalidate_osip.sh`、`flash_stitched.sh`、`restore_osip.sh` を任意の順に走らせる。一巡は、予備が
空の状態での `invalidate_osip.sh` で始まり、成功した `update_osip --restore` で終わる。一巡の基準
`cycleRef` は、その最初の無効化の前の主の見出しで、実行には現れない幽霊の値。

不変条件 `CycleInv` は、予備が空なら主が有効で、一巡の中なら予備が基準そのものであることを言う。
どのスクリプトの一回もこれを保つ（`cycleStep_inv`）。ただし一巡の中で二度目の `invalidate_osip.sh` を
走らせないときに限る。二度目の `backup_handle` は、基準の入った予備を無効にした主で上書きする。
-/

namespace Kboot.Osip.UpdateOsip

open OsipUtils ManageDevice

inductive Script where
  | invalidateOsip
  | flashStitched (image : String)
  | restoreOsip
  deriving DecidableEq, Repr

def Script.cmds : Script → List (List Opt)
  | .invalidateOsip => invalidateOsipSh
  | .flashStitched image => flashStitchedSh image
  | .restoreOsip => restoreOsipSh

/-- スクリプトの最後の `update_osip --restore` が 0 で終わる。 -/
def Script.restoreOk : Script → Sys → Bool
  | .invalidateOsip, _ => false
  | .flashStitched image, s => decide ((run [.restore] (run [.update "0", .image image] s).2).1 = .exit 0)
  | .restoreOsip, s => decide ((run [.restore] s).1 = .exit 0)

/-- 一巡の基準の一段: 成功した復元で一巡が終わり、一巡の外の無効化で基準が決まる。 -/
def cycleRef (sc : Script) (s : Sys) (ref : Option OSIPHeader) : Option OSIPHeader :=
  if sc.restoreOk s then none
  else
    match sc, ref with
    | .invalidateOsip, none => some (hdrAt s.dev 0)
    | _, r => r

/-- スクリプトを順に走らせ、状態と一巡の基準を運ぶ。 -/
def runCycle : List Script → Sys × Option OSIPHeader → Sys × Option OSIPHeader
  | [], st => st
  | sc :: scs, (s, ref) => runCycle scs (runScript sc.cmds s, cycleRef sc s ref)

/-- 二つの `invalidate_osip.sh` のあいだに、いつも復元がある。`armed` は、最後の無効化のあとにまだ復元が
ないこと。 -/
def invalidatesApart : Bool → List Script → Bool
  | _, [] => true
  | armed, .invalidateOsip :: scs => !armed && invalidatesApart true scs
  | _, .flashStitched _ :: scs => invalidatesApart false scs
  | _, .restoreOsip :: scs => invalidatesApart false scs

/-- `flash_stitched.sh F` の `update_osip --update 0 --image F` が記述子 0 に置く記述子。名前、ファイル、形式の
どれかの検査で断られれば `none`。 -/
def flashedOsii (files : String → Option (List UInt8)) (v : UInt32) (f : String) : Option OSII :=
  if binName f then
    (files f).bind fun data =>
      if StitchedImage data then some (placedOsii data v (UInt32.ofNat ((data.length - 512) / 512))) else none
  else none

/-- スクリプトが記述子 0 に置く記述子。置くのは `flash_stitched.sh` だけ。 -/
def Script.placed (files : String → Option (List UInt8)) (v : UInt32) : Script → Option OSII
  | .invalidateOsip => none
  | .flashStitched f => flashedOsii files v f
  | .restoreOsip => none

/-- 予備の場所: 一巡の外では空で主が有効、一巡の中では基準そのもの。 -/
def CycleSlots (s : Sys) : Option OSIPHeader → Prop
  | none => (hdrAt s.dev 0).sig = osipSig ∧ (hdrAt s.dev backupLoc).sig ≠ osipSig
  | some R => hdrAt s.dev backupLoc = R ∧ R.sig = osipSig

/-- 一巡の不変条件。`v` は記述子 0 の開始ブロックで、どのスクリプトも変えず、基準でも同じ。 -/
structure CycleInv (files : String → Option (List UInt8)) (v : UInt32) (s : Sys) (ref : Option OSIPHeader) :
    Prop where
  faults_nil : s.faults = []
  files_eq : s.files = files
  lsb_eq : ((hdrAt s.dev 0).desc.get 0).logicalStartBlock = v
  slots : CycleSlots s ref
  ref_lsb : ∀ R, ref = some R → (R.desc.get 0).logicalStartBlock = v

theorem invalidatesApart_cons {ref : Option OSIPHeader} {sc : Script} {scs : List Script}
    (h : invalidatesApart ref.isSome (sc :: scs) = true) :
    (sc = .invalidateOsip → ref = none) ∧ invalidatesApart (decide (sc = .invalidateOsip)) scs = true := by
  cases sc <;> cases ref <;> simp_all [invalidatesApart]

theorem runCycle_fst (scs : List Script) (s : Sys) (ref : Option OSIPHeader) :
    (runCycle scs (s, ref)).1 = runScript (scs.flatMap Script.cmds) s := by
  induction scs generalizing s ref with
  | nil => rfl
  | cons sc scs ih =>
    rw [runCycle, ih, List.flatMap_cons]
    cases sc <;> rfl

section Steps

variable {files : String → Option (List UInt8)} {v : UInt32} {s : Sys}

theorem hdrAt_zero_write_backupLoc_of (dev : Nat → UInt8) (bs : List UInt8) :
    hdrAt (Store.write dev backupLoc bs) 0 = hdrAt dev 0 :=
  hdrAt_write_of_disjoint (Or.inl (by simp [backupLoc]))

theorem hdrAt_backupLoc_write_header (dev : Nat → UInt8) (h : OSIPHeader) :
    hdrAt (Store.write dev 0 h.toBytes) backupLoc = hdrAt dev backupLoc :=
  hdrAt_write_of_disjoint (Or.inr (by simp [backupLoc]))

/-- 一巡の外の `invalidate_osip.sh`: 主が予備に写り、一巡が始まる。無効にする記述子がなくても同じ。 -/
theorem invalidate_step (hi : CycleInv files v s none) :
    Script.invalidateOsip.restoreOk s = false ∧
      CycleInv files v (runScript invalidateOsipSh s) (some (hdrAt s.dev 0)) := by
  obtain ⟨hsig, -⟩ := hi.slots
  obtain ⟨l, h⟩ := run_backup_invalidate (s := s) (A := ["1"]) hi.faults_nil (by simp) (by simp)
  -- 基準は走らせる前の主なので、その記述子 0 の開始ブロックは `v`
  have href : ∀ R, some (hdrAt s.dev 0) = some R → (R.desc.get 0).logicalStartBlock = v := by
    rintro _ ⟨⟩
    exact hi.lsb_eq
  refine ⟨rfl, ?_⟩
  rw [runScript_invalidateOsipSh, h]
  cases hq : invalidateLoop (hdrAt s.dev 0) (["1"].map atoi) with
  | none =>
    refine ⟨hi.faults_nil, hi.files_eq, ?_, ⟨hdrAt_write_self _ _ _, hsig⟩, href⟩
    rw [hdrAt_zero_write_backupLoc_of]
    exact hi.lsb_eq
  | some q =>
    refine ⟨hi.faults_nil, hi.files_eq, ?_, ⟨?_, hsig⟩, href⟩
    · rw [hdrAt_write_self, OSIPHeader.desc_sealed, ((invalidateLoop_some hq).2 0).1]
      exact hi.lsb_eq
    · rw [hdrAt_backupLoc_write_header, hdrAt_write_self]

/-- `invalidate_osip.sh` の一回: 予備は走らせる前の主になる。属性 1 の記述子があれば、主はそれを無効に
した見出し。一巡の中かどうかは見ない。 -/
theorem run_invalidateOsipSh (hf : s.faults = []) :
    (runScript invalidateOsipSh s).faults = [] ∧ (runScript invalidateOsipSh s).junk = s.junk ∧
      hdrAt (runScript invalidateOsipSh s).dev backupLoc = hdrAt s.dev 0 ∧
      ((findAttrib (hdrAt s.dev 0) 1).isSome = true →
        hdrAt (runScript invalidateOsipSh s).dev 0 = (invalidSpec (hdrAt s.dev 0) [1]).sealed s.junk) := by
  obtain ⟨l, h⟩ := run_backup_invalidate (s := s) (A := ["1"]) hf (by simp) (by simp)
  rw [runScript_invalidateOsipSh, h, invalidateLoop_eq, show ["1"].map atoi = [1] by decide]
  by_cases hk : (findAttrib (hdrAt s.dev 0) 1).isSome
  · simp only [List.all_cons, List.all_nil, hk, Bool.and_true, if_true]
    exact ⟨hf, trivial, by rw [hdrAt_backupLoc_write_header, hdrAt_write_self], fun _ => hdrAt_write_self _ _ _⟩
  · simp only [List.all_cons, List.all_nil, hk, Bool.and_true, Bool.false_eq_true, if_false]
    exact ⟨hf, trivial, hdrAt_write_self _ _ _, False.elim⟩

theorem restore_step_none (hi : CycleInv files v s none) :
    Script.restoreOsip.restoreOk s = false ∧ runScript restoreOsipSh s = s := by
  -- 一巡の外では予備が空なので、復元は何も書かずに失敗する
  have h := run_restore_of_not_sig hi.faults_nil hi.slots.2
  refine ⟨by simp [Script.restoreOk, h], ?_⟩
  rw [runScript_restoreOsipSh, h]

/-- 一巡の中の `update_osip --restore`: 基準が主へ戻り、予備が空になって一巡が終わる。 -/
theorem run_restore_some {R : OSIPHeader} (hi : CycleInv files v s (some R)) :
    (run [.restore] s).1 = .exit 0 ∧ CycleInv files v (run [.restore] s).2 none ∧
      hdrAt (run [.restore] s).2.dev 0 = R.sealed s.junk := by
  obtain ⟨hB, hsig⟩ := hi.slots
  obtain ⟨l, h⟩ := run_restore_of_sig hi.faults_nil (by rw [hB]; exact hsig)
  have h₀ : hdrAt (Store.write (Store.write s.dev 0 (R.sealed s.junk).toBytes) backupLoc (List.replicate 200 0)) 0 =
      R.sealed s.junk := by
    rw [hdrAt_zero_write_backupLoc_of, hdrAt_write_self]
  rw [h, hB]
  refine ⟨rfl, ⟨hi.faults_nil, hi.files_eq, ?_, ?_, fun _ h => nomatch h⟩, h₀⟩
  · rw [h₀, OSIPHeader.desc_sealed]
    exact hi.ref_lsb R rfl
  · refine ⟨by rw [h₀, OSIPHeader.sig_sealed]; exact hsig, ?_⟩
    rw [hdrAt_write_zeros]
    exact sig_zeroHeader

theorem restore_step_some {R : OSIPHeader} (hi : CycleInv files v s (some R)) :
    Script.restoreOsip.restoreOk s = true ∧ CycleInv files v (runScript restoreOsipSh s) none ∧
      (hdrAt (runScript restoreOsipSh s).dev 0).desc = R.desc := by
  obtain ⟨h₁, h₂, h₃⟩ := run_restore_some hi
  refine ⟨by simp [Script.restoreOk, h₁], h₂, ?_⟩
  rw [runScript_restoreOsipSh, h₃, OSIPHeader.desc_sealed]

theorem run_flash_zero {ref : Option OSIPHeader} {f : String} {data : List UInt8} (hi : CycleInv files v s ref) (hname : binName f = true)
    (hfile : files f = some data) (hd : StitchedImage data) (hv₁ : 1 ≤ v.toNat) (hv₂ : v.toNat < 2 ^ 22) :
    let P := hdrAt s.dev 0
    let B := hdrAt s.dev backupLoc
    let o := placedOsii data v (UInt32.ofNat ((data.length - 512) / 512))
    ∃ s', run [.update "0", .image f] s = (.exit 0, s') ∧ s'.faults = [] ∧ s'.files = files ∧ s'.junk = s.junk ∧
      hdrAt s'.dev 0 = (if B.sig ≠ osipSig then { P with numImages := 1 }.setDesc 0 o else P).sealed s.junk ∧
      hdrAt s'.dev backupLoc = (if B.sig = osipSig then B.setDesc 0 o else B) := by
  intro P B o
  obtain ⟨s', h, hf', hfiles, hj, hP, hB, -⟩ := run_flash (s := s) hi.faults_nil hname (hi.files_eq ▸ hfile) hd 0
    (by rw [hi.lsb_eq]; exact hv₁) (by rw [hi.lsb_eq]; exact hv₂)
  have hpos : ¬(((0 : Fin 7) : Nat) : Int) = pos := by decide
  simp only [hi.lsb_eq, hpos, false_or] at hP hB h
  exact ⟨s', h, hf', hfiles.trans hi.files_eq, hj, hP, hB⟩

theorem lsb_placedOsii (data : List UInt8) (lsb size : UInt32) : (placedOsii data lsb size).logicalStartBlock = lsb :=
  rfl

theorem flashedOsii_of_accepted {f : String} {data : List UInt8} (hname : binName f = true)
    (hfile : files f = some data) (hd : StitchedImage data) :
    flashedOsii files v f = some (placedOsii data v (UInt32.ofNat ((data.length - 512) / 512))) := by
  simp [flashedOsii, hname, hfile, hd]

theorem flashedOsii_of_rejected {f : String}
    (h : ¬(binName f = true ∧ ∃ data, files f = some data ∧ StitchedImage data)) : flashedOsii files v f = none := by
  cases hname : binName f
  · simp [flashedOsii, hname]
  cases hfile : files f with
  | none => simp [flashedOsii, hname, hfile]
  | some data =>
    have hd : ¬StitchedImage data := fun hd => h ⟨hname, data, hfile, hd⟩
    simp [flashedOsii, hname, hfile, hd]

theorem desc_get_setDesc_zero (R : OSIPHeader) (o : OSII) (j : Fin 7) :
    (R.setDesc 0 o).desc.get j = if j = 0 then o else R.desc.get j := by
  by_cases hj : j = 0
  · subst hj
    simp
  · rw [if_neg hj, OSIPHeader.desc_setDesc, Vector.get_eq_getElem, Vector.get_eq_getElem]
    exact Vector.getElem_set_ne _ _ (by simpa [Fin.ext_iff] using Ne.symm hj)

theorem desc_get_ite_zero (R : OSIPHeader) (j : Fin 7) :
    (if j = 0 then R.desc.get 0 else R.desc.get j) = R.desc.get j := by
  by_cases hj : j = 0 <;> simp [hj]

theorem CycleInv.withOob {ref : Option OSIPHeader} (hi : CycleInv files v s ref) (l : List Oob) :
    CycleInv files v { s with oob := l } ref :=
  ⟨hi.faults_nil, hi.files_eq, hi.lsb_eq, hi.slots, hi.ref_lsb⟩

theorem run_flash_zero_rejected {ref : Option OSIPHeader} {f : String} (hi : CycleInv files v s ref)
    (hacc : ¬(binName f = true ∧ ∃ data, files f = some data ∧ StitchedImage data)) :
    ∃ c l, run [.update "0", .image f] s = (c, { s with oob := s.oob ++ l }) := by
  rw [← hi.files_eq] at hacc
  exact run_flash_rejected hi.faults_nil hacc 0

theorem flash_step_none {f : String} (hi : CycleInv files v s none) (hv₁ : 1 ≤ v.toNat) (hv₂ : v.toNat < 2 ^ 22) :
    (Script.flashStitched f).restoreOk s = false ∧ CycleInv files v (runScript (flashStitchedSh f) s) none := by
  obtain ⟨hsig, hbk⟩ := hi.slots
  -- 受け付けられれば記述子 0 が主に入り、断られれば装置は変わらない。どちらでも予備は空のまま
  by_cases hacc : binName f = true ∧ ∃ data, files f = some data ∧ StitchedImage data
  · obtain ⟨hname, data, hfile, hd⟩ := hacc
    obtain ⟨s', h, hf', hfiles, -, hP, hB⟩ := run_flash_zero hi hname hfile hd hv₁ hv₂
    simp only [hbk, ne_eq, not_false_eq_true, if_true, if_false] at hP hB
    have hbk' : (hdrAt s'.dev backupLoc).sig ≠ osipSig := by rw [hB]; exact hbk
    have hr := run_restore_of_not_sig hf' hbk'
    refine ⟨by simp [Script.restoreOk, h, hr], ?_⟩
    rw [runScript_flashStitchedSh, h, hr]
    refine ⟨hf', hfiles, ?_, ⟨?_, hbk'⟩, fun _ h => nomatch h⟩
    · rw [hP, OSIPHeader.desc_sealed, OSIPHeader.desc_setDesc]
      simp only [Vector.get_eq_getElem, Fin.val_zero, Vector.getElem_set_self, lsb_placedOsii]
    · rw [hP, OSIPHeader.sig_sealed, OSIPHeader.sig_setDesc]
      exact hsig
  · obtain ⟨c, l, h⟩ := run_flash_zero_rejected hi hacc
    have hr := run_restore_of_not_sig (s := { s with oob := s.oob ++ l }) hi.faults_nil hbk
    refine ⟨by simp [Script.restoreOk, h, hr], ?_⟩
    rw [runScript_flashStitchedSh, h, hr]
    exact hi.withOob _

theorem flash_step_some {f : String} {R : OSIPHeader} (hi : CycleInv files v s (some R))
    (hv₁ : 1 ≤ v.toNat) (hv₂ : v.toNat < 2 ^ 22) :
    (Script.flashStitched f).restoreOk s = true ∧ CycleInv files v (runScript (flashStitchedSh f) s) none ∧
      ∀ j : Fin 7, (hdrAt (runScript (flashStitchedSh f) s).dev 0).desc.get j =
        if j = 0 then (flashedOsii files v f).getD (R.desc.get 0) else R.desc.get j := by
  obtain ⟨hBR, hsig⟩ := hi.slots
  by_cases hacc : binName f = true ∧ ∃ data, files f = some data ∧ StitchedImage data
  · obtain ⟨hname, data, hfile, hd⟩ := hacc
    obtain ⟨s', h, hf', hfiles, -, hP, hB⟩ := run_flash_zero hi hname hfile hd hv₁ hv₂
    simp only [hBR, hsig, ne_eq, not_true_eq_false, if_true, if_false] at hP hB
    -- 予備は基準の記述子 0 を置き換えたもので、有効なまま。主は封をし直しただけ
    set o := placedOsii data v (UInt32.ofNat ((data.length - 512) / 512)) with ho
    have hi' : CycleInv files v s' (some (R.setDesc 0 o)) := by
      refine ⟨hf', hfiles, ?_, ⟨hB, hsig⟩, fun _ hR => ?_⟩
      · rw [hP, OSIPHeader.desc_sealed]
        exact hi.lsb_eq
      · cases hR
        simp only [OSIPHeader.desc_setDesc, Vector.get_eq_getElem, Fin.val_zero, Vector.getElem_set_self, ho,
          lsb_placedOsii]
    obtain ⟨h₁, h₂, h₃⟩ := run_restore_some hi'
    refine ⟨by simp [Script.restoreOk, h, h₁], by rw [runScript_flashStitchedSh, h]; exact h₂, fun j => ?_⟩
    rw [runScript_flashStitchedSh, h, h₃, OSIPHeader.desc_sealed, flashedOsii_of_accepted hname hfile hd,
      Option.getD_some]
    exact desc_get_setDesc_zero R o j
  · -- 断られた image: 予備の基準がそのまま主へ戻る
    obtain ⟨c, l, h⟩ := run_flash_zero_rejected hi hacc
    obtain ⟨h₁, h₂, h₃⟩ := run_restore_some (hi.withOob (s.oob ++ l))
    refine ⟨by simp [Script.restoreOk, h, h₁], by rw [runScript_flashStitchedSh, h]; exact h₂, fun j => ?_⟩
    rw [runScript_flashStitchedSh, h, h₃, OSIPHeader.desc_sealed, flashedOsii_of_rejected hacc, Option.getD_none,
      desc_get_ite_zero]

/-- どのスクリプトの一回も不変条件を保つ。一巡の中の `invalidate_osip.sh` だけは除く。成功した復元は、
記述子 0 を flash が置いた記述子に、ほかを一巡の基準に戻す。 -/
theorem cycleStep_inv {ref : Option OSIPHeader} (sc : Script) (hi : CycleInv files v s ref)
    (harm : sc = .invalidateOsip → ref = none) (hv₁ : 1 ≤ v.toNat) (hv₂ : v.toNat < 2 ^ 22) :
    CycleInv files v (runScript sc.cmds s) (cycleRef sc s ref) ∧
      (cycleRef sc s ref).isSome = decide (sc = .invalidateOsip) ∧
      (sc.restoreOk s = true → ∃ R, ref = some R ∧
        ∀ j : Fin 7, (hdrAt (runScript sc.cmds s).dev 0).desc.get j =
          if j = 0 then (sc.placed files v).getD (R.desc.get 0) else R.desc.get j) := by
  cases sc with
  | invalidateOsip =>
    obtain rfl := harm rfl
    obtain ⟨hok, hi'⟩ := invalidate_step hi
    exact ⟨hi', rfl, fun h => absurd h (by rw [hok]; decide)⟩
  | flashStitched f =>
    cases ref with
    | none =>
      obtain ⟨hok, hi'⟩ := flash_step_none (f := f) hi hv₁ hv₂
      simp only [cycleRef, hok]
      exact ⟨hi', rfl, fun h => absurd h (by decide)⟩
    | some R =>
      obtain ⟨hok, hi', hdesc⟩ := flash_step_some (f := f) hi hv₁ hv₂
      simp only [cycleRef, hok, if_true]
      exact ⟨hi', rfl, fun _ => ⟨R, rfl, hdesc⟩⟩
  | restoreOsip =>
    cases ref with
    | none =>
      obtain ⟨hok, hrun⟩ := restore_step_none hi
      simp only [cycleRef, hok, Script.cmds, hrun, Bool.false_eq_true, if_false]
      exact ⟨hi, rfl, fun h => absurd h (by decide)⟩
    | some R =>
      obtain ⟨hok, hi', hdesc⟩ := restore_step_some hi
      simp only [cycleRef, hok, Script.cmds, if_true]
      exact ⟨hi', rfl, fun _ => ⟨R, rfl, fun j => by rw [hdesc, Script.placed, Option.getD_none, desc_get_ite_zero]⟩⟩

/-- 一巡の中で二度目の `invalidate_osip.sh` を走らせない列は、不変条件を保つ。列 `scs` のあとに続く
`rest` の条件も、走らせたあとの基準について運ぶ。 -/
theorem runCycle_inv (scs rest : List Script) {ref : Option OSIPHeader} (hi : CycleInv files v s ref)
    (hwf : invalidatesApart ref.isSome (scs ++ rest) = true) (hv₁ : 1 ≤ v.toNat) (hv₂ : v.toNat < 2 ^ 22) :
    CycleInv files v (runCycle scs (s, ref)).1 (runCycle scs (s, ref)).2 ∧
      invalidatesApart (runCycle scs (s, ref)).2.isSome rest = true := by
  -- 帰納法は列について、状態と基準を一般にする。一段は `cycleStep_inv`
  induction scs generalizing s ref with
  | nil => exact ⟨hi, hwf⟩
  | cons sc scs ih =>
    obtain ⟨harm, hwf'⟩ := invalidatesApart_cons hwf
    obtain ⟨hi', hsome, -⟩ := cycleStep_inv sc hi harm hv₁ hv₂
    rw [← hsome] at hwf'
    exact ih hi' hwf'

end Steps

end Kboot.Osip.UpdateOsip
