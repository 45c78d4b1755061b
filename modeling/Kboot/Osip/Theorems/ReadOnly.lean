import Kboot.Osip.Lemmas.UpdateOsip
import Kboot.Lib.Frame

/-!
# 書かないコマンド行

`update_osip` の選択肢のうち、eMMC に書く処理の旗を立てるのは `--backup`、`--restore`、`--update` の三つ。
そのどれもないコマンド行は、装置の入出力がどう失敗しても、eMMC のどのバイトも変えない。`--check` は
二つの見出しを読んで表示するだけで、`--backup` のない `--invalidate` は読む前に `exit(-1)` で終わり、
`--update` のない `--image` とフィールドの選択肢は使われない。

読むだけのシステムコールとメモリの読み出しが `Sys.dev` を変えないこと（`Frame.Keeps`）を下から積み上げる。
-/

namespace Kboot.Osip

open Frame

/-! ## 読むだけの呼び出し -/

theorem nextOutcome_keepsDev : Keeps Sys.dev (fun _ => True) nextOutcome :=
  keeps_modifyGet fun s => by
    split <;> rfl

theorem devOpen_keepsDev : Keeps Sys.dev (fun _ => True) devOpen :=
  nextOutcome_keepsDev.bind fun _ _ => keeps_pure trivial

theorem devRead_keepsDev (off n : Nat) : Keeps Sys.dev (fun _ => True) (devRead off n) := by
  refine nextOutcome_keepsDev.bind fun o _ => keeps_get.bind fun _ _ => ?_
  cases o <;> exact keeps_pure trivial

theorem logOob_keepsDev (e : Oob) : Keeps Sys.dev (fun _ => True) (logOob e) :=
  keeps_modify fun _ => rfl

theorem descRead_keepsDev (osip : OSIPHeader) (i : Int) : Keeps Sys.dev (fun _ => True) (descRead osip i) := by
  unfold descRead
  split
  · exact keeps_pure trivial
  · exact (logOob_keepsDev _).bind fun _ _ => keeps_get.bind fun _ _ => keeps_pure trivial

theorem dumpOsipHeader_keepsDev (osip : OSIPHeader) :
    Keeps Sys.dev (fun _ => True) (ManageDevice.dumpOsipHeader osip) :=
  keeps_forM fun i _ => (descRead_keepsDev osip i).bind fun _ _ => keeps_pure trivial

/-- 見出しを読むだけで、書かない。 -/
theorem readOSIPLoc_keepsDev (location dump : Int) :
    Keeps Sys.dev (fun _ => True) (OsipUtils.readOSIPLoc location dump) := by
  unfold OsipUtils.readOSIPLoc
  refine devOpen_keepsDev.bind fun ok _ => keeps_ite (keeps_pure trivial) ?_
  dsimp only
  refine (devRead_keepsDev _ _).bind fun x _ => ?_
  obtain ⟨r, bs⟩ := x
  dsimp only
  refine keeps_ite (keeps_pure trivial) ?_
  -- 署名が合えば表示する: `dump_osip_header` も読むだけ
  exact keeps_ite ((dumpOsipHeader_keepsDev _).bind fun _ _ => keeps_pure trivial) (keeps_pure trivial)

namespace UpdateOsip

/-! ## 選択肢の読み取り -/

/-- eMMC に書く処理の旗を立てる選択肢。 -/
def Opt.setsWriteFlag : Opt → Bool
  | .backup | .restore | .update _ => true
  | _ => false

/-- 旗と `fwBinFile` は、それを立てる選択肢が `opts` にあるときだけ立つ。 -/
structure Vars.FlagsFrom (opts : List Opt) (v : Vars) : Prop where
  backup : v.backupFlag = true → .backup ∈ opts
  restore : v.restoreFlag = true → .restore ∈ opts
  update : v.updateFlag = true → ∃ a, .update a ∈ opts
  inval : v.invalFlag = true → ∃ a, .invalidate a ∈ opts
  image : ∀ f, v.fwBinFile = some f → .image f ∈ opts

/-- `opts` の選択肢は状態に触れず、`FlagsFrom opts` を保つ。 -/
theorem option_flagsFrom {opts : List Opt} {v : Vars} {o : Opt} (ho : o ∈ opts) (hv : v.FlagsFrom opts) :
    Keeps id (Vars.FlagsFrom opts) (option v o) := by
  cases o with
  | backup => exact keeps_pure { hv with backup := fun _ => ho }
  | restore => exact keeps_pure { hv with restore := fun _ => ho }
  | update a => exact keeps_pure { hv with update := fun _ => ⟨a, ho⟩ }
  | image f =>
    refine keeps_pure { hv with image := fun f' hf => ?_ }
    cases hf
    exact ho
  | invalidate a =>
    simp only [option]
    split
    · exact keeps_pure { hv with inval := fun _ => ⟨a, ho⟩ }
    · exact keeps_throw _
  | help | unknown => exact keeps_throw _
  | check | revmaj _ | revmin _ | addr _ | entry _ | lba _ | size _ | attrib _ =>
    exact keeps_pure ⟨hv.backup, hv.restore, hv.update, hv.inval, hv.image⟩

/-- 始めはどの旗も立っていない。 -/
theorem flagsFrom_init (opts : List Opt) : Vars.init.FlagsFrom opts where
  backup h := by cases h
  restore h := by cases h
  update h := by cases h
  inval h := by cases h
  image _ h := by cases h

theorem foldlM_option_flagsFrom (opts : List Opt) :
    Keeps id (Vars.FlagsFrom opts) (opts.foldlM option Vars.init) :=
  keeps_foldlM (fun _ hv _ ho => option_flagsFrom ho hv) (flagsFrom_init opts)

/-- 書く旗を立てる選択肢がなければ、書く旗はどれも立たない。 -/
theorem Vars.FlagsFrom.readOnly {opts : List Opt} {v : Vars} (hv : v.FlagsFrom opts)
    (h : ∀ o ∈ opts, o.setsWriteFlag = false) :
    v.backupFlag = false ∧ v.restoreFlag = false ∧ v.updateFlag = false := by
  refine ⟨Bool.eq_false_iff.mpr fun hf => ?_, Bool.eq_false_iff.mpr fun hf => ?_, Bool.eq_false_iff.mpr fun hf => ?_⟩
  · exact absurd (h _ (hv.backup hf)) (by decide)
  · exact absurd (h _ (hv.restore hf)) (by decide)
  · obtain ⟨a, ha⟩ := hv.update hf
    exact absurd (h _ ha) (by simp [Opt.setsWriteFlag])

/-! ## 旗ごとの処理 -/

/-- `--backup` がなければ、`--invalidate` は読む前に `error:` へ飛ぶ。 -/
theorem invalCase_keepsDev {v : Vars} (hb : v.backupFlag = false) : Keeps Sys.dev (fun _ => True) (invalCase v) := by
  unfold invalCase
  refine keeps_ite ?_ (keeps_pure trivial)
  rw [hb]
  exact keeps_throw_bind _ _

theorem checkCase_keepsDev (v : Vars) : Keeps Sys.dev (fun _ => True) (checkCase v) := by
  unfold checkCase
  refine keeps_ite ?_ (keeps_pure trivial)
  refine (readOSIPLoc_keepsDev _ _).bind fun _ _ => ?_
  dsimp only
  refine keeps_ite (keeps_throw_bind _ _) ?_
  exact (readOSIPLoc_keepsDev _ _).bind fun _ _ => keeps_ite (keeps_throw _) (keeps_pure trivial)

theorem main_keepsDev {opts : List Opt} (h : ∀ o ∈ opts, o.setsWriteFlag = false) :
    Keeps Sys.dev (fun _ => True) (main opts) := by
  unfold main
  refine ((foldlM_option_flagsFrom opts).of_id Sys.dev).bind fun v hv => ?_
  dsimp only
  refine keeps_ite (keeps_throw_bind _ _) ?_
  -- 書く三つの処理は、旗が立っていないので何もしない
  obtain ⟨hb, hr, hu⟩ := hv.readOnly h
  rw [backupCase_of_false hb, restoreCase_of_false hr, updateCase_of_false hu]
  simp only [pure_bind]
  exact (invalCase_keepsDev hb).bind fun _ _ => (checkCase_keepsDev v).bind fun _ _ => keeps_throw _

theorem run_snd (opts : List Opt) (s : Sys) : (run opts s).2 = resultState ((main opts).run s) := by
  unfold run
  split <;> simp_all

end UpdateOsip

end Kboot.Osip
