import Kboot.Fw.Theorems.Loadfw
import Kboot.Fw.Theorems.IfwiMain
import Kboot.Osip.Lemmas.Stitched

/-!
# 三つの `.bin` の検査

ファイル名が `.bin` で終わるかを、三つのプログラムがそれぞれ調べる。`loadfw` の `main` と `update_osip` の
`flash_stitch_image` は同じ C の書き方（`strrchr` のあと `strncmp` で 4 文字）で、NUL を含まない名前について
同じ名前を通す（`Loadfw.ExtOk`: 最後の `.` の後ろが `"bin"` で始まる）。`ifwi-update` の `checksufix` は
`strcmp` で、最後の `.` から後ろがちょうど `".bin"` のときだけ通す。`checksufix` が通す名前は、ほかの二つも
通すが、`FW.binary` はほかの二つだけが通す。
-/

namespace Kboot

open CString

theorem bne_dot_eq : (fun x : Char => x != '.') = fun x => decide (x ≠ '.') := by
  funext x
  rw [bne, show (x == '.') = decide (x = '.') from rfl, decide_not]

theorem extOk_iff_of_last {l p q : List Char} (hl : cstr l = p ++ '.' :: q) (hq : '.' ∉ q) :
    Fw.Loadfw.ExtOk l ↔ "bin".toList <+: q := by
  constructor
  · rintro ⟨p', q', hl', hq', hbin⟩
    rw [last_unique (hl.symm.trans hl') hq hq']
    exact hbin
  · intro hbin
    exact ⟨p, q, hl, hq, hbin⟩

/-- `update_osip` の `--image` と `loadfw` は、NUL を含まない名前について同じ名前を通す。 -/
theorem binName_iff_extOk {name : String} (hnul : '\x00' ∉ name.toList) :
    Osip.OsipUtils.binName name = true ↔ Fw.Loadfw.ExtOk name.toList := by
  have hc : cstr name.toList = name.toList := cstr_eq_self fun c hc h => hnul (h ▸ hc)
  simp only [Osip.OsipUtils.binName, bne_dot_eq, ← String.length_toList]
  by_cases hdot : '.' ∈ name.toList
  · -- 最後の `.` で名前を分けると、`flash_stitch_image` の拡張子はその後ろ
    obtain ⟨p, q, hpq, hq⟩ := exists_last hdot
    rw [extOk_iff_of_last (hc.trans hpq) hq, hpq, reverse_takeWhile_last hq]
    have hbne : (q.length != (p ++ '.' :: q).length) = true := by
      rw [bne_iff_ne, List.length_append, List.length_cons]
      omega
    have hbin : ".bin".toList = '.' :: "bin".toList := rfl
    rw [hbne, Bool.true_and, beq_iff_eq, hbin, show ('.' :: q).take 4 = '.' :: q.take 3 from rfl,
      List.cons.injEq, List.prefix_iff_eq_take]
    exact ⟨fun h => h.2.symm, fun h => ⟨rfl, h.symm⟩⟩
  · -- `.` がなければ、どちらも通さない
    have hall : (name.toList.reverse.takeWhile fun x => decide (x ≠ '.')).reverse = name.toList := by
      rw [List.takeWhile_eq_self_iff.mpr ?_, List.reverse_reverse]
      intro x hx
      have hne : x ≠ '.' := fun h => hdot (h ▸ List.mem_reverse.mp hx)
      simpa using hne
    rw [hall]
    simp only [bne_self_eq_false, Bool.false_and, Bool.false_eq_true, false_iff]
    rintro ⟨p, q, hpq, -, -⟩
    exact hdot (hc ▸ hpq ▸ List.mem_append_right p List.mem_cons_self)

theorem extOk_of_checksufix {l : List Char} (h : Fw.IfwiUpdate.checksufix l = 0) : Fw.Loadfw.ExtOk l := by
  obtain ⟨r, hr⟩ := (Fw.IfwiUpdate.checksufix_eq_zero_iff l).mp h
  exact ⟨r, "bin".toList, hr.symm, by decide, List.prefix_refl _⟩

/-- `update_osip --image` と `loadfw` は NUL を含まない名前について同じ名前を通し、`ifwi-update` の
`checksufix` が通す名前は、その二つも通す。通さない名前では、`flash_stitch_image` は何も変えずに
`exit(1)` で終わる。 -/
theorem bin_name_checks (name : String) (hnul : '\x00' ∉ name.toList) :
    (Osip.OsipUtils.binName name = true ↔ Fw.Loadfw.ExtOk name.toList) ∧
      (Fw.IfwiUpdate.checksufix name.toList = 0 → Fw.Loadfw.ExtOk name.toList) ∧
      (¬Fw.Loadfw.ExtOk name.toList →
        ∀ n s, (Osip.OsipUtils.flashStitchImage name n).run s = .error (.exit 1) s) := by
  refine ⟨binName_iff_extOk hnul, extOk_of_checksufix, fun hext n s => ?_⟩
  have hbin : Osip.OsipUtils.binName name = false := by
    rw [← Bool.not_eq_true, binName_iff_extOk hnul]
    exact hext
  exact Osip.OsipUtils.flashStitchImage_run_of_binName hbin n s

/-- 逆は成り立たない: `FW.binary` は `update_osip` と `loadfw` だけが通す。 -/
theorem bin_name_checks_binary :
    '\x00' ∉ "FW.binary".toList ∧
      ((Osip.OsipUtils.binName "FW.binary" = true ↔ Fw.Loadfw.ExtOk "FW.binary".toList) ∧
        (Fw.IfwiUpdate.checksufix "FW.binary".toList = 0 → Fw.Loadfw.ExtOk "FW.binary".toList) ∧
        (¬Fw.Loadfw.ExtOk "FW.binary".toList →
          ∀ n s, (Osip.OsipUtils.flashStitchImage "FW.binary" n).run s = .error (.exit 1) s)) ∧
      Osip.OsipUtils.binName "FW.binary" = true ∧ Fw.IfwiUpdate.checksufix "FW.binary".toList = -1 :=
  ⟨by decide, bin_name_checks _ (by decide), rfl, rfl⟩

end Kboot
