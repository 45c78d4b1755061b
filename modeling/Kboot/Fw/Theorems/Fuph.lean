import Kboot.Fw.IfwiUpdate
import Kboot.Lib.Bytes

/-!
# find_fuph_header_len の読む範囲

`find_fuph_header_len` は、末尾から `L = 8, 12, …, 44` の位置に `"UPH$"` を探す。バッファが 44 バイト
以上なら、読むのはバッファの中だけで、結果は `"UPH$"` のある最も小さい `L`（`fuphLen`）。44 バイトより
短いバッファでは、それより前に一致がなければポインタがバッファの先頭を越え、負の番地を読む。
`main` が渡すのは 1 バイト以上 3 MiB 以下のすべての IFWI なので、短い IFWI はこの読み出しに届く。
-/

namespace Kboot.Fw.IfwiUpdate

open CString Bytes

def uph : List UInt8 := [0x55, 0x50, 0x48, 0x24]

/-- 末尾から `L` の位置の 4 バイトが `"UPH$"`。 -/
def fuphAt (data : List UInt8) (L : Nat) : Prop :=
  L ≤ data.length ∧ (data.drop (data.length - L)).take 4 = uph

instance (data : List UInt8) (L : Nat) : Decidable (fuphAt data L) :=
  inferInstanceAs (Decidable (_ ∧ _))

/-- 探す距離 `cnt + SKIP_BYTES` の列: `8, 12, …, 44`。 -/
def fuphLens : List Nat := (List.range 10).map fun j => skipBytes + 4 * j

/-- 仕様: `"UPH$"` のある最も小さい距離。 -/
def fuphLen (data : List UInt8) : Option Nat := fuphLens.find? fun L => decide (fuphAt data L)

variable {data : List UInt8} {junk : Int → UInt8}

theorem fuphLens_drop {j : Nat} (hj : j < 10) : fuphLens.drop j = (skipBytes + 4 * j) :: fuphLens.drop (j + 1) := by
  rw [List.drop_eq_getElem_cons (by simpa [fuphLens] using hj)]
  simp [fuphLens]

theorem fuphLens_drop_of_le {j : Nat} (hj : 10 ≤ j) : fuphLens.drop j = [] :=
  List.drop_eq_nil_of_le (by simpa [fuphLens] using hj)

theorem bufMem_of_lt {i : Nat} (h : i < data.length) : bufMem data junk i = data.getD i 0 := by
  simp [bufMem, h]

theorem strncmp_window {p : Nat} (hp : p + 4 ≤ data.length) :
    ((strncmp (bufMem data junk) p fuphStr fuphStrLen).1 = 0 ↔ (data.drop p).take 4 = uph) ∧
      ∀ i ∈ (strncmp (bufMem data junk) p fuphStr fuphStrLen).2, 0 ≤ i ∧ i < data.length := by
  constructor
  · rw [strncmp_eq_zero_iff (by decide), take_drop_eq_iff_getD hp rfl 0]
    refine forall₂_congr fun i hi => ?_
    have hi4 : i < 4 := hi
    have hu : fuphStr.getD i 0 = uph.getD i 0 := by interval_cases i <;> rfl
    rw [hu, show (p : Int) + i = ((p + i : Nat) : Int) by push_cast; rfl, bufMem_of_lt (by omega)]
  · intro i hi
    have := mem_strncmp_reads hi
    simp only [fuphStrLen] at this
    omega

theorem strncmp_fuphAt {cnt : Nat} (hc : cnt + skipBytes ≤ data.length) :
    ((strncmp (bufMem data junk) ((data.length - skipBytes - cnt : Nat) : Int) fuphStr fuphStrLen).1 = 0 ↔
      fuphAt data (skipBytes + cnt)) ∧
    ∀ i ∈ (strncmp (bufMem data junk) ((data.length - skipBytes - cnt : Nat) : Int) fuphStr fuphStrLen).2,
      0 ≤ i ∧ i < data.length := by
  have hw := @strncmp_window data junk (data.length - skipBytes - cnt)
    (by simp only [skipBytes] at hc ⊢; omega)
  refine ⟨hw.1.trans ?_, hw.2⟩
  have hL : data.length - (skipBytes + cnt) = data.length - skipBytes - cnt := by omega
  simp only [fuphAt, hL, show skipBytes + cnt ≤ data.length by omega, true_and]

/-- 44 バイト以上のバッファでは、`cnt` からの繰り返しは残りの距離の最初の一致を返し、バッファの中だけを読む。 -/
theorem fuphLoop_of_le (h44 : 44 ≤ data.length) (temp : Int) (cnt : Nat)
    (ht : temp = data.length - skipBytes - cnt) (hc : cnt % 4 = 0) :
    (fuphLoop (bufMem data junk) temp cnt).1 = (fuphLens.drop (cnt / 4)).find? (fun L => decide (fuphAt data L)) ∧
      ∀ i ∈ (fuphLoop (bufMem data junk) temp cnt).2, 0 ≤ i ∧ i < data.length := by
  fun_induction fuphLoop (bufMem data junk) temp cnt with
  | case1 temp cnt h36 r hr =>
    simp only [fuphMaxLen] at h36
    have hw := @strncmp_fuphAt data junk cnt (by simp only [skipBytes]; omega)
    have hp : temp = ((data.length - skipBytes - cnt : Nat) : Int) := by simp only [skipBytes] at ht ⊢; omega
    subst hp
    have hj : skipBytes + 4 * (cnt / 4) = skipBytes + cnt := by omega
    rw [fuphLens_drop (by omega), hj, List.find?_cons_of_pos (by simpa using hw.1.mp hr)]
    exact ⟨by simp [Nat.add_comm], hw.2⟩
  | case2 temp cnt h36 r hr t ih =>
    simp only [fuphMaxLen] at h36
    have hw := @strncmp_fuphAt data junk cnt (by simp only [skipBytes]; omega)
    obtain ⟨ih₁, ih₂⟩ := ih (by rw [ht]; push_cast; ring) (by omega)
    have hp : temp = ((data.length - skipBytes - cnt : Nat) : Int) := by simp only [skipBytes] at ht ⊢; omega
    subst hp
    have hj : skipBytes + 4 * (cnt / 4) = skipBytes + cnt := by omega
    rw [show (cnt + 4) / 4 = cnt / 4 + 1 by omega] at ih₁
    rw [fuphLens_drop (by omega), hj, List.find?_cons_of_neg (by simpa using mt hw.1.mpr hr)]
    refine ⟨ih₁, fun i hi => ?_⟩
    rcases List.mem_append.mp hi with hi | hi
    · exact hw.2 i hi
    · exact ih₂ i hi
  | case3 temp cnt h36 =>
    simp only [fuphMaxLen] at h36
    rw [fuphLens_drop_of_le (by omega)]
    simp

theorem temp_mem_reads (temp : Int) : temp ∈ (strncmp (bufMem data junk) temp fuphStr fuphStrLen).2 :=
  List.mem_of_mem_head? (head_strncmp_reads temp fuphStr 3)

/-- 44 バイトより短いバッファでは、残りの距離に一致がなければ、繰り返しはいつか負の番地を読む。 -/
theorem fuphLoop_reads_neg (h44 : data.length < 44) (temp : Int) (cnt : Nat)
    (ht : temp = data.length - skipBytes - cnt) (hc : cnt % 4 = 0) (hle : cnt ≤ fuphMaxLen)
    (hnone : (fuphLens.drop (cnt / 4)).find? (fun L => decide (fuphAt data L)) = none) :
    ∃ i ∈ (fuphLoop (bufMem data junk) temp cnt).2, i < 0 := by
  fun_induction fuphLoop (bufMem data junk) temp cnt with
  | case1 temp cnt h36 r hr =>
    by_cases hneg : temp < 0
    · exact ⟨temp, temp_mem_reads temp, hneg⟩
    -- 窓がバッファの中なら、`0` は一致を意味し、残りの距離に一致がないことに反する
    have hw := @strncmp_fuphAt data junk cnt (by simp only [skipBytes] at ht ⊢; omega)
    have hp : temp = ((data.length - skipBytes - cnt : Nat) : Int) := by simp only [skipBytes] at ht ⊢; omega
    subst hp
    have hj : skipBytes + 4 * (cnt / 4) = skipBytes + cnt := by omega
    rw [fuphLens_drop (by simp only [fuphMaxLen] at h36; omega), hj,
      List.find?_cons_of_pos (by simpa using hw.1.mp hr)] at hnone
    cases hnone
  | case2 temp cnt h36 r hr t ih =>
    by_cases hneg : temp < 0
    · exact ⟨temp, List.mem_append_left _ (temp_mem_reads temp), hneg⟩
    have hw := @strncmp_fuphAt data junk cnt (by simp only [skipBytes] at ht ⊢; omega)
    -- 窓がバッファの中にあるので、`cnt + 8 ≤ n < 44` から次の回も繰り返しの中
    have hnext : cnt + 4 ≤ fuphMaxLen := by simp only [skipBytes, fuphMaxLen] at ht ⊢; omega
    have hp : temp = ((data.length - skipBytes - cnt : Nat) : Int) := by simp only [skipBytes] at ht ⊢; omega
    subst hp
    have hj : skipBytes + 4 * (cnt / 4) = skipBytes + cnt := by omega
    rw [fuphLens_drop (by simp only [fuphMaxLen] at h36; omega), hj,
      List.find?_cons_of_neg (by simpa using mt hw.1.mpr hr)] at hnone
    obtain ⟨i, hi, hneg⟩ := ih (by rw [ht]; push_cast; ring) (by omega) hnext
      (by rwa [show (cnt + 4) / 4 = cnt / 4 + 1 by omega])
    exact ⟨i, List.mem_append_right _ hi, hneg⟩
  | case3 temp cnt h36 => exact absurd hle h36

/-- 44 バイト以上のバッファでは、`find_fuph_header_len` はバッファの中だけを読み、`"UPH$"` のある最も
小さい距離を `*len` に書いて `0` を返す。なければ `-1` を返し、`*len` は変わらない。 -/
theorem findFuphHeaderLen_of_le (len : Nat) (h44 : 44 ≤ data.length) :
    (findFuphHeaderLen len data junk).1 = (match fuphLen data with | some L => (0, L) | none => (-1, len)) ∧
      ∀ i ∈ (findFuphHeaderLen len data junk).2, 0 ≤ i ∧ i < data.length := by
  obtain ⟨h₁, h₂⟩ := @fuphLoop_of_le data junk h44 ((data.length : Int) - skipBytes) 0 (by simp) rfl
  have hn : data.length ≠ 0 := by omega
  simp only [Nat.zero_div, List.drop_zero] at h₁
  simp only [findFuphHeaderLen, hn, if_false, h₁, fuphLen]
  generalize List.find? (fun L => decide (fuphAt data L)) fuphLens = o
  cases o with
  | some L => exact ⟨rfl, h₂⟩
  | none => exact ⟨rfl, h₂⟩

theorem findFuphHeaderLen_of_le_sample :
    (findFuphHeaderLen 0 (List.replicate 40 0 ++ uph ++ [0, 0, 0, 0]) fun _ => 0).1 = (0, 8) := by
  rw [(findFuphHeaderLen_of_le 0 (by decide)).1]
  decide

/-- 1 バイト以上 44 バイト未満のバッファに、中にある窓で `"UPH$"` がなければ、`find_fuph_header_len` は
バッファの先頭より前の番地を読む。 -/
theorem fuph_reads_before_buffer (len : Nat) (h₀ : 0 < data.length) (h44 : data.length < 44)
    (hnone : fuphLen data = none) : ∃ i ∈ (findFuphHeaderLen len data junk).2, i < 0 := by
  have hn : data.length ≠ 0 := by omega
  obtain ⟨i, hi, hneg⟩ := @fuphLoop_reads_neg data junk h44 ((data.length : Int) - skipBytes) 0 (by simp) rfl
    (by decide) hnone
  refine ⟨i, ?_, hneg⟩
  simp only [findFuphHeaderLen, hn, if_false]
  split <;> exact hi

theorem fuph_reads_before_buffer_one : ∃ i ∈ (findFuphHeaderLen 0 [0] fun _ => 0).2, i < 0 :=
  fuph_reads_before_buffer 0 (by decide) (by decide) (by decide)

end Kboot.Fw.IfwiUpdate
