import Kboot.Osip.Proc
import Kboot.Lib.Loops

/-!
# システムコールとメモリの上のオブジェクトの補題

`faults` が尽きた状態（どの呼び出しも成功する eMMC）での各呼び出しの結果と、`faults` の先頭が
決める結果。範囲の内側のオブジェクトの読み書きは `pure` になる。
-/

namespace Kboot.Osip

variable {s : Sys}

/-! ## システムコール -/

theorem nextOutcome_run_nil (h : s.faults = []) : nextOutcome.run s = .ok .ok s := by
  simp [nextOutcome, h]

theorem nextOutcome_run_cons {o : Outcome} {os : List Outcome} (h : s.faults = o :: os) :
    nextOutcome.run s = .ok o { s with faults := os } := by
  simp [nextOutcome, h]

theorem devOpen_run_nil (h : s.faults = []) : devOpen.run s = .ok true s := by
  simp [devOpen, nextOutcome_run_nil h]

theorem devOpen_run_cons {o : Outcome} {os : List Outcome} (h : s.faults = o :: os) :
    devOpen.run s = .ok (o != .fail) { s with faults := os } := by
  simp [devOpen, nextOutcome_run_cons h]

/-- 列の先頭が何であっても使える形。列が尽きていれば成功する。 -/
theorem devOpen_run (s : Sys) :
    devOpen.run s = .ok (s.faults.headD .ok != .fail) { s with faults := s.faults.tail } := by
  rcases s with ⟨dev, _ | ⟨o, os⟩, files, eraseSize, junk, oob⟩ <;> simp [devOpen, nextOutcome]

theorem devWrite_run (s : Sys) (off : Nat) (bs : List UInt8) :
    (devWrite off bs).run s =
      match s.faults.headD .ok with
      | .ok => .ok bs.length { s with faults := s.faults.tail, dev := Store.write s.dev off bs }
      | .short k => .ok (min k bs.length) { s with faults := s.faults.tail, dev := Store.write s.dev off (bs.take k) }
      | .fail => .ok (-1) { s with faults := s.faults.tail } := by
  rcases s with ⟨dev, _ | ⟨o, os⟩, files, eraseSize, junk, oob⟩
  · simp [devWrite, nextOutcome]
  · cases o <;> simp [devWrite, nextOutcome]

theorem devRead_run_nil (h : s.faults = []) (off n : Nat) :
    (devRead off n).run s = .ok (n, Store.read s.dev off n) s := by
  simp [devRead, nextOutcome_run_nil h]

theorem devRead_run_cons {o : Outcome} {os : List Outcome} (h : s.faults = o :: os) (off n : Nat) :
    (devRead off n).run s =
      match o with
      | .ok => .ok (n, Store.read s.dev off n) { s with faults := os }
      | .short k => .ok (min k n, Store.read s.dev off (min k n)) { s with faults := os }
      | .fail => .ok (-1, []) { s with faults := os } := by
  cases o <;> simp [devRead, nextOutcome_run_cons h]

theorem devWrite_run_nil (h : s.faults = []) (off : Nat) (bs : List UInt8) :
    (devWrite off bs).run s = .ok bs.length { s with dev := Store.write s.dev off bs } := by
  simp [devWrite, nextOutcome_run_nil h]

theorem devWrite_run_cons {o : Outcome} {os : List Outcome} (h : s.faults = o :: os) (off : Nat)
    (bs : List UInt8) :
    (devWrite off bs).run s =
      match o with
      | .ok => .ok bs.length { s with faults := os, dev := Store.write s.dev off bs }
      | .short k => .ok (min k bs.length) { s with faults := os, dev := Store.write s.dev off (bs.take k) }
      | .fail => .ok (-1) { s with faults := os } := by
  cases o <;> simp [devWrite, nextOutcome_run_cons h]

theorem lseek_of_nonneg {cur : Nat} {off : Int} (h : 0 ≤ off) : lseek cur off = off.toNat := by
  simp [lseek, Int.not_lt.mpr h]

theorem lseek_of_neg {cur : Nat} {off : Int} (h : off < 0) : lseek cur off = cur := by
  simp [lseek, h]

@[simp] theorem lseek_natCast (cur n : Nat) : lseek cur n = n := by
  simp [lseek]

@[simp] theorem lseek_zero (cur : Nat) : lseek cur 0 = 0 := by
  simp [lseek]

/-- 2^31 より小さい値は、`off_t` に変えても同じ値。 -/
theorem offT_of_lt {n : Nat} (h : n < 2 ^ 31) : offT n = n := by
  simp only [offT, Int32.toInt_ofInt]
  exact Int.bmod_eq_of_le (by simp only [Int32.size]; omega) (by simp only [Int32.size]; omega)

theorem offT_uint32 (x : UInt32) : offT x.toNat = (x.toNat : Int).bmod (2 ^ 32) := by
  rw [offT, Int32.toInt_ofInt]
  rfl

theorem toInt_toInt32 (v : UInt32) : v.toInt32.toInt = (v.toNat : Int).bmod (2 ^ 32) := by
  rw [← Int32.toInt_toBitVec, UInt32.toBitVec_toInt32, BitVec.toInt_eq_toNat_bmod]
  rfl

theorem lseek_bmod_of_lt {n : Nat} (h : n < 2 ^ 31) (cur : Nat) : lseek cur ((n : Int).bmod (2 ^ 32)) = n := by
  rw [Int.bmod_eq_of_le (by omega) (by omega), lseek_natCast]

/-- 2^31 から 2^32 のあいだの値は `off_t` では負で、`lseek` は位置を変えない。 -/
theorem lseek_bmod_of_ge {n : Nat} (h₁ : 2 ^ 31 ≤ n) (h₂ : n < 2 ^ 32) (cur : Nat) :
    lseek cur ((n : Int).bmod (2 ^ 32)) = cur := by
  apply lseek_of_neg
  rw [Int.bmod_def]
  push_cast
  rw [Int.emod_eq_of_lt (by omega) (by omega), if_neg (by omega)]
  omega

@[simp] theorem uint32_ofInt_natCast (n : Nat) : UInt32.ofInt n = UInt32.ofNat n := by
  apply UInt32.toNat_inj.mp
  simp [UInt32.ofInt]
  omega

/-! ## オブジェクト -/

theorem headerByte_of_lt (osip : OSIPHeader) {i : Nat} (h : i < 200) :
    headerByte osip i = pure (osip.toBytes.getD i 0) := by
  simp [headerByte, h]

theorem descRead_of_lt (osip : OSIPHeader) (j : Fin 7) : descRead osip j = pure (osip.desc.get j) := by
  have h : 0 ≤ (j : Int) ∧ (j : Int) < 7 := by omega
  simp [descRead, h]

theorem descWrite_of_lt (osip : OSIPHeader) (j : Fin 7) (o : OSII) :
    descWrite osip j o = pure (osip.setDesc j o) := by
  have h : 0 ≤ (j : Int) ∧ (j : Int) < 7 := by omega
  simp [descWrite, h]

theorem descRead_run_of_not_lt (osip : OSIPHeader) {i : Int} (h : ¬(0 ≤ i ∧ i < 7)) (s : Sys) :
    (descRead osip i).run s =
      .ok (OSII.ofBytes ((List.range 24).map fun k => s.junk (32 + 24 * i + k)))
        { s with oob := s.oob ++ [.header (32 + 24 * i)] } := by
  simp [descRead, h, logOob]

theorem descWrite_run_of_not_lt (osip : OSIPHeader) {i : Int} (h : ¬(0 ≤ i ∧ i < 7)) (o : OSII) (s : Sys) :
    (descWrite osip i o).run s = .error (.ub .descIndex) s := by
  simp only [descWrite, h, dite_false]
  rfl

theorem imageByte_of_lt {data : List UInt8} {i : Nat} (h : i < data.length) :
    imageByte data i = pure data[i] := by
  simp [imageByte, h]

theorem imageRead_of_le {data : List UInt8} {off n : Nat} (h : off + n ≤ data.length) :
    imageRead data off n = pure ((data.drop off).take n) := by
  have hmap : ((data.drop off).take n) = (List.range n).map fun k => data.getD (off + k) 0 := by
    apply List.ext_getElem (by simp; omega)
    intro i h₁ h₂
    simp only [List.getElem_take, List.getElem_drop, List.getElem_map, List.getElem_range]
    rw [List.getD_eq_getElem]
  rw [imageRead, hmap]
  apply Loops.mapM_eq_pure
  intro k hk
  have hk' : off + k < data.length := by simp at hk; omega
  rw [imageByte_of_lt hk', List.getD_eq_getElem _ _ hk']

theorem imageU32_of_le {data : List UInt8} {off : Nat} (h : off + 4 ≤ data.length) :
    imageU32 data off = pure (Bytes.getU32 (data.drop off)) := by
  simp [imageU32, imageRead_of_le h, Bytes.getU32, List.take_take]

theorem imageOSII_of_le {data : List UInt8} {off : Nat} (h : off + 24 ≤ data.length) :
    imageOSII data off = pure (OSII.ofBytes ((data.drop off).take 24)) := by
  simp [imageOSII, imageRead_of_le h]

theorem imageSetU32_of_le {data : List UInt8} {off : Nat} (h : off + 4 ≤ data.length) (v : UInt32) :
    imageSetU32 data off v = pure (data.take off ++ Bytes.u32 v ++ data.drop (off + 4)) := by
  simp [imageSetU32, h]

/-! ## イメージの読み出しが状態に残すもの

範囲の外を読んでも、状態には範囲の外の読み出しの記録が増えるだけ。 -/

theorem imageByte_run (data : List UInt8) (i : Nat) (s : Sys) :
    ∃ b l, (imageByte data i).run s = .ok b { s with oob := s.oob ++ l } := by
  by_cases h : i < data.length
  · exact ⟨data[i], [], by simp [imageByte, h]⟩
  · exact ⟨s.junk i, [.image i], by simp [imageByte, h, logOob]⟩

theorem mapM_imageByte_run (data : List UInt8) (g : Nat → Nat) (xs : List Nat) (s : Sys) :
    ∃ bs l, (xs.mapM fun k => imageByte data (g k)).run s = .ok bs { s with oob := s.oob ++ l } := by
  induction xs generalizing s with
  | nil => exact ⟨[], [], by simp⟩
  | cons x xs ih =>
    obtain ⟨b, l₁, h₁⟩ := imageByte_run data (g x) s
    obtain ⟨bs, l₂, h₂⟩ := ih { s with oob := s.oob ++ l₁ }
    exact ⟨b :: bs, l₁ ++ l₂, by simp [List.mapM_cons, h₁, h₂, List.append_assoc]⟩

theorem imageU32_run (data : List UInt8) (off : Nat) (s : Sys) :
    ∃ x l, (imageU32 data off).run s = .ok x { s with oob := s.oob ++ l } := by
  obtain ⟨bs, l, h⟩ := mapM_imageByte_run data (off + ·) (List.range 4) s
  exact ⟨Bytes.getU32 bs, l, by simp [imageU32, imageRead, h]⟩

end Kboot.Osip
