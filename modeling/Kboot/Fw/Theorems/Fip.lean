import Kboot.Fw.IfwiVersionCheck

/-!
# crack_update_fw が見つける見出し

`findFipLoop` は位置 `p` で 4 バイトを読み、`p + 1` へ戻る。したがって `p, p + 1, …` の順にすべての
位置を試し、`"$FIP"` のある最初の位置 `q` で、位置 `q + 1` のストリームを返す。`ftell - 1` はその
`q` で、見出しの 44 バイトがファイルに収まれば、その `ifwi_rev` が版になる。
-/

namespace Kboot.Fw.IfwiVersionCheck

open Stdio Bytes

def fipBytes : List UInt8 := [0x24, 0x46, 0x49, 0x50]

/-- 位置 `q` からの 4 バイトが `"$FIP"`。 -/
def fipAt (b : List UInt8) (q : Nat) : Prop := (b.drop q).take 4 = fipBytes

instance (b : List UInt8) (q : Nat) : Decidable (fipAt b q) := inferInstanceAs (Decidable (_ = _))

/-- 位置 `p` 以後で `"$FIP"` のある最初の位置。 -/
def fipFrom (b : List UInt8) (p : Nat) : Option Nat :=
  (List.range' p (b.length + 1 - p)).find? fun q => decide (fipAt b q)

variable {b : List UInt8}

theorem le_of_fipAt {q : Nat} (h : fipAt b q) : q + 4 ≤ b.length := by
  have hl := congrArg List.length h
  simp only [List.length_take, List.length_drop, fipBytes, List.length_cons, List.length_nil] at hl
  omega

theorem getU32_eq_fipPattern_iff {bs : List UInt8} (h : bs.length = 4) : getU32 bs = fipPattern ↔ bs = fipBytes := by
  constructor
  · intro he
    have hu := u32_getU32 (l := bs) (by omega)
    rw [he, List.take_of_length_le (by omega)] at hu
    rw [← hu]
    rfl
  · rintro rfl
    rfl

/-- `p` から 4 バイト読めれば、繰り返しの一回は `"$FIP"` で止まるか、`p + 1` から続ける。 -/
theorem findFipLoop_at {tmp : UInt32} (htmp : tmp ≠ fipPattern) {p : Nat} (hp : p + 4 ≤ b.length) :
    findFipLoop tmp ⟨b, p, false⟩ =
      findFipLoop (getU32 ((b.drop p).take 4)) ⟨b, p + 1, false⟩ := by
  have hr := fread_at b hp
  have he : (fread ⟨b, p, false⟩ 4).2.eof = false := by rw [hr]
  rw [findFipLoop, if_neg htmp, dif_neg (by simp [he])]
  simp only [hr, ftell]
  rw [fseek_of_nonneg (by omega)]
  simp

theorem findFipLoop_end {tmp : UInt32} (htmp : tmp ≠ fipPattern) {p : Nat} (hp : b.length < p + 4) :
    findFipLoop tmp ⟨b, p, false⟩ = none := by
  rw [findFipLoop, if_neg htmp, dif_pos (eof_fread_of_lt (by dsimp only; omega))]

theorem fipFrom_eq_none_of_lt {p : Nat} (hp : b.length < p + 4) : fipFrom b p = none := by
  rw [fipFrom, List.find?_range'_eq_none]
  intro q hq _
  simpa using fun h => absurd (le_of_fipAt h) (by omega)

theorem fipFrom_eq_cons {p : Nat} (hp : p ≤ b.length) :
    fipFrom b p = if fipAt b p then some p else fipFrom b (p + 1) := by
  rw [fipFrom, show b.length + 1 - p = (b.length - p) + 1 by omega, List.range'_succ]
  by_cases h : fipAt b p
  · simp [h]
  · simp [h, fipFrom, show b.length + 1 - (p + 1) = b.length - p by omega]

/-- 位置 `p` から始めた繰り返しは、`p` 以後の最初の `"$FIP"` の一つ先の位置で止まる。尺度は `findFipLoop`
と同じく残りのバイトの数。 -/
theorem findFipLoop_eq {tmp : UInt32} (htmp : tmp ≠ fipPattern) (p : Nat) :
    findFipLoop tmp ⟨b, p, false⟩ = (fipFrom b p).map fun q => ⟨b, q + 1, false⟩ := by
  by_cases hp : p + 4 ≤ b.length
  · rw [findFipLoop_at htmp hp, fipFrom_eq_cons (by omega)]
    by_cases hq : fipAt b p
    · have hpat : getU32 ((b.drop p).take 4) = fipPattern := (getU32_eq_fipPattern_iff (by simp; omega)).mpr hq
      rw [findFipLoop, if_pos hpat, if_pos hq]
      rfl
    · have hpat : getU32 ((b.drop p).take 4) ≠ fipPattern := mt (getU32_eq_fipPattern_iff (by simp; omega)).mp hq
      rw [if_neg hq]
      exact findFipLoop_eq hpat (p + 1)
  · rw [findFipLoop_end htmp (by omega), fipFrom_eq_none_of_lt (by omega)]
    rfl
termination_by b.length + 1 - p

theorem ifwiVersion_toNat (major minor : UInt8) :
    ((major.toUInt32 <<< 8) + minor.toUInt32).toNat = (major.toNat <<< 8) + minor.toNat := by
  have ha := major.toNat_lt
  rw [UInt32.toNat_add, UInt32.toNat_shiftLeft, Nat.shiftLeft_eq, Nat.shiftLeft_eq,
    UInt8.toNat_toUInt32, UInt8.toNat_toUInt32, show UInt32.toNat 8 % 32 = 8 from rfl]
  have hb := minor.toNat_lt
  omega

theorem getU8_drop_take {l : List UInt8} {p k i : Nat} (hi : i < k) :
    getU8 (((l.drop p).take k).drop i) = l.getD (p + i) 0 := by
  rw [getU8_drop]
  simp [List.getD_eq_getElem?_getD, hi, List.getElem?_drop]

/-- 最初の `"$FIP"` の位置 `p` で 44 バイトが読めれば、`crack_update_fw` はその見出しの版を返す。 -/
theorem crackUpdateFw_of_fipFrom {p : Nat} (hp : fipFrom b 0 = some p) :
    crackUpdateFw (some b) =
      if p + fipHeaderSize ≤ b.length then ((((b.getD (p + 41) 0).toNat <<< 8) + (b.getD (p + 40) 0).toNat : Nat) : Int)
      else -1 := by
  have hloop := findFipLoop_eq (b := b) (show (0 : UInt32) ≠ fipPattern by decide) 0
  rw [hp] at hloop
  have hloc : ftell ⟨b, p + 1, false⟩ - 1 = (p : Int) := by simp [ftell]
  simp only [crackUpdateFw, fopen, Option.map_some, hloop, Option.map_some, hloc,
    fseek_of_nonneg (Int.natCast_nonneg p), Int.toNat_natCast]
  by_cases hh : p + fipHeaderSize ≤ b.length
  · rw [fread_at b hh, if_pos hh]
    simp only [Bool.false_eq_true, if_false, IFWIRev.ofFip, ifwiVersion_toNat,
      getU8_drop_take (show 41 < fipHeaderSize by decide), getU8_drop_take (show 40 < fipHeaderSize by decide)]
  · rw [if_pos (eof_fread_of_lt (by simp only [fipHeaderSize] at hh ⊢; omega)), if_neg hh]

theorem crackUpdateFw_of_fipFrom_none (hp : fipFrom b 0 = none) : crackUpdateFw (some b) = -1 := by
  have hloop := findFipLoop_eq (b := b) (show (0 : UInt32) ≠ fipPattern by decide) 0
  rw [hp] at hloop
  simp only [crackUpdateFw, fopen, Option.map_some, hloop, Option.map_none]

/-- `fipFrom b 0` は `"$FIP"` のある最も小さい位置。 -/
theorem fipFrom_zero_eq_some_iff {p : Nat} : fipFrom b 0 = some p ↔ IsLeast {q | fipAt b q} p := by
  rw [fipFrom, List.find?_range'_eq_some]
  constructor
  · rintro ⟨hp, -, hmin⟩
    refine ⟨of_decide_eq_true hp, fun q hq => ?_⟩
    by_contra hlt
    have := hmin q (Nat.zero_le q) (by omega)
    simp only [Bool.not_eq_true', decide_eq_false_iff_not] at this
    exact this hq
  · rintro ⟨hp, hmin⟩
    refine ⟨decide_eq_true hp, List.mem_range'_1.mpr ⟨Nat.zero_le p, by have := le_of_fipAt hp; omega⟩, ?_⟩
    intro j _ hj
    simpa using fun h => absurd (hmin h) (by omega)

theorem fipFrom_zero_eq_none_iff : fipFrom b 0 = none ↔ ∀ q, ¬fipAt b q := by
  rw [fipFrom, List.find?_range'_eq_none]
  constructor
  · intro h q hq
    have := h q (Nat.zero_le q) (by have := le_of_fipAt hq; omega)
    simp only [Bool.not_eq_true', decide_eq_false_iff_not] at this
    exact this hq
  · intro h q _ _
    simpa using h q

end Kboot.Fw.IfwiVersionCheck
