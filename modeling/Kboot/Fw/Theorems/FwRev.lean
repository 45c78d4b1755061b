import Kboot.Fw.Theorems.Fip

/-!
# ifwi_version_check の比べ方

`compare_fw_rev` は基板の版とファイルの版を `uint32` に入れて比べる。どちらの版も 2 バイトで作るので
16 ビットに収まり、失敗を表す `-1` の `uint32` の値とは重ならず、`uint32` の大小は数の大小と同じ。
したがって `main` は、引数が一つで二つの版が読めるときだけ、ファイルの版が新しければ 0、古ければ 1、
同じなら 2 を返し、ほかはすべて -1 を返す。ファイルの版は、最初の `"$FIP"` の見出しの `ifwi_rev`。
-/

namespace Kboot.Fw.IfwiVersionCheck

open Bytes

/-- 基板の版: IPC の答えの 15 バイト目を上位、14 バイト目を下位とする数。 -/
def boardVersion : Option (List UInt8) → Option Nat
  | none => none
  | some data => some ((getU8 (data.drop 15)).toNat * 256 + (getU8 (data.drop 14)).toNat)

/-- ファイルの版: 最初の `"$FIP"` の位置 `p` から見出しが収まるときの、`p + 41` を上位、`p + 40` を下位と
する数。 -/
def fileVersion : Option (List UInt8) → Option Nat
  | none => none
  | some b =>
    match fipFrom b 0 with
    | some p =>
      if p + fipHeaderSize ≤ b.length then some ((b.getD (p + 41) 0).toNat * 256 + (b.getD (p + 40) 0).toNat)
      else none
    | none => none

/-- 版を比べた答え: ファイルの版 `upd` が新しければ 0、古ければ 1、同じなら 2。 -/
def versionOrder (cur upd : Nat) : Int :=
  if cur < upd then 0 else if upd < cur then 1 else 2

theorem bytePair_lt (hi lo : UInt8) : hi.toNat * 256 + lo.toNat < 2 ^ 16 := by
  have h₁ := hi.toNat_lt
  have h₂ := lo.toNat_lt
  omega

theorem boardVersion_lt {ipc : Option (List UInt8)} {v : Nat} (h : boardVersion ipc = some v) : v < 2 ^ 16 := by
  cases ipc with
  | none => cases h
  | some data =>
    cases h
    exact bytePair_lt _ _

theorem fileVersion_lt {fw : Option (List UInt8)} {v : Nat} (h : fileVersion fw = some v) : v < 2 ^ 16 := by
  cases fw with
  | none => cases h
  | some b =>
    simp only [fileVersion] at h
    split at h
    · split_ifs at h
      cases h
      exact bytePair_lt _ _
    · cases h

theorem findFwRev_eq (ipc : Option (List UInt8)) :
    findFwRev ipc = match boardVersion ipc with
      | some v => (v : Int)
      | none => -1 := by
  cases ipc with
  | none => rfl
  | some data =>
    simp only [findFwRev, boardVersion, ifwiVersion_toNat, Nat.shiftLeft_eq]

theorem crackUpdateFw_eq (fw : Option (List UInt8)) :
    crackUpdateFw fw = match fileVersion fw with
      | some v => (v : Int)
      | none => -1 := by
  cases fw with
  | none => rfl
  | some b =>
    cases hp : fipFrom b 0 with
    | none => rw [crackUpdateFw_of_fipFrom_none hp, fileVersion, hp]
    | some p =>
      rw [crackUpdateFw_of_fipFrom hp, fileVersion, hp]
      by_cases hh : p + fipHeaderSize ≤ b.length
      · simp [hh, Nat.shiftLeft_eq]
      · simp [hh]

theorem compareFwRev_eq (ipc fw : Option (List UInt8)) :
    compareFwRev ipc fw = match boardVersion ipc, fileVersion fw with
      | some cur, some upd => versionOrder cur upd
      | _, _ => -1 := by
  rw [compareFwRev, findFwRev_eq, crackUpdateFw_eq]
  cases hc : boardVersion ipc with
  | none => simp
  | some cur =>
    cases hu : fileVersion fw with
    | none => simp
    | some upd =>
      -- 16 ビットの版は `-1` の写しと重ならず、`uint32` の大小は数の大小
      have hc' := boardVersion_lt hc
      have hu' := fileVersion_lt hu
      simp only [ofInt_natCast_ne_neg_one (show cur < 2 ^ 32 - 1 by omega),
        ofInt_natCast_ne_neg_one (show upd < 2 ^ 32 - 1 by omega), or_self, if_false, gt_iff_lt,
        ofInt_natCast_lt_iff (show cur < 2 ^ 32 by omega) (show upd < 2 ^ 32 by omega),
        ofInt_natCast_lt_iff (show upd < 2 ^ 32 by omega) (show cur < 2 ^ 32 by omega), versionOrder]

end Kboot.Fw.IfwiVersionCheck
