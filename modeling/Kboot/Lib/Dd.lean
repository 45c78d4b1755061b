import Mathlib

/-!
# dd の書き込み

`dd of=F bs=B count=C seek=S [conv=notrunc]` が出力のファイル `F` に残すもの。書き始めは `S * B` バイト
目で、入力から `C` 個のブロックを読む（どの読み出しもブロックを満たすとする）。`conv=notrunc` が
なければ、書く前にファイルを `S * B` バイトに切り詰めるか、0 で延ばす。あれば切り詰めず、末尾より先に
書けば間は 0 になる。この節はどのプログラムの名前も使わない。
-/

namespace Dd

/-- 位置 `off` から `data` で上書きした列。 -/
def splice (base : List UInt8) (off : Nat) (data : List UInt8) : List UInt8 :=
  base.take off ++ data ++ base.drop (off + data.length)

def dd (input out : List UInt8) (bs : Nat) (count : Option Nat) (seek : Nat) (notrunc : Bool) : List UInt8 :=
  let off := seek * bs
  let data := match count with
    | some c => input.take (c * bs)
    | none => input
  -- `ftruncate(fd, seek * bs)`: 長ければ切り、短ければ 0 で延ばす
  let base := if notrunc then out else (out ++ List.replicate off 0).take off
  let base := base ++ List.replicate (off - base.length) 0
  splice base off data

@[simp] theorem length_splice {base : List UInt8} {off : Nat} (h : off ≤ base.length) (data : List UInt8) :
    (splice base off data).length = max base.length (off + data.length) := by
  simp only [splice, List.length_append, List.length_take, List.length_drop]
  omega

/-- 切り詰める `dd`: 出力は `seek * bs` バイトの前の部分と、読んだもの。 -/
theorem dd_trunc (input out : List UInt8) (bs : Nat) (count : Option Nat) (seek : Nat) :
    dd input out bs count seek false =
      (out ++ List.replicate (seek * bs) 0).take (seek * bs) ++
        (match count with | some c => input.take (c * bs) | none => input) := by
  have hlen : ((out ++ List.replicate (seek * bs) 0).take (seek * bs)).length = seek * bs := by
    simp only [List.length_take, List.length_append, List.length_replicate]
    omega
  simp only [dd, Bool.false_eq_true, if_false, hlen, Nat.sub_self, List.replicate_zero, List.append_nil, splice]
  rw [List.take_of_length_le (by omega), List.drop_eq_nil_of_le (by simp [hlen])]
  simp

/-- 出力が `seek * bs` バイト以上あれば、切り詰めは前の部分を残す。 -/
theorem take_append_replicate_of_le {out : List UInt8} {n : Nat} (h : n ≤ out.length) :
    (out ++ List.replicate n 0).take n = out.take n :=
  List.take_append_of_le_length h

/-- `conv=notrunc` で出力の中に書く `dd`: その窓だけが入れ替わる。 -/
theorem dd_notrunc (input out : List UInt8) (bs seek : Nat) (h : seek * bs + input.length ≤ out.length) :
    dd input out bs none seek true = splice out (seek * bs) input := by
  simp only [dd, if_true, show seek * bs - out.length = 0 by omega, List.replicate_zero, List.append_nil]

/-- 隣り合う二つの窓への上書きは、つないだものの一度の上書き。 -/
theorem splice_splice {X d₁ d₂ : List UInt8} {off : Nat} (h : off + d₁.length + d₂.length ≤ X.length) :
    splice (splice X off d₁) (off + d₁.length) d₂ = splice X off (d₁ ++ d₂) := by
  have hoff : (X.take off).length = off := by simp; omega
  have e₁ : (X.take off).take (off + d₁.length) = X.take off := List.take_of_length_le (by rw [hoff]; omega)
  have e₂ : (X.take off).drop (off + d₁.length + d₂.length) = [] := List.drop_eq_nil_of_le (by rw [hoff]; omega)
  have e₃ : d₁.drop (off + d₁.length + d₂.length - off) = [] := List.drop_eq_nil_of_le (by omega)
  have e₄ : off + d₁.length + (off + d₁.length + d₂.length - off - d₁.length) = off + (d₁.length + d₂.length) := by
    omega
  simp only [splice, List.append_assoc, List.take_append, List.drop_append, hoff, List.length_append, e₁, e₂, e₃]
  simp [e₄]

/-- 窓が前の部分 `L` の中にあれば、上書きは後ろの部分に触れない。 -/
theorem splice_append_of_le {L R d : List UInt8} {off : Nat} (h : off + d.length ≤ L.length) :
    splice (L ++ R) off d = splice L off d ++ R := by
  simp only [splice, List.append_assoc, List.take_append_of_le_length (show off ≤ L.length by omega),
    List.drop_append_of_le_length h]

/-- `bs=1 conv=notrunc` の `dd` を、前の上書きのすぐ後ろに重ねる。 -/
theorem dd_splice_next {X d₁ d₂ : List UInt8} {off : Nat} (h : off + d₁.length + d₂.length ≤ X.length)
    {seek : Nat} (hs : seek = off + d₁.length) :
    dd d₂ (splice X off d₁) 1 none seek true = splice X off (d₁ ++ d₂) := by
  subst hs
  rw [dd_notrunc _ _ _ _ (by rw [length_splice (by omega)]; omega), Nat.mul_one, splice_splice h]

end Dd
