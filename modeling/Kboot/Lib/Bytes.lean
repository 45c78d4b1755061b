import Mathlib

/-!
# リトルエンディアンのバイト列と、バイト列の排他的論理和

固定幅の整数を下位のバイトから並べる符号と、その逆。あわせて、バイト列の排他的論理和 `xorSum` と、
1 バイトを置き換えて全体の排他的論理和を 0 にする、検査用のバイトの法則を置く。
この節はどのプログラムの名前も使わない。
-/

namespace Bytes

/-! ## リトルエンディアン -/

/-- `n` の下位 `w` バイトを、下位から並べたもの。 -/
def leBytes : Nat → Nat → List UInt8
  | 0, _ => []
  | w + 1, n => UInt8.ofNat (n % 256) :: leBytes w (n / 256)

def leNat : List UInt8 → Nat
  | [] => 0
  | b :: bs => b.toNat + 256 * leNat bs

@[simp] theorem leBytes_zero (n : Nat) : leBytes 0 n = [] := rfl

@[simp] theorem leBytes_succ (w n : Nat) :
    leBytes (w + 1) n = UInt8.ofNat (n % 256) :: leBytes w (n / 256) := rfl

@[simp] theorem leNat_nil : leNat [] = 0 := rfl

@[simp] theorem leNat_cons (b : UInt8) (bs : List UInt8) : leNat (b :: bs) = b.toNat + 256 * leNat bs :=
  rfl

@[simp] theorem length_leBytes (w n : Nat) : (leBytes w n).length = w := by
  induction w generalizing n with
  | zero => rfl
  | succ w ih => simp [ih]

theorem leNat_leBytes (w n : Nat) : leNat (leBytes w n) = n % 256 ^ w := by
  induction w generalizing n with
  | zero => simp [Nat.mod_one]
  | succ w ih =>
      have hb : (UInt8.ofNat (n % 256)).toNat = n % 256 := by
        simp only [UInt8.toNat_ofNat']; omega
      rw [leBytes_succ, leNat_cons, ih, hb, pow_succ', Nat.mod_mul]

theorem leNat_lt (bs : List UInt8) : leNat bs < 256 ^ bs.length := by
  induction bs with
  | nil => simp
  | cons b bs ih =>
      have hb := b.toNat_lt
      rw [leNat_cons, List.length_cons, pow_succ']
      omega

theorem leBytes_leNat (bs : List UInt8) : leBytes bs.length (leNat bs) = bs := by
  induction bs with
  | nil => rfl
  | cons b bs ih =>
      have hb := b.toNat_lt
      have hmod : (b.toNat + 256 * leNat bs) % 256 = b.toNat := by omega
      have hdiv : (b.toNat + 256 * leNat bs) / 256 = leNat bs := by omega
      simp only [List.length_cons, leBytes_succ, leNat_cons, hmod, hdiv, ih, UInt8.ofNat_toNat]

theorem leBytes_mod (w n : Nat) : leBytes w (n % 256 ^ w) = leBytes w n := by
  conv_rhs => rw [← leBytes_leNat (leBytes w n)]
  rw [length_leBytes, leNat_leBytes]

/-! ## 固定幅の整数 -/

def u16 (x : UInt16) : List UInt8 := leBytes 2 x.toNat

def u32 (x : UInt32) : List UInt8 := leBytes 4 x.toNat

def getU8 (bs : List UInt8) : UInt8 := bs.headD 0

def getU16 (bs : List UInt8) : UInt16 := UInt16.ofNat (leNat (bs.take 2))

def getU32 (bs : List UInt8) : UInt32 := UInt32.ofNat (leNat (bs.take 4))

@[simp] theorem length_u16 (x : UInt16) : (u16 x).length = 2 := length_leBytes _ _

@[simp] theorem length_u32 (x : UInt32) : (u32 x).length = 4 := length_leBytes _ _

@[simp] theorem getU16_u16_append (x : UInt16) (rest : List UInt8) : getU16 (u16 x ++ rest) = x := by
  have hx := x.toNat_lt
  simp only [getU16, u16, List.take_left' (length_leBytes 2 x.toNat), leNat_leBytes]
  rw [Nat.mod_eq_of_lt (by simpa using hx), UInt16.ofNat_toNat]

@[simp] theorem getU32_u32_append (x : UInt32) (rest : List UInt8) : getU32 (u32 x ++ rest) = x := by
  have hx := x.toNat_lt
  simp only [getU32, u32, List.take_left' (length_leBytes 4 x.toNat), leNat_leBytes]
  rw [Nat.mod_eq_of_lt (by simpa using hx), UInt32.ofNat_toNat]

@[simp] theorem getU32_u32 (x : UInt32) : getU32 (u32 x) = x := by
  simpa using getU32_u32_append x []

@[simp] theorem getU8_cons (b : UInt8) (rest : List UInt8) : getU8 (b :: rest) = b := rfl

theorem getU8_drop (l : List UInt8) (k : Nat) : getU8 (l.drop k) = l.getD k 0 := by
  simp [getU8, List.headD_eq_head?_getD, List.head?_drop]

/-! 読んでから書くと、読んだバイトに戻る。 -/

theorem u16_getU16 {l : List UInt8} (h : 2 ≤ l.length) : u16 (getU16 l) = l.take 2 := by
  have hlen : (l.take 2).length = 2 := by simp; omega
  have hlt := leNat_lt (l.take 2)
  rw [hlen] at hlt
  conv_rhs => rw [← leBytes_leNat (l.take 2), hlen]
  simp only [u16, getU16, UInt16.toNat_ofNat']
  rw [Nat.mod_eq_of_lt (by simpa using hlt)]

theorem u32_getU32 {l : List UInt8} (h : 4 ≤ l.length) : u32 (getU32 l) = l.take 4 := by
  have hlen : (l.take 4).length = 4 := by simp; omega
  have hlt := leNat_lt (l.take 4)
  rw [hlen] at hlt
  conv_rhs => rw [← leBytes_leNat (l.take 4), hlen]
  simp only [u32, getU32, UInt32.toNat_ofNat']
  rw [Nat.mod_eq_of_lt (by simpa using hlt)]

theorem getU8_singleton {l : List UInt8} (h : 1 ≤ l.length) : [getU8 l] = l.take 1 := by
  cases l with
  | nil => simp at h
  | cons b l => simp [getU8]

theorem take_append_take_drop (l : List UInt8) (a b : Nat) : l.take a ++ (l.drop a).take b = l.take (a + b) :=
  (List.take_add ..).symm

/-- 位置 `p` からの `k` バイトの窓は、一つずつの読み出しで決まる。 -/
theorem take_drop_eq_iff_getD {α : Type} {l s : List α} {p k : Nat} (hp : p + k ≤ l.length) (hs : s.length = k)
    (d : α) : (l.drop p).take k = s ↔ ∀ i < k, l.getD (p + i) d = s.getD i d := by
  constructor
  · rintro rfl i hi
    simp [List.getD_eq_getElem?_getD, hi, List.getElem?_drop]
  · intro h
    apply List.ext_getElem (by simp; omega)
    intro i h₁ h₂
    have hi := h i (by omega)
    simp only [List.getD_eq_getElem?_getD] at hi
    rw [List.getElem?_eq_getElem (by omega), List.getElem?_eq_getElem h₂] at hi
    simpa using hi

/-! 短く読んで残りを 0 で埋めた並びは、バイトごとに元の並び以下なので、そこから読む欄の値も元以下。 -/

/-- バイトごとに小さい並び。 -/
def BytesLe (a b : List UInt8) : Prop := List.Forall₂ (fun x y => x.toNat ≤ y.toNat) a b

theorem leNat_le_of_bytesLe {a b : List UInt8} (h : BytesLe a b) : leNat a ≤ leNat b := by
  induction h with
  | nil => exact le_refl _
  | cons hxy _ ih =>
    rw [leNat_cons, leNat_cons]
    omega

theorem BytesLe.drop {a b : List UInt8} (h : BytesLe a b) (n : Nat) : BytesLe (a.drop n) (b.drop n) :=
  List.forall₂_drop n h

theorem getU8_le_of_bytesLe {a b : List UInt8} (h : BytesLe a b) : (getU8 a).toNat ≤ (getU8 b).toNat := by
  cases h with
  | nil => exact le_refl _
  | cons hxy _ => exact hxy

theorem getU16_le_of_bytesLe {a b : List UInt8} (h : BytesLe a b) : (getU16 a).toNat ≤ (getU16 b).toNat := by
  -- 2 バイトの値は 2^16 より小さいので、`UInt16.ofNat` は値を変えない
  have hfit : ∀ l : List UInt8, (getU16 l).toNat = leNat (l.take 2) := by
    intro l
    have hlt := leNat_lt (l.take 2)
    have hlen : (l.take 2).length ≤ 2 := by simp
    have hpow : 256 ^ (l.take 2).length ≤ 256 ^ 2 := Nat.pow_le_pow_right (by norm_num) hlen
    rw [getU16, UInt16.toNat_ofNat', Nat.mod_eq_of_lt (show leNat (l.take 2) < 65536 by omega)]
  rw [hfit, hfit]
  exact leNat_le_of_bytesLe (List.forall₂_take 2 h)

/-- 先頭の `m` バイトのあとを 0 で埋めた並びは、バイトごとに元の並び以下。 -/
theorem bytesLe_take_append_zeros (l : List UInt8) (m : Nat) :
    BytesLe (l.take m ++ List.replicate (l.length - m) 0) l := by
  induction l generalizing m with
  | nil => simp [BytesLe]
  | cons x l ih =>
    cases m with
    | zero =>
      have h := ih 0
      simp only [List.take_zero, List.nil_append, Nat.sub_zero] at h ⊢
      rw [List.length_cons, List.replicate_succ]
      exact List.Forall₂.cons (Nat.zero_le _) h
    | succ m =>
      rw [List.take_succ_cons, List.length_cons, Nat.add_sub_add_right, List.cons_append]
      exact List.Forall₂.cons (le_refl _) (ih m)

/-! `int` の値を `uint32` に写す。32 ビットに収まる自然数は値が変わらず、大小もそのまま。 -/

theorem toNat_ofInt_natCast {k : Nat} (hk : k < 2 ^ 32) : (UInt32.ofInt (k : Int)).toNat = k := by
  simp [UInt32.ofInt]
  omega

theorem ofInt_natCast_ne_neg_one {k : Nat} (hk : k < 2 ^ 32 - 1) : UInt32.ofInt (k : Int) ≠ UInt32.ofInt (-1) := by
  intro h
  have h' := congrArg UInt32.toNat h
  rw [toNat_ofInt_natCast (by omega), show (UInt32.ofInt (-1)).toNat = 2 ^ 32 - 1 from rfl] at h'
  omega

theorem ofInt_natCast_lt_iff {a b : Nat} (ha : a < 2 ^ 32) (hb : b < 2 ^ 32) :
    UInt32.ofInt (a : Int) < UInt32.ofInt (b : Int) ↔ a < b := by
  rw [UInt32.lt_iff_toNat_lt, toNat_ofInt_natCast ha, toNat_ofInt_natCast hb]

/-! ## 固定幅の符号を並べた列 -/

theorem length_flatMap_of_const {α β : Type} {f : α → List β} {w : Nat} (hf : ∀ a, (f a).length = w) :
    ∀ l : List α, (l.flatMap f).length = w * l.length
  | [] => by simp
  | a :: l => by
      rw [List.flatMap_cons, List.length_append, hf, length_flatMap_of_const hf l, List.length_cons,
        Nat.mul_succ, Nat.add_comm]

/-- 幅 `w` の符号を並べた列を `w * i` バイト落とすと、`i` 番目の符号から始まる。 -/
theorem drop_flatMap_append {α β : Type} {f : α → List β} {w : Nat} (hf : ∀ a, (f a).length = w)
    (l : List α) (rest : List β) {i : Nat} (hi : i < l.length) :
    (l.flatMap f ++ rest).drop (w * i) = f l[i] ++ ((l.drop (i + 1)).flatMap f ++ rest) := by
  induction l generalizing i with
  | nil => simp at hi
  | cons a l ih =>
      cases i with
      | zero => simp
      | succ i =>
          have hi' : i < l.length := by simpa using hi
          rw [List.flatMap_cons, List.append_assoc, Nat.mul_succ, Nat.add_comm, ← List.drop_drop,
            List.drop_left' (hf a), ih hi']
          simp

theorem ofFn_dec_flatMap {α : Type} {n w : Nat} {enc : α → List UInt8} {dec : List UInt8 → α}
    (hw : ∀ a, (enc a).length = w) (hd : ∀ a r, dec (enc a ++ r) = a) (v : Vector α n) (rest : List UInt8) :
    Vector.ofFn (fun i : Fin n => dec ((v.toList.flatMap enc ++ rest).drop (w * i))) = v := by
  ext i hi
  rw [Vector.getElem_ofFn, drop_flatMap_append hw _ _ (by simpa using hi), hd, Vector.getElem_toList]

theorem flatMap_ofFn_dec {α : Type} {w : Nat} {enc : α → List UInt8} {dec : List UInt8 → α}
    (he : ∀ l : List UInt8, w ≤ l.length → enc (dec l) = l.take w) :
    ∀ (n : Nat) {l : List UInt8}, w * n ≤ l.length →
      (List.ofFn fun i : Fin n => dec (l.drop (w * i))).flatMap enc = l.take (w * n)
  | 0, _, _ => by simp
  | n + 1, l, hl => by
      rw [List.ofFn_succ, List.flatMap_cons]
      have ih := flatMap_ofFn_dec he n (l := l.drop w) (by simp; rw [Nat.mul_succ] at hl; omega)
      simp only [Fin.val_zero, Nat.mul_zero, List.drop_zero, Fin.val_succ, Nat.mul_succ, Nat.add_comm _ w,
        ← List.drop_drop] at ih ⊢
      rw [he l (by rw [Nat.mul_succ] at hl; omega), ih, List.take_add]

theorem flatMap_set {α β : Type} (f : α → List β) (l : List α) {i : Nat} (hi : i < l.length) (a : α) :
    (l.set i a).flatMap f = (l.take i).flatMap f ++ f a ++ (l.drop (i + 1)).flatMap f := by
  rw [List.set_eq_take_append_cons_drop, if_pos hi]
  simp

theorem flatMap_eq_getElem {α β : Type} (f : α → List β) (l : List α) {i : Nat} (hi : i < l.length) :
    l.flatMap f = (l.take i).flatMap f ++ f l[i] ++ (l.drop (i + 1)).flatMap f := by
  conv_lhs => rw [← List.set_getElem_self hi]
  exact flatMap_set f l hi _

/-! ## 排他的論理和 -/

def xorSum (bs : List UInt8) : UInt8 := bs.foldl (· ^^^ ·) 0

theorem foldl_xor (c : UInt8) (bs : List UInt8) : bs.foldl (· ^^^ ·) c = c ^^^ xorSum bs := by
  induction bs generalizing c with
  | nil => simp [xorSum]
  | cons b bs ih =>
      have hcons : xorSum (b :: bs) = b ^^^ xorSum bs := by
        show List.foldl _ (0 ^^^ b) bs = _
        rw [ih, zero_xor]
      rw [List.foldl_cons, ih, hcons, UInt8.xor_assoc]

@[simp] theorem xorSum_nil : xorSum [] = 0 := rfl

@[simp] theorem xorSum_cons (b : UInt8) (bs : List UInt8) : xorSum (b :: bs) = b ^^^ xorSum bs := by
  show List.foldl _ (0 ^^^ b) bs = _
  rw [foldl_xor, zero_xor]

@[simp] theorem xorSum_append (l₁ l₂ : List UInt8) : xorSum (l₁ ++ l₂) = xorSum l₁ ^^^ xorSum l₂ := by
  induction l₁ with
  | nil => simp
  | cons b l₁ ih => simp [ih, UInt8.xor_assoc]

theorem xorSum_set (l : List UInt8) {i : Nat} (hi : i < l.length) (b : UInt8) :
    xorSum (l.set i b) = xorSum l ^^^ l[i] ^^^ b := by
  induction l generalizing i with
  | nil => simp at hi
  | cons a l ih =>
      cases i with
      | zero =>
          simp only [List.set_cons_zero, xorSum_cons, List.getElem_cons_zero]
          rw [UInt8.xor_comm a (xorSum l), UInt8.xor_assoc (xorSum l) a a]
          simp [UInt8.xor_comm]
      | succ i =>
          simp only [List.set_cons_succ, xorSum_cons, List.getElem_cons_succ]
          rw [ih (by simpa using hi)]
          simp [UInt8.xor_assoc]

/-- 検査用のバイトの法則: 位置 `i` を 0 にして全体の排他的論理和 `c` を取り、位置 `i` に `c` を
書くと、全体の排他的論理和は 0 になる。 -/
theorem xorSum_set_xorSum {l : List UInt8} {i : Nat} (hi : i < l.length) :
    xorSum (l.set i (xorSum (l.set i 0))) = 0 := by
  have h0 : i < (l.set i 0).length := by simpa using hi
  rw [← List.set_set (l := l) (a := 0), xorSum_set _ h0]
  simp

theorem foldl_range_getD_xor (l : List UInt8) {n : Nat} (h : n ≤ l.length) :
    (List.range n).foldl (fun c i => c ^^^ l.getD i 0) 0 = xorSum (l.take n) := by
  induction n with
  | zero => simp
  | succ n ih =>
    rw [List.range_succ, List.foldl_append, ih (by omega), List.take_add_one, xorSum_append,
      List.getElem?_eq_getElem (by omega)]
    simp [List.getElem?_eq_getElem (show n < l.length by omega)]

end Bytes
