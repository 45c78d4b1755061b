import Mathlib

/-!
# 番地で引くバイトの記憶

`Nat → UInt8` を、番地ごとに 1 バイトを持つ記憶とみなす。区間の読み出し `read` と、区間への書き込み
`write` を置き、書き込みの外は変わらないこと（枠の補題）、書いたものが読めること、同じ区間への
二度の書き込みは後のものだけが残ることを示す。この節はどのプログラムの名前も使わない。
-/

namespace Store

def read (m : Nat → UInt8) (off n : Nat) : List UInt8 := (List.range n).map fun i => m (off + i)

def write (m : Nat → UInt8) (off : Nat) (bs : List UInt8) : Nat → UInt8 :=
  fun i => if off ≤ i ∧ i < off + bs.length then bs.getD (i - off) 0 else m i

variable {m : Nat → UInt8} {off n : Nat} {bs : List UInt8}

@[simp] theorem length_read (m : Nat → UInt8) (off n : Nat) : (read m off n).length = n := by
  simp [read]

@[simp] theorem getElem_read {i : Nat} (h : i < (read m off n).length) : (read m off n)[i] = m (off + i) := by
  simp [read]

@[simp] theorem read_zero (m : Nat → UInt8) (off : Nat) : read m off 0 = [] := rfl

theorem read_add (m : Nat → UInt8) (off a b : Nat) : read m off (a + b) = read m off a ++ read m (off + a) b := by
  apply List.ext_getElem (by simp)
  intro i h₁ h₂
  rw [getElem_read]
  by_cases hi : i < a
  · rw [List.getElem_append_left (by simpa using hi), getElem_read]
  · rw [List.getElem_append_right (by simpa using hi), getElem_read]
    simp only [length_read]
    congr 1
    omega

theorem read_congr {m m' : Nat → UInt8} (h : ∀ i, off ≤ i → i < off + n → m i = m' i) :
    read m off n = read m' off n := by
  apply List.ext_getElem (by simp)
  intro i _ h₂
  simp only [getElem_read]
  exact h _ (by omega) (by simpa using h₂)

@[simp] theorem write_nil (m : Nat → UInt8) (off : Nat) : write m off [] = m := by
  funext i
  simp [write]

theorem write_apply_of_lt {i : Nat} (h : i < off) : write m off bs i = m i := by
  simp only [write]
  rw [if_neg (by omega)]

theorem write_apply_of_le {i : Nat} (h : off + bs.length ≤ i) : write m off bs i = m i := by
  simp only [write]
  rw [if_neg (by omega)]

theorem write_apply_of_not_mem {i : Nat} (h : i < off ∨ off + bs.length ≤ i) : write m off bs i = m i := by
  rcases h with h | h
  · exact write_apply_of_lt h
  · exact write_apply_of_le h

theorem write_apply_add {i : Nat} (h : i < bs.length) : write m off bs (off + i) = bs[i] := by
  simp only [write]
  rw [if_pos (by omega), Nat.add_sub_cancel_left, List.getD_eq_getElem _ _ h]

@[simp] theorem read_write_self (m : Nat → UInt8) (off : Nat) (bs : List UInt8) :
    read (write m off bs) off bs.length = bs := by
  apply List.ext_getElem (by simp)
  intro i _ h₂
  rw [getElem_read, write_apply_add h₂]

/-- 書き込みの区間と交わらない読み出しは、書き込みの前と同じ。 -/
theorem read_write_of_disjoint {off' : Nat} (h : off' + n ≤ off ∨ off + bs.length ≤ off') :
    read (write m off bs) off' n = read m off' n :=
  read_congr fun _ h₁ h₂ => write_apply_of_not_mem (by omega)

theorem write_write_self {bs' : List UInt8} (hl : bs'.length = bs.length) :
    write (write m off bs') off bs = write m off bs := by
  funext i
  simp only [write, hl]
  split <;> rfl

/-- 読んだものをそのまま書き戻しても、記憶は変わらない。 -/
theorem write_read_self (m : Nat → UInt8) (off n : Nat) : write m off (read m off n) = m := by
  funext i
  simp only [write, length_read]
  split
  · rename_i h
    rw [List.getD_eq_getElem _ _ (by simp; omega), getElem_read]
    congr 1
    omega
  · rfl

theorem write_append (m : Nat → UInt8) (off : Nat) (l₁ l₂ : List UInt8) :
    write m off (l₁ ++ l₂) = write (write m off l₁) (off + l₁.length) l₂ := by
  funext i
  simp only [write, List.length_append]
  by_cases h₁ : off ≤ i ∧ i < off + l₁.length
  · rw [if_pos (by omega), if_neg (by omega), if_pos h₁, List.getD_eq_getElem _ _ (by simp; omega),
      List.getD_eq_getElem _ _ (by omega), List.getElem_append_left (by omega)]
  · by_cases h₂ : off + l₁.length ≤ i ∧ i < off + l₁.length + l₂.length
    · rw [if_pos (by omega), if_pos h₂, List.getD_eq_getElem _ _ (by simp; omega),
        List.getD_eq_getElem _ _ (by omega), List.getElem_append_right (by omega)]
      congr 1
      omega
    · rw [if_neg (by omega), if_neg h₂, if_neg h₁]

/-- 区間の内側に書いたあとの読み出しは、書いた並びを前後の元の内容で挟んだもの。 -/
theorem read_write_inside (m : Nat → UInt8) (off a c : Nat) (bs : List UInt8) :
    read (write m (off + a) bs) off (a + bs.length + c) = read m off a ++ bs ++ read m (off + a + bs.length) c := by
  rw [read_add, read_add, read_write_of_disjoint (Or.inl (Nat.le_refl _)), read_write_self, ← Nat.add_assoc,
    read_write_of_disjoint (Or.inr (Nat.le_refl _))]

/-- 書いた区間の内側の読み出しは、書いた並びの一部。 -/
theorem read_write_sub (m : Nat → UInt8) (off a n : Nat) (bs : List UInt8) (h : a + n ≤ bs.length) :
    read (write m off bs) (off + a) n = (bs.drop a).take n := by
  apply List.ext_getElem (by simp; omega)
  intro i h₁ _
  rw [getElem_read, Nat.add_assoc, write_apply_add (by simp at h₁; omega)]
  simp

theorem write_comm {off' : Nat} {bs' : List UInt8} (h : off + bs.length ≤ off' ∨ off' + bs'.length ≤ off) :
    write (write m off bs) off' bs' = write (write m off' bs') off bs := by
  funext i
  simp only [write]
  by_cases h₁ : off' ≤ i ∧ i < off' + bs'.length
  · rw [if_pos h₁, if_neg (by omega), if_pos h₁]
  · rw [if_neg h₁, if_neg h₁]

end Store
