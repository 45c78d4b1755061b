import Mathlib

/-!
# C の文字列の関数

`strncmp` は番地で引く記憶 `Int → UInt8` の上で比べ、値と一緒に読んだ番地の列を返す。読んだ番地が
バッファの中にあるかどうかは、呼ぶ側がこの列について述べる。`strstr` と `sscanf(s, "%d", &x)` は、
行のバッファの中身 `List Char` の上で、最初の NUL までを C の文字列とみなす。`%d` の値は
32 ビットの `long` に収められる（`strtol` の飽和）。この節はどのプログラムの名前も使わない。
-/

namespace CString

/-! ## strncmp -/

/-- `strncmp(p, s, k)`: `s` は終端の NUL を含む文字列。値と、`p` の側で読んだ番地。 -/
def strncmp (mem : Int → UInt8) (p : Int) : List UInt8 → Nat → Int × List Int
  | _, 0 => (0, [])
  | s, k + 1 =>
    let a := mem p
    let c := s.headD 0
    if a ≠ c then ((a.toNat : Int) - c.toNat, [p])
    else if a = 0 then (0, [p])
    else
      let r := strncmp mem (p + 1) s.tail k
      (r.1, p :: r.2)

variable {mem : Int → UInt8}

/-- 読むのは `p` からの `k` 番地の中だけ。 -/
theorem mem_strncmp_reads {p : Int} {s : List UInt8} {k : Nat} {i : Int} (hi : i ∈ (strncmp mem p s k).2) :
    p ≤ i ∧ i < p + k := by
  induction k generalizing p s with
  | zero => simp [strncmp] at hi
  | succ k ih =>
    simp only [strncmp] at hi
    split at hi
    · simp only [List.mem_singleton] at hi
      omega
    split at hi
    · simp only [List.mem_singleton] at hi
      omega
    rcases List.mem_cons.mp hi with rfl | hi
    · omega
    · have := ih hi
      omega

/-- 一文字でも比べるなら、最初に読むのは `p`。 -/
theorem head_strncmp_reads (p : Int) (s : List UInt8) (k : Nat) :
    (strncmp mem p s (k + 1)).2.head? = some p := by
  simp only [strncmp]
  split
  · rfl
  split <;> rfl

/-- 比べる `k` 文字に NUL のない `s` となら、`strncmp` が `0` を返すのは `k` バイトすべてが等しいとき。 -/
theorem strncmp_eq_zero_iff {p : Int} {s : List UInt8} {k : Nat} (hs : ∀ i < k, s.getD i 0 ≠ 0) :
    (strncmp mem p s k).1 = 0 ↔ ∀ i < k, mem (p + i) = s.getD i 0 := by
  induction k generalizing p s with
  | zero => simp [strncmp]
  | succ k ih =>
    have hhead : s.headD 0 = s.getD 0 0 := by cases s <;> rfl
    have htail : ∀ i, s.tail.getD i 0 = s.getD (i + 1) 0 := by
      intro i
      cases s <;> simp
    rw [Nat.forall_lt_succ_left]
    simp only [strncmp, Nat.cast_zero, add_zero, hhead]
    by_cases ha : mem p = s.getD 0 0
    · have ha0 : mem p ≠ 0 := ha ▸ hs 0 (by omega)
      have hrest := @ih (p + 1) s.tail (fun i hi => htail i ▸ hs (i + 1) (by omega))
      simp only [ha, ne_eq, not_true_eq_false, if_false, ha ▸ ha0, if_false, true_and, hrest, htail]
      refine forall₂_congr fun i _ => ?_
      rw [add_assoc, add_comm 1, Nat.cast_succ]
    · have hne : (mem p).toNat ≠ (s.getD 0 0).toNat := fun h => ha (UInt8.toNat_inj.mp h)
      simp only [ha, ne_eq, not_false_eq_true, if_true, false_and, iff_false]
      omega

/-! ## 行のバッファの C の文字列 -/

/-- バッファが持つ C の文字列: 最初の NUL の手前まで。 -/
def cstr (s : List Char) : List Char := s.takeWhile (· ≠ '\x00')

/-- `strstr(hay, needle)`: `needle` が最初に現れる位置。 -/
def strstr (hay needle : List Char) : Option Nat :=
  (List.range ((cstr hay).length + 1)).find? fun i => (cstr needle).isPrefixOf ((cstr hay).drop i)

/-- `strstr` が `NULL` でないのは、`needle` が `hay` の中に文字列として現れるとき。 -/
theorem isSome_strstr (hay needle : List Char) : (strstr hay needle).isSome ↔ cstr needle <:+: cstr hay := by
  rw [strstr, List.find?_isSome, List.infix_iff_prefix_suffix]
  constructor
  · rintro ⟨i, -, hi⟩
    exact ⟨_, List.isPrefixOf_iff_prefix.mp hi, List.drop_suffix i _⟩
  · rintro ⟨t, hp, hs⟩
    have ht := List.suffix_iff_eq_drop.mp hs
    refine ⟨(cstr hay).length - t.length, List.mem_range.mpr (by omega), ?_⟩
    rw [← ht]
    exact List.isPrefixOf_iff_prefix.mpr hp

/-! ## strrchr と、strcmp・strncmp が 0 を返すこと -/

/-- `strrchr(s, c)`: `c` が最後に現れる位置から後ろの文字列。現れなければ `NULL`。 -/
def strrchr (s : List Char) (c : Char) : Option (List Char) :=
  if c ∈ cstr s then some (c :: ((cstr s).reverse.takeWhile (· ≠ c)).reverse) else none

/-- `strcmp(a, b) == 0`。 -/
def strEq (a b : List Char) : Bool := cstr a == cstr b

/-- `strncmp(a, b, n) == 0`: 最初の NUL までのうち、はじめの `n` 文字が等しい。 -/
def strnEq (a b : List Char) (n : Nat) : Bool := (cstr a).take n == (cstr b).take n

/-- 最後の `c` の後ろに `c` がなければ、逆にした列の `c` までの部分はその後ろの部分。 -/
theorem reverse_takeWhile_last {c : Char} {p q : List Char} (hq : c ∉ q) :
    ((p ++ c :: q).reverse.takeWhile (· ≠ c)).reverse = q := by
  have hall : ∀ a ∈ q.reverse, decide (a ≠ c) = true := by
    intro a ha
    have : a ≠ c := fun h => hq (h ▸ List.mem_reverse.mp ha)
    simpa using this
  rw [List.reverse_append, List.reverse_cons, List.append_assoc, List.takeWhile_append_of_pos hall,
    List.singleton_append, List.takeWhile_cons_of_neg (by simp), List.append_nil, List.reverse_reverse]

/-- 現れる文字は、最後に現れる位置で列を分ける。 -/
theorem exists_last {c : Char} {t : List Char} (h : c ∈ t) :
    ∃ p q, t = p ++ c :: q ∧ c ∉ q := by
  have hdw : t.reverse.dropWhile (· ≠ c) ≠ [] := by
    intro hnil
    have := List.dropWhile_eq_nil_iff.mp hnil c (List.mem_reverse.mpr h)
    simp at this
  obtain ⟨d, rest, hd⟩ := List.exists_cons_of_ne_nil hdw
  have hdc : d = c := by
    have := List.head_dropWhile_not (fun a => decide (a ≠ c)) hdw
    simp only [hd, List.head_cons, decide_eq_false_iff_not, not_not] at this
    exact this
  set tw := t.reverse.takeWhile (· ≠ c)
  have hsplit : tw ++ c :: rest = t.reverse := by
    have h := List.takeWhile_append_dropWhile (p := fun a => decide (a ≠ c)) (l := t.reverse)
    rwa [hd, hdc] at h
  refine ⟨rest.reverse, tw.reverse, ?_, ?_⟩
  · calc t = (tw ++ c :: rest).reverse := by rw [hsplit, List.reverse_reverse]
      _ = rest.reverse ++ c :: tw.reverse := by simp
  · intro hc
    have := List.mem_takeWhile_imp (List.mem_reverse.mp hc)
    simp at this

/-- `strrchr` が返すのは、最後の `c` から後ろ。 -/
theorem strrchr_eq_some_iff {s : List Char} {c : Char} {u : List Char} :
    strrchr s c = some u ↔ ∃ p q, cstr s = p ++ c :: q ∧ c ∉ q ∧ u = c :: q := by
  constructor
  · intro h
    rw [strrchr] at h
    split at h
    · obtain ⟨p, q, hpq, hq⟩ := exists_last ‹c ∈ cstr s›
      refine ⟨p, q, hpq, hq, ?_⟩
      rw [← Option.some.inj h, hpq, reverse_takeWhile_last hq]
    · cases h
  · rintro ⟨p, q, hpq, hq, rfl⟩
    rw [strrchr, if_pos (by rw [hpq]; simp), hpq, reverse_takeWhile_last hq]

/-- 最後の `c` で分けた後ろの部分は一つに決まる。 -/
theorem last_unique {c : Char} {p q p' q' : List Char} (h : p ++ c :: q = p' ++ c :: q') (hq : c ∉ q)
    (hq' : c ∉ q') : q = q' := by
  rw [← reverse_takeWhile_last (p := p) hq, ← reverse_takeWhile_last (p := p') hq', h]

theorem cstr_eq_self {s : List Char} (h : ∀ c ∈ s, c ≠ '\x00') : cstr s = s := by
  rw [cstr, List.takeWhile_eq_self_iff]
  simpa using h

theorem ne_nul_of_mem_cstr {s : List Char} {c : Char} (h : c ∈ cstr s) : c ≠ '\x00' := by
  simpa using List.mem_takeWhile_imp h

theorem strrchr_eq_none_iff {s : List Char} {c : Char} : strrchr s c = none ↔ c ∉ cstr s := by
  rw [strrchr]
  split <;> simp_all

/-- `isspace` (C ロケール)。 -/
def isspace (c : Char) : Bool :=
  c == ' ' || c == '\t' || c == '\n' || c == '\x0b' || c == '\x0c' || c == '\r'

/-- `strtol` が 32 ビットの `long` に収める値。 -/
def saturate (v : Int) : Int := max (-2 ^ 31) (min (2 ^ 31 - 1) v)

def digitsValue (ds : List Char) : Nat := ds.foldl (fun a c => 10 * a + (c.toNat - '0'.toNat)) 0

/-- `sscanf(s, "%d", &x)` が `1` を返すときの `x`。空白を飛ばし、符号を一つ許し、数字が一つもなければ
変換は起きない（`0` か `EOF` が返る）。 -/
def sscanfInt (s : List Char) : Option Int :=
  let t := (cstr s).dropWhile isspace
  let (neg, rest) : Bool × List Char := match t with
    | '-' :: r => (true, r)
    | '+' :: r => (false, r)
    | r => (false, r)
  let ds := rest.takeWhile Char.isDigit
  if ds = [] then none
  else some (saturate (if neg then -(digitsValue ds : Int) else digitsValue ds))

example : sscanfInt " 10 misc\n".toList = some 10 := by decide

example : sscanfInt "-x 10".toList = none := by decide

end CString
