import Mathlib

/-!
# ストリームの位置と読み出し

C の `FILE` を、ファイルの中身、位置、終端の印の組とみなす。`fread` は位置から後のバイトを読み、
求めた数に足りなければ終端の印を立てる。`fseek` (`SEEK_SET`) は位置を置き直して印を下ろし、負の
位置は誤りとして何も変えない。読み出しの誤り (`ferror`) は起きないものとする。
この節はどのプログラムの名前も使わない。
-/

namespace Stdio

structure File where
  data : List UInt8
  pos : Nat
  eof : Bool
  deriving DecidableEq, Repr

/-- `fopen(name, "rb")`: ファイルがあれば位置 0 で開く。 -/
def fopen (content : Option (List UInt8)) : Option File :=
  content.map fun d => ⟨d, 0, false⟩

def fread (f : File) (n : Nat) : List UInt8 × File :=
  let got := (f.data.drop f.pos).take n
  (got, { f with pos := f.pos + got.length, eof := f.eof || decide (got.length < n) })

def ftell (f : File) : Int := f.pos

def fseek (f : File) (off : Int) : Int × File :=
  if off < 0 then (-1, f) else (0, { f with pos := off.toNat, eof := false })

variable {f : File} {n : Nat}

@[simp] theorem data_fread : (fread f n).2.data = f.data := rfl

@[simp] theorem data_fseek (off : Int) : (fseek f off).2.data = f.data := by
  unfold fseek
  split <;> rfl

theorem fread_of_le (h : n ≤ f.data.length - f.pos) :
    fread f n = ((f.data.drop f.pos).take n, { f with pos := f.pos + n }) := by
  have hlen : ((f.data.drop f.pos).take n).length = n := by
    simp only [List.length_take, List.length_drop]
    omega
  simp [fread, hlen]

theorem eof_fread_of_lt (h : f.data.length - f.pos < n) : (fread f n).2.eof = true := by
  simp [fread, h]

/-- 終端の印が立たなければ、`n` バイトすべてがファイルの中にあった。 -/
theorem le_of_not_eof_fread (h : (fread f n).2.eof = false) : n ≤ f.data.length - f.pos := by
  by_contra hlt
  rw [eof_fread_of_lt (by omega)] at h
  cases h

theorem ftell_fread (h : (fread f n).2.eof = false) : ftell (fread f n).2 = f.pos + n := by
  rw [fread_of_le (le_of_not_eof_fread h), ftell]
  push_cast
  rfl

theorem fseek_of_nonneg {off : Int} (h : 0 ≤ off) :
    fseek f off = (0, { f with pos := off.toNat, eof := false }) := by
  simp [fseek, not_lt.mpr h]

/-- 印の下りた位置 `p` で `n` バイトが読めるなら、読めるのは `p` からの `n` バイトで、印は下りたまま。 -/
theorem fread_at (d : List UInt8) {p : Nat} (h : p + n ≤ d.length) :
    fread ⟨d, p, false⟩ n = ((d.drop p).take n, ⟨d, p + n, false⟩) :=
  fread_of_le (by dsimp only; omega)

end Stdio
