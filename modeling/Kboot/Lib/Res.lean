import Mathlib

/-!
# 資源の獲得と解放の記録

開いた記述子や確保したバッファのような資源の、獲得と解放の出来事の列。`run` は持っている資源の列を
運び、持っている資源をもう一度獲得するか、持っていない資源を解放すれば止まる。何も持たずに始まって
何も持たずに終わる列が `Balanced`。`goto` で後始末をまとめる C の関数は、獲得した順の逆に解放する
`stack` の形の列を残す。この節はどのプログラムの名前も使わない。
-/

namespace Res

inductive Ev (α : Type) where
  | acquire (r : α)
  | release (r : α)
  deriving DecidableEq, Repr

variable {α : Type} [DecidableEq α]

/-- 持っている資源の列 `hs` から、出来事を一つ進める。 -/
def step (hs : List α) : Ev α → Option (List α)
  | .acquire r => if r ∈ hs then none else some (r :: hs)
  | .release r => if r ∈ hs then some (hs.erase r) else none

def run : List (Ev α) → List α → Option (List α)
  | [], hs => some hs
  | e :: es, hs => (step hs e).bind (run es)

/-- 何も持たずに始まり、何も持たずに終わる。途中で二重の獲得も、持たない資源の解放もない。 -/
def Balanced (es : List (Ev α)) : Prop := run es [] = some []

instance (es : List (Ev α)) : Decidable (Balanced es) := inferInstanceAs (Decidable (_ = _))

/-- `rs` を順に獲得し、逆の順に解放する列。 -/
def stack (rs : List α) : List (Ev α) := rs.map .acquire ++ rs.reverse.map .release

theorem run_append (es fs : List (Ev α)) (hs : List α) : run (es ++ fs) hs = (run es hs).bind (run fs) := by
  induction es generalizing hs with
  | nil => rfl
  | cons e es ih =>
    simp only [List.cons_append, run]
    cases step hs e with
    | none => rfl
    | some hs' => exact ih hs'

/-- 持っていない資源を順に獲得すると、獲得した列の逆が前に積まれる。 -/
theorem run_acquire {rs hs : List α} (hnd : (rs ++ hs).Nodup) :
    run (rs.map .acquire) hs = some (rs.reverse ++ hs) := by
  induction rs generalizing hs with
  | nil => rfl
  | cons r rs ih =>
    have hr : r ∉ hs := fun h => (List.nodup_cons.mp hnd).1 (List.mem_append_right rs h)
    have hnd' : (rs ++ r :: hs).Nodup := by
      have hperm : (r :: rs ++ hs).Perm (rs ++ r :: hs) := List.perm_middle.symm
      exact hperm.nodup_iff.mp hnd
    simp only [List.map_cons, run, step, if_neg hr, Option.bind_some, ih hnd', List.reverse_cons,
      List.append_assoc, List.singleton_append]

/-- 積んだ順の逆に解放すると、下に残っていた資源に戻る。 -/
theorem run_release (rs hs : List α) : run (rs.map .release) (rs ++ hs) = some hs := by
  induction rs with
  | nil => rfl
  | cons r rs ih =>
    simp only [List.map_cons, List.cons_append, run, step, List.mem_cons, true_or, if_true,
      List.erase_cons_head, Option.bind_some, ih]

/-- 重なりのない資源の列を獲得して逆に解放する列は、釣り合っている。 -/
theorem balanced_stack {rs : List α} (hnd : rs.Nodup) : Balanced (stack rs) := by
  have h := run_release rs.reverse []
  rw [List.append_nil] at h
  rw [Balanced, stack, run_append, run_acquire (by rwa [List.append_nil]), List.append_nil, Option.bind_some, h]

end Res
