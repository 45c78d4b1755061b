import Mathlib

/-!
# 各段が `pure` の繰り返し

`mapM`、`foldlM`、`forM` の各段が状態に触れずに値を返すなら、繰り返し全体も `pure` で、値は
純粋な `map`、`foldl` のもの。この節はどのプログラムの名前も使わない。
-/

namespace Loops

variable {m : Type → Type} [Monad m] [LawfulMonad m] {α β : Type}

theorem mapM_eq_pure {f : α → m β} {g : α → β} :
    ∀ {l : List α}, (∀ a ∈ l, f a = pure (g a)) → l.mapM f = pure (l.map g)
  | [], _ => by simp
  | a :: l, h => by
      rw [List.mapM_cons, h a (by simp), mapM_eq_pure (fun b hb => h b (by simp [hb]))]
      simp

theorem foldlM_eq_pure {f : β → α → m β} {g : β → α → β} :
    ∀ {l : List α} (b : β), (∀ b, ∀ a ∈ l, f b a = pure (g b a)) → l.foldlM f b = pure (l.foldl g b)
  | [], _, _ => by simp
  | a :: l, b, h => by
      rw [List.foldlM_cons, h b a (by simp), pure_bind,
        foldlM_eq_pure (g b a) (fun c d hd => h c d (by simp [hd]))]
      simp

theorem forM_eq_pure {f : α → m PUnit} :
    ∀ {l : List α}, (∀ a ∈ l, f a = pure ()) → l.forM f = pure ()
  | [], _ => rfl
  | a :: l, h => by
      rw [List.forM, h a (by simp), pure_bind, forM_eq_pure (fun b hb => h b (by simp [hb]))]

end Loops
