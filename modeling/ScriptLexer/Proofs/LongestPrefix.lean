import Mathlib.Data.List.TakeWhile

/-! The longest beginning of a list that has a property. There is at most one, so that readers which find it in
different ways agree. -/

namespace ScriptLexer

structure IsLongestPrefix {α : Type} (P : List α → Prop) (input front : List α) : Prop where
  holds : P front
  isPrefix : front <+: input
  longest : ∀ other, P other → other <+: input → other.length ≤ front.length

section LongestPrefix

variable {α : Type} {P : List α → Prop} {input front rest other : List α} {c : α}

theorem IsLongestPrefix.eq (h : IsLongestPrefix P input front) (h' : IsLongestPrefix P input other) :
    front = other := by
  have hle := h.longest other h'.holds h'.isPrefix
  have hge := h'.longest front h.holds h.isPrefix
  exact (List.prefix_of_prefix_length_le h.isPrefix h'.isPrefix hge).eq_of_length_le hle

theorem append_singleton_isPrefix (h : other <+: front ++ c :: rest) (hlonger : front.length < other.length) :
    front ++ [c] <+: other := by
  have hstep : front ++ [c] <+: front ++ c :: rest := ⟨rest, List.append_assoc front [c] rest⟩
  refine List.prefix_of_prefix_length_le hstep h ?_
  rw [List.length_append, List.length_singleton]
  exact hlonger

theorem isLongestPrefix_of_stop (hfront : P front) (hstop : ∀ other, P other → ¬ front ++ [c] <+: other) :
    IsLongestPrefix P (front ++ c :: rest) front := by
  refine ⟨hfront, List.prefix_append front _, fun other hholds hother => ?_⟩
  by_contra hlonger
  exact hstop other hholds (append_singleton_isPrefix hother (Nat.not_le.mp hlonger))

theorem isLongestPrefix_takeWhile (p : α → Bool) (input : List α) :
    IsLongestPrefix (fun front => ∀ c ∈ front, p c = true) input (input.takeWhile p) := by
  refine ⟨fun c hc => List.mem_takeWhile_imp hc, List.takeWhile_prefix p, fun other hall hother => ?_⟩
  obtain ⟨after, rfl⟩ := hother
  rw [List.takeWhile_append_of_pos hall, List.length_append]
  omega

end LongestPrefix

end ScriptLexer
