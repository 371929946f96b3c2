import Mathlib.Order.Basic
import Mathlib.Tactic.TypeStar

namespace NexusBs.Lib

variable {S I : Type*}

/-- One state is ahead of all the others. -/
def Leads (metric : S → Int) (s : S) (c : Int) : Prop :=
  metric s = c ∧ ∀ t, t ≠ s → c < metric t

variable {metric metric' : S → Int} {s s' : S} {i : I} {c r : Int}

/-- A step of a trellis in which every state takes the best of the ways into it, and one way out of
the leading state is better than every other: it is taken, and the state it leads to is ahead. -/
theorem Leads.step (h : Leads metric s c) (before : S → I → S) (cost : S → I → Int) (choice : S → I)
    (hbest : ∀ t j, metric (before t (choice t)) + cost t (choice t) ≤
      metric (before t j) + cost t j)
    (hmetric : ∀ t, metric' t = metric (before t (choice t)) + cost t (choice t))
    (hfrom : before s' i = s) (hgain : cost s' i = -r) (hmost : ∀ t j, -r ≤ cost t j)
    (honly : ∀ t j, before t j = s → ¬ (t = s' ∧ j = i) → -r < cost t j) :
    Leads metric' s' (c - r) ∧ choice s' = i := by
  -- no way into a state is better than the gain, and only one is as good
  have hway : ∀ t j, ¬ (t = s' ∧ j = i) → c - r < metric (before t j) + cost t j := by
    intro t j hne
    by_cases hs : before t j = s
    · have hcost := honly t j hs hne
      rw [hs, h.1]
      omega
    · have hm := h.2 (before t j) hs
      have hcost := hmost t j
      omega
  have htaken : metric (before s' i) + cost s' i = c - r := by
    rw [hfrom, h.1, hgain]
    omega
  have hchoice : choice s' = i := by
    by_contra hne
    have hlt := hway s' (choice s') (fun heq => hne heq.2)
    have hle := hbest s' i
    omega
  refine ⟨⟨?_, ?_⟩, hchoice⟩
  · rw [hmetric, hchoice, htaken]
  · intro t ht
    rw [hmetric]
    exact hway t (choice t) (fun heq => ht heq.1)

end NexusBs.Lib
