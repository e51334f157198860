/-
# Channels that lose and reorder

Reusable infrastructure for a channel between two parties: a list of messages on the way, from
which any one may be delivered or lost next.  A message carries at most one content.  What the
sender has put in is `sent`, what the receiver has taken out is `received`.

`Accounted` says that each content that was received or is on the way was sent, and sent as often.
The rules say how sending, losing and delivering keep it; at any time the received contents are
among the sent ones, with multiplicity (`Accounted.subperm`).
-/
import Mathlib.Algebra.Order.Group.Multiset
import Mathlib.Data.List.Forall2
import Mathlib.Data.List.ReduceOption

namespace Channels

variable {μ β : Type} {carries : μ → Option β → Prop}

/-- Every content that was received or is on the way was sent. -/
def Accounted (carries : μ → Option β → Prop) (channel : List μ) (received sent : List β) :
    Prop :=
  ∃ contents, List.Forall₂ carries channel contents ∧
    (received : Multiset β) + contents.reduceOption ≤ sent

variable {channel : List μ} {received sent : List β}

theorem accounted_nil : Accounted carries [] [] [] := ⟨[], .nil, le_refl _⟩

/-- At any time, what was received was sent. -/
theorem Accounted.subperm (h : Accounted carries channel received sent) :
    received.Subperm sent := by
  obtain ⟨contents, -, hle⟩ := h
  exact Multiset.coe_le.mp ((Multiset.le_add_right _ _).trans hle)

/-- Sending: the new messages carry what is new, or less. -/
theorem Accounted.send (h : Accounted carries channel received sent) {messages : List μ}
    {contents : List (Option β)} (hcarries : List.Forall₂ carries messages contents)
    {new : List β} (hnew : contents.reduceOption.Subperm new) :
    Accounted carries (channel ++ messages) received (sent ++ new) := by
  obtain ⟨old, hold, hle⟩ := h
  refine ⟨old ++ contents, List.rel_append hold hcarries, ?_⟩
  rw [List.reduceOption_append, ← Multiset.coe_add, ← Multiset.coe_add, ← add_assoc]
  exact add_le_add hle (Multiset.coe_le.mpr hnew)

/-- Sending messages without content. -/
theorem Accounted.sendEmpty (h : Accounted carries channel received sent) {messages : List μ}
    (hempty : ∀ m ∈ messages, carries m none) :
    Accounted carries (channel ++ messages) received sent := by
  have hcarries : List.Forall₂ carries messages (messages.map fun _ => none) := by
    rw [List.forall₂_map_right_iff, List.forall₂_same]
    exact hempty
  have hnothing : (messages.map fun _ => (none : Option β)).reduceOption.Subperm [] := by
    rw [List.map_const', List.reduceOption_replicate_none]
  have hsent := h.send hcarries hnothing
  rw [List.append_nil] at hsent
  exact hsent

/-- Taking a message out takes its content out. -/
theorem forall₂_eraseIdx {contents : List (Option β)} (h : List.Forall₂ carries channel contents)
    {k : ℕ} {m : μ} (hk : channel[k]? = some m) :
    ∃ o, carries m o ∧ List.Forall₂ carries (channel.eraseIdx k) (contents.eraseIdx k) ∧
      (contents.reduceOption : Multiset β)
        = (o.toList : Multiset β) + (contents.eraseIdx k).reduceOption := by
  induction h generalizing k with
  | nil => simp at hk
  | @cons m' o' channel contents hhead htail ih =>
      cases k with
      | zero =>
          rw [List.getElem?_cons_zero, Option.some.injEq] at hk
          rw [← hk]
          refine ⟨o', hhead, htail, ?_⟩
          cases o' <;> rfl
      | succ k =>
          obtain ⟨o, ho, hrest, hsum⟩ := ih (by simpa using hk)
          refine ⟨o, ho, .cons hhead hrest, ?_⟩
          rw [List.eraseIdx_cons_succ]
          cases o' with
          | none => simpa only [List.reduceOption_cons_of_none] using hsum
          | some b =>
              rw [List.reduceOption_cons_of_some, List.reduceOption_cons_of_some,
                ← Multiset.cons_coe, ← Multiset.cons_coe, hsum, Multiset.add_cons]

/-- Delivering: the receiver takes no more out of a message than it carries. -/
theorem Accounted.deliver (h : Accounted carries channel received sent) {k : ℕ} {m : μ}
    (hk : channel[k]? = some m) {out : List β}
    (hout : ∀ o, carries m o → out.Subperm o.toList) :
    Accounted carries (channel.eraseIdx k) (received ++ out) sent := by
  obtain ⟨contents, hcontents, hle⟩ := h
  obtain ⟨o, ho, hrest, hsum⟩ := forall₂_eraseIdx hcontents hk
  refine ⟨contents.eraseIdx k, hrest, le_trans ?_ hle⟩
  rw [hsum, ← Multiset.coe_add, add_assoc]
  exact add_le_add (le_refl _) (add_le_add (Multiset.coe_le.mpr (hout o ho)) (le_refl _))

/-- Losing a message, or none if there is none at this place. -/
theorem Accounted.lose (h : Accounted carries channel received sent) (k : ℕ) :
    Accounted carries (channel.eraseIdx k) received sent := by
  cases hk : channel[k]? with
  | none =>
      rw [List.eraseIdx_of_length_le (List.getElem?_eq_none_iff.mp hk)]
      exact h
  | some m =>
      have hlost := h.deliver hk fun o _ => List.nil_subperm
      rw [List.append_nil] at hlost
      exact hlost

end Channels
