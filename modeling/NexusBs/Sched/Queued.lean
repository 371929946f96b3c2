import NexusBs.Sched.Carried

namespace NexusBs
open SchedQueue

namespace BsChannelScheduler

variable {P : QueueProp} {A : PacketDataAssignment → Prop} {s s' : BsChannelScheduler}
  {e : DlSchedElem} {ts : TdmaTime}

/-- What integration makes of a grant or an acknowledgement. -/
def MinimalLaw (P : QueueProp) (slot : Nat) : Prop :=
  ∀ e addr, e.isGrantOrAck = true → e.elemAddr = some addr → P (some slot) e →
    P (some slot) (.resource (minimalFor addr e) (BitBuffer.new 0) none none)

theorem coalesceInto_resource (he : e = .randomAccessAck addr ∨ ∃ g m, e = .grant addr g m)
    (hp : pdu.addr = some addr) :
    coalesceInto e (.resource pdu sdu tx group) =
      some (.resource (integrateInto e pdu) sdu tx group) := by
  rcases he with rfl | ⟨g, m, rfl⟩
  · simp [coalesceInto, hp, integrateInto]
  · simp [coalesceInto, hp, integrateInto]

theorem Stocked.placeGrant (hl : QueueLaws P A) (hmin : MinimalLaw P slot) (h : Stocked P A s)
    (hi : Indexed idx (s.dltxQueues slot)) (hP : P (some slot) e)
    (he : e = .randomAccessAck addr ∨ ∃ g m, e = .grant addr g m)
    (hp : s.placeGrant slot idx e = some (idx', s')) : Stocked P A s' := by
  have ha : e.elemAddr = some addr := by
    rcases he with rfl | ⟨g, m, rfl⟩ <;> rfl
  have hg : e.isGrantOrAck = true := by
    rcases he with rfl | ⟨g, m, rfl⟩ <;> rfl
  unfold BsChannelScheduler.placeGrant at hp
  rw [ha] at hp
  dsimp only at hp
  split at hp
  · rename_i i hidx
    obtain ⟨pdu, sdu, tx, group, hq, hpa⟩ := hi addr i hidx
    rw [hq] at hp
    cases hp
    refine ((Tidies.refl (o := True) s).setQueue slot ?_).stock h
    intro _ _ x hx
    rcases List.mem_or_eq_of_mem_set hx with hx | rfl
    · exact h.slots slot x hx
    · exact hl.merge _ e _ _ hP (h.slots slot _ (List.mem_of_getElem? hq))
        (coalesceInto_resource he hpa)
  · have hpush := ((Tidies.refl (o := True) s).push hl (fun _ => hmin e addr hg ha hP)
      maxDlschedElemsPerTimeslot).stock h
    split at hp
    · cases hp
      exact hpush
    · cases hp
      exact hpush

theorem Stocked.resolved (hl : QueueLaws P A) (h : Stocked P A s)
    (hres : Resolved s ts alloc e r s')
    (hleft : ∀ addr debt origin left, e = .pendingGrant addr debt origin →
      P none (.pendingGrant addr left origin)) :
    Stocked P A s' := by
  cases hres with
  | ack | ready | stale => exact h
  | granted addr debt origin g m cap s1 s2 hp hs h2 =>
    obtain ⟨u, n, c, rfl⟩ := hs
    have hs1 : Stocked P A { s with ulsched := u, nextUsageMarker := n, booked := c } :=
      h.of_same rfl rfl rfl
    rcases h2 with rfl | ⟨left, rfl⟩
    · exact hs1
    · exact ((Tidies.refl (o := True) _).pushNext hl
        (fun _ => hleft addr debt origin left rfl)).stock hs1
  | wait addr debt origin =>
    exact ((Tidies.refl (o := True) s).pushNext hl (fun _ => hleft addr debt origin _ rfl)).stock h
  | exhausted addr debt origin => exact (dropAfterWaitBudget_tidies s hl trivial).stock h

/-- A turn of integration keeps the queues as they should be when what it resolves
has the property. -/
theorem Stocked.turn (hl : QueueLaws P A) (hmin : MinimalLaw P slot) (h : Stocked P A st.2)
    (hi : Indexed st.1 (st.2.dltxQueues slot)) (ht : integrateElem ts slot alloc st e = some st1)
    (hr : st.2.resolveGrant ts alloc e = some (r, s')) (hres : Resolved st.2 ts alloc e r s')
    (hleft : ∀ addr debt origin left, e = .pendingGrant addr debt origin →
      P none (.pendingGrant addr left origin))
    (hP : ∀ e', r = some e' → P (some slot) e') : Stocked P A st1.2 := by
  have hs := h.resolved hl hres hleft
  rw [integrateElem, hr, Option.bind_some] at ht
  cases r with
  | none =>
    cases ht
    exact hs
  | some e' =>
    have hkind : ∃ addr, e' = .randomAccessAck addr ∨ ∃ g m, e' = .grant addr g m := by
      rcases hres.elem.2.2 with ⟨a, -, rfl⟩ | ⟨-, a, g, m, rfl⟩
      · exact ⟨a, .inl rfl⟩
      · exact ⟨a, .inr ⟨g, m, rfl⟩⟩
    obtain ⟨addr, hk⟩ := hkind
    rw [← hres.queues] at hi
    exact hs.placeGrant hl hmin hi (hP e' rfl) hk ht

end BsChannelScheduler
end NexusBs
