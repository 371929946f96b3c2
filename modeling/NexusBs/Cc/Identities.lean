import NexusBs.Cc.Reach

namespace NexusBs.Cc
open Lib Relation

variable {cached : Prop} {call call' : IndividualCall}

theorem parties_of_steps (h : ReflTransGen (CallStep cached) call call') :
    call'.parties = call.parties := by
  induction h with
  | refl => rfl
  | tail _ hstep ih => exact hstep.parties_eq.trans ih

namespace CcBs

/-- No call stands under the identifier, no set-up is cached for it, and no release is under way. -/
def Unused (s : CcBs) (k : Nat) : Prop :=
  k ∉ s.cachedSetups ∧ k ∉ s.activeCalls ∧ k ∉ s.individualCalls ∧ k ∉ s.pendingIndividualReleases

/-- A change after which every call is one from before, with its parties or its group, or has a
new identifier. -/
structure Retains (new : Nat → Prop) (s s' : CcBs) : Prop where
  individual : ∀ k call', s'.individualCalls.lookup k = some call' → new k ∨
    ∃ call, s.individualCalls.lookup k = some call ∧ call'.parties = call.parties
  group : ∀ k call', s'.activeCalls.lookup k = some call' → new k ∨
    ∃ call, s.activeCalls.lookup k = some call ∧ call'.destGssi = call.destGssi

/-- Every call is one from before, or has an identifier that was not in use. -/
def KeepsIdentities (s s' : CcBs) : Prop := Retains s.Unused s s'

variable {env : Env} {s s' : CcBs} {new : Nat → Prop}

theorem Retains.of_eq (hi : s'.individualCalls = s.individualCalls)
    (hg : s'.activeCalls = s.activeCalls) : Retains new s s' :=
  ⟨fun _ call hc => .inr ⟨call, hi ▸ hc, rfl⟩, fun _ call hc => .inr ⟨call, hg ▸ hc, rfl⟩⟩

theorem Retains.trans (h : Retains new s t) (h' : Retains (fun _ => False) t s') :
    Retains new s s' where
  individual k call' hc := by
    obtain ⟨call, hcall, hp⟩ := (h'.individual k call' hc).resolve_left id
    exact (h.individual k call hcall).imp_right (fun ⟨c, hc, hq⟩ => ⟨c, hc, hp.trans hq⟩)
  group k call' hc := by
    obtain ⟨call, hcall, hp⟩ := (h'.group k call' hc).resolve_left id
    exact (h.group k call hcall).imp_right (fun ⟨c, hc, hq⟩ => ⟨c, hc, hp.trans hq⟩)

theorem CallMove.retains (h : CallMove s s') : Retains new s s' := by
  cases h with
  | group h =>
    exact ⟨fun _ call hc => .inr ⟨call, hc, rfl⟩, fun k call' hc => .inr (h.calls k call' hc)⟩
  | individual h =>
    refine ⟨fun k call' hc => .inr ?_, fun _ call hc => .inr ⟨call, hc, rfl⟩⟩
    obtain ⟨call, hcall, hsteps⟩ := h.calls k call' hc
    exact ⟨call, hcall, parties_of_steps hsteps⟩
  | shared => exact .of_eq rfl rfl

theorem retains_of_moves (h : ReflTransGen Move s s') : Retains new s s' := by
  induction h with
  | refl => exact .of_eq rfl rfl
  | tail _ hm ih =>
    cases hm with
    | call hm => exact ih.trans hm.retains
    | subscribers => exact ih.trans (.of_eq rfl rfl)

theorem Entry.keepsIdentities (h : Entry env s s') : KeepsIdentities s s' := by
  cases h with
  | group h =>
    obtain ⟨k, call, hk, hocc, -, hcalls, -⟩ := h.opened
    refine ⟨fun j v hv => .inr ⟨v, hv, rfl⟩, fun j v hv => ?_⟩
    obtain ⟨rfl, -⟩ | hv := hcalls j v hv
    · exact .inl (not_mem_of_not_occupied hk hocc)
    · exact .inr ⟨v, hv, rfl⟩
  | individual h =>
    obtain ⟨k, call, hk, hocc, -, hcalls, -⟩ := h.opened
    refine ⟨fun j v hv => ?_, fun j v hv => .inr ⟨v, hv, rfl⟩⟩
    obtain ⟨rfl, -⟩ | hv := hcalls j v hv
    · exact .inl (not_mem_of_not_occupied hk hocc)
    · exact .inr ⟨v, hv, rfl⟩

theorem keepsIdentities_handle (hd : ∀ k, k ∉ s.pendingIndividualDisconnectDeliveries) :
    KeepsIdentities s (s.handle env event) :=
  (handle_enters_or_moves hd).elim Entry.keepsIdentities retains_of_moves

theorem keepsIdentities_of_step (hi : Inv s) (h : s.step input = some s') :
    KeepsIdentities s s' := by
  obtain ⟨-, rfl⟩ := step_eq h
  have hd : ∀ k, k ∉ { s with sent := [] }.pendingIndividualDisconnectDeliveries := hi.deliveries
  exact ⟨(keepsIdentities_handle hd).individual, (keepsIdentities_handle hd).group⟩

/-- Whatever happens, a call keeps its parties or its group for as long as it lasts, and an
identifier goes to a new call only when nothing used it before. At every moment no identifier stands
for both kinds of call, and no call waits for the answer to a D-DISCONNECT. -/
theorem calls_keep_identities (hr : Reachable s) (h : run step s inputs = some s') :
    Along step (fun t input => ∀ t', t.step input = some t' → KeepsIdentities t t') s inputs ∧
      (∀ k ∈ s'.activeCalls, k ∉ s'.individualCalls ∧ k ∉ s'.pendingIndividualReleases) ∧
      ∀ k call, s'.individualCalls.lookup k = some call →
        CallOk call ∧ k ∉ s'.pendingIndividualDisconnectDeliveries := by
  have hinv : ∀ is t, run step s is = some t → Inv t := fun is t ht =>
    run_invariant (fun _ _ _ hs _ hstep => hs.step hstep) hr.inv
      (Along.of_forall (p := fun _ => True) (fun _ _ => trivial)) ht
  have hi := hinv inputs s' h
  refine ⟨Along.of_run (fun is _ _ t _ ht _ hstep => ?_), hi.apart,
    fun k call hc => ⟨(hi.calls k call hc).1, hi.deliveries k⟩⟩
  exact keepsIdentities_of_step (hinv is t ht) hstep

/-- A radio calls another, which gets the first identifier that is free. -/
theorem call_gets_unused_identifier :
    ∃ s call, run step (.start .sample ∅ .empty true)
        [(.sample .pending, .uplink (.sample 1001) (.uSetup (.sample .p2p false 2002)))] = some s ∧
      s.individualCalls.lookup 4 = some call ∧ CallOk call ∧
      KeepsIdentities (.start .sample ∅ .empty true) s := by
  have hrun : (run step (.start .sample ∅ .empty true)
      [(.sample .pending, .uplink (.sample 1001) (.uSetup (.sample .p2p false 2002)))]).map
      (fun s => (s.individualCalls.lookup 4).isSome) = some true := by
    decide +kernel
  obtain ⟨s, hs, hc⟩ := Option.map_eq_some_iff.mp hrun
  obtain ⟨call, hc⟩ := Option.isSome_iff_exists.mp hc
  obtain ⟨hk, -, hok⟩ := calls_keep_identities ⟨_, _, _, _, [], rfl⟩ hs
  obtain ⟨t, ht, hr⟩ := Option.bind_eq_some_iff.mp hs
  cases hr
  exact ⟨s, call, hs, hc, (hok 4 call hc).1, hk.1 s ht⟩

end CcBs
end NexusBs.Cc
