import NexusBs.Llc.AlActs

namespace NexusBs.Llc
open Lib Ledger

variable {k : Terms} {s s' : Llc}

theorem acts_rxTmaReportInd (hf : k.strict → ¬s.RepeatsFirstComplete reqHandle report)
    (h : s.rxTmaReportInd reqHandle report = some s') : Acts k s s' := by
  unfold rxTmaReportInd at h
  split at h
  · split at h
    · exact acts_handleUdataTmaReport h
    · cases h
      exact Acts.refl
  · exact acts_handleBlTmaReport h
  · exact acts_handleUdataTmaReport h
  · rename_i idx segmentIdx howner
    obtain ⟨al, g, hi, hg, hsome⟩ := tmaReportOwners_mem
      (by rw [howner]; exact List.mem_singleton_self _)
    refine acts_handleAlTmaReport hi hg hsome (fun hr hc hdone => ?_) h
    by_contra hb
    exact hf hc ⟨hr, al, by simp [reportedAl, howner, hi], hdone, by simpa using hb⟩
  · cases h
    exact Acts.refl

theorem acts_rxTmaUnitdataInd (hd : k.strict → ¬s.DropsTransfers prim)
    (hs : k.started → s.AcksStarted prim) (h : s.rxTmaUnitdataInd prim = some s') :
    Acts k s s' := by
  unfold rxTmaUnitdataInd at h
  split at h
  · cases h
    exact Acts.refl
  rename_i pdu hp
  split at h
  · cases h
    exact Acts.refl
  split at h
  all_goals first
    | exact acts_rxTmaUnitdataIndBl h
    | exact acts_rxAlSetup hp hd h
    | exact acts_rxAlDataFinal h
    | exact acts_rxAlAck hp hs h
    | (cases h; exact Acts.refl)

theorem acts_rxTlaTldataReqBl (ha : ∀ al, s.AdmittedAs prim al → k.admits s.alBooks al)
    (hb : k.belongs s.nextTicket prim.tlSdu.rest) (h : s.rxTlaTldataReqBl prim = some s') :
    Acts k s s' := by
  unfold rxTlaTldataReqBl at h
  dsimp only [takeTicket] at h
  split at h
  · exact acts_rxTlaTldataReqAl ha h
  · exact acts_rxTlaTldataReqBasic hb h

theorem acts_rxTlaTldataRespBl
    (ha : ∀ req ∈ (Op.tlaTlDataResp prim).request, ∀ al, s.AdmittedAs req al → k.admits s.alBooks al)
    (hb : ∀ sdu ∈ (Op.tlaTlDataResp prim).tlSdu, k.belongs s.nextTicket sdu)
    (h : s.rxTlaTldataRespBl prim = some s') : Acts k s s' := by
  unfold rxTlaTldataRespBl at h
  split at h
  · cases h
    exact (@Act.reject k s false _ _).acts
  split at h
  · exact acts_rxTlaTldataReqBl (ha _ rfl) (hb _ rfl) h
  · rename_i ack acks htake
    simp only [Option.bind_eq_bind, Option.bind_eq_some_iff] at h
    obtain ⟨_, _, _, _, h⟩ := h
    cases h
    have hgone : Acts k s { s with scheduledOutAcks := acks } := by
      obtain ⟨_, _, rfl⟩ := takeScheduledOutAck_mem htake
      exact acts_unschedule List.eraseP_subset
    exact hgone.trans (Act.say rfl rfl).acts

theorem acts_tickEnd (h : s.tickEnd = some s') : Acts k s s' := by
  simp only [tickEnd, Option.bind_eq_bind, Option.bind_eq_some_iff] at h
  obtain ⟨s1, h1, s2, h2, s3, h3, p, hp, h⟩ := h
  cases h
  have hal : Acts k s s1 :=
    acts_submitAlRetransmissionsToUmac.trans (acts_submitFreeAlMessagesToUmac h1)
  have hbl : Acts k s1 s3 :=
    (acts_submitRetransmissionsToUmac h2).trans (acts_submitFreeMessagesToUmac h3)
  have hacks : Acts k s3 { s3 with port := p, scheduledOutAcks := [] } :=
    (acts_submitAckReplies hp).trans (acts_unschedule (fun e he => by cases he))
  exact hal.trans (hbl.trans (hacks.trans acts_submitUdataMsgsToUmac))

/-- A condition on a step: its AL-ACK speaks of transfers only that were started. -/
def AcksStartedAt (s : Llc) : Op → Prop
  | .tmaUnitdataInd prim => s.AcksStarted prim
  | _ => True

instance (s : Llc) (op : Op) : Decidable (s.AcksStartedAt op) :=
  match op with
  | .tmaUnitdataInd _ =>
    inferInstanceAs (Decidable (∀ _ ∈ _, ∀ _ ∈ _, ∀ _ ∈ _, ∀ _ ∈ _, ∀ _ ∈ _, StartedIn _ _))
  | .tickStart _ | .tickEnd | .tlaTlDataReq _ | .tlaTlDataResp _ | .tlaTlUnitdataReq _
  | .tmaReportInd _ _ | .macMarks _ _ => .isTrue trivial

/-- Every operation is a number of acts. -/
theorem acts_step (hk : k.strict → s.Keeps op) (hs : k.started → s.AcksStartedAt op)
    (ha : ∀ req ∈ op.request, ∀ al, s.AdmittedAs req al → k.admits s.alBooks al)
    (hb : ∀ sdu ∈ op.tlSdu, k.belongs s.nextTicket sdu) (h : s.step op = some s') :
    Acts k s s' := by
  cases op with
  | tickStart =>
    cases h
    exact (Act.aside id id).acts
  | tickEnd => exact acts_tickEnd h
  | tlaTlDataReq => exact acts_rxTlaTldataReqBl (ha _ rfl) (hb _ rfl) h
  | tlaTlDataResp => exact acts_rxTlaTldataRespBl ha hb h
  | tlaTlUnitdataReq => exact acts_rxTlaTlunitdataReqBl h
  | tmaUnitdataInd => exact acts_rxTmaUnitdataInd hk hs h
  | tmaReportInd => exact acts_rxTmaReportInd hk h
  | macMarks attempt =>
    cases h
    exact acts_macMarks

/-- The terms of a service of which nothing is asked but `c`. -/
def Terms.keeping (c : Prop) : Terms := ⟨c, False, fun _ _ => True, fun _ _ => True⟩

theorem acts_keeping {c : Prop} (hk : c → s.Keeps op) (h : s.step op = some s') :
    Acts (.keeping c) s s' :=
  acts_step hk False.elim (fun _ _ _ _ => trivial) (fun _ _ => trivial) h

/-- The LLC refines the books of the service. -/
theorem moves_step (hk : c → s.Keeps op) (h : s.step op = some s') :
    Moves c s.ledger s'.ledger := (acts_keeping hk h).moves

/-- The LLC refines the books of the advanced links. -/
theorem alMoves_step (hs : c → s.AcksStartedAt op)
    (ha : ∀ req ∈ op.request, ∀ al, s.AdmittedAs req al → admits s.alBooks al)
    (h : s.step op = some s') : AlMoves c admits s.alBooks s'.alBooks :=
  (acts_step (k := ⟨False, c, admits, fun _ _ => True⟩) False.elim hs ha (fun _ _ => trivial)
    h).alMoves

/-- What every reachable state satisfies. -/
structure Sound (s : Llc) : Prop where
  receipted : Receipted s.ledger
  basicLinks : BasicSound (fun _ _ => True) s.basic
  assemblies : AssembliesFit s.advancedLinkRx

theorem sound_new (mainCarrier : Nat) : Sound (new mainCarrier) :=
  ⟨(recorded_new mainCarrier).toReceipted, basicSound_new mainCarrier, fun _ _ h => by cases h⟩

theorem Sound.step (h : Sound s) (hs : s.step op = some s') : Sound s' := by
  have hacts : Acts (.keeping False) s s' := acts_keeping False.elim hs
  exact ⟨hacts.receipted h.receipted, hacts.basicSound h.basicLinks, hacts.assembliesFit h.assemblies⟩

theorem belowZero_new (mainCarrier : Nat) : BelowZero (new mainCarrier) where
  acks := fun _ ha => absurd ha List.not_mem_nil
  next := Int.negSucc_lt_zero 0

theorem run_belowZero {mainCarrier : Nat} {ops : List Op}
    (h : Lib.run step (new mainCarrier) ops = some s) : BelowZero s := by
  have hok : Along step (fun _ _ => True) (new mainCarrier) ops :=
    Along.of_forall (fun _ _ => trivial)
  exact run_invariant (P := BelowZero)
    (fun _ _ _ h _ hs => (acts_keeping (c := False) False.elim hs).belowZero h)
    (belowZero_new mainCarrier) hok h

end NexusBs.Llc
