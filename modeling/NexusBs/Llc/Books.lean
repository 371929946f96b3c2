import NexusBs.Llc.Ledger

namespace NexusBs.Llc
open Lib Ledger

/-! How the LLC looks in the books -/

def blEntry (ack : ExpectedInAck) : Ticket × Bool := (ack.ticket, ack.firstCompleteReportSent)
def alEntry (al : ExpectedAlAck) : Ticket × Bool := (al.ticket, al.firstCompleteReportSent)

def transfers (s : Llc) : List (Ticket × Bool) :=
  s.outboundMessages.map blEntry ++ s.outboundAlMessages.map alEntry

def ledger (s : Llc) : Ledger := ⟨s.transfers, s.port, s.nextTicket⟩

variable {c : Prop} {L : List (Ticket × Bool)} {p q : Port} {n : Ticket}

theorem moves_say (m : SapMsg) (h : m.outcome = none) :
    Moves c ⟨L, p, n⟩ ⟨L, p.push m, n⟩ := (Move.say (l := ⟨L, p, n⟩) m h).moves

theorem moves_perm (h : L.Perm L') :
    Moves c ⟨L, p, n⟩ ⟨L', p, n⟩ := (Move.perm (l := ⟨L, p, n⟩) h).moves

/-- What can happen to the first request can happen to any. -/
theorem moves_middle (A B : List (Ticket × Bool)) (h : ∀ L, Moves c ⟨e :: L, p, n⟩ ⟨e' :: L, q, n⟩) :
    Moves c ⟨A ++ e :: B, p, n⟩ ⟨A ++ e' :: B, q, n⟩ :=
  (moves_perm List.perm_middle).trans ((h (A ++ B)).trans (moves_perm List.perm_middle.symm))

theorem moves_remove (A B : List (Ticket × Bool)) (h : ∀ L, Moves c ⟨e :: L, p, n⟩ ⟨L, q, n⟩) :
    Moves c ⟨A ++ e :: B, p, n⟩ ⟨A ++ B, q, n⟩ :=
  (moves_perm List.perm_middle).trans (h (A ++ B))

theorem moves_says (h : ∀ m ∈ ms, m.outcome = none) :
    Moves c ⟨L, p, n⟩ ⟨L, { p with queue := p.queue ++ ms }, n⟩ := by
  induction ms generalizing p with
  | nil =>
    rw [List.append_nil]
    exact Moves.refl _
  | cons m ms ih =>
    have h1 := moves_say (c := c) (L := L) (p := p) (n := n) m (h m List.mem_cons_self)
    have h2 := ih (p := p.push m) (fun x hx => h x (List.mem_cons_of_mem _ hx))
    simpa [Port.push] using h1.trans h2

/-- A number of transfers fails, in any order. -/
theorem moves_reportAlFailed (als : List ExpectedAlAck) (p : Port) :
    Moves c ⟨als.map alEntry ++ L, p, n⟩ ⟨L, als.foldl reportAlFailed p, n⟩ := by
  induction als generalizing p with
  | nil => exact Moves.refl _
  | cons al als ih =>
    have hfail : Moves c ⟨alEntry al :: (als.map alEntry ++ L), p, n⟩ _ :=
      (Move.fail al.reqHandle al.key.endpointId).moves
    exact hfail.trans (ih _)

/-- Requests are forgotten, which the service does not provide for. -/
theorem moves_drop (hc : ¬c) (h : l'.Sublist l) (A : List (Ticket × Bool)) :
    Moves c ⟨A ++ l, p, n⟩ ⟨A ++ l', p, n⟩ := by
  induction h generalizing A with
  | slnil => exact Moves.refl _
  | cons e _ ih => exact (moves_remove A _ (fun _ => (Move.drop hc).moves)).trans (ih A)
  | cons_cons e _ ih =>
    have hrest := ih (A ++ [e])
    simpa using hrest

variable {s : Llc} {prim : TmaUnitdataInd} {report : TmaReport}

def TmaUnitdataInd.alSetup (prim : TmaUnitdataInd) : Option AlSetup :=
  prim.pdu.bind (fun pdu => (AlSetup.fromBitbuf pdu).toOption.map Prod.fst)

/-- The setups that take away another link on which transfers wait. -/
def DropsTransfers (s : Llc) (prim : TmaUnitdataInd) : Prop :=
  ∃ setup ∈ prim.alSetup,
    setup.isOriginalAcknowledgedNonAugmented = true ∧ ∃ al ∈ s.outboundAlMessages,
      isOtherLink ⟨prim.mainAddress, prim.endpointId, setup.linkId⟩ al.key = true

/-- The one transfer on an advanced link that a report of the MAC is about. -/
def reportedAl (s : Llc) (reqHandle : Todo) : Option ExpectedAlAck :=
  match s.tmaReportOwners reqHandle with
  | [.alData idx _] => s.outboundAlMessages[idx]?
  | _ => none

/-- A success of the MAC on a transfer that is sent again after its first transmission was
reported. -/
def RepeatsFirstComplete (s : Llc) (reqHandle : Todo) (report : TmaReport) : Prop :=
  (report = .successRandomAccess ∨ report = .successReservedOrStealing) ∧
    ∃ al ∈ s.reportedAl reqHandle, al.tUmacDone = none ∧ al.firstCompleteReportSent = true

/-- The steps that keep the books as the service defines them. -/
def Keeps (s : Llc) : Op → Prop
  | .tmaUnitdataInd prim => ¬s.DropsTransfers prim
  | .tmaReportInd reqHandle report => ¬s.RepeatsFirstComplete reqHandle report
  | _ => True

instance (s : Llc) (op : Op) : Decidable (s.Keeps op) :=
  match op with
  | .tmaUnitdataInd _ => inferInstanceAs (Decidable (¬∃ _ ∈ _, _))
  | .tmaReportInd _ _ => inferInstanceAs (Decidable (¬(_ ∧ ∃ _ ∈ _, _)))
  | .tickStart _ | .tickEnd | .tlaTlDataReq _ | .tlaTlDataResp _ | .tlaTlUnitdataReq _
  | .macMarks _ _ => .isTrue trivial

theorem recorded_new (mainCarrier : Nat) : Recorded (new mainCarrier).ledger where
  nodup := List.nodup_nil
  issued _ h := by cases h
  state _ h := by cases h
  fresh _ _ := rfl
  opened _ h := by cases h
  settled _ _ := ⟨.silent, fun h => by cases h⟩
  unused _ _ := rfl

end NexusBs.Llc
