import NexusBs.Sds.Deferral

namespace NexusBs.Sds
open Lib Cc

/-! What the accounts say has been sent is what is on the message queue. -/

def PendingIndividualSds.msg (m : PendingIndividualSds) : SdsMsg :=
  .dSdsData m.sourceIssi m.userDefinedData .acknowledged (.issi m.destIssi) m.txReporter

namespace SdsBs

variable {s s' s'' : SdsBs} {c : SdsCtx} {busy : List Nat}

/-- The messages for one radio that went out in between, on the queue and in the accounts: none
was for a busy one. -/
def Books (busy : List Nat) (s s' : SdsBs) : Prop :=
  ∃ new, s'.ledger.released = s.ledger.released ++ new ∧
    s'.sent.filter (·.isIndividual) = s.sent.filter (·.isIndividual) ++ new.map (·.msg) ∧
    ∀ m ∈ new, m.destIssi ∉ busy

namespace Books

theorem trans (h : Books busy s s') (h' : Books busy s' s'') : Books busy s s'' := by
  obtain ⟨new, hr, hm, hb⟩ := h
  obtain ⟨new', hr', hm', hb'⟩ := h'
  refine ⟨new ++ new', ?_, ?_, fun m hn => (List.mem_append.mp hn).elim (hb m) (hb' m)⟩
  · rw [hr', hr, List.append_assoc]
  · rw [hm', hm, List.append_assoc, List.map_append]

theorem of_same (hr : s'.ledger.released = s.ledger.released)
    (hm : s'.sent.filter (·.isIndividual) = s.sent.filter (·.isIndividual)) : Books busy s s' := by
  refine ⟨[], ?_, ?_, nofun⟩
  · rw [hr, List.append_nil]
  · rw [hm, List.map_nil, List.append_nil]

theorem refl (s : SdsBs) : Books busy s s := of_same rfl rfl

theorem of_aside (h : Aside s s') : Books busy s s' := of_same (by rw [h.ledger]) h.queue

/-- Whoever is busy, the queue and the accounts agree. -/
theorem weaken (h : Books busy s s') : Books [] s s' := by
  obtain ⟨new, hr, hm, -⟩ := h
  exact ⟨new, hr, hm, fun _ _ => List.not_mem_nil⟩

end Books

/-- A message for a group is none for a radio. -/
theorem sendDSdsDataWithReporter_books {ty : SsiType} (h : ty ≠ .issi) :
    Books busy s (s.sendDSdsDataWithReporter source dest ty data r).2 := by
  have hs := rememberSdsTlReportContext_same s source dest ty data
  unfold sendDSdsDataWithReporter
  split
  · exact .of_same rfl rfl
  dsimp only
  split
  · exact .of_aside (hs.trans (.discard _ r))
  · exact .of_aside (hs.trans (.send (by simpa [SdsMsg.isIndividual] using h)))

/-- A message that is sent is put on the queue and booked. -/
theorem sendIndividualSds_books (h : m.destIssi ∉ busy) :
    Books busy s (s.sendIndividualSds m) := by
  have hs := rememberSdsTlReportContext_same s m.sourceIssi m.destIssi .issi m.userDefinedData
  unfold sendIndividualSds sendDSdsDataWithReporter
  by_cases hv : (!validAirInterfaceSsi m.sourceIssi || !validAirInterfaceSsi m.destIssi) = true
  · rw [if_pos hv]
    exact .of_same rfl rfl
  · rw [if_neg hv]
    by_cases hd : (!m.userDefinedData.validate) = true
    · dsimp only
      rw [if_pos hd]
      exact .trans (.of_aside hs) (.of_same rfl rfl)
    · dsimp only
      rw [if_neg hd]
      refine ⟨[m], ?_, ?_, by simpa using h⟩
      · exact congrArg (fun l => Lib.Ledger.released l ++ [m]) hs.ledger
      · change ((s.rememberSdsTlReportContext m.sourceIssi m.destIssi .issi
          m.userDefinedData).sent ++ [m.msg]).filter (·.isIndividual) = _
        rw [List.filter_append, hs.queue]
        rfl

theorem deferIndividualSds_books : Books busy s (s.deferIndividualSds m) := by
  unfold deferIndividualSds
  split
  · exact .of_same rfl rfl
  · exact .of_same rfl rfl

/-- A message for a busy radio is not sent. -/
theorem sendOrDeferDSdsData_books (busy : List Nat) (s : SdsBs) (d : Delivery)
    (r : Option Cc.TxReporter) : Books busy s (s.sendOrDeferDSdsData busy d r) := by
  unfold sendOrDeferDSdsData
  split
  · dsimp only
    split
    · exact .trans (.of_same rfl rfl) deferIndividualSds_books
    · next hb => exact .trans (.of_same rfl rfl) (sendIndividualSds_books (by simpa using hb))
  · next h => exact sendDSdsDataWithReporter_books h ..

theorem flushOne_books : Books c.busy s (s.flushOne c m) := by
  unfold flushOne
  split
  · exact .of_same rfl rfl
  rename_i hb
  split
  · exact .of_same rfl rfl
  · exact sendIndividualSds_books (by simpa using hb)

/-- Nor does a flush send one to a busy radio. -/
theorem flushDeferredIndividualSds_books : Books c.busy s (s.flushDeferredIndividualSds c) := by
  unfold flushDeferredIndividualSds
  exact List.foldlRecOn (motive := Books c.busy s) _ _ (.of_same rfl rfl)
    (fun t ht m _ => ht.trans flushOne_books)

/-- Whatever is handled, the queue grows by what is booked. -/
theorem Handles.books (h : Handles busy route s s') : Books busy s s' := by
  obtain ⟨t, hsame, rfl | ⟨d, -, r, rfl⟩⟩ := h
  · exact .of_aside hsame
  · exact .trans (.of_aside hsame) (sendOrDeferDSdsData_books ..)

end SdsBs
end NexusBs.Sds
