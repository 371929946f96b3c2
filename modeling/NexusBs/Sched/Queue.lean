import NexusBs.Sched.Elem

namespace NexusBs
open BitBuffer List

def maxDlschedElemsPerTimeslot : Nat := 4096
def maxDlschedNextSlotElems : Nat := 4096
def maxPendingRaAcksPerTimeslot : Nat := 8192

def dlMakeMinimalResource (addr : TetraAddress) (grant : Option BasicSlotgrant)
    (randomAccessAck : Bool) : MacResource :=
  MacResource.updateLenAndFillInd
    ⟨false, 0, 0, randomAccessAck, 0, some addr, none, none, none, grant, none⟩ 0

namespace SchedQueue
open DlSchedElem

/-- Position of the oldest element of the lowest priority. -/
def leastProtected (q : List DlSchedElem) : Nat :=
  q.findIdx (fun e => q.all (fun e' =>
    decide (e.elemBackpressurePriority.rank ≤ e'.elemBackpressurePriority.rank)))

def enforceSchedQueueCap (cap : Nat) (q : List DlSchedElem) : List DlSchedElem :=
  (fun q => q.eraseIdx (leastProtected q))^[q.length - cap] q

/-- A newer floor withdrawal takes the place of the older ones of the same call. -/
def coalesceFloorWithdraw (q : List DlSchedElem) (e : DlSchedElem) : List DlSchedElem :=
  match e.floorWithdrawKey with
  | none => q
  | some key => q.filter (fun x => x.floorWithdrawKey != some key)

/-- The queued element `x` with the new element `e` put into it, where it takes it. -/
def coalesceInto (e x : DlSchedElem) : Option DlSchedElem :=
  match e, x with
  | grant addr g marker, resource pdu sdu tx group =>
    if pdu.addr = some addr then
      some (resource { pdu with
        slotGrantingElement := some g, usageMarker := pdu.usageMarker <|> marker } sdu tx group)
    else none
  | grant addr g marker, randomAccessAck ackAddr =>
    if ackAddr = addr then
      some (resource { dlMakeMinimalResource addr (some g) true with usageMarker := marker }
        (BitBuffer.new 0) none none)
    else none
  | grant addr g marker, grant grantAddr _ queuedMarker =>
    if grantAddr = addr then some (grant grantAddr g (queuedMarker <|> marker)) else none
  | randomAccessAck addr, resource pdu sdu tx group =>
    if pdu.addr = some addr then
      some (resource { pdu with randomAccessFlag := true } sdu tx group)
    else none
  | randomAccessAck addr, grant grantAddr g marker =>
    if grantAddr = addr then
      some (resource { dlMakeMinimalResource addr (some g) true with usageMarker := marker }
        (BitBuffer.new 0) none none)
    else none
  | randomAccessAck addr, randomAccessAck ackAddr =>
    if ackAddr = addr then some (randomAccessAck ackAddr) else none
  | pendingGrant addr debt origin, pendingGrant pendingAddr pendingDebt pendingOrigin =>
    if pendingAddr = addr ∧ pendingOrigin = origin then
      some (pendingGrant pendingAddr (pendingDebt.coalesceMax debt) pendingOrigin)
    else none
  | _, _ => none

def updateLast (f : DlSchedElem → Option DlSchedElem) :
    List DlSchedElem → Option (List DlSchedElem)
  | [] => none
  | x :: xs =>
    match updateLast f xs with
    | some xs => some (x :: xs)
    | none => (f x).map (fun x => x :: xs)

/-- Grants and acknowledgements go into a queued element where one takes them. -/
def coalesceReadyGrantOrAck (q : List DlSchedElem) (e : DlSchedElem) : List DlSchedElem :=
  (updateLast (coalesceInto e) q).getD (q ++ [e])

def push (cap : Nat) (q : List DlSchedElem) (e : DlSchedElem) : List DlSchedElem :=
  enforceSchedQueueCap cap (coalesceReadyGrantOrAck (coalesceFloorWithdraw q e) e)

theorem enforceSchedQueueCap_sublist (cap : Nat) (q : List DlSchedElem) :
    (enforceSchedQueueCap cap q).Sublist q := by
  unfold enforceSchedQueueCap
  generalize q.length - cap = n
  induction n generalizing q with
  | zero => exact List.Sublist.refl q
  | succ n ih =>
    rw [Function.iterate_succ_apply]
    exact (ih _).trans (eraseIdx_sublist q _)

theorem enforceSchedQueueCap_of_le (h : q.length ≤ cap) : enforceSchedQueueCap cap q = q := by
  rw [enforceSchedQueueCap, Nat.sub_eq_zero_of_le h]
  rfl

theorem updateLast_mem (h : updateLast f q = some q') (hx : x ∈ q') :
    x ∈ q ∨ ∃ y ∈ q, f y = some x := by
  induction q generalizing q' with
  | nil => cases h
  | cons y ys ih =>
    rw [updateLast] at h
    split at h
    · rename_i ys' hys
      cases h
      rcases mem_cons.mp hx with rfl | hx
      · exact .inl mem_cons_self
      · rcases ih hys hx with hx | ⟨z, hz, hfz⟩
        · exact .inl (mem_cons_of_mem _ hx)
        · exact .inr ⟨z, mem_cons_of_mem _ hz, hfz⟩
    · obtain ⟨z, hz, rfl⟩ := Option.map_eq_some_iff.mp h
      rcases mem_cons.mp hx with rfl | hx
      · exact .inr ⟨y, mem_cons_self, hz⟩
      · exact .inl (mem_cons_of_mem _ hx)

/-- What can be in a queue after a push. -/
theorem mem_push (h : x ∈ push cap q e) : x ∈ q ∨ x = e ∨ ∃ y ∈ q, coalesceInto e y = some x := by
  have h := (enforceSchedQueueCap_sublist cap _).subset h
  have hsub : ∀ y ∈ coalesceFloorWithdraw q e, y ∈ q := by
    intro y hy
    unfold coalesceFloorWithdraw at hy
    split at hy
    · exact hy
    · exact (mem_filter.mp hy).1
  unfold coalesceReadyGrantOrAck at h
  cases hu : updateLast (coalesceInto e) (coalesceFloorWithdraw q e) with
  | some =>
    rw [hu, Option.getD_some] at h
    rcases updateLast_mem hu h with h | ⟨y, hy, hyx⟩
    · exact .inl (hsub x h)
    · exact .inr (.inr ⟨y, hsub y hy, hyx⟩)
  | none =>
    rw [hu, Option.getD_none] at h
    rcases mem_append.mp h with h | h
    · exact .inl (hsub x h)
    · exact .inr (.inl (mem_singleton.mp h))

end SchedQueue
end NexusBs
