import NexusBs.Mle.MleBs
import NexusBs.Lib.Correlation
import NexusBs.Lib.Run

namespace NexusBs
open List Option

/-- A request that LLC was given and that has not ended: who made it, under which handle of its
own, and the handle that LLC knows it by. -/
structure MleRequest where
  user : MleSapUser
  upperHandle : Int
  tlaHandle : Todo
deriving DecidableEq

namespace MleRequest

def entry (o : MleRequest) : PendingMleTransfer := ⟨o.user, o.upperHandle.toNat⟩

/-- The report that the user of the request has to get. -/
def report (o : MleRequest) (transferResult : Todo) (channelChangeResponseRequired : Bool)
    (channelChangeHandle : Todo) : List MleMsg :=
  match o.user with
  | .mm => [.lmmMleReportInd o.upperHandle.toNat transferResult]
  | .cmce => [.lcmcMleReportInd o.upperHandle transferResult channelChangeResponseRequired
      channelChangeHandle]
  | .sndcp => [.ltpdMleReportInd o.upperHandle transferResult]
  | .broadcast => []

/-- The handle is one that fits the report of its user. -/
def Fits (o : MleRequest) : Prop :=
  0 ≤ o.upperHandle ∧ (o.user ≠ .mm → o.upperHandle ≤ i32Max)

theorem wrapI32_of_fits (h : 0 ≤ n ∧ n ≤ i32Max) : wrapI32 n = n := by
  unfold i32Max at h
  unfold wrapI32
  omega

theorem mleReport_entry {o : MleRequest} (h : o.Fits) (handle : Todo) :
    MleBs.mleReport o.entry result required handle = o.report result required handle := by
  obtain ⟨user, upperHandle, tlaHandle⟩ := o
  obtain ⟨hpos, hmax⟩ := h
  have hcast : (upperHandle.toNat : Int) = upperHandle := Int.toNat_of_nonneg hpos
  have hwrap : user ≠ .mm → wrapI32 (upperHandle.toNat : Int) = upperHandle := by
    intro hu
    rw [hcast]
    exact wrapI32_of_fits ⟨hpos, hmax hu⟩
  cases user with
  | mm => rfl
  | cmce | sndcp =>
    simp only [MleBs.mleReport, report, entry]
    rw [hwrap (by decide)]
  | broadcast => rfl

end MleRequest

def MleMsg.tlaHandle : MleMsg → Option Todo
  | .tlaTlUnitdataReqBl req => some req.reqHandle
  | .tlaTlDataRespBl resp => some resp.reqHandle
  | .tlaTlDataReqBl req => some req.reqHandle
  | _ => none

def MleMsg.IsIndication : MleMsg → Prop
  | .lmmMleUnitdataInd .. | .lcmcMleUnitdataInd .. | .ltpdMleUnitdataInd .. => True
  | _ => False

/-- Requests of the layer 3 users, and the tick, which may broadcast. -/
inductive MleOp where
  | lmm (prim : LmmMleUnitdataReq)
  | ltpd (prim : LtpdMleUnitdataReq)
  | lcmc (prim : LcmcMleUnitdataReq)
  | tick (ts : TdmaTime) (broadcast : Option BitBuffer)

namespace MleOp

def user : MleOp → MleSapUser
  | lmm _ => .mm
  | ltpd _ => .sndcp
  | lcmc _ => .cmce
  | tick _ _ => .broadcast

def upperHandle : MleOp → Int
  | lmm prim => prim.handle
  | ltpd prim => prim.handle
  | lcmc prim => prim.handle
  | tick _ _ => 0

/-- The request asks for a service with a handle of its own below MLE, and its upper handle fits
the report of its user. -/
def Allocates : MleOp → Prop
  | lmm prim => prim.layer2service = .todo ∨ prim.layer2service = .acknowledged
  | ltpd prim => prim.layer2service ≠ .acknowledgedResponse ∧ 0 ≤ prim.handle ∧ prim.handle ≤ i32Max
  | lcmc prim => prim.layer2service ≠ .acknowledgedResponse ∧ (prim.handle : Int) ≤ i32Max
  | tick _ _ => True

instance (op : MleOp) : Decidable op.Allocates :=
  match op with
  | lmm _ => inferInstanceAs (Decidable (_ ∨ _))
  | ltpd _ => inferInstanceAs (Decidable (_ ∧ _ ∧ _))
  | lcmc _ => inferInstanceAs (Decidable (_ ∧ _))
  | tick _ _ => .isTrue trivial

end MleOp

def MleBs.request (s : MleBs) : MleOp → Option MleBs
  | .lmm prim => s.rxLmmMleUnitdataReq prim
  | .ltpd prim => s.rxLtpdMleUnitdataReq prim
  | .lcmc prim => s.rxLcmcMleUnitdataReq prim
  | .tick ts broadcast => s.tickStart ts broadcast

/-- What MLE and LLC are offered: requests from above; for a request that LLC has, a report or a
confirm; and indications. -/
inductive MleEvent where
  | request (op : MleOp)
  | report (idx : Nat) (report : Todo) (chanChangeRespReq : Option Bool)
      (chanChangeHandle : Option Todo)
  | confirm (idx : Nat) (report : Todo) (conf : TlaInd)
  | dataInd (reqHandle : Todo) (ind : TlaInd)
  | unitdataInd (ind : TlaInd)

def MleEvent.Allocates : MleEvent → Prop
  | .request op => op.Allocates
  | _ => True

instance (e : MleEvent) : Decidable e.Allocates :=
  match e with
  | .request op => inferInstanceAs (Decidable op.Allocates)
  | .report .. | .confirm .. | .dataInd .. | .unitdataInd .. => .isTrue trivial

/-- MLE above an LLC that may report on any request it has, in any order. -/
structure MleRun where
  mle : MleBs
  outstanding : List MleRequest

/-- These reports end a request; a confirm always does. -/
def IsTerminal (report : Todo) : Prop :=
  report = tlaReportFailedTransfer ∨ report = tlaReportSuccessfulTransfer

instance (report : Todo) : Decidable (IsTerminal report) := inferInstanceAs (Decidable (_ ∨ _))

namespace MleRun

def init (config : MleConfig) : MleRun := ⟨MleBs.new config, []⟩

def given (s s' : MleBs) : List Todo := (s'.queue.drop s.queue.length).filterMap MleMsg.tlaHandle

def step (r : MleRun) : MleEvent → Option MleRun
  | .request op => (r.mle.request op).map (fun s =>
      ⟨s, r.outstanding ++ (given r.mle s).map (fun h => ⟨op.user, op.upperHandle, h⟩)⟩)
  | .report idx report required handle =>
    match r.outstanding[idx]? with
    | none => some r
    | some o => some
        ⟨r.mle.rxTlaReportInd ⟨some o.tlaHandle, report, required, handle⟩,
          if IsTerminal report then r.outstanding.eraseIdx idx else r.outstanding⟩
  | .confirm idx report conf =>
    match r.outstanding[idx]? with
    | none => some r
    | some o => (r.mle.rxTlaDataConfBl o.tlaHandle report conf).map (fun s =>
        ⟨s, r.outstanding.eraseIdx idx⟩)
  | .dataInd reqHandle ind => (r.mle.rxTlaDataIndBl reqHandle ind).map (fun s => ⟨s, r.outstanding⟩)
  | .unitdataInd ind => (r.mle.rxTlaUnitdataIndBl ind).map (fun s => ⟨s, r.outstanding⟩)

end MleRun

namespace MleBs

variable {s s' : MleBs}

/-! Handles -/

variable {handle : Todo}

/-- The loop stops at a handle that is not in use. -/
theorem allocateLoop_free (h : allocateLoop pending fuel start = some (handle, n)) :
    pending handle = none := by
  induction fuel generalizing start with
  | zero => cases h
  | succ fuel ih =>
    unfold allocateLoop at h
    split at h
    · rename_i hfree
      cases h
      exact hfree.2
    · exact ih h

theorem allocateTlaHandle_spec (h : s.allocateTlaHandle = some (handle, s')) :
    s.pendingDataTransfers handle = none ∧ s'.pendingDataTransfers = s.pendingDataTransfers ∧
      s'.queue = s.queue := by
  obtain ⟨⟨found, next⟩, hloop, heq⟩ := map_eq_some_iff.mp h
  cases heq
  exact ⟨allocateLoop_free hloop, rfl, rfl⟩

theorem trackTlaDataRequest_spec (h : s.trackTlaDataRequest user upper = some (handle, s')) :
    s.pendingDataTransfers handle = none ∧
      s'.pendingDataTransfers = Function.update s.pendingDataTransfers handle (some ⟨user, upper⟩) ∧
      s'.queue = s.queue := by
  obtain ⟨⟨found, t⟩, halloc, heq⟩ := map_eq_some_iff.mp h
  cases heq
  obtain ⟨hfree, htable, hqueue⟩ := allocateTlaHandle_spec halloc
  exact ⟨hfree, by rw [trackPending, htable], hqueue⟩

/-! Requests -/

/-- A request from above is dropped, or goes to LLC with a free handle under which it is
tracked. -/
def Takes (s : MleBs) (user : MleSapUser) (upper : MleHandle) (s' : MleBs) : Prop :=
  (s'.pendingDataTransfers = s.pendingDataTransfers ∧ s'.queue = s.queue) ∨
  ∃ handle msg, s.pendingDataTransfers handle = none ∧
    s'.pendingDataTransfers = Function.update s.pendingDataTransfers handle (some ⟨user, upper⟩) ∧
    s'.queue = s.queue ++ [msg] ∧ msg.tlaHandle = some handle

theorem takes_tracked (h : s.trackTlaDataRequest user upper = some (handle, t))
    (hm : msg.tlaHandle = some handle) : s.Takes user upper (t.push msg) := by
  obtain ⟨hfree, htable, hqueue⟩ := trackTlaDataRequest_spec h
  exact .inr ⟨handle, msg, hfree, htable, by rw [push, hqueue], hm⟩

theorem takes_pushed (h : s.allocateTlaHandle = some (handle, t)) (hm : msg.tlaHandle = some handle) :
    s.Takes user upper ((t.push msg).trackPending handle ⟨user, upper⟩) := by
  obtain ⟨hfree, htable, hqueue⟩ := allocateTlaHandle_spec h
  exact .inr ⟨handle, msg, hfree, by rw [trackPending, push, htable],
    by rw [trackPending, push, hqueue], hm⟩

theorem takes_lmm (ha : (MleOp.lmm prim).Allocates) (h : s.rxLmmMleUnitdataReq prim = some s') :
    s.Takes .mm prim.handle s' := by
  unfold rxLmmMleUnitdataReq at h
  split at h
  · cases h
    exact .inl ⟨rfl, rfl⟩
  rename_i hservice
  have hack : prim.layer2service = .acknowledged := ha.resolve_left hservice
  simp only [hack, bind_eq_bind, bind_eq_some_iff] at h
  obtain ⟨pdu, _, ⟨handle, t⟩, htrack, h⟩ := h
  cases h
  exact takes_tracked htrack rfl

theorem takes_ltpd (ha : (MleOp.ltpd prim).Allocates) (h : s.rxLtpdMleUnitdataReq prim = some s') :
    s.Takes .sndcp prim.handle.toNat s' := by
  have hhandle : todoToMleHandle prim.handle = prim.handle.toNat := if_pos ha.2.1
  unfold rxLtpdMleUnitdataReq at h
  split at h
  · cases h
    exact .inl ⟨rfl, rfl⟩
  split at h
  · cases h
    exact .inl ⟨rfl, rfl⟩
  simp only [bind_eq_bind, bind_eq_some_iff] at h
  obtain ⟨pdu, _, h⟩ := h
  cases hservice : prim.layer2service with
  | todo =>
    rw [hservice] at h
    cases h
  | acknowledgedResponse => exact absurd hservice ha.1
  | unacknowledged | acknowledged =>
    rw [hservice] at h
    obtain ⟨⟨handle, t⟩, htrack, h⟩ := bind_eq_some_iff.mp h
    cases h
    exact hhandle ▸ takes_tracked htrack rfl

theorem takes_lcmc (ha : (MleOp.lcmc prim).Allocates) (h : s.rxLcmcMleUnitdataReq prim = some s') :
    s.Takes .cmce prim.handle s' := by
  unfold rxLcmcMleUnitdataReq at h
  split at h
  · cases h
    exact .inl ⟨rfl, rfl⟩
  simp only [bind_eq_bind, bind_eq_some_iff] at h
  obtain ⟨pdu, _, h⟩ := h
  cases hservice : prim.layer2service with
  | todo =>
    rw [hservice] at h
    cases h
  | acknowledgedResponse => exact absurd hservice ha.1
  | unacknowledged | acknowledged =>
    rw [hservice] at h
    obtain ⟨⟨handle, t⟩, htrack, h⟩ := bind_eq_some_iff.mp h
    cases h
    exact takes_tracked htrack rfl

theorem takes_tick (h : s.tickStart ts broadcast = some s') : s.Takes .broadcast 0 s' := by
  unfold tickStart at h
  split at h
  · simp only [bind_eq_bind, bind_eq_some_iff] at h
    obtain ⟨⟨handle, t⟩, halloc, h⟩ := h
    dsimp only at h
    cases broadcast with
    | none =>
      cases h
      exact .inl (allocateTlaHandle_spec halloc).2
    | some =>
      obtain ⟨pdu, _, h⟩ := bind_eq_some_iff.mp h
      cases h
      exact takes_pushed halloc rfl
  · cases h
    exact .inl ⟨rfl, rfl⟩

/-- Whoever asks, the request is tracked or dropped. -/
theorem takes_request (ha : op.Allocates) (h : s.request op = some s') :
    s.Takes op.user op.upperHandle.toNat s' := by
  cases op with
  | lmm => exact takes_lmm ha h
  | ltpd => exact takes_ltpd ha h
  | lcmc => exact takes_lcmc ha h
  | tick => exact takes_tick h

/-! Reports and indications -/

theorem routePrefixedTlSdu_spec (s : MleBs) (sdu : BitBuffer) (addr : TetraAddress) (ep : EndpointId)
    (link : LinkId) (handle : MleHandle) :
    ∃ inds, s.routePrefixedTlSdu sdu addr ep link handle = some { s with queue := s.queue ++ inds } ∧
      ∀ msg ∈ inds, msg.IsIndication := by
  have hnone : ∃ inds, some s = some { s with queue := s.queue ++ inds } ∧
      ∀ msg ∈ inds, msg.IsIndication := ⟨[], by simp, fun _ h => by cases h⟩
  have hone : ∀ msg : MleMsg, msg.IsIndication → ∃ inds,
      some (s.push msg) = some { s with queue := s.queue ++ inds } ∧
      ∀ msg ∈ inds, msg.IsIndication :=
    fun msg hm => ⟨[msg], rfl, fun m h => mem_singleton.mp h ▸ hm⟩
  unfold routePrefixedTlSdu
  have hseek : ∃ b, (if sdu.getPos ≠ 0 then sdu.seek 0 else some sdu) = some b := by
    split
    · exact ⟨_, BitBuffer.seek_zero sdu⟩
    · exact ⟨sdu, rfl⟩
  obtain ⟨b, hb⟩ := hseek
  rw [hb, bind_some]
  split
  · exact hnone
  split
  · exact hone _ trivial
  · exact hone _ trivial
  · exact hone _ trivial
  · exact hnone
  · exact hnone
  · exact hnone

theorem rxTlaReportInd_terminal {o : MleRequest} (required : Option Bool) (handle : Option Todo)
    (hf : o.Fits) (hr : IsTerminal report) (hk : s.pendingDataTransfers o.tlaHandle = some o.entry) :
    s.rxTlaReportInd ⟨some o.tlaHandle, report, required, handle⟩ =
      { s with
        pendingDataTransfers := Function.update s.pendingDataTransfers o.tlaHandle none
        queue := s.queue ++ o.report report (required.getD false) (handle.getD 0) } := by
  have hne : report ≠ tlaReportNoSpecificReport ∧ report ≠ tlaReportFirstCompleteTransmission := by
    rcases hr with rfl | rfl <;> decide
  unfold IsTerminal at hr
  simp [rxTlaReportInd, if_neg hne.1, if_neg hne.2, if_pos hr, hk, removePending, pushMleReport,
    MleRequest.mleReport_entry hf]

/-- A report that does not end the request leaves the table alone, and says something only to the
user of the request. -/
theorem rxTlaReportInd_progress {o : MleRequest} (required : Option Bool) (handle : Option Todo)
    (hf : o.Fits) (hr : ¬IsTerminal report) (hk : s.pendingDataTransfers o.tlaHandle = some o.entry) :
    ∃ reports, s.rxTlaReportInd ⟨some o.tlaHandle, report, required, handle⟩ =
        { s with queue := s.queue ++ reports } ∧
      (reports = [] ∨ reports = o.report report (required.getD false) (handle.getD 0)) := by
  have hnone : ∃ reports, s = { s with queue := s.queue ++ reports } ∧
      (reports = [] ∨ reports = o.report report (required.getD false) (handle.getD 0)) :=
    ⟨[], by simp, .inl rfl⟩
  unfold IsTerminal at hr
  unfold rxTlaReportInd
  dsimp only
  split
  · exact hnone
  split
  · rw [hk]
    dsimp only
    split
    · exact ⟨_, by rw [pushMleReport, MleRequest.mleReport_entry hf], .inr rfl⟩
    · exact hnone
  · exact hnone

theorem rxTlaDataConfBl_spec {o : MleRequest} (report : Todo) (conf : TlaInd) (hf : o.Fits)
    (hk : s.pendingDataTransfers o.tlaHandle = some o.entry) :
    ∃ inds, s.rxTlaDataConfBl o.tlaHandle report conf = some
        { s with
          pendingDataTransfers := Function.update s.pendingDataTransfers o.tlaHandle none
          queue := s.queue ++ o.report report conf.chanChangeRespReq (conf.chanChangeHandle.getD 0) ++
            inds } ∧
      ∀ msg ∈ inds, msg.IsIndication := by
  simp only [rxTlaDataConfBl, hk, removePending, pushMleReport, MleRequest.mleReport_entry hf]
  cases conf.tlSdu with
  | none => exact ⟨[], by simp, fun _ h => by cases h⟩
  | some => exact routePrefixedTlSdu_spec ..

theorem rxTlaDataIndBl_spec (s : MleBs) (reqHandle : Todo) (ind : TlaInd) :
    ∃ inds, s.rxTlaDataIndBl reqHandle ind = some { s with queue := s.queue ++ inds } ∧
      ∀ msg ∈ inds, msg.IsIndication := by
  unfold rxTlaDataIndBl
  split
  · exact ⟨[], by simp, fun _ h => by cases h⟩
  · exact routePrefixedTlSdu_spec ..

theorem rxTlaUnitdataIndBl_spec (s : MleBs) (ind : TlaInd) :
    ∃ inds, s.rxTlaUnitdataIndBl ind = some { s with queue := s.queue ++ inds } ∧
      ∀ msg ∈ inds, msg.IsIndication := by
  unfold rxTlaUnitdataIndBl
  split
  · exact ⟨[], by simp, fun _ h => by cases h⟩
  · exact routePrefixedTlSdu_spec ..

end MleBs

namespace MleRun
open Lib

variable {r r' : MleRun}

/-- The table knows exactly the requests that LLC has. -/
structure Correlated (r : MleRun) : Prop where
  table : Correlates MleRequest.tlaHandle MleRequest.entry r.mle.pendingDataTransfers r.outstanding
  fits : ∀ o ∈ r.outstanding, o.Fits

theorem correlated_init : (init config).Correlated :=
  ⟨Correlates.empty, fun _ h => by cases h⟩

theorem fits_of_allocates {op : MleOp} (ha : op.Allocates) (handle : Todo) :
    (⟨op.user, op.upperHandle, handle⟩ : MleRequest).Fits := by
  cases op with
  | lmm => exact ⟨Int.natCast_nonneg _, fun h => absurd rfl h⟩
  | ltpd => exact ⟨ha.2.1, fun _ => ha.2.2⟩
  | lcmc => exact ⟨Int.natCast_nonneg _, fun _ => ha.2⟩
  | tick => exact ⟨Int.le_refl _, fun _ => (by decide : (0 : Int) ≤ i32Max)⟩

theorem Correlated.request (h : r.Correlated) (ha : op.Allocates)
    (hs : r.step (.request op) = some r') : r'.Correlated := by
  obtain ⟨s, hreq, rfl⟩ := map_eq_some_iff.mp hs
  rcases MleBs.takes_request ha hreq with ⟨htable, hqueue⟩ | ⟨handle, msg, hfree, htable, hqueue, hmsg⟩
  · have hgiven : given r.mle s = [] := by simp [given, hqueue]
    rw [hgiven, map_nil, append_nil]
    exact ⟨htable ▸ h.table, h.fits⟩
  · have hgiven : given r.mle s = [handle] := by simp [given, hqueue, hmsg]
    rw [hgiven, map_singleton]
    refine ⟨?_, fun o ho => ?_⟩
    · dsimp only
      rw [htable]
      exact h.table.track (i := ⟨op.user, op.upperHandle, handle⟩) hfree
    · rcases mem_append.mp ho with ho | ho
      · exact h.fits o ho
      · rw [mem_singleton.mp ho]
        exact fits_of_allocates ha handle

/-- The request at an index is closed. -/
def closed (r : MleRun) (idx : Nat) (o : MleRequest) (msgs : List MleMsg) : MleRun :=
  ⟨{ r.mle with
      pendingDataTransfers := Function.update r.mle.pendingDataTransfers o.tlaHandle none
      queue := r.mle.queue ++ msgs }, r.outstanding.eraseIdx idx⟩

theorem Correlated.closed (h : r.Correlated) (msgs : List MleMsg)
    (ho : r.outstanding[idx]? = some o) : (r.closed idx o msgs).Correlated :=
  ⟨h.table.close ho, fun e he => h.fits e (mem_of_mem_eraseIdx he)⟩

/-- Something is said, and nothing else happens. -/
def said (r : MleRun) (msgs : List MleMsg) : MleRun :=
  ⟨{ r.mle with queue := r.mle.queue ++ msgs }, r.outstanding⟩

section

variable (h : r.Correlated)
include h

theorem Correlated.said (msgs : List MleMsg) : (r.said msgs).Correlated := ⟨h.table, h.fits⟩

/-- A last report goes to who asked and ends the request. -/
theorem Correlated.step_terminal (required : Option Bool) (handle : Option Todo)
    (ho : r.outstanding[idx]? = some o) (hr : IsTerminal report) :
    r.step (.report idx report required handle) =
      some (r.closed idx o (o.report report (required.getD false) (handle.getD 0))) := by
  have hmem := List.mem_of_getElem? ho
  have hspec := MleBs.rxTlaReportInd_terminal required handle (h.fits o hmem) hr (h.table.known o hmem)
  simp only [step, ho, hspec, if_pos hr]
  rfl

theorem Correlated.step_progress (required : Option Bool) (handle : Option Todo)
    (ho : r.outstanding[idx]? = some o) (hr : ¬IsTerminal report) :
    ∃ reports, r.step (.report idx report required handle) = some (r.said reports) ∧
      (reports = [] ∨ reports = o.report report (required.getD false) (handle.getD 0)) := by
  have hmem := List.mem_of_getElem? ho
  obtain ⟨reports, hspec, hreports⟩ :=
    MleBs.rxTlaReportInd_progress required handle (h.fits o hmem) hr (h.table.known o hmem)
  refine ⟨reports, ?_, hreports⟩
  simp only [step, ho, hspec, if_neg hr]
  rfl

theorem Correlated.step_confirm (report : Todo) (conf : TlaInd) (ho : r.outstanding[idx]? = some o) :
    ∃ inds, r.step (.confirm idx report conf) = some (r.closed idx o
        (o.report report conf.chanChangeRespReq (conf.chanChangeHandle.getD 0) ++ inds)) ∧
      ∀ msg ∈ inds, msg.IsIndication := by
  have hmem := List.mem_of_getElem? ho
  obtain ⟨inds, hspec, hinds⟩ :=
    MleBs.rxTlaDataConfBl_spec report conf (h.fits o hmem) (h.table.known o hmem)
  refine ⟨inds, ?_, hinds⟩
  simp only [step, ho, hspec, map_some, append_assoc]
  rfl

/-- Every event keeps the table and the open requests together. -/
theorem Correlated.step (ha : e.Allocates) (hs : r.step e = some r') : r'.Correlated := by
  cases e with
  | request => exact h.request ha hs
  | report idx report required handle =>
    cases ho : r.outstanding[idx]? with
    | none =>
      simp only [MleRun.step, ho, Option.some.injEq] at hs
      exact hs ▸ h
    | some =>
      by_cases hr : IsTerminal report
      · rw [h.step_terminal required handle ho hr] at hs
        cases hs
        exact h.closed _ ho
      · obtain ⟨reports, heq, _⟩ := h.step_progress required handle ho hr
        rw [heq] at hs
        cases hs
        exact h.said _
  | confirm idx report conf =>
    cases ho : r.outstanding[idx]? with
    | none =>
      simp only [MleRun.step, ho, Option.some.injEq] at hs
      exact hs ▸ h
    | some =>
      obtain ⟨inds, heq, _⟩ := h.step_confirm report conf ho
      rw [heq] at hs
      cases hs
      exact h.closed _ ho
  | dataInd reqHandle ind =>
    obtain ⟨inds, heq, _⟩ := MleBs.rxTlaDataIndBl_spec r.mle reqHandle ind
    simp only [MleRun.step, heq, map_some, Option.some.injEq] at hs
    exact hs ▸ h.said inds
  | unitdataInd ind =>
    obtain ⟨inds, heq, _⟩ := MleBs.rxTlaUnitdataIndBl_spec r.mle ind
    simp only [MleRun.step, heq, map_some, Option.some.injEq] at hs
    exact hs ▸ h.said inds

end

/-- What a state promises about the reports to come: requests have handles of their own, the table
holds them and nothing else, a report or confirm that ends a request is passed on once to its user
and closes that request only, and any other report concerns at most that user. -/
structure ReportsGoBack (r : MleRun) : Prop where
  distinct : (r.outstanding.map MleRequest.tlaHandle).Nodup
  table : ∀ handle pending, r.mle.pendingDataTransfers handle = some pending ↔
    ∃ o ∈ r.outstanding, o.tlaHandle = handle ∧ o.entry = pending
  terminal : ∀ idx o report required handle, r.outstanding[idx]? = some o → IsTerminal report →
    ∃ r', r.step (.report idx report required handle) = some r' ∧
      r'.mle.queue = r.mle.queue ++ o.report report (required.getD false) (handle.getD 0) ∧
      r'.outstanding = r.outstanding.eraseIdx idx
  confirm : ∀ idx o report conf, r.outstanding[idx]? = some o →
    ∃ r' inds, r.step (.confirm idx report conf) = some r' ∧
      r'.mle.queue = r.mle.queue ++
        (o.report report conf.chanChangeRespReq (conf.chanChangeHandle.getD 0) ++ inds) ∧
      (∀ msg ∈ inds, msg.IsIndication) ∧ r'.outstanding = r.outstanding.eraseIdx idx
  progress : ∀ idx o report required handle, r.outstanding[idx]? = some o → ¬IsTerminal report →
    ∃ r' reports, r.step (.report idx report required handle) = some r' ∧
      r'.mle.queue = r.mle.queue ++ reports ∧
      (reports = [] ∨ reports = o.report report (required.getD false) (handle.getD 0)) ∧
      r'.mle.pendingDataTransfers = r.mle.pendingDataTransfers ∧ r'.outstanding = r.outstanding

theorem Correlated.reportsGoBack (h : r.Correlated) : r.ReportsGoBack where
  distinct := h.table.distinct
  table handle pending := by
    constructor
    · exact fun hk => h.table.of_some hk
    · rintro ⟨o, ho, rfl, rfl⟩
      exact h.table.known o ho
  terminal idx o report required handle ho hr :=
    ⟨_, h.step_terminal required handle ho hr, rfl, rfl⟩
  confirm idx o report conf ho := by
    obtain ⟨inds, heq, hinds⟩ := h.step_confirm report conf ho
    exact ⟨_, inds, heq, rfl, hinds, rfl⟩
  progress idx o report required handle ho hr := by
    obtain ⟨reports, heq, hreports⟩ := h.step_progress required handle ho hr
    exact ⟨_, reports, heq, rfl, hreports, rfl, rfl⟩

/-- In a run whose requests all get a handle of their own, reports go back to where the requests
came from. -/
theorem reports_go_back (config : MleConfig) (events : List MleEvent) (r : MleRun)
    (ha : ∀ e ∈ events, e.Allocates)
    (hr : Lib.run MleRun.step (init config) events = some r) : r.ReportsGoBack := by
  have hinv : r.Correlated := run_invariant (P := Correlated)
    (fun _ e _ h hok hs => h.step (e := e) hok hs) correlated_init (Along.of_forall ha) hr
  exact hinv.reportsGoBack

/-- CMCE's acknowledged request, and a request of MM whose own handle is the one that CMCE's request
got below. -/
def bothRequest (service : Layer2Service) : List MleEvent :=
  [.request (.lcmc
      { sdu := .fromBitarr [true], handle := 42, endpointId := 0, linkId := 0
        layer2service := .acknowledged, pduPrio := 0, stealingPermission := false
        stealingRepeatsFlag := false, unackedBlRepetitions := none
        mainAddress := TetraAddress.issi 1, chanAlloc := none, txReporter := false }),
    .request (.lmm
      { sdu := .fromBitarr [true], handle := 1, address := TetraAddress.issi 2
        layer2service := service, stealingPermission := false
        stealingRepeatsFlag := false, txReporter := false })]

def handlesCollide : List MleEvent := bothRequest .unacknowledged

theorem handlesCollide_outstanding :
    (Lib.run MleRun.step (init ⟨0, false⟩) handlesCollide).map (fun r => r.outstanding) =
      some [⟨.cmce, 42, 1⟩, ⟨.mm, 1, 1⟩] := by
  decide +kernel

theorem handlesCollide_report :
    (Lib.run MleRun.step (init ⟨0, false⟩)
      (handlesCollide ++ [.report 1 tlaReportSuccessfulTransfer none none])).map (fun r =>
        (r.mle.queue.getLast?, r.outstanding, r.mle.pendingDataTransfers 1)) =
      some (some (.lcmcMleReportInd 42 tlaReportSuccessfulTransfer false 0), [⟨.cmce, 42, 1⟩],
        none) := by
  decide +kernel

/-- The report on MM's request is given to CMCE and closes CMCE's request. -/
theorem report_goes_astray : ∃ r, Lib.run MleRun.step (init ⟨0, false⟩) handlesCollide = some r ∧
    ¬r.ReportsGoBack ∧
    ∃ r', r.step (.report 1 tlaReportSuccessfulTransfer none none) = some r' ∧
      r'.mle.queue.getLast? = some (.lcmcMleReportInd 42 tlaReportSuccessfulTransfer false 0) ∧
      r'.outstanding = [⟨.cmce, 42, 1⟩] ∧ r'.mle.pendingDataTransfers 1 = none := by
  obtain ⟨r, hr, ho⟩ := map_eq_some_iff.mp handlesCollide_outstanding
  obtain ⟨r', hr', hs⟩ := map_eq_some_iff.mp handlesCollide_report
  rw [run_append, hr, bind_some, run_cons] at hr'
  obtain ⟨r1, hstep, hrun⟩ := bind_eq_some_iff.mp hr'
  cases hrun
  simp only [Prod.mk.injEq] at hs
  refine ⟨r, hr, fun h => ?_, r', hstep, hs⟩
  have hnodup := h.distinct
  rw [ho] at hnodup
  exact absurd hnodup (by decide)

def handlesApart : List MleEvent :=
  bothRequest .acknowledged ++ [.report 0 tlaReportSuccessfulTransfer none none]

theorem handlesApart_go_back : ∃ r, Lib.run MleRun.step (init ⟨0, false⟩) handlesApart = some r ∧
    r.outstanding = [⟨.mm, 1, 2⟩] ∧
    r.mle.queue.getLast? = some (.lcmcMleReportInd 42 tlaReportSuccessfulTransfer false 0) ∧
    r.ReportsGoBack := by
  have hrun : (Lib.run MleRun.step (init ⟨0, false⟩) handlesApart).map (fun r =>
      (r.outstanding, r.mle.queue.getLast?)) =
        some ([⟨.mm, 1, 2⟩], some (.lcmcMleReportInd 42 tlaReportSuccessfulTransfer false 0)) := by
    decide +kernel
  obtain ⟨r, hr, hs⟩ := map_eq_some_iff.mp hrun
  simp only [Prod.mk.injEq] at hs
  exact ⟨r, hr, hs.1, hs.2, reports_go_back ⟨0, false⟩ handlesApart r (by decide) hr⟩

end MleRun

end NexusBs
