import NexusBs.Sched.Build

namespace NexusBs
open BitBuffer

inductive PhysicalChannel where
  | tp | cp

structure TmvUnitdataReq where
  logicalChannel : LogicalChannel
  macBlock : BitBuffer
  scramblingCode : Nat

structure TmvUnitdataReqSlot where
  ts : TdmaTime
  (blk1 blk2 bbk : Option TmvUnitdataReq)
  ulPhyChan : PhysicalChannel

def nullPduLenBits : Nat := 16
def scrambInit : Nat := 3

def nullBlock (cap : Nat) : Option BitBuffer := MacResource.nullPdu.toBitbuf (BitBuffer.new cap)

/-- Closes a signalling block that has room for it with a Null PDU. -/
def tryAddNullPdus (blk : TmvUnitdataReq) : Option TmvUnitdataReq :=
  if (blk.logicalChannel = .schHd ∨ blk.logicalChannel = .schF) ∧
      blk.macBlock.lenRemaining ≥ nullPduLenBits then
    ((MacResource.nullPdu.updateLenAndFillInd 0).toBitbuf blk.macBlock).map (fun b =>
      { blk with macBlock := b })
  else some blk

namespace BsChannelScheduler

variable (s : BsChannelScheduler)

def req (chan : LogicalChannel) (block : BitBuffer) : TmvUnitdataReq :=
  ⟨chan, block, s.scramblingCode⟩

variable (ts : TdmaTime)

def aachTs1 : Option AccessAssign :=
  (s.ulGetUsage ts).map (fun usage =>
    let e := s.ulsched.get ts
    match usage with
    | .traffic m => { AccessAssign.default with dlUsage := .commonControl, ulUsage := .traffic m }
    | _ => { AccessAssign.default with
      dlUsage := .commonControl
      ulUsage := .commonOnly
      f1Af1 := some ⟨0, if e.ul1.isSome then 0 else 4⟩
      f2Af2 := some ⟨0, if e.ul2.isSome then 0 else 4⟩ })

def aachTraffic (ulUsage dlUsage : Option Nat) (floorGrantPending : Bool)
    (alloc : Option TimeslotAllocator) : AccessAssign :=
  if (s.hangtime (ts.t - 1) && !floorGrantPending) ∧ (dlUsage.isSome ∨ ulUsage.isSome) then
    { AccessAssign.default with
      dlUsage := .assignedControl, ulUsage := .assignedOnly, f2Af := some ⟨0, 4⟩ }
  else
    match dlUsage, ulUsage, s.packetDataAssignmentForTimeslot ts alloc with
    | none, none, some a =>
      { AccessAssign.default with
        dlUsage := .assignedControl
        ulUsage := if packetDataAssignmentSupportsUplink a then .assignedOnly else .commonAndAssigned
        f2Af := some ⟨0, 4⟩ }
    | _, _, _ =>
      { AccessAssign.default with
        dlUsage := (dlUsage.map AccessAssignDlUsage.traffic).getD .unallocated
        ulUsage := (ulUsage.map AccessAssignUlUsage.traffic).getD .unallocated }

def aachFr18 : Option AccessAssignFr18 :=
  (if ts.isMandatoryClch then some .commonOnly else s.ulGetUsage ts).map (fun usage =>
    let e := s.ulsched.get ts
    let accessField (reserved : Bool) : AccessField := ⟨0, if reserved then 0 else 4⟩
    match usage with
    | .traffic m => ⟨.traffic m, none, none, some ⟨0, 0⟩⟩
    | .commonAndAssigned | .assignedOnly =>
      ⟨usage, some (accessField e.ul1.isSome), some (accessField e.ul2.isSome), none⟩
    | _ => ⟨.commonOnly, some ⟨0, 1⟩, some ⟨0, 0⟩, none⟩)

/-- The broadcast block; traffic on timeslot 1 trips an assertion. -/
def generateBbkBlock (floorGrantPending : Bool) (alloc : Option TimeslotAllocator) :
    Option TmvUnitdataReq :=
  let block : Option BitBuffer :=
    if ts.f = 18 then (s.aachFr18 ts).bind (fun aach => aach.toBitbuf (BitBuffer.new 14))
    else
      let ulUsage := s.circuits.getUsage .ul ts.t
      let dlUsage := s.circuits.getUsage .dl ts.t
      if ts.t = 1 then
        if dlUsage.isSome ∨ ulUsage.isSome then none
        else (s.aachTs1 ts).bind (fun aach => aach.toBitbuf (BitBuffer.new 14))
      else if isTimeslot ts.t then
        (s.aachTraffic ts ulUsage dlUsage floorGrantPending alloc).toBitbuf (BitBuffer.new 14)
      else some (BitBuffer.new 14)
  block.map (s.req .aach)

def generateDefaultBlks : Option TmvUnitdataReq :=
  if (1 ≤ ts.f ∧ ts.f ≤ 17) ∧ ts.t = 1 then
    if ts.f % 2 = 0 then (nullBlock schHdCap).map (s.req .schHd)
    else (nullBlock BsFragger.schFCap).map (s.req .schF)
  else if (1 ≤ ts.f ∧ ts.f ≤ 17) ∧ (2 ≤ ts.t ∧ ts.t ≤ 4) ∨ ts.f = 18 then
    ((writeFields s.precomps.macSync.fields (BitBuffer.new 60)).bind
      (writeFields s.precomps.mleSync.fields)).map (fun b => ⟨.bsch, b, scrambInit⟩)
  else none

/-- System information for the second half slot, by the parity of the timeslot. -/
def sysinfoBlock : Option TmvUnitdataReq :=
  let mac := if ts.t % 2 = 1 then s.precomps.macSysinfo1 else s.precomps.macSysinfo2
  (mac.fields.bind (fun fs => writeFields fs (BitBuffer.new 124))).bind (fun b =>
    (writeFields s.precomps.mleSysinfo.fields b).map (s.req .bnch))

/-- Blocks of a traffic slot: stolen signalling before speech, Null PDUs where
there is none of them. -/
def trafficBlocks (tch : Option DlTchBlock) (stch : Option BitBuffer) :
    Option (TmvUnitdataReq × Option TmvUnitdataReq) :=
  match stch, tch with
  | some b, some (.acElp t) | some b, some (.rawTchSHalfSlot t) =>
    some (s.req .stch b, some (s.req .tchS t))
  | some b, none => (nullBlock schHdCap).map (fun n => (s.req .stch b, some (s.req .stch n)))
  | none, some (.acElp t) => some (s.req .tchS t, none)
  | none, some (.rawTchSHalfSlot t) =>
    (nullBlock schHdCap).map (fun n => (s.req .stch n, some (s.req .tchS t)))
  | none, none => (nullBlock schHdCap).map (fun n => (s.req .stch n, some (s.req .stch n)))

structure SlotUse where
  (dlCircuitActive hangEffective ulIsTraffic dlIsTraffic floorGrantPending packetDataActive : Bool)

def slotUse (alloc : Option TimeslotAllocator) : SlotUse :=
  let dlCircuitActive := s.circuits.isActive .dl ts.t && decide (ts.f ≠ 18)
  let ulCircuitActive := s.circuits.isActive .ul ts.t && decide (ts.f ≠ 18)
  let hangEffective := decide (2 ≤ ts.t ∧ ts.t ≤ 4) && s.isHangtimeEffective ts.t
  { dlCircuitActive := dlCircuitActive
    hangEffective := hangEffective
    ulIsTraffic := ulCircuitActive && !hangEffective
    dlIsTraffic := dlCircuitActive && !hangEffective
    floorGrantPending :=
      decide (2 ≤ ts.t ∧ ts.t ≤ 4) && s.hasPendingGroupPositiveFloorGrantStealing ts.t
    packetDataActive := (s.packetDataAssignmentForTimeslot ts alloc).isSome }

/-- The scheduled blocks, none where nothing is scheduled, the state behind them,
and the headers in the first of them. -/
def scheduledBlocks (env : SlotEnv) (use : SlotUse) :
    Option (Option (TmvUnitdataReq × Option TmvUnitdataReq) × BsChannelScheduler × EnergySaving ×
      Option TimeslotAllocator × List (Nat × MacResource)) :=
  if use.dlIsTraffic then
    (s.dlBuildTrafficBlock ts env).bind (fun (tch, stch, s, es) =>
      (s.trafficBlocks tch stch).map (fun blks => (some blks, s, es, env.alloc, [])))
  else
    (s.dlIntegrateSchedElemsForTimeslot ts env).bind (fun s =>
      (s.dlBuildBlockFromSignallingSchedule ts env).bind (fun (buf, s, es, alloc, headers) =>
        match buf with
        | some b => some (some (s.req .schF b, none), s, es, alloc, headers)
        | none =>
          if (use.hangEffective ∧ use.dlCircuitActive) ∨
              (use.packetDataActive ∧ canCarryScheduledSchf ts) then
            (nullBlock BsFragger.schFCap).map (fun b =>
              (some (s.req .schF b, none), s, es, alloc, headers))
          else some (none, s, es, alloc, headers)))

def secondBlock (blk1 : TmvUnitdataReq) (blk2 : Option TmvUnitdataReq) :
    Option (Option TmvUnitdataReq) :=
  match blk2 with
  | some b => some (some b)
  | none =>
    if blk1.logicalChannel = .stch then none
    else if blk1.logicalChannel = .bsch ∨ blk1.logicalChannel = .schHd then
      if blk1.macBlock.len ≤ 124 then (s.sysinfoBlock ts).map some else none
    else if blk1.macBlock.len ≥ 268 then some none
    else none

def rewind (blk : TmvUnitdataReq) : Option TmvUnitdataReq :=
  (blk.macBlock.seek 0).map (fun b => { blk with macBlock := b })

def finishBlock (blk : TmvUnitdataReq) : Option TmvUnitdataReq :=
  (tryAddNullPdus blk).bind rewind

def finishSecond (blk : Option TmvUnitdataReq) : Option (Option TmvUnitdataReq) :=
  match blk with
  | some b => (finishBlock b).map some
  | none => some none

def firstBlock (blks : Option (TmvUnitdataReq × Option TmvUnitdataReq)) : Option TmvUnitdataReq :=
  match blks with
  | some b => some b.1
  | none => s.generateDefaultBlks ts

def assembleSlot (use : SlotUse) (alloc : Option TimeslotAllocator)
    (blks : Option (TmvUnitdataReq × Option TmvUnitdataReq)) : Option TmvUnitdataReqSlot :=
  if blks.isSome ∧ canCarryScheduledSchf ts = false then none
  else do
    let bbk ← s.generateBbkBlock ts use.floorGrantPending alloc
    let blk1 ← s.firstBlock ts blks
    let blk2 ← s.secondBlock ts blk1 (blks.bind Prod.snd)
    let blk1 ← finishBlock blk1
    let blk2 ← finishSecond blk2
    let bbk ← rewind bbk
    some ⟨ts, some blk1, blk2, some bbk, if use.ulIsTraffic then .tp else .cp⟩

def stampPrecomps : BsChannelScheduler :=
  { s with precomps := { s.precomps with
      macSync.time := ts
      macSysinfo1.hyperframeNumber := some ts.h
      macSysinfo2.hyperframeNumber := some ts.h } }

def clearUplinkSlot : BsChannelScheduler :=
  { s with
    ulsched := s.ulsched.clearSlot (ts.addTimeslots (-4))
    booked := Function.update s.booked s.oldest emptySchedElem
    oldest := s.oldest + 1 }

/-- What is done at the start of finalisation, before anything is scheduled. -/
def prepareSlot (alloc : Option TimeslotAllocator) :
    BsChannelScheduler × Option TimeslotAllocator :=
  let s := if ts.t = 1 then { s with mcchChanAllocSentThisFrame := false } else s
  let (s, alloc) := syncPacketDataAssignmentsWithAllocator [2, 3, 4] (s.stampPrecomps ts) alloc
  s.expirePacketDataAssignments ts alloc

/-- What finalisation of a slot leaves behind. -/
structure Finalized where
  slot : TmvUnitdataReqSlot
  sched : BsChannelScheduler
  energySaving : EnergySaving
  alloc : Option TimeslotAllocator
  headers : List (Nat × MacResource)

/-- Finalises the slot ahead of the current time; `none` where it panics. -/
def finalizeTsForTick (env : SlotEnv) : Option Finalized :=
  let ts := s.curDltime.addTimeslots macschedTxAhead
  let (s, alloc) := s.prepareSlot ts env.alloc
  let use := s.slotUse ts alloc
  (s.scheduledBlocks ts { env with alloc := alloc } use).bind
    (fun (blks, s, es, alloc, headers) =>
      (s.assembleSlot ts use alloc blks).map (fun slot =>
        ⟨slot, s.clearUplinkSlot ts, es, alloc, headers⟩))

def tickStart : BsChannelScheduler :=
  { s with curDltime := s.curDltime.addTimeslots 1, now := s.now + 1 }

def nextSlot (env : SlotEnv) : Option Finalized := s.tickStart.finalizeTsForTick env

end BsChannelScheduler
end NexusBs
