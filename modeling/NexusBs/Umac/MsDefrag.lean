import NexusBs.Core.BitBuffer
import NexusBs.Core.TdmaTime
import NexusBs.Core.Types

namespace NexusBs
open Lib BitBuffer

inductive DefragBufferState where
  | inactive | active | complete
deriving DecidableEq

structure DefragBuffer where
  state : DefragBufferState
  addr : TetraAddress
  (tFirst tLast : TdmaTime)
  numFrags : Nat
  aieInfo : Option Nat
  buffer : BitBuffer

namespace DefragBuffer

def defragBufInitialLen : Nat := 512

def new : DefragBuffer :=
  ⟨.inactive, TetraAddress.issi 0, TdmaTime.default, TdmaTime.default, 0, none,
    newAutoexpand defragBufInitialLen⟩

def reset (_ : DefragBuffer) : DefragBuffer := new

/-- Copies what is left to read of a fragment; returns the fragment read. -/
def append (d : DefragBuffer) (b : BitBuffer) : Option (DefragBuffer × BitBuffer) :=
  (d.buffer.copyBits b b.lenRemaining).map (fun (buf, b) => ({ d with buffer := buf }, b))

end DefragBuffer

def tsIndex (t : TdmaTime) : Fin 4 := ⟨t.t - 1, by have := t.t_range; omega⟩

/-- One reassembly per timeslot: only the infrastructure sends on the downlink. -/
structure MsDefrag where
  buffers : Fin 4 → DefragBuffer

namespace MsDefrag

def defragBufMaxLen : Nat := 4096

def new : MsDefrag := ⟨fun _ => DefragBuffer.new⟩

def set (m : MsDefrag) (ts : Fin 4) (d : DefragBuffer) : MsDefrag :=
  ⟨fun i => if i = ts then d else m.buffers i⟩

@[simp] theorem set_self (m : MsDefrag) (ts : Fin 4) (d : DefragBuffer) :
    (m.set ts d).buffers ts = d := by simp [set]

@[simp] theorem set_set (m : MsDefrag) (ts : Fin 4) (d e : DefragBuffer) :
    (m.set ts d).set ts e = m.set ts e := by
  simp only [set, mk.injEq]
  funext i
  by_cases h : i = ts <;> simp [h]

section

variable (m : MsDefrag) (b : BitBuffer) (t : TdmaTime)

/-- Starts a reassembly with the first fragment; one under way is lost. -/
def insertFirst (addr : TetraAddress)
    (aieInfo : Option Nat) : Option (MsDefrag × BitBuffer) :=
  let ts := tsIndex t
  let d := if (m.buffers ts).state ≠ .inactive then (m.buffers ts).reset else m.buffers ts
  (DefragBuffer.append ⟨.active, addr, t, t, 1, aieInfo, d.buffer⟩ b).map
    (fun (d, b) => (m.set ts d, b))

/-- A further fragment, which leaves the reassembly in the given state. -/
def insertInto (state : DefragBufferState) :
    Option (MsDefrag × BitBuffer) :=
  let ts := tsIndex t
  let d := m.buffers ts
  if d.state ≠ .active then some (m, b)
  else if d.buffer.len + b.lenRemaining > defragBufMaxLen then some (m.set ts DefragBuffer.new, b)
  else
    ({ d with state := state, tLast := t, numFrags := d.numFrags + 1 }.append b).map
      (fun (d, b) => (m.set ts d, b))

def insertNext : Option (MsDefrag × BitBuffer) :=
  m.insertInto b t .active

def insertLast : Option (MsDefrag × BitBuffer) :=
  m.insertInto b t .complete

end

def takeDefraggedBuf (m : MsDefrag) (t : TdmaTime) : Option (MsDefrag × Option DefragBuffer) :=
  let ts := tsIndex t
  let d := m.buffers ts
  if d.state ≠ .complete then some (m, none)
  else
    ((d.buffer.setRawEnd d.buffer.rawPos).bind (fun b => b.seek 0)).map
      (fun b => (m.set ts DefragBuffer.new, some { d with buffer := b }))

/-- A reassembly for `addr` that holds exactly `bits`. -/
structure Holds (d : DefragBuffer) (addr : TetraAddress) (bits : List Bool) : Prop where
  active : d.state = .active
  addr_eq : d.addr = addr
  clear : d.aieInfo = none
  head : d.buffer.head = []
  done : d.buffer.done = bits
  rest : d.buffer.rest = []
  expands : d.buffer.autoexpand = true

/-- Nothing is written to a buffer before its first fragment. -/
def Idle (d : DefragBuffer) : Prop :=
  d.state = .inactive → d.buffer = newAutoexpand DefragBuffer.defragBufInitialLen

theorem idle_new : Idle DefragBuffer.new := fun _ => rfl

/-- Every operation keeps the idle buffers empty. -/
def AllIdle (m : MsDefrag) : Prop := ∀ i, Idle (m.buffers i)

theorem allIdle_new : AllIdle new := fun _ => idle_new

theorem insertFirst_holds {m : MsDefrag} {b : BitBuffer} (hi : Idle (m.buffers (tsIndex t))) :
    ∃ d, m.insertFirst b t addr none = some (m.set (tsIndex t) d, b.advance b.rest.length) ∧
      Holds d addr b.rest := by
  have hbuf : (if (m.buffers (tsIndex t)).state ≠ .inactive then (m.buffers (tsIndex t)).reset
      else m.buffers (tsIndex t)).buffer = newAutoexpand DefragBuffer.defragBufInitialLen := by
    split
    · rfl
    · rename_i h
      exact hi (by simpa using h)
  obtain ⟨tail, hc⟩ := copyBits_expand
    (newAutoexpand DefragBuffer.defragBufInitialLen) b b.rest.length rfl rfl (Nat.le_refl _)
  refine ⟨⟨.active, addr, t, t, 1, none, ⟨[], b.rest, [], tail, true⟩⟩, ?_, ?_⟩
  · unfold insertFirst
    simp only [hbuf, DefragBuffer.append, lenRemaining, hc, Option.map_some, List.take_length]
    rfl
  · exact ⟨rfl, rfl, rfl, rfl, rfl, rfl, rfl⟩

theorem insertInto_holds {m : MsDefrag} {b : BitBuffer} {bits : List Bool}
    (state : DefragBufferState) (h : Holds (m.buffers (tsIndex t)) addr bits)
    (hl : bits.length + b.rest.length ≤ defragBufMaxLen) :
    ∃ d, m.insertInto b t state = some (m.set (tsIndex t) d, b.advance b.rest.length) ∧
      d.state = state ∧ Holds { d with state := .active } addr (bits ++ b.rest) := by
  obtain ⟨tail, hc⟩ := copyBits_expand
    (m.buffers (tsIndex t)).buffer b b.rest.length h.expands h.rest (Nat.le_refl _)
  refine ⟨{ m.buffers (tsIndex t) with
    state := state, tLast := t, numFrags := (m.buffers (tsIndex t)).numFrags + 1
    buffer := { (m.buffers (tsIndex t)).buffer with
      done := (m.buffers (tsIndex t)).buffer.done ++ b.rest, rest := [], tail := tail } },
    ?_, rfl, ?_⟩
  · unfold insertInto
    rw [if_neg (by simp [h.active]), if_neg (by simp [len, lenRemaining, h.done, h.rest]; omega)]
    simp [DefragBuffer.append, lenRemaining, hc]
  · exact ⟨rfl, h.addr_eq, h.clear, h.head, by simp [h.done], rfl, h.expands⟩

theorem takeDefraggedBuf_holds {m : MsDefrag} {d : DefragBuffer} (hd : m.buffers (tsIndex t) = d)
    (hs : d.state = .complete) (h : Holds { d with state := .active } addr bits) :
    ∃ e : DefragBuffer, m.takeDefraggedBuf t = some (m.set (tsIndex t) DefragBuffer.new, some e) ∧
      e.addr = addr ∧ e.buffer.done = [] ∧ e.buffer.rest = bits := by
  have hh : d.buffer.head = [] := h.head
  have hb : d.buffer.done = bits := h.done
  have hr : d.buffer.rest = [] := h.rest
  have hend : d.buffer.setRawEnd d.buffer.rawPos = some d.buffer := by
    rw [setRawEnd, if_pos (by simp only [capacity, rawStart, rawPos]; omega)]
    cases hbuf : d.buffer with
    | mk =>
      rw [hbuf] at hr
      subst hr
      simp [rawPos]
  refine ⟨{ d with buffer := { d.buffer with done := [], rest := bits } }, ?_, h.addr_eq, rfl, rfl⟩
  unfold takeDefraggedBuf
  simp only [hd, hs, ne_eq, not_true, if_false, hend, Option.bind_some]
  simp [seek, window, hb, hr]

end MsDefrag
end NexusBs
