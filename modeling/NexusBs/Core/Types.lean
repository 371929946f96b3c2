import Mathlib.Tactic.TypeStar

namespace NexusBs

inductive SsiType where
  | unknown | ssi | issi | gssi | ussi | smi | esi | eventLabel
deriving DecidableEq

structure TetraAddress where
  ssi : Nat
  ssiType : SsiType
deriving DecidableEq

def TetraAddress.issi (ssi : Nat) : TetraAddress := ⟨ssi, .issi⟩

structure Timeslots where
  (ts1 ts2 ts3 ts4 : Bool)
deriving DecidableEq

namespace Timeslots

def toList (s : Timeslots) : List Bool := [s.ts1, s.ts2, s.ts3, s.ts4]

def first (s : Timeslots) : Option Nat := (s.toList.findIdx? id).map (· + 1)

def none : Timeslots := ⟨false, false, false, false⟩

def single (ts : Nat) : Timeslots := ⟨ts == 1, ts == 2, ts == 3, ts == 4⟩

end Timeslots

inductive ChanAllocType where
  | replace | additional | quitAndGo | replaceWithCarrierSignalling
deriving DecidableEq

inductive UlDlAssignment where
  | augmented | dl | ul | both
deriving DecidableEq

namespace ChanAllocType

def intoRaw : ChanAllocType → Nat
  | replace => 0
  | additional => 1
  | quitAndGo => 2
  | replaceWithCarrierSignalling => 3

def tryFrom : Nat → Option ChanAllocType
  | 0 => some replace
  | 1 => some additional
  | 2 => some quitAndGo
  | 3 => some replaceWithCarrierSignalling
  | _ => none

@[simp] theorem tryFrom_intoRaw (a : ChanAllocType) : tryFrom a.intoRaw = some a := by
  cases a <;> rfl

theorem intoRaw_lt (a : ChanAllocType) : a.intoRaw < 4 := by cases a <;> decide

end ChanAllocType

namespace UlDlAssignment

def intoRaw : UlDlAssignment → Nat
  | augmented => 0
  | dl => 1
  | ul => 2
  | both => 3

def tryFrom : Nat → Option UlDlAssignment
  | 0 => some augmented
  | 1 => some dl
  | 2 => some ul
  | 3 => some both
  | _ => none

@[simp] theorem tryFrom_intoRaw (a : UlDlAssignment) : tryFrom a.intoRaw = some a := by
  cases a <;> rfl

theorem intoRaw_lt (a : UlDlAssignment) : a.intoRaw < 4 := by cases a <;> decide

end UlDlAssignment

inductive LogicalChannel where
  | aach | schHd | schF | stch | schHu | tchS | tch24 | tch48 | tch72 | bsch | bnch | blch | clch
deriving DecidableEq

/-- What the owner of a transmit receipt can observe. -/
inductive TxState where
  | pending | discarded | transmitted | lost | acknowledged
deriving DecidableEq

end NexusBs
