import GattRpc.Text.Hexadecimal

/-! # Services and characteristics

A peripheral offers services, each a list of characteristics. The RPC service has two of them: the
inbox carries the messages of both directions, and the poll signal tells how many bytes wait to be
read from the inbox. -/

namespace GattRpc

structure Uuid where
  bits : BitVec 128
deriving DecidableEq, Repr

namespace Uuid

/-- The digits of a UUID without its hyphens. -/
def digits (u : Uuid) : List Char :=
  let ds := Nat.toDigits 16 u.bits.toNat
  List.replicate (32 - ds.length) '0' ++ ds

/-- Lower-case digits in groups of 8, 4, 4, 4 and 12. -/
def text (u : Uuid) : String :=
  let ds := u.digits
  let group (start size : Nat) := String.ofList ((ds.drop start).take size)
  "-".intercalate [group 0 8, group 8 4, group 12 4, group 16 4, group 20 12]

/-- Reads 32 digits, in either case, alone or hyphenated as `text` does. -/
def parse? (s : String) : Option Uuid :=
  let cs := s.toList
  let bare := cs.filter (· ≠ '-')
  let hyphens := (cs.zipIdx.filter fun (c, _) => c = '-').map Prod.snd
  if bare.length = 32 ∧ (hyphens = [] ∨ hyphens = [8, 13, 18, 23]) then do
    let ds ← bare.mapM Hexadecimal.value?
    some ⟨BitVec.ofNat 128 (ds.foldl (fun n d => 16 * n + d) 0)⟩
  else none

end Uuid

/-- The UUIDs of the RPC service. -/
def rpcService : Uuid := ⟨0x503553ca_eb90_11e8_ac5b_bb7e434023e8#128⟩

def inboxUuid : Uuid := ⟨0x510c87c8_eb90_11e8_b3dc_17292c2ecc2d#128⟩

def pollSignalUuid : Uuid := ⟨0x5140f882_eb90_11e8_a835_13d2bd922d3f#128⟩

/-- A characteristic as the link addresses it. -/
structure Characteristic where
  uuid : Uuid
  index : UInt32
deriving DecidableEq, Repr

structure Service where
  uuid : Uuid
  characteristics : List Characteristic
deriving DecidableEq, Repr

/-- The first characteristic with this UUID. -/
def Service.characteristic? (s : Service) (u : Uuid) : Option Characteristic :=
  s.characteristics.find? fun c => c.uuid = u

end GattRpc
