import HostLink.Callback.Param

/-!
# HostLink.WeaponShot

A player has fired a weapon. The runtime is told by a callback and may prevent the shot by
answering 0.
-/

namespace HostLink

/-- A shot; the position is given by the bits of its coordinates. -/
structure WeaponShot where
  player : Int32
  weapon : Int32
  hitType : Int32
  hitId : Int32
  x : UInt32
  y : UInt32
  z : UInt32
  prevented : Bool
  deriving DecidableEq, Repr

namespace WeaponShot

def callback : String := "OnPlayerWeaponShot"

def params (s : WeaponShot) : List Callback.Param :=
  [.int s.player, .int s.weapon, .int s.hitType, .int s.hitId, .float s.x, .float s.y, .float s.z]

/-- The shot after the runtime's answer; no answer changes nothing. -/
def afterAnswer (value : Option Int32) (s : WeaponShot) : WeaponShot :=
  match value with
  | some v => { s with prevented := decide (v = 0) }
  | none => s

end WeaponShot

end HostLink
