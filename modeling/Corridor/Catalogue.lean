/-!
The numbers by which a level refers to objects, groups and colour channels.
-/
namespace Corridor

namespace ObjectId

def solidBlock : Nat := 1
def corner : Nat := 473
def slope : Nat := 1338
def miniSlope : Nat := 1339
def gravityDownPortal : Nat := 10
def gravityUpPortal : Nat := 11
def speedHalf : Nat := 200
def speedNormal : Nat := 201
def speedDouble : Nat := 202
def speedTriple : Nat := 203
def speedQuadruple : Nat := 1334
def spike : Nat := 103
def fuzz : Nat := 1717
def alphaTrigger : Nat := 1007
def meterTick : Nat := 508
def textLabel : Nat := 914

end ObjectId

namespace Channel

def nightFuzz : Int := 1004
def marker : Int := 1011

end Channel

namespace Group

def markers : Int := 2
def haze : Int := 4

end Group
end Corridor
