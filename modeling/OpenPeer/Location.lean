import Mathlib.Data.String.Basic

/-!
# Locations

A location is where a publication was made or is published to: this repository, the
finder, or one location of a peer. The reference to it may be null.
-/
namespace OpenPeer

/-- `ILocation::LocationTypes` -/
inductive LocationTypes where
  | «local»
  | finder
  | peer
  deriving DecidableEq

def LocationTypes.rank : LocationTypes → Nat
  | .local => 0
  | .finder => 1
  | .peer => 2

/-- `mPeer` is the peer's URI, when the location has a peer. -/
structure Location where
  mType : LocationTypes
  mPeer : Option String
  mLocationID : String
  deriving DecidableEq

namespace Location

def getPeer (location : Location) : Option String := location.mPeer

end Location

/-- The part of `locationCompare` for two locations that have peers. -/
def peerCompare (left right : Option String) (leftLocationID rightLocationID : String) : Ordering :=
  match left, right with
  | some leftPeerURI, some rightPeerURI =>
    (compare leftPeerURI rightPeerURI).then (compare leftLocationID rightLocationID)
  | some _, none => .gt
  | none, some _ => .lt
  | none, none => .eq

/-- `ILocationForPublication::locationCompare`. All finders are the same location. -/
def locationCompare : Option Location → Option Location → Ordering
  | some left, some right =>
    (compare left.mType.rank right.mType.rank).then <|
      match left.mType with
      | .finder => .eq
      | _ => peerCompare left.mPeer right.mPeer left.mLocationID right.mLocationID
  | some _, none => .gt
  | none, some _ => .lt
  | none, none => .eq

theorem LocationTypes.rank_inj {a b : LocationTypes} (h : a.rank = b.rank) : a = b := by
  cases a <;> cases b <;> simp_all [LocationTypes.rank]

theorem peerCompare_self (peer : Option String) (locationID : String) :
    peerCompare peer peer locationID locationID = .eq := by
  cases peer with
  | none => rfl
  | some uri => simp [peerCompare]

@[simp] theorem locationCompare_self (location : Option Location) : locationCompare location location = .eq := by
  cases location with
  | none => rfl
  | some location =>
    have hrank : compare location.mType.rank location.mType.rank = .eq := Nat.compare_eq_eq.mpr rfl
    simp only [locationCompare, hrank, Ordering.eq_then, peerCompare_self]
    split <;> rfl

theorem peerCompare_swap (left right : Option String) (leftLocationID rightLocationID : String) :
    (peerCompare left right leftLocationID rightLocationID).swap =
      peerCompare right left rightLocationID leftLocationID := by
  cases left with
  | none => cases right <;> rfl
  | some leftURI =>
    cases right with
    | none => rfl
    | some rightURI =>
      rw [peerCompare, Ordering.swap_then, ← Std.OrientedCmp.eq_swap, ← Std.OrientedCmp.eq_swap, peerCompare]

theorem locationCompare_swap (left right : Option Location) :
    (locationCompare left right).swap = locationCompare right left := by
  cases left with
  | none => cases right <;> rfl
  | some left =>
    cases right with
    | none => rfl
    | some right =>
      obtain ⟨leftType, leftPeer, leftID⟩ := left
      obtain ⟨rightType, rightPeer, rightID⟩ := right
      cases leftType <;> cases rightType <;>
        simp [locationCompare, LocationTypes.rank, peerCompare_swap, Nat.compare_eq_lt.mpr, Nat.compare_eq_gt.mpr]

/-! ## The order of the locations -/

/-- What `locationCompare` looks at: the type, and the peer with the location ID unless it is the finder. -/
def Location.compared (location : Location) : Nat × Option (String × String) :=
  match location.mType with
  | .finder => (location.mType.rank, none)
  | _ => (location.mType.rank, location.mPeer.map fun peerURI => (peerURI, location.mLocationID))

attribute [local instance] lexOrd

theorem peerCompare_eq (left right : Option String) (leftLocationID rightLocationID : String) :
    peerCompare left right leftLocationID rightLocationID =
      compare (left.map fun peerURI => (peerURI, leftLocationID))
        (right.map fun peerURI => (peerURI, rightLocationID)) := by
  cases left with
  | none => cases right <;> rfl
  | some leftPeerURI => cases right <;> rfl

theorem locationCompare_eq (left right : Option Location) :
    locationCompare left right = compare (left.map Location.compared) (right.map Location.compared) := by
  cases left with
  | none => cases right <;> rfl
  | some left =>
    cases right with
    | none => rfl
    | some right =>
      obtain ⟨leftType, leftPeer, leftID⟩ := left
      obtain ⟨rightType, rightPeer, rightID⟩ := right
      cases leftType <;> cases rightType <;> simp only [locationCompare, peerCompare_eq] <;> rfl

instance : Std.TransCmp locationCompare := by
  have heq : locationCompare = compareOn (Option.map Location.compared) := by
    funext left right
    exact locationCompare_eq left right
  rw [heq]
  infer_instance

theorem eq_of_locationCompare {left right : Location} {uri : String}
    (h : locationCompare (some left) (some right) = .eq) (hpeer : right.mPeer = some uri)
    (hfinder : right.mType ≠ .finder) : left = right := by
  obtain ⟨leftType, leftPeer, leftID⟩ := left
  obtain ⟨rightType, rightPeer, rightID⟩ := right
  simp only at hpeer hfinder
  subst hpeer
  simp only [locationCompare, Ordering.then_eq_eq, Nat.compare_eq_eq] at h
  obtain ⟨htype, h⟩ := h
  have htype := LocationTypes.rank_inj htype
  subst htype
  have h : peerCompare leftPeer (some uri) leftID rightID = .eq := by
    cases leftType with
    | finder => exact absurd rfl hfinder
    | «local» => exact h
    | peer => exact h
  cases leftPeer with
  | none => exact (nomatch h)
  | some leftURI =>
    simp only [peerCompare, Ordering.then_eq_eq, compare_eq_iff_eq] at h
    rw [h.1, h.2]

end OpenPeer
