import OpenPeer.STUNPacketExchange
import Mathlib.Data.List.Sort

/-!
# Candidates and their pairs

The addresses the two sides of an ICE session offer, how lists of them are compared,
and the pairs that are searched: their order, which of them a packet belongs to, and
which are redundant.
-/
namespace OpenPeer

/-- `IICESocket::Types` -/
inductive Types where
  | typeUnknown | typeLocal | typeServerReflexive | typePeerReflexive | typeRelayed
  deriving DecidableEq, Repr

def Types.toCode : Types → UInt32
  | .typeUnknown => 1
  | .typeLocal => 126
  | .typeServerReflexive => 100
  | .typePeerReflexive => 50
  | .typeRelayed => 0

inductive ICEControls where
  | controlling | controlled
  deriving DecidableEq, Repr

/-- What the sessions use of the library for addresses: the form in which two addresses
are compared when their IPv4 format is ignored, with the port and without it. -/
structure ICEExternals extends Externals where
  ignoringIPv4Format : IPAddress → IPAddress
  addressIgnoringIPv4Format : IPAddress → IPAddress

/-- `IICESocket::Candidate` -/
structure Candidate where
  mType : Types := .typeUnknown
  mFoundation : List UInt8 := []
  mComponentID : UInt16 := 0
  mIPAddress : IPAddress := .empty
  mPriority : UInt32 := 0
  mLocalPreference : UInt16 := 0
  mRelatedIP : IPAddress := .empty
  deriving DecidableEq, Repr

/-- `STUNRequester`, known by the transaction ID of its request. -/
structure STUNRequester where
  mSTUNRequest : STUNPacket
  mServerIP : IPAddress
  mUsingRFC : RFCs
  mMaxTimeout : Nat := 0
  deriving DecidableEq, Repr

def STUNRequester.id (requester : STUNRequester) : Vector UInt8 12 := requester.mSTUNRequest.mTransactionID

/-- `ICESocketSession::CandidatePair`; the pointer to it is its number. -/
structure CandidatePair where
  mID : Nat
  mLocal : Candidate
  mRemote : Candidate
  mReceivedRequest : Bool := false
  mReceivedResponse : Bool := false
  mFailed : Bool := false
  mRequester : Option STUNRequester := none
  deriving DecidableEq, Repr

section Candidates

variable (ext : ICEExternals)

def isEqualIgnoringIPv4Format (a b : IPAddress) : Bool := ext.ignoringIPv4Format a == ext.ignoringIPv4Format b

def isAddressEqualIgnoringIPv4Format (a b : IPAddress) : Bool :=
  ext.addressIgnoringIPv4Format a == ext.addressIgnoringIPv4Format b

def normalize (transport : Types) : Types :=
  if transport = .typeRelayed then .typeRelayed else .typeLocal

def getViaLocalIP (candidate : Candidate) : IPAddress :=
  match candidate.mType with
  | .typeLocal => candidate.mIPAddress
  | .typeServerReflexive | .typePeerReflexive | .typeRelayed => candidate.mRelatedIP
  | .typeUnknown => if ext.isAddressEmpty candidate.mRelatedIP then candidate.mIPAddress else candidate.mRelatedIP

def isCandidateMatch (pair : CandidatePair) (viaLocalIP : IPAddress) (viaTransport : Types) (source : IPAddress) : Bool :=
  isEqualIgnoringIPv4Format ext pair.mRemote.mIPAddress source &&
    normalize pair.mLocal.mType == viaTransport &&
    isEqualIgnoringIPv4Format ext viaLocalIP (getViaLocalIP ext pair.mLocal)

/-- `isEqual` of two candidates -/
def Candidate.isEqual (candidate1 candidate2 : Candidate) : Bool :=
  candidate1.mType == candidate2.mType && candidate1.mPriority == candidate2.mPriority &&
    candidate1.mIPAddress == candidate2.mIPAddress && candidate1.mFoundation == candidate2.mFoundation &&
    candidate1.mComponentID == candidate2.mComponentID

/-- `IICESocket::compare`: the candidates of the new list that are not in the old one. -/
def addedCandidates (oldList newList : List Candidate) : List Candidate :=
  newList.filter fun new => !oldList.any fun old => new.isEqual old

/-- `IICESocket::compare`: the candidates of the old list that are not in the new one. -/
def removedCandidates (oldList newList : List Candidate) : List Candidate :=
  oldList.filter fun old => !newList.any fun new => new.isEqual old

def calculatePriority (controlling controlled : Candidate) : UInt64 :=
  let priorityControlling := controlling.mPriority.toUInt64
  let priorityControlled := controlled.mPriority.toUInt64
  ((1 : UInt64) <<< 32) * min priorityControlling priorityControlled + 2 * max priorityControlling priorityControlled +
    (if priorityControlling > priorityControlled then 1 else 0)

def comparePairControlling (pair1 pair2 : CandidatePair) : Bool :=
  calculatePriority pair1.mLocal pair1.mRemote > calculatePriority pair2.mLocal pair2.mRemote

def comparePairControlled (pair1 pair2 : CandidatePair) : Bool :=
  calculatePriority pair1.mRemote pair1.mLocal > calculatePriority pair2.mRemote pair2.mLocal

def comparePair : ICEControls → CandidatePair → CandidatePair → Bool
  | .controlling => comparePairControlling
  | .controlled => comparePairControlled

/-- The list's own sort: stable, so there is one result. -/
def sortPairs (control : ICEControls) (pairs : List CandidatePair) : List CandidatePair :=
  pairs.insertionSort fun pair1 pair2 => comparePair control pair2 pair1 = false

/-- The pairs of two lists of candidates, numbered from `next` on: for each local one, each remote one. -/
def assemblePairs (next : Nat) (locals remotes : List Candidate) : List CandidatePair :=
  (locals.flatMap fun l => remotes.map fun r => (l, r)).mapIdx fun n pair =>
    { mID := next + n, mLocal := pair.1, mRemote := pair.2 }

def maxReasonableCandidatePairSearches : Nat := 100

/-- What pruning has done so far: how many pairs stay in the search, and which are removed. -/
structure Pruned where
  totalAdded : Nat
  kept : List CandidatePair
  removed : List CandidatePair

/-- One pass of the pruning, over the pairs of one local type. `found` has the remote addresses
that are searched already from each local address; a pair that `nominated` tells of is never removed. -/
def prunePass (nominated : CandidatePair → Bool) (type : Types) :
    List (IPAddress × Candidate) → Nat → List CandidatePair → Pruned
  | _, totalAdded, [] => ⟨totalAdded, [], []⟩
  | found, totalAdded, pairing :: pairs =>
    let keep (r : Pruned) : Pruned := { r with kept := pairing :: r.kept }
    if pairing.mLocal.mType ≠ type then keep (prunePass nominated type found totalAdded pairs)
    else
      let viaLocalIP := getViaLocalIP ext pairing.mLocal
      let redundant := found.any fun (ip, remote) =>
        ip == viaLocalIP && isEqualIgnoringIPv4Format ext remote.mIPAddress pairing.mRemote.mIPAddress
      if totalAdded ≥ maxReasonableCandidatePairSearches ∨ pairing.mLocal.mType = .typeServerReflexive ∨ redundant then
        if nominated pairing then keep (prunePass nominated type found totalAdded pairs)
        else
          let r := prunePass nominated type found totalAdded pairs
          { r with removed := pairing :: r.removed }
      else keep (prunePass nominated type ((viaLocalIP, pairing.mRemote) :: found) (totalAdded + 1) pairs)

/-- The types in the order they are pruned. -/
def searchArray : List Types := [.typeLocal, .typeServerReflexive, .typeRelayed]

def prunePairs (nominated : CandidatePair → Bool) (pairs : List CandidatePair) : Pruned :=
  searchArray.foldl (fun r type =>
    let pass := prunePass ext nominated type [] r.totalAdded r.kept
    { pass with removed := r.removed ++ pass.removed }) ⟨0, pairs, []⟩

end Candidates

end OpenPeer
